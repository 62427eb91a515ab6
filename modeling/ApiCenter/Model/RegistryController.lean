import ApiCenter.Model.Access
import ApiCenter.Model.ExceptionFilter
import ApiCenter.Model.Keycloak
import ApiCenter.Model.RegistryRun

namespace ApiCenter
open Library

/-- What the listing shows of an entry. -/
structure ServiceSummary where
  serviceId : String
  name : String
  baseUrl : String
  status : ServiceLifecycleStatus
  serviceType : ServiceType
  exposes : List String
  requiredScopes : List String
  consumes : List String
  version : Optional String
  previousVersion : Optional String
  ownerTeam : Optional String
  contact : Optional String
  serviceTier : Optional ServiceTier
  costCenter : Optional String
  sunsetDate : Optional String
  replacementService : Optional String
  registeredAt : String
  updatedAt : String
  deriving DecidableEq, Repr

def ServiceRegistryEntry.summary (svc : ServiceRegistryEntry) : ServiceSummary where
  serviceId := svc.serviceId
  name := svc.name
  baseUrl := svc.baseUrl
  status := svc.status
  serviceType := svc.serviceType.getD .tribe
  exposes := svc.exposes
  requiredScopes := svc.requiredScopes
  consumes := svc.consumes
  version := svc.version
  previousVersion := svc.previousVersion
  ownerTeam := svc.ownerTeam
  contact := svc.contact
  serviceTier := svc.serviceTier
  costCenter := svc.costCenter
  sunsetDate := svc.sunsetDate
  replacementService := svc.replacementService
  registeredAt := svc.registeredAt
  updatedAt := svc.updatedAt

/-- The `data` of an answer. -/
inductive RegistryData where
  | entry (entry : Found)
  | amended (entry : Found) (affectedConsumers : List String)
  | services (all : List ServiceSummary)
  | removed (serviceId message : String)
  | consumers (serviceId : String) (consumers : List String)
  deriving DecidableEq, Repr

/-- An answer with `success: true`, the other fields being those of its `meta`. -/
structure RegistryReply where
  data : RegistryData
  total : Option Nat := none
  timestamp : String
  correlationId : Option String := none
  deriving DecidableEq, Repr

/-- What a handler has besides its arguments: the id the interceptor has given the request, the
time the registry reads and the time of the answer. -/
structure HandlerContext where
  correlationId : Option String
  now : String
  timestamp : String

def Outcome.map (f : α → β) (o : Outcome α) : Outcome β := { o with result := o.result.map f }

namespace RegistryController

variable {v : Validators}

/-- A reading handler, which leaves the registry as it is. -/
def reading (r : RegistryService) (result : Except Thrown RegistryReply) : Outcome RegistryReply :=
  { registry := r, result }

def register (r : RegistryService) (dto : ServiceManifestDto v) (write : Write)
    (ctx : HandlerContext) : Outcome RegistryReply :=
  (r.register dto.toManifest ctx.now write).map fun entry =>
    { data := .entry (.entry entry), timestamp := ctx.timestamp
      correlationId := ctx.correlationId }

def listServices (r : RegistryService) (ctx : HandlerContext) : Outcome RegistryReply :=
  reading r (.ok { data := .services (r.services.values.map fun svc => svc.summary)
                   total := some r.count, timestamp := ctx.timestamp })

def getService (r : RegistryService) (serviceId : String) (ctx : HandlerContext) :
    Outcome RegistryReply :=
  reading r <|
    match r.get serviceId with
    | none => .error (.notFoundError s!"Service '{serviceId}' is not registered")
    | some entry => .ok { data := .entry entry, timestamp := ctx.timestamp }

def deregister (r : RegistryService) (serviceId : String) (ctx : HandlerContext) :
    Outcome RegistryReply :=
  (r.deregister serviceId ctx.now).map fun _ =>
    { data := .removed serviceId s!"Service '{serviceId}' has been deregistered"
      timestamp := ctx.timestamp, correlationId := ctx.correlationId }

/-- The consumers are looked up after the call. -/
def deprecateService (r : RegistryService) (serviceId : String) (dto : DeprecateServiceDto v)
    (ctx : HandlerContext) : Outcome RegistryReply :=
  let out := r.deprecateService serviceId dto.sunsetDate dto.replacementService ctx.now
  out.map fun entry =>
    { data := .amended entry (out.registry.getConsumers serviceId)
      timestamp := ctx.timestamp, correlationId := ctx.correlationId }

/-- The consumers are looked up before the call. -/
def retire (r : RegistryService) (serviceId : String) (ctx : HandlerContext) :
    Outcome RegistryReply :=
  (r.retire serviceId ctx.now).map fun entry =>
    { data := .amended entry (r.getConsumers serviceId)
      timestamp := ctx.timestamp, correlationId := ctx.correlationId }

def activate (r : RegistryService) (serviceId : String) (ctx : HandlerContext) :
    Outcome RegistryReply :=
  (r.activate serviceId ctx.now).map fun entry =>
    { data := .entry entry, timestamp := ctx.timestamp, correlationId := ctx.correlationId }

def getConsumers (r : RegistryService) (serviceId : String) (ctx : HandlerContext) :
    Outcome RegistryReply :=
  reading r <|
    match r.get serviceId with
    | none => .error (.notFoundError s!"Service '{serviceId}' is not registered")
    | some _ =>
      .ok { data := .consumers serviceId (r.getConsumers serviceId)
            total := some (r.getConsumers serviceId).length, timestamp := ctx.timestamp }

end RegistryController

/-- The routes of the controller, with the path parameter and the body each of them takes. -/
inductive RegistryRoute (β δ : Type) where
  | register (body : β)
  | listServices
  | getService (serviceId : String)
  | deregister (serviceId : String)
  | deprecateService (serviceId : String) (body : δ)
  | retire (serviceId : String)
  | activate (serviceId : String)
  | getConsumers (serviceId : String)

namespace RegistryRoute

variable {β δ : Type} {v : Validators}

/-- The status of a response whose handler does not throw: 201 for the two `@Post` routes. -/
def status : RegistryRoute β δ → Nat
  | .register _ | .retire _ => 201
  | _ => 200

/-- The call a handler makes on the registry, if it makes one that changes it. -/
def call? : RegistryRoute (ServiceManifestDto v) (DeprecateServiceDto v) → Option ClientCall
  | .register dto => some (.register dto.toManifest)
  | .deregister serviceId => some (.deregister serviceId)
  | .deprecateService serviceId dto =>
    some (.deprecateService serviceId dto.sunsetDate dto.replacementService)
  | .retire serviceId => some (.retire serviceId)
  | .activate serviceId => some (.activate serviceId)
  | .listServices | .getService _ | .getConsumers _ => none

def handle (r : RegistryService) (write : Write) (ctx : HandlerContext) :
    RegistryRoute (ServiceManifestDto v) (DeprecateServiceDto v) → Outcome RegistryReply
  | .register dto => RegistryController.register r dto write ctx
  | .listServices => RegistryController.listServices r ctx
  | .getService serviceId => RegistryController.getService r serviceId ctx
  | .deregister serviceId => RegistryController.deregister r serviceId ctx
  | .deprecateService serviceId dto => RegistryController.deprecateService r serviceId dto ctx
  | .retire serviceId => RegistryController.retire r serviceId ctx
  | .activate serviceId => RegistryController.activate r serviceId ctx
  | .getConsumers serviceId => RegistryController.getConsumers r serviceId ctx

end RegistryRoute

/-- The global pipe of the framework: a body as the DTO it comes through as, or the messages of
the decorators it breaks. -/
structure ValidationPipe (v : Validators) where
  manifest : Json → Except (List String) (ServiceManifestDto v)
  deprecation : Json → Except (List String) (DeprecateServiceDto v)

namespace ValidationPipe

variable {v : Validators}

/-- The `BadRequestException` of the pipe. -/
def badRequest (messages : List String) : Exception :=
  .httpException 400
    (.object [("message", .array (messages.map .string)), ("error", .string "Bad Request"),
      ("statusCode", .number "400")])
    "Bad Request Exception" none

def transform (pipe : ValidationPipe v) : RegistryRoute Json Json →
    Except Exception (RegistryRoute (ServiceManifestDto v) (DeprecateServiceDto v))
  | .register body => (pipe.manifest body).mapError badRequest |>.map .register
  | .listServices => .ok .listServices
  | .getService serviceId => .ok (.getService serviceId)
  | .deregister serviceId => .ok (.deregister serviceId)
  | .deprecateService serviceId body =>
    (pipe.deprecation body).mapError badRequest |>.map (.deprecateService serviceId)
  | .retire serviceId => .ok (.retire serviceId)
  | .activate serviceId => .ok (.activate serviceId)
  | .getConsumers serviceId => .ok (.getConsumers serviceId)

end ValidationPipe

/-- A request to the controller, with how the strict Redis write ends if it comes to one. `refusal`
is what the middleware or the global throttler has thrown, if one of them turned it away: they come
before the guard of the controller. -/
structure AdminRequest where
  xPlatformSecret : Option String := none
  authorization : Option String := none
  route : RegistryRoute Json Json
  ctx : HandlerContext
  write : Write := .acknowledged
  refusal : Option Exception := none

/-- What a request leaves behind. -/
structure Served where
  registry : RegistryService
  command : Option RedisCommand := none
  notified : Option String := none
  reply : Except Exception RegistryReply

/-- What the controller is set up with. -/
structure RegistryApi (v : Validators) where
  platformAdminSecret : Optional String
  validateToken : String → Except Thrown RawClaims
  pipe : ValidationPipe v

namespace RegistryApi

variable {v : Validators}

def guard (api : RegistryApi v) (req : AdminRequest) : Except Thrown (Option RawClaims) :=
  ScopedAdminGuard.canActivate api.platformAdminSecret api.validateToken req.xPlatformSecret
    req.authorization

/-- The request as its handler gets it: the middleware and the throttler come before the guard, and
the guard before the pipe. -/
def admitted (api : RegistryApi v) (req : AdminRequest) :
    Except Exception (RegistryRoute (ServiceManifestDto v) (DeprecateServiceDto v)) :=
  match req.refusal with
  | some e => .error e
  | none =>
    match api.guard req with
    | .error e => .error e.exception
    | .ok _ => api.pipe.transform req.route

def serve (api : RegistryApi v) (r : RegistryService) (req : AdminRequest) : Served :=
  match api.admitted req with
  | .error e => { registry := r, reply := .error e }
  | .ok route =>
    let out := route.handle r req.write req.ctx
    { registry := out.registry, command := out.command, notified := out.notified
      reply := out.result.mapError Thrown.exception }

end RegistryApi

theorem RegistryApi.admitted_ok {v : Validators} {api : RegistryApi v} {req : AdminRequest}
    {route : RegistryRoute (ServiceManifestDto v) (DeprecateServiceDto v)}
    (h : api.admitted req = .ok route) :
    req.refusal = none ∧ (∃ claims, api.guard req = .ok claims) ∧
      api.pipe.transform req.route = .ok route := by
  unfold admitted at h
  split at h
  · cases h
  · rename_i hr
    split at h
    · cases h
    · rename_i claims hg
      exact ⟨hr, ⟨claims, hg⟩, h⟩

theorem RegistryApi.admitted_granted {v : Validators} {api : RegistryApi v} {req : AdminRequest}
    (hr : req.refusal = none) (hg : api.guard req = .ok claims) :
    api.admitted req = api.pipe.transform req.route := by
  simp only [admitted, hr, hg]

/-- A request, handled to its end before the next one, or a sweep of the health monitor. -/
inductive ApiAction where
  | request (req : AdminRequest)
  | handleHealthChecks (answers : List HealthAnswer)

def RegistryApi.step {v : Validators} (api : RegistryApi v) (r : RegistryService) :
    ApiAction → RegistryService
  | .request req => (api.serve r req).registry
  | .handleHealthChecks answers => r.sweep answers

/-- The status the response is sent with. -/
def Served.status (req : AdminRequest) (s : Served) : Nat :=
  match s.reply with
  | .ok _ => req.route.status
  | .error e => e.getStatus.getD 500

end ApiCenter
