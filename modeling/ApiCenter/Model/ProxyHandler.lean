import ApiCenter.Model.Access
import ApiCenter.Model.Auth
import ApiCenter.Model.CircuitBreaker

namespace ApiCenter
open Library

/-- What a middleware instance was created with. -/
structure Middleware where
  target : String
  proxyTimeout : Nat
  timeout : Nat
  pathRewrite : String
  deriving DecidableEq, Repr

/-- A response header value; `utcString` is `new Date(date).toUTCString()`. -/
inductive HeaderValue where
  | text (s : String)
  | utcString (date : String)
  deriving DecidableEq, Repr

/-- The `finish` listener of a forwarded request, with what it closes over. -/
structure FinishListener where
  routeNamespace : ServiceType
  sourceTribe : Optional String
  targetService : String
  method : String
  proxyStart : Nat
  deriving DecidableEq, Repr

structure ProxyHandler where
  routeNamespace : ServiceType
  pathPrefix : String
  proxyTimeoutMs : Nat := 30000
  proxyCache : Table String Middleware := ∅
  circuitBreakers : Table String CircuitBreaker := ∅

/-- What `proxyRequest` leaves behind: the handler, the headers it set, the
middleware it handed the request to, the listener it added, and its result. -/
structure Proxied where
  handler : ProxyHandler
  headers : List (String × HeaderValue) := []
  forwarded : Option Middleware := none
  onFinish : Option FinishListener := none
  result : Except Thrown Unit

/-- What the catalogue says about a service. `deprecation` holds the sunset date and the
replacement, which only a deprecated one shows. -/
structure Listing where
  serviceId : String
  name : String
  status : ServiceLifecycleStatus
  version : Optional String
  exposes : List String
  serviceType : ServiceType
  canAccess : Bool
  deprecation : Option (Optional String × Optional String)
  deriving DecidableEq, Repr

namespace ProxyHandler

def invalidateProxyCache (h : ProxyHandler) (serviceId : String) : ProxyHandler :=
  { h with proxyCache := h.proxyCache.erase serviceId }

def newBreaker (serviceId : String) : CircuitBreaker := { name := s!"proxy:{serviceId}" }

def getOrCreateCircuitBreaker (h : ProxyHandler) (serviceId : String) : CircuitBreaker :=
  (h.circuitBreakers.lookup serviceId).getD (newBreaker serviceId)

def createProxy (h : ProxyHandler) (serviceId upstream : String) : Middleware where
  target := upstream
  proxyTimeout := h.proxyTimeoutMs
  timeout := h.proxyTimeoutMs
  pathRewrite := s!"^{h.pathPrefix}/{serviceId}"

/-- `/[^\t\x20-\x7e\x80-\xff]/` finds the characters a header value may not have. -/
def headerChar (c : Char) : Bool :=
  c == '\t' || (32 ≤ c.toNat && c.toNat ≤ 126) || (128 ≤ c.toNat && c.toNat ≤ 255)

def fitsHeader (value : String) : Bool := value.toList.all headerChar

def successorLink (h : ProxyHandler) (replacement : String) : String :=
  let nsPrefix := if h.routeNamespace = .shared then "shared" else "tribes"
  "</api/v1/" ++ nsPrefix ++ "/" ++ replacement ++ ">; rel=\"successor-version\""

/-- The headers set for a live entry, or the 410 of a retired one. `res.setHeader` throws for a
value that a header may not have, and what was set before stays. -/
def enforceLifecycleGate (h : ProxyHandler) (entry : Found) (serviceId : String) :
    List (String × HeaderValue) × Except Thrown Unit :=
  if entry.status = .value .retired then
    ([], .error (.goneError (s!"Service '{serviceId}' has been retired" ++
      match entry.replacementService.text? with
      | some replacement => s!". Migrate to '{replacement}'"
      | none => "")))
  else if entry.status = .value .deprecated then
    let announced := ("Deprecation", .text "true") ::
      entry.sunsetDate.text?.toList.map fun date => ("Sunset", .utcString date)
    match entry.replacementService.text? with
    | none => (announced, .ok ())
    | some replacement =>
      if fitsHeader (h.successorLink replacement) then
        (announced ++ [("Link", .text (h.successorLink replacement))], .ok ())
      else
        (announced, .error (.typeError "Invalid character in header content [\"Link\"]"))
  else ([], .ok ())

def serviceTypeOf : Found → ServiceType
  | .entry e => e.serviceType.getD .tribe
  | .member _ => .tribe

def typeText : ServiceType → String
  | .shared => "shared"
  | .tribe => "tribe"

/-- The upstream and the entry of a target in the handler's namespace. -/
def resolveTarget (h : ProxyHandler) (r : RegistryService) (target : String) :
    Except Thrown (String × Found) :=
  match (r.resolveUpstream target "").filter (· ≠ ""), r.get target with
  | some upstream, some entry =>
    if serviceTypeOf entry ≠ h.routeNamespace then
      let correctPrefix := if serviceTypeOf entry = .shared then "/shared/" else "/tribes/"
      .error (.notFoundError (s!"Service '{target}' is a {typeText (serviceTypeOf entry)} " ++
        s!"service. Use {correctPrefix}{target} instead."))
    else .ok (upstream, entry)
  | _, _ => .error (.notFoundError s!"Service '{target}' not found or inactive")

def checkRequiredScopes (target : String) (req : AuthenticatedRequest)
    (requiredScopes : List String) : Except Thrown Unit :=
  if requiredScopes.length > 0 && req.user.isSome then
    let missingScopes := AuthService.checkScopes req requiredScopes
    if missingScopes.length > 0 then
      .error (.forbiddenError (s!"Insufficient scopes for '{target}'. " ++
        "Missing: " ++ ", ".intercalate missingScopes))
    else .ok ()
  else .ok ()

/-- The scope check: the caller consumes the target and has its required scopes. -/
def checkConsumer (r : RegistryService) (target : String) (req : AuthenticatedRequest) :
    Except Thrown Unit :=
  match r.canConsume (propertyKey req.tribeId) target with
  | .error e => .error e
  | .ok false => .error (.forbiddenError
      s!"Tribe '{propertyKey req.tribeId}' is not authorised to consume '{target}'")
  | .ok true =>
    match r.getRequiredScopes target with
    | none => .error (.typeError "Cannot read properties of undefined (reading 'length')")
    | some requiredScopes => checkRequiredScopes target req requiredScopes

/-- The breaker, the cached or new middleware, and the hand-over to it.
`throws` says whether the middleware fails synchronously. -/
def forward (h : ProxyHandler) (target upstream : String) (req : AuthenticatedRequest)
    (headers : List (String × HeaderValue)) (now : Nat) (throws : Bool) : Proxied :=
  let acquired := (h.getOrCreateCircuitBreaker target).tryAcquire now
  let held := { h with circuitBreakers := h.circuitBreakers.insert target acquired.1 }
  if acquired.2 then
    let proxy := (h.proxyCache.lookup target).getD (h.createProxy target upstream)
    { handler :=
        if (h.proxyCache.lookup target).isSome then held
        else { held with proxyCache := h.proxyCache.insert target proxy }
      headers := headers
      forwarded := some proxy
      onFinish := some ⟨h.routeNamespace, req.tribeId, target, req.method, now⟩
      result :=
        if throws then .error (.badGatewayError s!"Upstream '{target}' unreachable") else .ok () }
  else
    { handler := held
      headers := headers
      result := .error (.serviceUnavailableError
        s!"Upstream '{target}' is temporarily unavailable (circuit breaker open)") }

def proxyRequest (h : ProxyHandler) (r : RegistryService) (target : String)
    (req : AuthenticatedRequest) (now : Nat) (throws : Bool) : Proxied :=
  match h.resolveTarget r target with
  | .error e => { handler := h, result := .error e }
  | .ok (upstream, entry) =>
    match h.enforceLifecycleGate entry target with
    | (headers, .error e) => { handler := h, headers := headers, result := .error e }
    | (headers, .ok ()) =>
      match checkConsumer r target req with
      | .error e => { handler := h, headers := headers, result := .error e }
      | .ok () => h.forward target upstream req headers now throws

def listing (svc : ServiceRegistryEntry) (canAccess : Bool) : Listing where
  serviceId := svc.serviceId
  name := svc.name
  status := svc.status
  version := svc.version
  exposes := svc.exposes
  serviceType := svc.serviceType.getD .tribe
  canAccess := canAccess
  deprecation :=
    if svc.status = .deprecated then some (svc.sunsetDate, svc.replacementService) else none

/-- The services of the handler's namespace a caller sees. -/
def listServices (h : ProxyHandler) (r : RegistryService) (tribeId : Optional String) :
    Except Thrown (List Listing) :=
  ((r.getByType h.routeNamespace).filter (·.status ≠ .retired)).mapM fun svc =>
    match tribeId.text? with
    | some tribe => (r.canConsume tribe svc.serviceId).map (listing svc)
    | none => .ok (listing svc false)

/-- `proxyRes`: the status decides what the breaker records. -/
def proxyRes (h : ProxyHandler) (target : String) (status now : Nat) : ProxyHandler :=
  match h.circuitBreakers.lookup target with
  | none => h
  | some cb =>
    let recorded := if status ∈ [502, 503, 504] then cb.recordFailure now else cb.recordSuccess
    { h with circuitBreakers := h.circuitBreakers.insert target recorded }

/-- `error`: every proxy-level error is a failure. -/
def proxyError (h : ProxyHandler) (target : String) (now : Nat) : ProxyHandler :=
  match h.circuitBreakers.lookup target with
  | none => h
  | some cb =>
    { h with circuitBreakers := h.circuitBreakers.insert target (cb.recordFailure now) }

end ProxyHandler

end ApiCenter
