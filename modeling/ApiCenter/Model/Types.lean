import ApiCenter.Model.Values
import ApiCenter.Model.Json

namespace ApiCenter

inductive ServiceTier where
  | critical
  | standard
  | experimental
  deriving DecidableEq, Repr

inductive ServiceLifecycleStatus where
  | proposed
  | active
  | deprecated
  | retired
  deriving DecidableEq, Repr

/-- Routing namespace: `shared` for platform services, `tribe` for tribe backends. -/
inductive ServiceType where
  | shared
  | tribe
  deriving DecidableEq, Repr

/-- What a service sends when it registers. -/
structure ServiceManifest where
  serviceId : String
  name : String
  baseUrl : String
  requiredScopes : List String
  exposes : List String
  consumes : List String
  serviceType : Optional ServiceType := .undefined
  healthCheck : Optional String := .undefined
  version : Optional String := .undefined
  description : Optional String := .undefined
  tags : Optional (List String) := .undefined
  ownerTeam : Optional String := .undefined
  contact : Optional String := .undefined
  serviceTier : Optional ServiceTier := .undefined
  costCenter : Optional String := .undefined
  sunsetDate : Optional String := .undefined
  replacementService : Optional String := .undefined
  deriving DecidableEq, Repr

/-- A manifest with the fields the platform manages. Timestamps are the ISO
texts the clock was read as. -/
structure ServiceRegistryEntry extends ServiceManifest where
  registeredAt : String
  updatedAt : String
  status : ServiceLifecycleStatus
  previousVersion : Optional String := .undefined
  healthy : Optional Bool := .undefined
  lastHealthCheckAt : Optional String := .undefined
  deriving DecidableEq, Repr

/-- The entry without the one field that is never persisted on its own. -/
def ServiceRegistryEntry.unchecked (e : ServiceRegistryEntry) : ServiceRegistryEntry :=
  { e with lastHealthCheckAt := .undefined }

abbrev ServiceRegistryMap := PlainObject ServiceRegistryEntry

/-- The assignments a lifecycle call makes to the properties of `entry`. An object that is no entry
has them as its own properties from then on. -/
structure Changes where
  status : Option ServiceLifecycleStatus := none
  updatedAt : Option String := none
  sunsetDate : Option (Optional String) := none
  replacementService : Option (Optional String) := none
  healthy : Option Bool := none
  lastHealthCheckAt : Option String := none
  deriving DecidableEq, Repr

namespace Changes

/-- `c` on top of `d`: assigned after it, or looked at before it. -/
def inFrontOf (c d : Changes) : Changes where
  status := c.status.or d.status
  updatedAt := c.updatedAt.or d.updatedAt
  sunsetDate := c.sunsetDate.or d.sunsetDate
  replacementService := c.replacementService.or d.replacementService
  healthy := c.healthy.or d.healthy
  lastHealthCheckAt := c.lastHealthCheckAt.or d.lastHealthCheckAt

/-- The properties that `JSON.stringify` writes, which are those that are not `undefined`. -/
def written (c : Changes) : Changes :=
  { c with
    sunsetDate := c.sunsetDate.filter (· ≠ .undefined)
    replacementService := c.replacementService.filter (· ≠ .undefined) }

@[simp] theorem inFrontOf_empty (c : Changes) : c.inFrontOf {} = c := by
  cases c
  simp [inFrontOf]

@[simp] theorem empty_inFrontOf (c : Changes) : Changes.inFrontOf {} c = c := rfl

end Changes

/-- Claims of a validated token, as attached to a request; `iss`, `iat` and
`type` are passed through. -/
structure JwtClaims where
  sub : Optional String := .undefined
  tribeId : Optional String := .undefined
  permissions : Optional (List String) := .undefined
  scopes : Optional (List String) := .undefined
  exp : Optional Nat := .undefined
  iss : Optional String := .undefined
  iat : Optional Nat := .undefined
  type : Optional String := .undefined
  deriving DecidableEq, Repr

/-- An incoming request: what the guards and the proxy read of it. -/
structure Request where
  method : String
  path : String
  authorization : Option String
  xTribeId : Option String
  ip : Option String
  remoteAddress : Option String
  deriving DecidableEq, Repr

/-- A request with what `JwtAuthGuard` attaches. -/
structure AuthenticatedRequest extends Request where
  user : Option JwtClaims := none
  tribeId : Optional String := .undefined
  deriving DecidableEq, Repr

/-- A request with what its handler and the interceptors read of it besides. `route` is the path of
the route it matched. -/
structure HandledRequest extends AuthenticatedRequest where
  originalUrl : String
  query : List (String × String) := []
  body : Option Json := none
  route : Option String := none
  correlationId : Option String := none

end ApiCenter
