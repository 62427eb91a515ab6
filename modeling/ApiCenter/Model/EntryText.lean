import ApiCenter.Model.JsonText
import ApiCenter.Model.Node

namespace ApiCenter
open Library

namespace Json

def asString : Json → Option String
  | .string s => some s
  | _ => none

def asBoolean : Json → Option Bool
  | .bool b => some b
  | _ => none

def asStringArray : Json → Option (List String)
  | .array items => items.mapM asString
  | _ => none

/-- A property of a type, which has to be there. -/
def required (read : Json → Option α) (key : String) (j : Json) : Option α :=
  (j.get? key).bind read

/-- A property that may be missing or `null`. -/
def optional (read : Json → Option α) (key : String) (j : Json) : Option (Optional α) :=
  match j.get? key with
  | none => some .undefined
  | some .null => some .null
  | some value => (read value).map .value

end Json

def strings (texts : List String) : Json := .array (texts.map .string)

def ServiceTier.json : ServiceTier → Json
  | .critical => .string "critical"
  | .standard => .string "standard"
  | .experimental => .string "experimental"

def ServiceLifecycleStatus.json : ServiceLifecycleStatus → Json
  | .proposed => .string "proposed"
  | .active => .string "active"
  | .deprecated => .string "deprecated"
  | .retired => .string "retired"

def Json.asServiceType : Json → Option ServiceType
  | .string "shared" => some .shared
  | .string "tribe" => some .tribe
  | _ => none

def Json.asServiceTier : Json → Option ServiceTier
  | .string "critical" => some .critical
  | .string "standard" => some .standard
  | .string "experimental" => some .experimental
  | _ => none

def Json.asStatus : Json → Option ServiceLifecycleStatus
  | .string "proposed" => some .proposed
  | .string "active" => some .active
  | .string "deprecated" => some .deprecated
  | .string "retired" => some .retired
  | _ => none

/-- The properties of an entry, in the order of its type. -/
def ServiceRegistryEntry.properties (e : ServiceRegistryEntry) : Payload :=
  [("serviceId", some (.string e.serviceId)), ("name", some (.string e.name)),
    ("baseUrl", some (.string e.baseUrl)), ("requiredScopes", some (strings e.requiredScopes)),
    ("exposes", some (strings e.exposes)), ("consumes", some (strings e.consumes)),
    ("serviceType", e.serviceType.json ServiceType.json),
    ("healthCheck", e.healthCheck.json .string), ("version", e.version.json .string),
    ("description", e.description.json .string), ("tags", e.tags.json strings),
    ("ownerTeam", e.ownerTeam.json .string), ("contact", e.contact.json .string),
    ("serviceTier", e.serviceTier.json ServiceTier.json),
    ("costCenter", e.costCenter.json .string), ("sunsetDate", e.sunsetDate.json .string),
    ("replacementService", e.replacementService.json .string),
    ("registeredAt", some (.string e.registeredAt)), ("updatedAt", some (.string e.updatedAt)),
    ("status", some e.status.json), ("previousVersion", e.previousVersion.json .string),
    ("healthy", e.healthy.json .bool), ("lastHealthCheckAt", e.lastHealthCheckAt.json .string)]

/-- A parsed object as the entry it was written from. -/
def Json.asEntry (j : Json) : Option ServiceRegistryEntry := do
  return {
    serviceId := ← j.required asString "serviceId"
    name := ← j.required asString "name"
    baseUrl := ← j.required asString "baseUrl"
    requiredScopes := ← j.required asStringArray "requiredScopes"
    exposes := ← j.required asStringArray "exposes"
    consumes := ← j.required asStringArray "consumes"
    serviceType := ← j.optional asServiceType "serviceType"
    healthCheck := ← j.optional asString "healthCheck"
    version := ← j.optional asString "version"
    description := ← j.optional asString "description"
    tags := ← j.optional asStringArray "tags"
    ownerTeam := ← j.optional asString "ownerTeam"
    contact := ← j.optional asString "contact"
    serviceTier := ← j.optional asServiceTier "serviceTier"
    costCenter := ← j.optional asString "costCenter"
    sunsetDate := ← j.optional asString "sunsetDate"
    replacementService := ← j.optional asString "replacementService"
    registeredAt := ← j.required asString "registeredAt"
    updatedAt := ← j.required asString "updatedAt"
    status := ← j.required asStatus "status"
    previousVersion := ← j.optional asString "previousVersion"
    healthy := ← j.optional asBoolean "healthy"
    lastHealthCheckAt := ← j.optional asString "lastHealthCheckAt" }

/-- The properties assigned to an object that is no entry. -/
def Changes.properties (c : Changes) : Payload :=
  [("status", c.status.map ServiceLifecycleStatus.json), ("updatedAt", c.updatedAt.map .string),
    ("sunsetDate", c.sunsetDate.bind (Optional.json .string)),
    ("replacementService", c.replacementService.bind (Optional.json .string)),
    ("healthy", c.healthy.map .bool), ("lastHealthCheckAt", c.lastHealthCheckAt.map .string)]

namespace Json

/-- A property that may be missing. -/
def assigned (read : Json → Option α) (key : String) (j : Json) : Option (Option α) :=
  match j.get? key with
  | none => some none
  | some value => (read value).map some

def asNullableString : Json → Option (Optional String)
  | .string s => some (.value s)
  | .null => some .null
  | _ => none

/-- A parsed object as the properties it was written from. -/
def asChanges : Json → Option Changes
  | .object fields => do
    let j := Json.object fields
    return {
      status := ← j.assigned asStatus "status"
      updatedAt := ← j.assigned asString "updatedAt"
      sunsetDate := ← j.assigned asNullableString "sunsetDate"
      replacementService := ← j.assigned asNullableString "replacementService"
      healthy := ← j.assigned asBoolean "healthy"
      lastHealthCheckAt := ← j.assigned asString "lastHealthCheckAt" }
  | _ => none

end Json

end ApiCenter
