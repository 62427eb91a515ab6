import ApiCenter.Model.Errors
import ApiCenter.Model.Json
import ApiCenter.Model.Kafka

namespace ApiCenter

/-- The kinds of field in the event schemas. -/
inductive ZodType where
  | string
  | boolean
  | stringArray
  | enum (values : List String)
  deriving DecidableEq, Repr

def ZodType.parses : ZodType → Json → Bool
  | .string, .string _ => true
  | .boolean, .bool _ => true
  | .stringArray, .array items => items.all Json.isString
  | .enum values, .string s => values.contains s
  | _, _ => false

structure ZodField where
  key : String
  type : ZodType
  optional : Bool := false
  deriving DecidableEq, Repr

abbrev ZodObject := List ZodField

/-- A payload before it is turned into JSON: a property can still be `undefined`. -/
abbrev Payload := List (String × Option Json)

/-- An optional field may be `undefined`, but `null` is a value like any other. -/
def ZodField.accepts (field : ZodField) (payload : Payload) : Bool :=
  match (payload.lookup field.key).join with
  | none => field.optional
  | some value => field.type.parses value

def ZodObject.safeParse (schema : ZodObject) (payload : Payload) : Bool :=
  schema.all (·.accepts payload)

def RegistryServiceRegisteredEventSchema : ZodObject :=
  [⟨"serviceId", .string, false⟩, ⟨"name", .string, false⟩, ⟨"baseUrl", .string, false⟩,
    ⟨"exposes", .stringArray, false⟩, ⟨"serviceType", .enum ["shared", "tribe"], true⟩,
    ⟨"isUpdate", .boolean, true⟩, ⟨"timestamp", .string, true⟩]

def RegistryServiceDeregisteredEventSchema : ZodObject :=
  [⟨"serviceId", .string, false⟩, ⟨"timestamp", .string, true⟩]

def RegistryServiceDeprecatedEventSchema : ZodObject :=
  [⟨"serviceId", .string, false⟩, ⟨"sunsetDate", .string, true⟩,
    ⟨"replacementService", .string, true⟩, ⟨"timestamp", .string, true⟩]

def RegistryServiceRetiredEventSchema : ZodObject :=
  [⟨"serviceId", .string, false⟩, ⟨"timestamp", .string, true⟩]

def RegistryServiceVersionChangedEventSchema : ZodObject :=
  [⟨"serviceId", .string, false⟩, ⟨"previousVersion", .string, false⟩,
    ⟨"newVersion", .string, false⟩, ⟨"timestamp", .string, true⟩]

def RegistryServiceHealthChangedEventSchema : ZodObject :=
  [⟨"serviceId", .string, false⟩, ⟨"healthy", .boolean, false⟩,
    ⟨"previousHealthy", .boolean, false⟩, ⟨"reason", .string, true⟩,
    ⟨"timestamp", .string, true⟩]

/-- `TOPIC_SCHEMAS`, for the topics of the registry. -/
def topicSchemas : List (String × ZodObject) :=
  [("api-center.registry.service-registered", RegistryServiceRegisteredEventSchema),
    ("api-center.registry.service-deregistered", RegistryServiceDeregisteredEventSchema),
    ("api-center.registry.service-deprecated", RegistryServiceDeprecatedEventSchema),
    ("api-center.registry.service-retired", RegistryServiceRetiredEventSchema),
    ("api-center.registry.service-version-changed", RegistryServiceVersionChangedEventSchema),
    ("api-center.registry.service-health-changed", RegistryServiceHealthChangedEventSchema)]

/-- `publish` up to handing the message to the producer. `detail` is the text of the Zod error. -/
def validatePublish (topic : String) (payload : Payload) (detail : String) :
    Except Thrown Unit :=
  match topicSchemas.lookup topic with
  | none => .ok ()
  | some schema =>
    if schema.safeParse payload then .ok ()
    else .error (.error s!"Kafka schema validation failed for topic '{topic}': {detail}")

def Optional.json (f : α → Json) : Optional α → Option Json
  | .undefined => none
  | .null => some .null
  | .value a => some (f a)

def ServiceType.json : ServiceType → Json
  | .shared => .string "shared"
  | .tribe => .string "tribe"

/-- The payload a registry event is published with. -/
def KafkaMessage.payload : KafkaMessage → Payload
  | .serviceRegistered serviceId name baseUrl exposes serviceType isUpdate timestamp =>
    [("serviceId", some (.string serviceId)), ("name", some (.string name)),
      ("baseUrl", some (.string baseUrl)), ("exposes", some (.array (exposes.map .string))),
      ("serviceType", serviceType.json ServiceType.json), ("isUpdate", some (.bool isUpdate)),
      ("timestamp", some (.string timestamp))]
  | .serviceDeregistered serviceId timestamp =>
    [("serviceId", some (.string serviceId)), ("timestamp", some (.string timestamp))]
  | .serviceDeprecated serviceId sunsetDate replacementService timestamp =>
    [("serviceId", some (.string serviceId)), ("sunsetDate", sunsetDate.json .string),
      ("replacementService", replacementService.json .string),
      ("timestamp", timestamp.json .string)]
  | .serviceRetired serviceId timestamp =>
    [("serviceId", some (.string serviceId)), ("timestamp", timestamp.json .string)]
  | .serviceVersionChanged serviceId previousVersion newVersion timestamp =>
    [("serviceId", some (.string serviceId)), ("previousVersion", some (.string previousVersion)),
      ("newVersion", newVersion.json .string), ("timestamp", some (.string timestamp))]
  | .serviceHealthChanged serviceId healthy previousHealthy reason timestamp =>
    [("serviceId", some (.string serviceId)), ("healthy", some (.bool healthy)),
      ("previousHealthy", some (.bool previousHealthy)), ("reason", some (.string reason)),
      ("timestamp", some (.string timestamp))]

end ApiCenter
