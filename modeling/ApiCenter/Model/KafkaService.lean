import ApiCenter.Model.AuthController
import ApiCenter.Model.EntryText
import ApiCenter.Model.External
import ApiCenter.Model.Interceptors

namespace ApiCenter

/-- The kinds of field in all the event schemas. -/
inductive EventFieldType where
  | zod (type : ZodType)
  | number
  deriving DecidableEq, Repr

def EventFieldType.parses : EventFieldType → Json → Bool
  | .zod type, value => type.parses value
  | .number, .number _ => true
  | .number, _ => false

structure EventField where
  key : String
  type : EventFieldType
  optional : Bool := false
  deriving DecidableEq, Repr

abbrev EventSchema := List EventField

def EventField.accepts (field : EventField) (payload : Payload) : Bool :=
  match (payload.lookup field.key).join with
  | none => field.optional
  | some value => field.type.parses value

def EventSchema.safeParse (schema : EventSchema) (payload : Payload) : Bool :=
  schema.all (·.accepts payload)

/-- A schema without numbers among the others. -/
def ZodObject.schema (object : ZodObject) : EventSchema :=
  object.map fun field => ⟨field.key, .zod field.type, field.optional⟩

def EventField.string (key : String) : EventField := ⟨key, .zod .string, false⟩

def EventField.string? (key : String) : EventField := ⟨key, .zod .string, true⟩

def GatewayRequestEventSchema : EventSchema :=
  [.string "method", .string "path", .string? "tribeId", .string? "ip", .string? "correlationId",
    .string? "timestamp"]

def GatewayResponseEventSchema : EventSchema :=
  [.string? "method", .string? "path", ⟨"statusCode", .number, true⟩, ⟨"durationMs", .number, true⟩,
    .string? "tribeId", .string? "correlationId", .string? "timestamp", .string? "event",
    .string? "apiName", .string? "previousState"]

def GatewayErrorEventSchema : EventSchema :=
  [.string? "method", .string? "path", .string? "error", ⟨"statusCode", .number, true⟩,
    .string? "tribeId", .string? "correlationId", .string? "timestamp", .string? "event",
    .string? "apiName", .string? "previousState"]

def AuditLogEventSchema : EventSchema :=
  [.string "tribeId", .string "method", .string "path", ⟨"statusCode", .number, false⟩,
    ⟨"durationMs", .number, false⟩, .string "ip", .string? "correlationId",
    .string? "targetServiceId"]

def ExternalRequestEventSchema : EventSchema :=
  [.string "api", .string "method", .string "path", ⟨"status", .number, false⟩,
    ⟨"duration", .number, false⟩, .string "timestamp"]

def namespaceField : EventField := ⟨"namespace", .zod (.enum ["shared", "tribe"]), true⟩

def TribeRequestEventSchema : EventSchema :=
  [.string "sourceTribeId", .string "targetServiceId", .string "method", .string "path",
    namespaceField, .string? "correlationId", .string? "timestamp"]

def TribeResponseEventSchema : EventSchema :=
  [.string "sourceTribeId", .string "targetServiceId", .string "method", .string "path",
    ⟨"statusCode", .number, false⟩, ⟨"durationMs", .number, false⟩, namespaceField,
    .string? "correlationId", .string? "timestamp"]

def TokenIssuedEventSchema : EventSchema :=
  [.string "tribeId", ⟨"scopes", .zod .stringArray, false⟩,
    ⟨"permissions", .zod .stringArray, false⟩, ⟨"expiresIn", .number, false⟩,
    .string? "correlationId", .string "timestamp"]

def TOPIC_SCHEMAS : List (String × EventSchema) :=
  [("api-center.gateway.request", GatewayRequestEventSchema),
    ("api-center.gateway.response", GatewayResponseEventSchema),
    ("api-center.gateway.error", GatewayErrorEventSchema),
    ("api-center.audit.log", AuditLogEventSchema),
    ("api-center.external.request", ExternalRequestEventSchema)] ++
  topicSchemas.map (fun entry => (entry.1, entry.2.schema)) ++
  [("api-center.tribe.request", TribeRequestEventSchema),
    ("api-center.tribe.response", TribeResponseEventSchema),
    ("api-center.auth.token-issued", TokenIssuedEventSchema)]

def natural (n : Nat) : Json := .number (toString n)

/-- A property that is there or `undefined`. -/
def stringOr (o : Option String) : Option Json := o.map .string

def CircuitState.json : CircuitState → Json
  | .CLOSED => .string "CLOSED"
  | .OPEN => .string "OPEN"
  | .HALF_OPEN => .string "HALF_OPEN"

/-- The calls of `publish` in the gateway. -/
inductive GatewayEvent where
  | registry (message : KafkaMessage)
  | audit (event : AuditLogEvent)
  | tokenIssued (grant : TokenGrant) (correlationId : Option String) (timestamp : String)
  | external (event : ExternalRequestEvent) (timestamp : String)
  | breaker (event : BreakerEvent) (timestamp : String)

namespace GatewayEvent

def topic : GatewayEvent → String
  | .registry message => message.topic
  | .audit _ => "api-center.audit.log"
  | .tokenIssued .. => "api-center.auth.token-issued"
  | .external .. => "api-center.external.request"
  | .breaker event _ => event.topic

def payload : GatewayEvent → Payload
  | .registry message => message.payload
  | .audit e =>
    [("tribeId", some (.string e.tribeId)), ("method", some (.string e.method)),
      ("path", some (.string e.path)), ("statusCode", some (natural e.statusCode)),
      ("durationMs", some (natural e.durationMs)), ("ip", some (.string e.ip)),
      ("correlationId", stringOr e.correlationId),
      ("targetServiceId", stringOr e.targetServiceId)]
  | .tokenIssued grant correlationId timestamp =>
    [("tribeId", some (.string grant.tribeId)), ("scopes", some (strings grant.scopes)),
      ("permissions", some (strings grant.permissions)),
      ("expiresIn", some (natural grant.expiresIn)), ("correlationId", stringOr correlationId),
      ("timestamp", some (.string timestamp))]
  | .external e timestamp =>
    [("api", some (.string e.api)), ("method", some (.string e.method)),
      ("path", some (.string e.path)), ("status", some (natural e.status)),
      ("duration", some (natural e.duration)), ("timestamp", some (.string timestamp))]
  | .breaker (.circuit_breaker_opened apiName previousState) timestamp =>
    [("event", some (.string "circuit_breaker_opened")), ("apiName", some (.string apiName)),
      ("previousState", some previousState.json), ("timestamp", some (.string timestamp))]
  | .breaker (.circuit_breaker_closed apiName previousState) timestamp =>
    [("event", some (.string "circuit_breaker_closed")), ("apiName", some (.string apiName)),
      ("previousState", some previousState.json), ("timestamp", some (.string timestamp))]

/-- The partition key, where one is passed. -/
def key : GatewayEvent → Optional String
  | .audit e => e.key
  | .tokenIssued grant _ _ => .value grant.tribeId
  | .registry _ | .external .. | .breaker .. => .undefined

end GatewayEvent

/-- A message as the producer is given it. -/
structure KafkaRecord where
  topic : String
  key : Option String
  value : String
  deriving DecidableEq, Repr

structure KafkaService where
  clientId : String

/-- `{ ...payload, [key]: value }` -/
def Payload.assign (payload : Payload) (key : String) (value : Json) : Payload :=
  Library.Fields.assign payload key (some value)

namespace KafkaService

/-- `_meta`; `now` is the ISO text of the clock. -/
def stamp (k : KafkaService) (now : String) : Json :=
  .object [("timestamp", .string now), ("source", .string k.clientId)]

/-- `publish` up to `producer.send`. `detail` is the text of the Zod error. -/
def publish (k : KafkaService) (topic : String) (payload : Payload) (key : Optional String)
    (now detail : String) : Except Thrown KafkaRecord :=
  let record : KafkaRecord :=
    ⟨topic, key.text?, (payload.assign "_meta" (k.stamp now)).object.stringify⟩
  match TOPIC_SCHEMAS.lookup topic with
  | none =>
    -- what `Object.prototype` has of that name is found in its place
    if topic ∈ objectPrototype then .error (.typeError "schema.safeParse is not a function")
    else .ok record
  | some schema =>
    if schema.safeParse payload then .ok record
    else .error (.error s!"Kafka schema validation failed for topic '{topic}': {detail}")

/-- What a subscriber has come to, with the errors its consumer has logged. -/
structure Subscriber (σ : Type) where
  state : σ
  logged : List String := []

/-- `eachMessage`. What a handler changed stays changed when it throws; `syntaxError` gives the text
of the error of `JSON.parse`. -/
def eachMessage (topic : String) (syntaxError : String → String)
    (handler : σ → Json → σ × Except String Unit) (s : Subscriber σ) (value : String) :
    Subscriber σ :=
  match Json.parse (if value = "" then "\x7b\x7d" else value) with
  | none =>
    { s with
      logged := s.logged ++
        [s!"Kafka message processing error on {topic}: {syntaxError value}"] }
  | some parsed =>
    match handler s.state parsed with
    | (state, .ok ()) => { s with state := state }
    | (state, .error message) =>
      { state := state
        logged := s.logged ++ [s!"Kafka message processing error on {topic}: {message}"] }

/-- A call of `publish`, with the clock and the text of the Zod error it would come to. -/
structure Publication where
  topic : String
  payload : Payload
  key : Optional String
  now : String
  detail : String

/-- `consumer.run`, for the messages it is handed. -/
def run (topic : String) (syntaxError : String → String)
    (handler : σ → Json → σ × Except String Unit) (s : Subscriber σ)
    (messages : List KafkaRecord) : Subscriber σ :=
  messages.foldl (fun s message => eachMessage topic syntaxError handler s message.value) s

end KafkaService

/-- The brokers between a producer and the consumer of a topic: the messages that the consumer is
handed one after the other, of those the producer was given. -/
structure Kafka where
  handed : String → List KafkaRecord → List KafkaRecord

end ApiCenter
