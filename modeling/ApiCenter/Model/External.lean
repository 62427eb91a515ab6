import ApiCenter.Model.CircuitBreaker
import ApiCenter.Model.Types

namespace ApiCenter
open Library

/-- The events `ExternalService` publishes about its breakers, without their timestamps. -/
inductive BreakerEvent where
  | circuit_breaker_opened (apiName : String) (previousState : CircuitState)
  | circuit_breaker_closed (apiName : String) (previousState : CircuitState)
  deriving DecidableEq, Repr

/-- The topic of `TOPICS` an event goes to. -/
def BreakerEvent.topic : BreakerEvent → String
  | .circuit_breaker_opened .. => "api-center.gateway.error"
  | .circuit_breaker_closed .. => "api-center.gateway.response"

/-- The value `MetricsService.setCircuitBreakerState` gives the gauge of an API. -/
def circuitBreakerStateValue (state : CircuitState) : Nat :=
  match state with
  | .OPEN => 1
  | .HALF_OPEN => 2
  | .CLOSED => 0

inductive ExternalAuthType where
  | bearer
  | api_key
  | basic
  | apiKey
  deriving DecidableEq, Repr

structure ExternalApiConfig where
  name : String
  displayName : String
  baseUrl : String
  authType : ExternalAuthType
  authHeader : String
  authValue : String
  timeout : Nat
  deriving DecidableEq, Repr

/-- `config.external.*`: where an API is, and its key. -/
structure ExternalEndpoint where
  url : String
  key : String

structure ExternalConfig where
  geolocation : ExternalEndpoint := ⟨"https://api.ipgeolocation.io", ""⟩
  geofencing : ExternalEndpoint := ⟨"https://api.geofencing.example.com", ""⟩

def createGeofencingApi (config : ExternalConfig) : ExternalApiConfig where
  name := "geofencing"
  displayName := "Geofencing API"
  baseUrl := config.geofencing.url
  authType := .bearer
  authHeader := "Authorization"
  authValue := config.geofencing.key
  timeout := 10000

def createGeolocationApi (config : ExternalConfig) : ExternalApiConfig where
  name := "geolocation"
  displayName := "Geolocation API"
  baseUrl := config.geolocation.url
  authType := .apiKey
  authHeader := "apiKey"
  authValue := config.geolocation.key
  timeout := 10000

def buildExternalApis (config : ExternalConfig) : PlainObject ExternalApiConfig :=
  (PlainObject.empty.set "geolocation" (createGeolocationApi config)).set "geofencing"
    (createGeofencingApi config)

/-- A default header of a client; `basic v` is `Basic` and the base64 text of `v`. -/
inductive ClientHeader where
  | text (s : String)
  | basic (v : String)
  deriving DecidableEq, Repr

/-- What `axios.create` is called with. -/
structure ExternalClient where
  baseURL : String
  timeout : Nat
  headers : List (String × ClientHeader)
  deriving DecidableEq, Repr

/-- What a caller of `call` passes; a text that is empty or missing has a default. -/
structure ExternalCallOptions where
  method : String := ""
  path : String := ""
  query : List (String × String) := []
  body : Option Json := none
  headers : List (String × String) := []
  timeout : Option Nat := none

structure AxiosRequestConfig where
  method : String
  url : String
  params : List (String × String) := []
  data : Option Json := none
  headers : List (String × String) := []
  timeout : Option Nat := none

/-- A response of a third-party API. -/
structure UpstreamResponse where
  status : Nat
  headers : JsonObject := []
  data : Json := .null

/-- What `call` returns of it. -/
structure ExternalResult where
  status : Nat
  headers : JsonObject
  data : Json
  duration : Nat

/-- The `EXTERNAL_REQUEST` event, without its timestamp. -/
structure ExternalRequestEvent where
  api : String
  method : String
  path : String
  status : Nat
  duration : Nat
  deriving DecidableEq, Repr

structure ExternalService where
  apis : PlainObject ExternalApiConfig := .empty
  clients : Table String ExternalClient := ∅
  breakers : Table String CircuitBreaker := ∅

namespace ExternalService

/-- The `onStateChange` handler of `initClient`: the gauge value set and the event published. -/
def onStateChange (breakerName : String) (change : CircuitState × CircuitState) :
    Nat × Option BreakerEvent :=
  (circuitBreakerStateValue change.2,
    if change.2 = .OPEN then some (.circuit_breaker_opened breakerName change.1)
    else if change.2 = .CLOSED then some (.circuit_breaker_closed breakerName change.1)
    else none)

def authHeaders (cfg : ExternalApiConfig) : List (String × ClientHeader) :=
  if cfg.authValue = "" then []
  else match cfg.authType with
    | .bearer => [(cfg.authHeader, .text s!"Bearer {cfg.authValue}")]
    | .basic => [(cfg.authHeader, .basic cfg.authValue)]
    | .apiKey => [(cfg.authHeader, .text cfg.authValue)]
    | .api_key => []

def newBreaker (name : String) : CircuitBreaker :=
  .create name { failureThreshold := some 5, resetTimeoutMs := some 30000 }

def initClient (s : ExternalService) (name : String) (cfg : ExternalApiConfig) :
    ExternalService :=
  { s with
    clients := s.clients.insert name
      { baseURL := cfg.baseUrl
        timeout := cfg.timeout
        headers := ("User-Agent", .text "APICenter/1.0") :: authHeaders cfg }
    breakers := s.breakers.insert name (newBreaker name) }

def onModuleInit (config : ExternalConfig) : ExternalService :=
  let apis := buildExternalApis config
  apis.own.entries.foldl (fun s field => s.initClient field.1 field.2) { apis := apis }

/-- The request of a call, once it is let through. -/
def axiosCfg (cfg : Option ExternalApiConfig) (options : ExternalCallOptions) :
    AxiosRequestConfig where
  method := if options.method = "" then "GET" else options.method
  url := if options.path = "" then "/" else options.path
  params := options.query
  data := options.body
  headers := options.headers.filter (·.1 ≠ "X-Forwarded-By") ++
    [("X-Forwarded-By", "apicenter-gateway")]
  timeout := (options.timeout.filter (· ≠ 0)).or (cfg.map (·.timeout))

/-- `call` up to the request of its client, or the error thrown in its place. -/
def beginCall (s : ExternalService) (apiName : String) (options : ExternalCallOptions)
    (now : Nat) : ExternalService × Except Thrown AxiosRequestConfig :=
  -- a name of `Object.prototype` is found as well, but has no client
  if (s.apis.get? apiName).isNone ∧ apiName ∉ objectPrototype then
    (s, .error (.notFoundError s!"External API '{apiName}' is not configured"))
  else match s.clients.lookup apiName with
    | none => (s, .error (.serviceUnavailableError s!"Client for '{apiName}' is not initialised"))
    | some _ =>
      match s.breakers.lookup apiName with
      | none =>
        (s, .error (.typeError "Cannot read properties of undefined (reading 'execute')"))
      | some breaker =>
        let begun := breaker.beginExecute now
        ({ s with breakers := s.breakers.insert apiName begun.1 },
          match begun.2 with
          | .error message => .error (.error message)
          | .ok () => .ok (axiosCfg (s.apis.get? apiName) options))

/-- The rest of `call`, once its client has an answer: a response, or the message of an error. -/
def endCall (s : ExternalService) (apiName : String) (cfg : AxiosRequestConfig) (start : Nat)
    (answer : Except String UpstreamResponse) (now : Nat) :
    ExternalService × Option ExternalRequestEvent × Except Thrown ExternalResult :=
  let settle (recorded : CircuitBreaker → CircuitBreaker) : ExternalService :=
    match s.breakers.lookup apiName with
    | none => s
    | some breaker => { s with breakers := s.breakers.insert apiName (recorded breaker) }
  match answer with
  | .ok resp =>
    (settle (·.recordSuccess),
      some ⟨apiName, cfg.method, cfg.url, resp.status, now - start⟩,
      .ok ⟨resp.status, resp.headers, resp.data, now - start⟩)
  | .error message =>
    (settle (·.recordFailure now), none,
      .error (.badGatewayError s!"External API '{apiName}' returned an error: {message}"))

/-- `resetBreaker` of the admin controller. -/
def resetBreaker (s : ExternalService) (apiName : String) : ExternalService × Except Thrown Unit :=
  match s.breakers.lookup apiName with
  | none => (s, .error (.notFoundError s!"Circuit breaker for '{apiName}' not found"))
  | some breaker => ({ s with breakers := s.breakers.insert apiName breaker.reset }, .ok ())

end ExternalService

/-- A call whose client has no answer yet. -/
structure PendingCall where
  apiName : String
  cfg : AxiosRequestConfig
  start : Nat

/-- The service with the calls it has sent. -/
structure ExternalCalls where
  service : ExternalService
  pending : List PendingCall := []

/-- Calls are answered once, in any order. -/
inductive ExternalAction where
  | call (apiName : String) (options : ExternalCallOptions) (now : Nat)
  | answer (i : Nat) (answer : Except String UpstreamResponse) (now : Nat)
  | resetBreaker (apiName : String)

namespace ExternalCalls

/-- A process that has just come up. -/
def start (config : ExternalConfig) : ExternalCalls := { service := .onModuleInit config }

def step (s : ExternalCalls) : ExternalAction → ExternalCalls
  | .call apiName options now =>
    let begun := s.service.beginCall apiName options now
    { service := begun.1
      pending := s.pending ++ match begun.2 with
        | .ok cfg => [⟨apiName, cfg, now⟩]
        | .error _ => [] }
  | .answer i answer now =>
    match s.pending[i]? with
    | none => s
    | some p =>
      { service := (s.service.endCall p.apiName p.cfg p.start answer now).1
        pending := s.pending.eraseIdx i }
  | .resetBreaker apiName => { s with service := (s.service.resetBreaker apiName).1 }

/-- The error a call is rejected with, if it is. -/
def rejection (s : ExternalCalls) : ExternalAction → Option Thrown
  | .call apiName options now =>
    match (s.service.beginCall apiName options now).2 with
    | .ok _ => none
    | .error e => some e
  | .answer i answer now =>
    s.pending[i]?.bind fun p =>
      match (s.service.endCall p.apiName p.cfg p.start answer now).2.2 with
      | .ok _ => none
      | .error e => some e
  | .resetBreaker _ => none

end ExternalCalls

end ApiCenter
