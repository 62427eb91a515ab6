import ApiCenter.Model.External

namespace ApiCenter
open Library

/-- `lastFailureTime` is missing as long as there has been no failure since the last reset. -/
structure BreakerStats where
  name : String
  state : CircuitState
  failureCount : Nat
  successCount : Nat
  lastFailureTime : Option Nat
  deriving DecidableEq, Repr

def CircuitBreaker.getStats (b : CircuitBreaker) : BreakerStats where
  name := b.name
  state := b.state
  failureCount := b.failureCount
  successCount := b.successCount
  lastFailureTime := if b.lastFailureTime = 0 then none else some b.lastFailureTime

/-- What the catalogue says about an API; without a breaker its state is `unknown`. -/
structure ApiListing where
  name : String
  displayName : String
  baseUrl : String
  authType : ExternalAuthType
  timeout : Nat
  circuitBreakerState : Option CircuitState
  deriving DecidableEq, Repr

namespace ExternalService

def listApis (s : ExternalService) : List ApiListing :=
  s.apis.own.entries.map fun field =>
    { name := field.1
      displayName := field.2.displayName
      baseUrl := field.2.baseUrl
      authType := field.2.authType
      timeout := field.2.timeout
      circuitBreakerState := (s.breakers.lookup field.1).map (·.state) }

/-- The statistics of all breakers, whose order is left open. -/
def getAllBreakerStats (s : ExternalService) : List BreakerStats :=
  (s.breakers.entries.map Sigma.snd).map (·.getStats)

def getBreaker (s : ExternalService) (apiName : String) : Option CircuitBreaker :=
  s.breakers.lookup apiName

end ExternalService

/-- The part of the readiness probe that is about the breakers. -/
structure BreakerCheck where
  up : Bool
  total : Nat
  opened : Nat
  breakers : List (String × CircuitState × Nat)
  deriving DecidableEq, Repr

/-- `circuitBreakerCheck` of the health controller. -/
def HealthController.circuitBreakerCheck (s : ExternalService) : BreakerCheck :=
  let stats := s.getAllBreakerStats
  let openBreakers := stats.filter (·.state = .OPEN)
  { up := openBreakers.isEmpty
    total := stats.length
    opened := openBreakers.length
    breakers := stats.map fun s => (s.name, s.state, s.failureCount) }

namespace AdminCircuitBreakerController

/-- The states before and after a reset, or the 404 of an API without a breaker. -/
def resetBreaker (s : ExternalService) (apiName : String) :
    ExternalService × Except Thrown (CircuitState × CircuitState) :=
  match s.getBreaker apiName with
  | none => (s, .error (.notFoundError s!"Circuit breaker for '{apiName}' not found"))
  | some breaker => ((s.resetBreaker apiName).1, .ok (breaker.state, breaker.reset.state))

end AdminCircuitBreakerController

namespace ExternalCalls

/-- What an action does to which breaker. -/
def breakerAction (s : ExternalCalls) : ExternalAction → Option (String × BreakerAction)
  | .call apiName _ now =>
    if (s.service.apis.get? apiName).isNone ∧ apiName ∉ objectPrototype then none
    else if (s.service.clients.lookup apiName).isNone then none
    else some (apiName, .execute now)
  | .answer i answer now =>
    s.pending[i]?.map fun p =>
      (p.apiName, match answer with
        | .ok _ => .recordSuccess
        | .error _ => .recordFailure now)
  | .resetBreaker apiName => some (apiName, .reset)

/-- The calls of `onStateChange` an action makes, with the name of the breaker. -/
def stateChanges (s : ExternalCalls) (a : ExternalAction) :
    List (String × CircuitState × CircuitState) :=
  match s.breakerAction a with
  | none => []
  | some (name, action) =>
    match s.service.breakers.lookup name with
    | none => []
    | some b => (b.stateChanges action).map fun change => (b.name, change)

end ExternalCalls

/-- The service with what `onStateChange` has told Prometheus and Kafka. An API has no gauge before
its first change. -/
structure MonitoredCalls where
  calls : ExternalCalls
  circuitBreakerState : Table String Nat := ∅
  published : List BreakerEvent := []

namespace MonitoredCalls

def start (config : ExternalConfig) : MonitoredCalls := { calls := .start config }

/-- One call of `onStateChange`. -/
def report (m : MonitoredCalls) (change : String × CircuitState × CircuitState) : MonitoredCalls :=
  let handled := ExternalService.onStateChange change.1 change.2
  { m with
    circuitBreakerState := m.circuitBreakerState.insert change.1 handled.1
    published := m.published ++ handled.2.toList }

def step (m : MonitoredCalls) (a : ExternalAction) : MonitoredCalls :=
  (m.calls.stateChanges a).foldl report { m with calls := m.calls.step a }

end MonitoredCalls

end ApiCenter
