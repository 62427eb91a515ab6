import ApiCenter.Model.CircuitBreaker

namespace ApiCenter

/-- The two ways through a breaker: around a promise, or in two separate calls. -/
inductive Interface where
  | execute
  | tryAcquire
  deriving DecidableEq, Repr

/-- What has become of a request. -/
inductive Standing where
  | rejected
  | outstanding
  | succeeded
  | failed
  deriving DecidableEq, Repr

/-- A request that has come to a breaker. `period` is the number of times the breaker had gone from
`OPEN` to `HALF_OPEN` once the request was through the gate. -/
structure Attempt where
  via : Interface
  period : Nat
  standing : Standing
  deriving DecidableEq, Repr

namespace CircuitBreaker

/-- The rest of `execute`, once the promise of its function has settled. -/
def endExecute (b : CircuitBreaker) (settled : Except String Unit) (now : Nat) :
    CircuitBreaker × Except String Unit :=
  match settled with
  | .ok result => (b.recordSuccess, .ok result)
  | .error err => (b.recordFailure now, .error err)

/-- The call that records an outcome. -/
def recording (settled : Except String Unit) (now : Nat) : BreakerAction :=
  match settled with
  | .ok _ => .recordSuccess
  | .error _ => .recordFailure now

end CircuitBreaker

namespace Interface

def arrival : Interface → Nat → BreakerAction
  | .execute, now => .execute now
  | .tryAcquire, now => .tryAcquire now

/-- Whether the request goes through: `execute` calls its function, `tryAcquire` returns `true`. -/
def admits (via : Interface) (b : CircuitBreaker) (now : Nat) : Bool :=
  match via with
  | .execute => (b.beginExecute now).2.isOk
  | .tryAcquire => (b.tryAcquire now).2

def settle (via : Interface) (b : CircuitBreaker) (settled : Except String Unit) (now : Nat) :
    CircuitBreaker :=
  match via with
  | .execute => (b.endExecute settled now).1
  | .tryAcquire => b.step (CircuitBreaker.recording settled now)

end Interface

def Standing.ofSettled : Except String Unit → Standing
  | .ok _ => .succeeded
  | .error _ => .failed

/-- A breaker, the number of times it has gone from `OPEN` to `HALF_OPEN`, and the requests that
have come to it, numbered in the order they came. -/
structure Traffic where
  breaker : CircuitBreaker
  periods : Nat := 0
  attempts : List Attempt := []
  deriving DecidableEq, Repr

/-- What happens at a breaker. A request is settled once, whenever that may be; `lateError` is the
`error` event of a proxied request that has been settled by its response. -/
inductive TrafficAction where
  | arrive (via : Interface) (now : Nat)
  | settle (i : Nat) (settled : Except String Unit) (now : Nat)
  | lateError (now : Nat)
  | reset

namespace Traffic

/-- The number of `OPEN` to `HALF_OPEN` moves once `b` has become `b'`. -/
def periodsAfter (t : Traffic) (b' : CircuitBreaker) : Nat :=
  if t.breaker.state = .OPEN ∧ b'.state = .HALF_OPEN then t.periods + 1 else t.periods

/-- The request `i`, while it is outstanding. -/
def pending (t : Traffic) (i : Nat) : Option Attempt :=
  t.attempts[i]?.filter (·.standing = .outstanding)

def arrive (t : Traffic) (via : Interface) (now : Nat) : Traffic :=
  let breaker := t.breaker.step (via.arrival now)
  { breaker := breaker
    periods := t.periodsAfter breaker
    attempts := t.attempts ++ [
      { via := via
        period := t.periodsAfter breaker
        standing := if via.admits t.breaker now then .outstanding else .rejected }] }

def settle (t : Traffic) (i : Nat) (settled : Except String Unit) (now : Nat) : Traffic :=
  match t.pending i with
  | none => t
  | some a =>
    { t with
      breaker := a.via.settle t.breaker settled now
      attempts := t.attempts.set i { a with standing := .ofSettled settled } }

def step (t : Traffic) : TrafficAction → Traffic
  | .arrive via now => t.arrive via now
  | .settle i settled now => t.settle i settled now
  | .lateError now => { t with breaker := t.breaker.recordFailure now }
  | .reset => { t with breaker := t.breaker.reset }

/-- The calls of `onStateChange` an action makes. -/
def stateChanges (t : Traffic) : TrafficAction → List (CircuitState × CircuitState)
  | .arrive via now => t.breaker.stateChanges (via.arrival now)
  | .settle i settled now =>
    match t.pending i with
    | none => []
    | some _ => t.breaker.stateChanges (CircuitBreaker.recording settled now)
  | .lateError now => t.breaker.stateChanges (.recordFailure now)
  | .reset => t.breaker.stateChanges .reset

/-- The request was let through since the breaker last went from `OPEN` to `HALF_OPEN`. -/
def Fresh (t : Traffic) (a : Attempt) : Prop := a.period = t.periods

instance (t : Traffic) (a : Attempt) : Decidable (t.Fresh a) :=
  inferInstanceAs (Decidable (_ = _))

/-- How many of the fresh requests stand so. -/
def freshCount (t : Traffic) (standing : Standing) : Nat :=
  t.attempts.countP fun a => t.Fresh a ∧ a.standing = standing

end Traffic

namespace Interface

theorem settle_eq_step (via : Interface) (b : CircuitBreaker) (settled : Except String Unit)
    (now : Nat) : via.settle b settled now = b.step (CircuitBreaker.recording settled now) := by
  cases via with
  | execute => cases settled <;> rfl
  | tryAcquire => rfl

/-- Both interfaces let a request through in the same states. -/
theorem admits_iff (via : Interface) (b : CircuitBreaker) (now : Nat) :
    via.admits b now = true ↔ (b.state = .OPEN → b.coolingDown now = false) := by
  by_cases hs : b.state = .OPEN <;> cases hc : b.coolingDown now <;> cases via <;>
    simp [admits, CircuitBreaker.beginExecute, CircuitBreaker.tryAcquire, hs, hc, Except.isOk,
      Except.toBool]

theorem step_arrival (via : Interface) (b : CircuitBreaker) (now : Nat) :
    b.step (via.arrival now) =
      if b.state = .OPEN ∧ b.coolingDown now = false then
        { b with state := .HALF_OPEN, successCount := 0 }
      else b := by
  by_cases hs : b.state = .OPEN <;> cases hc : b.coolingDown now <;> cases via <;>
    simp [arrival, CircuitBreaker.step, CircuitBreaker.beginExecute, CircuitBreaker.tryAcquire,
      hs, hc]

end Interface

namespace Traffic

theorem freshCount_eq (t : Traffic) (standing : Standing) :
    t.freshCount standing =
      t.attempts.countP fun a => a.period = t.periods ∧ a.standing = standing := rfl

theorem pending_eq_some {t : Traffic} {i : Nat} {a : Attempt} :
    t.pending i = some a ↔ t.attempts[i]? = some a ∧ a.standing = .outstanding := by
  simp [pending, Option.filter_eq_some_iff]

end Traffic

end ApiCenter
