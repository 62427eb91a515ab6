import Mathlib.Tactic.SplitIfs

namespace ApiCenter

inductive CircuitState where
  | CLOSED
  | OPEN
  | HALF_OPEN
  deriving DecidableEq, Repr

/-- Times are milliseconds. -/
structure CircuitBreaker where
  name : String
  failureThreshold : Nat := 5
  resetTimeoutMs : Nat := 30000
  successThreshold : Nat := 2
  state : CircuitState := .CLOSED
  failureCount : Nat := 0
  successCount : Nat := 0
  lastFailureTime : Nat := 0
  deriving DecidableEq, Repr

structure CircuitBreakerOptions where
  failureThreshold : Option Nat := none
  resetTimeoutMs : Option Nat := none
  successThreshold : Option Nat := none
  deriving DecidableEq, Repr

namespace CircuitBreaker

/-- The constructor. -/
def create (name : String) (options : CircuitBreakerOptions) : CircuitBreaker where
  name
  failureThreshold := options.failureThreshold.getD 5
  resetTimeoutMs := options.resetTimeoutMs.getD 30000
  successThreshold := options.successThreshold.getD 2

def reset (b : CircuitBreaker) : CircuitBreaker :=
  { b with state := .CLOSED, failureCount := 0, successCount := 0, lastFailureTime := 0 }

def coolingDown (b : CircuitBreaker) (now : Nat) : Bool :=
  now < b.lastFailureTime + b.resetTimeoutMs

/-- Whether a request may go through, and the breaker afterwards. -/
def tryAcquire (b : CircuitBreaker) (now : Nat) : CircuitBreaker × Bool :=
  if b.state = .OPEN then
    if b.coolingDown now then (b, false)
    else ({ b with state := .HALF_OPEN, successCount := 0 }, true)
  else (b, true)

/-- `execute` up to the call of its function, or the error thrown in its place. -/
def beginExecute (b : CircuitBreaker) (now : Nat) : CircuitBreaker × Except String Unit :=
  if b.state = .OPEN then
    if b.coolingDown now then
      (b, .error s!"Circuit breaker [{b.name}] is OPEN — request rejected")
    else ({ b with state := .HALF_OPEN, successCount := 0 }, .ok ())
  else (b, .ok ())

def recordSuccess (b : CircuitBreaker) : CircuitBreaker :=
  if b.state = .HALF_OPEN then
    if b.successThreshold ≤ b.successCount + 1 then
      { b with state := .CLOSED, failureCount := 0, successCount := 0 }
    else { b with successCount := b.successCount + 1 }
  else { b with failureCount := 0 }

def recordFailure (b : CircuitBreaker) (now : Nat) : CircuitBreaker :=
  let failed := { b with failureCount := b.failureCount + 1, lastFailureTime := now }
  if b.state = .HALF_OPEN then { failed with state := .OPEN }
  else if failed.failureThreshold ≤ failed.failureCount then { failed with state := .OPEN }
  else failed

end CircuitBreaker

/-- The calls on one breaker. `recordSuccess` and `recordFailure` also stand for what `execute`
does when the promise it awaits settles, whatever has happened in between. -/
inductive BreakerAction where
  | tryAcquire (now : Nat)
  | execute (now : Nat)
  | recordSuccess
  | recordFailure (now : Nat)
  | reset
  deriving DecidableEq, Repr

/-- The reading of `Date.now()` a call takes, if it takes one. -/
def BreakerAction.clock : BreakerAction → Option Nat
  | .tryAcquire now | .execute now | .recordFailure now => some now
  | .recordSuccess | .reset => none

namespace CircuitBreaker

def step (b : CircuitBreaker) : BreakerAction → CircuitBreaker
  | .tryAcquire now => (b.tryAcquire now).1
  | .execute now => (b.beginExecute now).1
  | .recordSuccess => b.recordSuccess
  | .recordFailure now => b.recordFailure now
  | .reset => b.reset

/-- No call changes what a breaker was created with. -/
theorem step_options (b : CircuitBreaker) (a : BreakerAction) :
    (b.step a).failureThreshold = b.failureThreshold ∧
      (b.step a).resetTimeoutMs = b.resetTimeoutMs ∧
      (b.step a).successThreshold = b.successThreshold := by
  cases a with
  | tryAcquire now =>
    simp only [step, tryAcquire]
    split_ifs <;> exact ⟨rfl, rfl, rfl⟩
  | execute now =>
    simp only [step, beginExecute]
    split_ifs <;> exact ⟨rfl, rfl, rfl⟩
  | recordSuccess =>
    simp only [step, recordSuccess]
    split_ifs <;> exact ⟨rfl, rfl, rfl⟩
  | recordFailure now =>
    simp only [step, recordFailure]
    split_ifs <;> exact ⟨rfl, rfl, rfl⟩
  | reset => exact ⟨rfl, rfl, rfl⟩

/-- An open breaker throws until its cooldown has elapsed. -/
theorem beginExecute_rejected {b : CircuitBreaker} {now : Nat} (hs : b.state = .OPEN)
    (hc : b.coolingDown now = true) : b.beginExecute now =
      (b, .error s!"Circuit breaker [{b.name}] is OPEN — request rejected") := by
  simp [beginExecute, hs, hc]

theorem beginExecute_admitted {b : CircuitBreaker} {now : Nat}
    (h : ¬ (b.state = .OPEN ∧ b.coolingDown now = true)) : (b.beginExecute now).2 = .ok () := by
  unfold beginExecute
  split_ifs with hs hc
  · exact absurd ⟨hs, hc⟩ h
  · rfl
  · rfl

/-- The `(from, to)` pairs a call passes to `onStateChange`. -/
def stateChanges (b : CircuitBreaker) : BreakerAction → List (CircuitState × CircuitState)
  | .tryAcquire now | .execute now =>
    if b.state = .OPEN then
      if b.coolingDown now then [] else [(b.state, .HALF_OPEN)]
    else []
  | .recordSuccess =>
    if b.state = .HALF_OPEN then
      if b.successThreshold ≤ b.successCount + 1 then [(b.state, .CLOSED)] else []
    else []
  | .recordFailure _ =>
    if b.state = .HALF_OPEN then [(b.state, .OPEN)]
    -- This branch is also taken in `OPEN`: a late failure is reported as a change to `OPEN`.
    else if b.failureThreshold ≤ b.failureCount + 1 then [(b.state, .OPEN)]
    else []
  | .reset => if b.state ≠ .CLOSED then [(b.state, .CLOSED)] else []

end CircuitBreaker

end ApiCenter
