import ApiCenter.Library.Histories
import ApiCenter.Model.External

namespace ApiCenter.CircuitBreaker

open ApiCenter.Library.Runs ApiCenter.Library.Histories

/-- What `onStateChange` is told over a run of a new breaker is a walk from `CLOSED` to the state
it ends in, and the handler of `ExternalService` does what it would do for the real changes. -/
structure Observable (name : String) (options : CircuitBreakerOptions)
    (as : List BreakerAction) : Prop where
  trail : Trail .CLOSED (emitted step stateChanges (create name options) as)
    (final step (create name options) as).state
  handled : (emitted step stateChanges (create name options) as).map
      (ExternalService.onStateChange name) =
    (transitions step state (create name options) as).map (ExternalService.onStateChange name)

/-- Not a failure in `OPEN` that brings the count to the threshold. -/
def Quiet (b : CircuitBreaker) (a : BreakerAction) : Prop :=
  b.state = .OPEN → ∀ now, a = .recordFailure now → b.failureCount + 1 < b.failureThreshold

theorem trail_step (b : CircuitBreaker) (a : BreakerAction)
    (ps : List (CircuitState × CircuitState)) (y : CircuitState) :
    Trail b.state (b.stateChanges a ++ ps) y ↔ b.Quiet a ∧ Trail (b.step a).state ps y := by
  cases a with
  | tryAcquire now =>
    by_cases ho : b.state = .OPEN <;> cases hc : b.coolingDown now <;>
      simp [stateChanges, step, tryAcquire, Quiet, Trail, ho, hc]
  | execute now =>
    by_cases ho : b.state = .OPEN <;> cases hc : b.coolingDown now <;>
      simp [stateChanges, step, beginExecute, Quiet, Trail, ho, hc]
  | recordSuccess =>
    by_cases hh : b.state = .HALF_OPEN <;>
      by_cases hs : b.successThreshold ≤ b.successCount + 1 <;>
      simp [stateChanges, step, recordSuccess, Quiet, Trail, hh, hs]
  | recordFailure now =>
    cases hs : b.state with
    | OPEN =>
      -- The only state in which a failure can report a change that is none.
      by_cases ht : b.failureThreshold ≤ b.failureCount + 1
      · have hlate : ¬ b.failureCount + 1 < b.failureThreshold := Nat.not_lt.mpr ht
        simp [stateChanges, step, recordFailure, Quiet, Trail, hs, ht, hlate]
      · have hquiet : b.failureCount + 1 < b.failureThreshold := Nat.not_le.mp ht
        simp [stateChanges, step, recordFailure, Quiet, hs, ht, hquiet]
    | CLOSED | HALF_OPEN =>
      by_cases ht : b.failureThreshold ≤ b.failureCount + 1 <;>
        simp [stateChanges, step, recordFailure, Quiet, Trail, hs, ht]
  | reset =>
    by_cases hc : b.state = .CLOSED <;> simp [stateChanges, step, reset, Quiet, Trail, hc]

theorem stateChanges_length (b : CircuitBreaker) (a : BreakerAction) :
    (b.stateChanges a).length ≤ 1 := by
  cases a <;> simp only [stateChanges] <;> split_ifs <;> simp

/-- A quiet action reports the change of state it makes and nothing else. -/
theorem stateChanges_quiet {b : CircuitBreaker} {a : BreakerAction} (h : b.Quiet a) :
    b.stateChanges a =
      if b.state = (b.step a).state then [] else [(b.state, (b.step a).state)] := by
  have ht := (trail_step b a [] (b.step a).state).mpr ⟨h, rfl⟩
  rw [List.append_nil] at ht
  exact ht.short (b.stateChanges_length a)

/-- The reports of a run are its changes of state exactly when no failure in `OPEN` brings the
count of failures to the threshold. -/
theorem observable_iff_quiet (name : String) (options : CircuitBreakerOptions)
    (as : List BreakerAction) :
    Observable name options as ↔ Always step Quiet (create name options) as := by
  have htrail := trail_emitted_iff state trail_step (create name options) as
  constructor
  · intro h
    exact htrail.mp h.trail
  · intro hq
    have hsame : emitted step stateChanges (create name options) as =
        transitions step state (create name options) as :=
      emitted_congr (hq.mono fun _ _ => stateChanges_quiet)
    exact ⟨htrail.mpr hq, by rw [hsame]⟩

/-- Six calls start while the breaker is closed. The fifth of their failures opens it, and the
sixth is reported as a change from `OPEN` to `OPEN`. -/
theorem late_failure_not_observable :
    ¬ Observable "billing" {} (List.replicate 6 (.execute 1000) ++
      List.replicate 6 (.recordFailure 2000)) := by
  intro h
  have hpairs : emitted step stateChanges (create "billing" {})
      (List.replicate 6 (.execute 1000) ++ List.replicate 6 (.recordFailure 2000)) =
        [(.CLOSED, .OPEN), (.OPEN, .OPEN)] := by decide
  have htrail := h.trail
  rw [hpairs] at htrail
  obtain ⟨-, -, -, hne, -⟩ := htrail
  exact hne rfl

end ApiCenter.CircuitBreaker
