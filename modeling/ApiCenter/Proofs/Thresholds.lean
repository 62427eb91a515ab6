import Mathlib.Data.List.Induction
import ApiCenter.Library.Histories
import ApiCenter.Model.CircuitBreaker

namespace ApiCenter

open ApiCenter.Library.Runs ApiCenter.Library.Histories

inductive BreakerOutcome where
  | success
  | failure
  deriving DecidableEq, Repr

def BreakerAction.outcome : BreakerAction → Option BreakerOutcome
  | .recordSuccess => some .success
  | .recordFailure _ => some .failure
  | .tryAcquire _ | .execute _ | .reset => none

namespace CircuitBreaker

/-- The call resets the breaker or moves it into `CLOSED`. -/
def Restarts (b : CircuitBreaker) (a : BreakerAction) : Prop :=
  a = .reset ∨ b.state ≠ .CLOSED ∧ (b.step a).state = .CLOSED

/-- The call moves the breaker into `HALF_OPEN`. -/
def HalfOpens (b : CircuitBreaker) (a : BreakerAction) : Prop :=
  b.state ≠ .HALF_OPEN ∧ (b.step a).state = .HALF_OPEN

instance (b : CircuitBreaker) (a : BreakerAction) : Decidable (b.Restarts a) :=
  inferInstanceAs (Decidable (_ ∨ _))

instance (b : CircuitBreaker) (a : BreakerAction) : Decidable (b.HalfOpens a) :=
  inferInstanceAs (Decidable (_ ∧ _))

/-- The outcomes recorded after the last action of the run that meets `P`. -/
def outcomesSince (P : CircuitBreaker → BreakerAction → Prop) [∀ b a, Decidable (P b a)]
    (b : CircuitBreaker) (as : List BreakerAction) : List BreakerOutcome :=
  (since step P [] b as).filterMap BreakerAction.outcome

/-- How a breaker that has run through `as` takes the next recorded outcome. -/
structure TripsAndRecovers (b : CircuitBreaker) (as : List BreakerAction) : Prop where
  trip : (final step b as).state = .CLOSED → ∀ a o, a.outcome = some o →
    (((final step b as).step a).state = .OPEN ↔
      List.replicate b.failureThreshold .failure <:+ outcomesSince Restarts b as ++ [o])
  recover : (final step b as).state = .HALF_OPEN → ∀ a o, a.outcome = some o →
    (((final step b as).step a).state = .CLOSED ↔
      o = .success ∧ (outcomesSince HalfOpens b as ++ [o]).count .success = b.successThreshold)
  reopen : (final step b as).state = .HALF_OPEN → ∀ a o, a.outcome = some o →
    (((final step b as).step a).state = .OPEN ↔ o = .failure)
  stayOpen : (final step b as).state = .OPEN → ∀ a o, a.outcome = some o →
    ((final step b as).step a).state = .OPEN
  belowFailures : (final step b as).state = .CLOSED →
    (final step b as).failureCount < b.failureThreshold
  belowSuccesses : (final step b as).state = .HALF_OPEN →
    (final step b as).successCount < b.successThreshold

theorem final_failureThreshold (b : CircuitBreaker) (as : List BreakerAction) :
    (final step b as).failureThreshold = b.failureThreshold :=
  final_eq_of_step (fun b a => (step_options b a).1) b as

theorem final_successThreshold (b : CircuitBreaker) (as : List BreakerAction) :
    (final step b as).successThreshold = b.successThreshold :=
  final_eq_of_step (fun b a => (step_options b a).2.2) b as

/-- What the counters of a breaker say about the outcomes it has been told. -/
structure Counted (b : CircuitBreaker) (as : List BreakerAction) (c : CircuitBreaker) : Prop where
  failures : c.state = .CLOSED → EndsIn .failure c.failureCount (outcomesSince Restarts b as)
  successes : c.state = .HALF_OPEN →
    (outcomesSince HalfOpens b as).count .success = c.successCount
  belowFailures : c.state = .CLOSED → c.failureCount < b.failureThreshold
  belowSuccesses : c.state = .HALF_OPEN → c.successCount < b.successThreshold

theorem outcomesSince_concat (P : CircuitBreaker → BreakerAction → Prop)
    [∀ b a, Decidable (P b a)] (b : CircuitBreaker) (as : List BreakerAction)
    (a : BreakerAction) :
    outcomesSince P b (as ++ [a]) =
      if P (final step b as) a then [] else outcomesSince P b as ++ a.outcome.toList := by
  rw [outcomesSince, since_concat]
  split_ifs
  · rfl
  · rw [List.filterMap_append]
    cases h : a.outcome <;> simp [outcomesSince, h]

/-- A breaker that is closed after a call was closed before it or starts counting anew. -/
theorem closed_cases {c : CircuitBreaker} {a : BreakerAction} (h : (c.step a).state = .CLOSED) :
    c.Restarts a ∧ (c.step a).failureCount = 0 ∨ ¬ c.Restarts a ∧ c.state = .CLOSED := by
  by_cases hr : c.Restarts a
  · refine .inl ⟨hr, ?_⟩
    rcases hr with hr | ⟨hc, -⟩
    · rw [hr]
      rfl
    · cases a with
      | recordSuccess =>
        simp only [step, recordSuccess] at h ⊢
        split_ifs at h ⊢ <;> first | rfl | contradiction
      | recordFailure now =>
        simp only [step, recordFailure] at h
        split_ifs at h
        contradiction
      | tryAcquire now =>
        simp only [step, tryAcquire] at h
        split_ifs at h <;> contradiction
      | execute now =>
        simp only [step, beginExecute] at h
        split_ifs at h <;> contradiction
      | reset => rfl
  · refine .inr ⟨hr, ?_⟩
    by_contra hc
    exact hr (.inr ⟨hc, h⟩)

/-- A breaker that is half open after a call was half open before it or starts counting anew. -/
theorem halfOpen_cases {c : CircuitBreaker} {a : BreakerAction}
    (h : (c.step a).state = .HALF_OPEN) :
    c.HalfOpens a ∧ (c.step a).successCount = 0 ∨ ¬ c.HalfOpens a ∧ c.state = .HALF_OPEN := by
  by_cases hp : c.HalfOpens a
  · refine .inl ⟨hp, ?_⟩
    obtain ⟨hc, -⟩ := hp
    cases a with
    | tryAcquire now =>
      simp only [step, tryAcquire] at h ⊢
      split_ifs at h ⊢ <;> first | rfl | contradiction
    | execute now =>
      simp only [step, beginExecute] at h ⊢
      split_ifs at h ⊢ <;> first | rfl | contradiction
    | recordSuccess => simp [step, recordSuccess, hc] at h
    | recordFailure now =>
      simp only [step, recordFailure] at h
      split_ifs at h
      contradiction
    | reset => cases h
  · refine .inr ⟨hp, ?_⟩
    by_contra hc
    exact hp ⟨hc, h⟩

section

variable {b : CircuitBreaker} {as : List BreakerAction} {c : CircuitBreaker}

theorem Counted.failures_step (h : Counted b as c) (a : BreakerAction)
    (hf : c.failureThreshold = b.failureThreshold) (hk : 1 ≤ b.failureThreshold)
    (hc : c = final step b as) (hclosed : (c.step a).state = .CLOSED) :
    EndsIn .failure (c.step a).failureCount (outcomesSince Restarts b (as ++ [a])) ∧
      (c.step a).failureCount < b.failureThreshold := by
  rw [outcomesSince_concat, ← hc]
  rcases closed_cases hclosed with ⟨hr, hzero⟩ | ⟨hr, hwas⟩
  · rw [if_pos hr, hzero]
    exact ⟨endsIn_nil _, by omega⟩
  · rw [if_neg hr]
    have hends := h.failures hwas
    have hbelow := h.belowFailures hwas
    cases a with
    | tryAcquire now =>
      simpa [step, tryAcquire, hwas, BreakerAction.outcome] using ⟨hends, hbelow⟩
    | execute now =>
      simpa [step, beginExecute, hwas, BreakerAction.outcome] using ⟨hends, hbelow⟩
    | recordSuccess =>
      have hzero : (c.step .recordSuccess).failureCount = 0 := by simp [step, recordSuccess, hwas]
      rw [hzero]
      exact ⟨EndsIn.concat_ne _ (by decide), by omega⟩
    | recordFailure now =>
      simp only [step, recordFailure, hwas, reduceCtorEq, if_false] at hclosed ⊢
      split_ifs at hclosed ⊢ with ht
      rw [hf] at ht
      exact ⟨hends.concat_self, Nat.not_le.mp ht⟩
    | reset => exact absurd (.inl rfl) hr

theorem Counted.successes_step (h : Counted b as c) (a : BreakerAction)
    (hs : c.successThreshold = b.successThreshold) (hm : 1 ≤ b.successThreshold)
    (hc : c = final step b as) (hhalf : (c.step a).state = .HALF_OPEN) :
    (outcomesSince HalfOpens b (as ++ [a])).count .success = (c.step a).successCount ∧
      (c.step a).successCount < b.successThreshold := by
  rw [outcomesSince_concat, ← hc]
  rcases halfOpen_cases hhalf with ⟨hp, hzero⟩ | ⟨hp, hwas⟩
  · rw [if_pos hp, hzero]
    exact ⟨rfl, by omega⟩
  · rw [if_neg hp]
    have hcount := h.successes hwas
    have hbelow := h.belowSuccesses hwas
    cases a with
    | tryAcquire now =>
      simpa [step, tryAcquire, hwas, BreakerAction.outcome] using ⟨hcount, hbelow⟩
    | execute now =>
      simpa [step, beginExecute, hwas, BreakerAction.outcome] using ⟨hcount, hbelow⟩
    | recordSuccess =>
      simp only [step, recordSuccess, hwas, if_true] at hhalf ⊢
      split_ifs at hhalf ⊢ with ht
      rw [hs] at ht
      exact ⟨by simp [BreakerAction.outcome, hcount], Nat.not_le.mp ht⟩
    | recordFailure now => simp [step, recordFailure, hwas] at hhalf
    | reset => simp [step, reset] at hhalf

end

theorem counted_run (b : CircuitBreaker) (hb : b.state = .CLOSED) (hf : b.failureCount = 0)
    (hk : 1 ≤ b.failureThreshold) (hm : 1 ≤ b.successThreshold) (as : List BreakerAction) :
    Counted b as (final step b as) := by
  induction as using List.reverseRecOn with
  | nil =>
    refine ⟨fun _ => ?_, ?_, fun _ => ?_, ?_⟩
    · rw [final_nil, hf]
      exact endsIn_nil _
    · simp [hb]
    · rw [final_nil]
      omega
    · simp [hb]
  | append_singleton as a ih =>
    have hft := final_failureThreshold b as
    have hst := final_successThreshold b as
    rw [final_append, final_cons, final_nil]
    exact ⟨fun h => (ih.failures_step a hft hk rfl h).1,
      fun h => (ih.successes_step a hst hm rfl h).1,
      fun h => (ih.failures_step a hft hk rfl h).2,
      fun h => (ih.successes_step a hst hm rfl h).2⟩

theorem trip_iff {b c : CircuitBreaker} {as : List BreakerAction} (h : Counted b as c)
    (hf : c.failureThreshold = b.failureThreshold) (hk : 1 ≤ b.failureThreshold)
    (hc : c.state = .CLOSED) {a : BreakerAction} {o : BreakerOutcome} (ha : a.outcome = some o) :
    (c.step a).state = .OPEN ↔
      List.replicate b.failureThreshold .failure <:+ outcomesSince Restarts b as ++ [o] := by
  have hends := h.failures hc
  cases a with
  | recordSuccess =>
    obtain rfl : BreakerOutcome.success = o := Option.some.inj ha
    rw [EndsIn.concat_ne _ (by decide) b.failureThreshold]
    simp only [step, recordSuccess, hc, reduceCtorEq, if_false, false_iff]
    omega
  | recordFailure now =>
    obtain rfl : BreakerOutcome.failure = o := Option.some.inj ha
    rw [hends.concat_self b.failureThreshold, ← hf]
    by_cases ht : c.failureThreshold ≤ c.failureCount + 1 <;>
      simp [step, recordFailure, hc, ht]
  | tryAcquire now | execute now | reset => simp [BreakerAction.outcome] at ha

theorem recover_iff {b c : CircuitBreaker} {as : List BreakerAction} (h : Counted b as c)
    (hs : c.successThreshold = b.successThreshold) (hc : c.state = .HALF_OPEN)
    {a : BreakerAction} {o : BreakerOutcome} (ha : a.outcome = some o) :
    (c.step a).state = .CLOSED ↔
      o = .success ∧
        (outcomesSince HalfOpens b as ++ [o]).count .success = b.successThreshold := by
  have hcount := h.successes hc
  have hbelow := h.belowSuccesses hc
  cases a with
  | recordSuccess =>
    obtain rfl : BreakerOutcome.success = o := Option.some.inj ha
    rw [List.count_append, hcount, List.count_singleton_self, ← hs]
    by_cases ht : c.successThreshold ≤ c.successCount + 1
    · have hlast : c.successCount + 1 = c.successThreshold := by omega
      simp [step, recordSuccess, hc, hlast]
    · have hlast : c.successCount + 1 ≠ c.successThreshold := by omega
      simp [step, recordSuccess, hc, ht, hlast]
  | recordFailure now =>
    obtain rfl : BreakerOutcome.failure = o := Option.some.inj ha
    simp [step, recordFailure, hc]
  | tryAcquire now | execute now | reset => simp [BreakerAction.outcome] at ha

theorem reopen_iff {c : CircuitBreaker} (hc : c.state = .HALF_OPEN)
    {a : BreakerAction} {o : BreakerOutcome} (ha : a.outcome = some o) :
    (c.step a).state = .OPEN ↔ o = .failure := by
  cases a with
  | recordSuccess =>
    obtain rfl : BreakerOutcome.success = o := Option.some.inj ha
    simp only [step, recordSuccess, hc, if_true]
    split_ifs <;> simp
  | recordFailure now =>
    obtain rfl : BreakerOutcome.failure = o := Option.some.inj ha
    simp [step, recordFailure, hc]
  | tryAcquire now | execute now | reset => simp [BreakerAction.outcome] at ha

theorem stays_open {c : CircuitBreaker} (hc : c.state = .OPEN)
    {a : BreakerAction} {o : BreakerOutcome} (ha : a.outcome = some o) :
    (c.step a).state = .OPEN := by
  cases a with
  | recordSuccess => simp [step, recordSuccess, hc]
  | recordFailure now =>
    simp only [step, recordFailure, hc, reduceCtorEq, if_false]
    split_ifs <;> rfl
  | tryAcquire now | execute now | reset => simp [BreakerAction.outcome] at ha

/-- A new breaker trips after as many failures in a row as its threshold says, and recovers after
as many successes. -/
theorem trips_and_recovers (name : String) (options : CircuitBreakerOptions)
    (hk : 1 ≤ (create name options).failureThreshold)
    (hm : 1 ≤ (create name options).successThreshold) (as : List BreakerAction) :
    TripsAndRecovers (create name options) as := by
  have hcounted := counted_run (create name options) rfl rfl hk hm as
  have hft := final_failureThreshold (create name options) as
  have hst := final_successThreshold (create name options) as
  exact ⟨fun hc a o ha => trip_iff hcounted hft hk hc ha,
    fun hc a o ha => recover_iff hcounted hst hc ha,
    fun hc a o ha => reopen_iff hc ha,
    fun hc a o ha => stays_open hc ha,
    hcounted.belowFailures, hcounted.belowSuccesses⟩

/-- Four failures in a row are within the default threshold, and the fifth trips the breaker. -/
theorem trips_after_four :
    TripsAndRecovers (create "billing" {}) (List.replicate 4 (.recordFailure 1000)) :=
  trips_and_recovers "billing" {} (by decide) (by decide) _

end CircuitBreaker

end ApiCenter
