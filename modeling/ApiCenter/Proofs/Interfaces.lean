import ApiCenter.Library.Histories
import ApiCenter.Model.Traffic

namespace ApiCenter

open ApiCenter.Library.Runs ApiCenter.Library.Histories

/-- The same action with `tryAcquire` in the place of `execute`. -/
def TrafficAction.viaTryAcquire : TrafficAction → TrafficAction
  | .arrive _ now => .arrive .tryAcquire now
  | .settle i settled now => .settle i settled now
  | .lateError now => .lateError now
  | .reset => .reset

namespace Traffic

/-- Which requests were let through, in which period, and how they ended. -/
def admissions (t : Traffic) : List (Nat × Standing) :=
  t.attempts.map fun a => (a.period, a.standing)

/-- The two traffics differ in nothing but the interface their requests came through. -/
structure Agrees (t t' : Traffic) : Prop where
  breaker : t'.breaker = t.breaker
  periods : t'.periods = t.periods
  admissions : t'.admissions = t.admissions

section

variable {t t' : Traffic}

theorem Agrees.pending (h : Agrees t t') (i : Nat) :
    (t'.pending i).map (fun a => (a.period, a.standing)) =
      (t.pending i).map (fun a => (a.period, a.standing)) := by
  have hget : t'.attempts[i]?.map (fun a => (a.period, a.standing)) =
      t.attempts[i]?.map (fun a => (a.period, a.standing)) := by
    have hi := congrArg (fun l => l[i]?) h.admissions
    simpa [Traffic.admissions] using hi
  simp only [Traffic.pending]
  cases ha : t.attempts[i]? with
  | none =>
    rw [ha, Option.map_none, Option.map_eq_none_iff] at hget
    rw [hget]
  | some a =>
    rw [ha, Option.map_some, Option.map_eq_some_iff] at hget
    obtain ⟨a', ha', he⟩ := hget
    obtain ⟨hp, hs⟩ := Prod.mk.inj he
    rw [ha']
    by_cases ho : a.standing = .outstanding
    · simp [Option.filter, hs, hp, ho]
    · simp [Option.filter, hs, ho]

theorem Agrees.arrive (h : Agrees t t') (via : Interface) (now : Nat) :
    Agrees (t.arrive via now) (t'.arrive .tryAcquire now) := by
  have hstep : t'.breaker.step (Interface.tryAcquire.arrival now) =
      t.breaker.step (via.arrival now) := by
    rw [h.breaker, Interface.step_arrival, Interface.step_arrival]
  have hadmits : Interface.tryAcquire.admits t'.breaker now = via.admits t.breaker now := by
    rw [h.breaker, Bool.eq_iff_iff, Interface.admits_iff, Interface.admits_iff]
  have hperiods : t'.periodsAfter = t.periodsAfter := by
    funext b
    rw [periodsAfter, periodsAfter, h.breaker, h.periods]
  refine ⟨hstep, ?_, ?_⟩
  · simp only [Traffic.arrive, hstep, hperiods]
  · have hold := h.admissions
    simp only [Traffic.admissions] at hold
    simp only [Traffic.admissions, Traffic.arrive, List.map_append, hold, hstep, hperiods,
      hadmits, List.map_cons, List.map_nil]

theorem Agrees.settle (h : Agrees t t') (i : Nat) (settled : Except String Unit) (now : Nat) :
    Agrees (t.settle i settled now) (t'.settle i settled now) := by
  have hpending := h.pending i
  cases ha : t.pending i with
  | none =>
    rw [ha, Option.map_none, Option.map_eq_none_iff] at hpending
    simpa only [Traffic.settle, ha, hpending] using h
  | some a =>
    rw [ha, Option.map_some, Option.map_eq_some_iff] at hpending
    obtain ⟨a', ha', he⟩ := hpending
    obtain ⟨hp, -⟩ := Prod.mk.inj he
    simp only [Traffic.settle, ha, ha']
    refine ⟨?_, h.periods, ?_⟩
    · rw [Interface.settle_eq_step, Interface.settle_eq_step, h.breaker]
    · have hold := h.admissions
      simp only [Traffic.admissions] at hold
      simp only [Traffic.admissions, List.map_set, hold, hp]

/-- One action more, taken through `tryAcquire` on the one side. -/
theorem Agrees.step (h : Agrees t t') (a : TrafficAction) :
    Agrees (t.step a) (t'.step a.viaTryAcquire) := by
  cases a with
  | arrive via now => exact h.arrive via now
  | settle i settled now => exact h.settle i settled now
  | lateError now => exact ⟨by simp [Traffic.step, TrafficAction.viaTryAcquire, h.breaker],
      h.periods, h.admissions⟩
  | reset => exact ⟨by simp [Traffic.step, TrafficAction.viaTryAcquire, h.breaker],
      h.periods, h.admissions⟩

theorem Agrees.stateChanges (h : Agrees t t') (a : TrafficAction) :
    t'.stateChanges a.viaTryAcquire = t.stateChanges a := by
  cases a with
  | arrive via now =>
    cases via <;> simp [Traffic.stateChanges, TrafficAction.viaTryAcquire, h.breaker,
      Interface.arrival, CircuitBreaker.stateChanges]
  | settle i settled now =>
    have hpending := h.pending i
    simp only [Traffic.stateChanges, TrafficAction.viaTryAcquire, h.breaker]
    cases ha : t.pending i with
    | none =>
      rw [ha, Option.map_none, Option.map_eq_none_iff] at hpending
      rw [hpending]
    | some a =>
      rw [ha, Option.map_some, Option.map_eq_some_iff] at hpending
      obtain ⟨a', ha', -⟩ := hpending
      rw [ha']
  | lateError now =>
    simp [Traffic.stateChanges, TrafficAction.viaTryAcquire, h.breaker]
  | reset => simp [Traffic.stateChanges, TrafficAction.viaTryAcquire, h.breaker]

end

/-- Whatever a breaker has been through, and however the requests overlap and end, `tryAcquire`
with `recordSuccess` and `recordFailure` is `execute`: the same admissions, the same calls of
`onStateChange` and the same breaker at the end. -/
theorem interfaces_agree (t : Traffic) (as : List TrafficAction) :
    Agrees (final step t as) (final step t (as.map TrafficAction.viaTryAcquire)) ∧
      emitted step stateChanges t (as.map TrafficAction.viaTryAcquire) =
        emitted step stateChanges t as :=
  emitted_map TrafficAction.viaTryAcquire (fun _ _ a h => ⟨h.step a, h.stateChanges a⟩)
    ⟨rfl, rfl, rfl⟩ as

end Traffic

end ApiCenter
