import Mathlib.Data.ENat.Lattice

namespace ApiCenter.Library.Retries

variable {ο δ : Type*}

/-- `k` is the last attempt of a loop that tries again after some outcomes, `max` times at most. -/
structure IsLast (again : ο → Prop) (outcome : Nat → ο) (max k : Nat) : Prop where
  le : k ≤ max
  retried : ∀ a < k, again (outcome a)
  stops : k = max ∨ ¬ again (outcome k)

open Classical in
/-- The first attempt whose outcome is final, if there is one. -/
noncomputable def firstFinal (again : ο → Prop) (outcome : Nat → ο) : ℕ∞ :=
  if h : ∃ i, ¬ again (outcome i) then (Nat.find h : ℕ∞) else ⊤

/-- What such a loop does: attempts, and pauses between them. -/
inductive Step (δ : Type*) where
  | attempt
  | pause (delay : δ)
  deriving DecidableEq, Repr

def Step.isAttempt : Step δ → Bool
  | .attempt => true
  | .pause _ => false

/-- `n` more attempts after one, each after its own pause. -/
def spaced (delay : Nat → δ) (start : Nat) : Nat → List (Step δ)
  | 0 => [.attempt]
  | n + 1 => .attempt :: .pause (delay start) :: spaced delay (start + 1) n

variable {again : ο → Prop} {outcome : Nat → ο} {max k : Nat}

theorem IsLast.eq_min (h : IsLast again outcome max k) :
    (k : ℕ∞) = min (firstFinal again outcome) max := by
  classical
  unfold firstFinal
  by_cases hex : ∃ i, ¬ again (outcome i)
  · rw [dif_pos hex]
    have hle : k ≤ Nat.find hex := by
      by_contra hlt
      exact Nat.find_spec hex (h.retried _ (Nat.lt_of_not_le hlt))
    rcases h.stops with hmax | hfinal
    · subst hmax
      rw [min_eq_right (Nat.cast_le.mpr hle)]
    · have hfind : Nat.find hex = k := Nat.le_antisymm (Nat.find_min' hex hfinal) hle
      rw [hfind, min_eq_left (Nat.cast_le.mpr h.le)]
  · rw [dif_neg hex, min_eq_right le_top]
    rcases h.stops with hmax | hfinal
    · rw [hmax]
    · exact absurd ⟨k, hfinal⟩ hex

/-- The loop goes on to the next attempt. -/
theorem IsLast.succ (hagain : again (outcome 0))
    (h : IsLast again (fun a => outcome (a + 1)) max k) :
    IsLast again outcome (max + 1) (k + 1) := by
  refine ⟨Nat.succ_le_succ h.le, fun a ha => ?_, ?_⟩
  · cases a with
    | zero => exact hagain
    | succ a => exact h.retried a (Nat.lt_of_succ_lt_succ ha)
  · rcases h.stops with hmax | hfinal
    · exact .inl (congrArg (· + 1) hmax)
    · exact .inr hfinal

theorem isLast_zero (h : max = 0 ∨ ¬ again (outcome 0)) : IsLast again outcome max 0 := by
  refine ⟨Nat.zero_le max, fun a ha => absurd ha (Nat.not_lt_zero a), ?_⟩
  rcases h with hmax | hfinal
  · exact .inl hmax.symm
  · exact .inr hfinal

theorem count_attempts (delay : Nat → δ) (start n : Nat) :
    (spaced delay start n).countP Step.isAttempt = n + 1 := by
  induction n generalizing start with
  | zero => rfl
  | succ n ih =>
    rw [spaced, List.countP_cons, List.countP_cons, ih]
    rfl

end ApiCenter.Library.Retries
