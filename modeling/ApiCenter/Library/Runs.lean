import Mathlib.Data.List.Basic

namespace ApiCenter.Library.Runs

variable {σ α : Type*}

/-- The state a list of actions leaves behind. -/
def final (step : σ → α → σ) (s : σ) (as : List α) : σ := as.foldl step s

/-- Every action of the run meets `P` in the state it is taken from. -/
def Always (step : σ → α → σ) (P : σ → α → Prop) : σ → List α → Prop
  | _, [] => True
  | s, a :: as => P s a ∧ Always step P (step s a) as

variable {step : σ → α → σ} {P Q G : σ → α → Prop} {I : σ → Prop}

@[simp] theorem final_nil (s : σ) : final step s [] = s := rfl

@[simp] theorem final_cons (s : σ) (a : α) (as : List α) :
    final step s (a :: as) = final step (step s a) as := rfl

theorem final_append (s : σ) (as bs : List α) :
    final step s (as ++ bs) = final step (final step s as) bs := by
  simp [final]

/-- What no step changes is the same at the end of the run. -/
theorem final_eq_of_step {β : Type*} {f : σ → β} (h : ∀ s a, f (step s a) = f s) (s : σ)
    (as : List α) : f (final step s as) = f s := by
  induction as generalizing s with
  | nil => rfl
  | cons a as ih => rw [final_cons, ih, h]

/-- A run whose actions are steps of another system, or none at all, is the run of these steps. -/
theorem final_filterMap {β : Type*} {step' : σ → β → σ} {f : α → Option β}
    (some_step : ∀ s a b, f a = some b → step s a = step' s b)
    (none_step : ∀ s a, f a = none → step s a = s) (s : σ) (as : List α) :
    final step s as = final step' s (as.filterMap f) := by
  induction as generalizing s with
  | nil => rfl
  | cons a as ih =>
    cases ha : f a with
    | none => rw [final_cons, none_step s a ha, ih, List.filterMap_cons_none ha]
    | some b =>
      rw [final_cons, some_step s a b ha, ih, List.filterMap_cons_some ha, final_cons]

/-- Unwinding: when the actions that count keep two states alike, and the others keep the first
like the second, dropping the others from a run leaves the end alike. -/
theorem final_filter {R : σ → σ → Prop} {p : α → Bool}
    (lock : ∀ s s' a, p a = true → R s s' → R (step s a) (step s' a))
    (skip : ∀ s s' a, p a = false → R s s' → R (step s a) s') {s s' : σ} (h : R s s')
    (as : List α) : R (final step s as) (final step s' (as.filter p)) := by
  induction as generalizing s s' with
  | nil => exact h
  | cons a as ih =>
    cases hp : p a with
    | true =>
      rw [List.filter_cons_of_pos hp, final_cons, final_cons]
      exact ih (lock s s' a hp h)
    | false =>
      rw [List.filter_cons_of_neg (by simp [hp]), final_cons]
      exact ih (skip s s' a hp h)

@[simp] theorem always_nil (s : σ) : Always step P s [] := trivial

@[simp] theorem always_cons (s : σ) (a : α) (as : List α) :
    Always step P s (a :: as) ↔ P s a ∧ Always step P (step s a) as := Iff.rfl

/-- A property of the actions alone. -/
theorem always_of_forall {p : α → Prop} (s : σ) {as : List α} (h : ∀ a ∈ as, p a) :
    Always step (fun _ a => p a) s as := by
  induction as generalizing s with
  | nil => trivial
  | cons a as ih =>
    exact ⟨h a List.mem_cons_self, ih (step s a) fun b hb => h b (List.mem_cons_of_mem a hb)⟩

theorem Always.mono (h : ∀ s a, P s a → Q s a) {s : σ} {as : List α}
    (hp : Always step P s as) : Always step Q s as := by
  induction as generalizing s with
  | nil => trivial
  | cons a as ih => exact ⟨h s a hp.1, ih hp.2⟩

/-- A run seen through `f`, which leaves out what is only kept beside the state. -/
theorem always_map {τ : Type*} {step' : τ → α → τ} {P' : τ → α → Prop} (f : σ → τ)
    (h : ∀ s a, f (step s a) = step' (f s) a) (s : σ) (as : List α) :
    Always step (fun s => P' (f s)) s as ↔ Always step' P' (f s) as := by
  induction as generalizing s with
  | nil => rfl
  | cons a as ih => rw [always_cons, always_cons, ih, h]

theorem always_append (s : σ) (as bs : List α) :
    Always step P s (as ++ bs) ↔ Always step P s as ∧ Always step P (final step s as) bs := by
  induction as generalizing s with
  | nil => simp
  | cons a as ih => simp [ih, and_assoc]

theorem Always.and {s : σ} {as : List α} (hp : Always step P s as) (hq : Always step Q s as) :
    Always step (fun s a => P s a ∧ Q s a) s as := by
  induction as generalizing s with
  | nil => trivial
  | cons a as ih => exact ⟨⟨hp.1, hq.1⟩, ih hp.2 hq.2⟩

/-- An invariant that every admitted action keeps holds at the end of the run. -/
theorem invariant_final (keep : ∀ s a, I s → G s a → I (step s a)) {s : σ} {as : List α}
    (hi : I s) (hg : Always step G s as) : I (final step s as) := by
  induction as generalizing s with
  | nil => exact hi
  | cons a as ih => exact ih (keep s a hi hg.1) hg.2

/-- What follows from the invariant before one action holds of every action of the run. -/
theorem always_of_invariant (keep : ∀ s a, I s → G s a → I (step s a))
    (use : ∀ s a, I s → G s a → P s a) {s : σ} {as : List α}
    (hi : I s) (hg : Always step G s as) : Always step P s as := by
  induction as generalizing s with
  | nil => trivial
  | cons a as ih => exact ⟨use s a hi hg.1, ih (keep s a hi hg.1) hg.2⟩

/-- A run whose actions all use up some of a measure takes no more actions than there is of it. -/
theorem length_add_le {μ : σ → Nat} (down : ∀ s a, P s a → μ (step s a) < μ s) {s : σ} {as : List α}
    (h : Always step P s as) : as.length + μ (final step s as) ≤ μ s := by
  induction as generalizing s with
  | nil => exact Nat.le_of_eq (Nat.zero_add _)
  | cons a as ih =>
    obtain ⟨ha, has⟩ := h
    have hless := down s a ha
    have hrest := ih has
    rw [List.length_cons, final_cons]
    omega

/-- Two properties of the actions that agree as long as the invariant holds, and keep it, hold of
the same runs. -/
theorem always_iff_of_invariant (same : ∀ s a, I s → G s a → (P s a ↔ Q s a))
    (keep : ∀ s a, I s → G s a → P s a → I (step s a)) {s : σ} {as : List α}
    (hi : I s) (hg : Always step G s as) : Always step P s as ↔ Always step Q s as := by
  induction as generalizing s with
  | nil => simp
  | cons a as ih =>
    obtain ⟨ha, has⟩ := hg
    rw [always_cons, always_cons, ← same s a hi ha]
    exact and_congr_right fun hp => ih (keep s a hi ha hp) has

/-- `invariant_final` when every action is admitted. -/
theorem invariant_reached (keep : ∀ s a, I s → I (step s a)) {s : σ} (hi : I s) (as : List α) :
    I (final step s as) :=
  invariant_final (fun s a h _ => keep s a h) hi (always_of_forall (p := fun _ => True) s
    fun _ _ => trivial)

/-- `always_iff_of_invariant` when every action is admitted. -/
theorem always_iff_of_kept (same : ∀ s a, I s → (P s a ↔ Q s a))
    (keep : ∀ s a, I s → P s a → I (step s a)) {s : σ} (hi : I s) (as : List α) :
    Always step P s as ↔ Always step Q s as :=
  always_iff_of_invariant (fun s a h _ => same s a h) (fun s a h _ => keep s a h) hi
    (always_of_forall (p := fun _ => True) s fun _ _ => trivial)

end ApiCenter.Library.Runs
