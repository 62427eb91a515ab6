import ApiCenter.Library.Runs

namespace ApiCenter.Library.Histories

open ApiCenter.Library.Runs

variable {σ α β χ : Type*}

/-- What the actions of a run report, in order. -/
def emitted (step : σ → α → σ) (out : σ → α → List β) : σ → List α → List β
  | _, [] => []
  | s, a :: as => out s a ++ emitted step out (step s a) as

/-- The changes of what `view` shows of the state over a run. -/
def transitions [DecidableEq χ] (step : σ → α → σ) (view : σ → χ) :
    σ → List α → List (χ × χ) :=
  emitted step (fun s a =>
    if view s = view (step s a) then [] else [(view s, view (step s a))])

/-- A walk from `x` to `y` along pairs whose two ends differ. -/
def Trail : χ → List (χ × χ) → χ → Prop
  | x, [], y => x = y
  | x, p :: ps, y => x = p.1 ∧ p.1 ≠ p.2 ∧ Trail p.2 ps y

/-- The actions after the last one that meets `P`, with those `kept` before the run in front
when none does. -/
def since (step : σ → α → σ) (P : σ → α → Prop) [∀ s a, Decidable (P s a)] :
    List α → σ → List α → List α
  | kept, _, [] => kept
  | kept, s, a :: as => since step P (if P s a then [] else kept ++ [a]) (step s a) as

/-- `xs` ends in exactly `n` copies of `x`. -/
def EndsIn (x : β) (n : Nat) (xs : List β) : Prop :=
  ∀ m, List.replicate m x <:+ xs ↔ m ≤ n

variable {step : σ → α → σ} {out out' : σ → α → List β}

theorem emitted_congr {s : σ} {as : List α}
    (h : Always step (fun s a => out s a = out' s a) s as) :
    emitted step out s as = emitted step out' s as := by
  induction as generalizing s with
  | nil => rfl
  | cons a as ih =>
    obtain ⟨ha, has⟩ := h
    simp only [emitted, ha, ih has]

theorem emitted_concat (s : σ) (as : List α) (a : α) :
    emitted step out s (as ++ [a]) = emitted step out s as ++ out (final step s as) a := by
  induction as generalizing s with
  | nil => simp [emitted]
  | cons b as ih => simp only [List.cons_append, emitted, ih, final_cons, List.append_assoc]

/-- Two machines that stay in step under a translation of their actions report the same. -/
theorem emitted_map {τ γ : Type*} {R : σ → τ → Prop} (f : α → γ) {step' : τ → γ → τ}
    {out' : τ → γ → List β}
    (h : ∀ s s' a, R s s' → R (step s a) (step' s' (f a)) ∧ out' s' (f a) = out s a)
    {s : σ} {s' : τ} (hr : R s s') (as : List α) :
    R (final step s as) (final step' s' (as.map f)) ∧
      emitted step' out' s' (as.map f) = emitted step out s as := by
  induction as generalizing s s' with
  | nil => exact ⟨hr, rfl⟩
  | cons a as ih =>
    obtain ⟨hstep, hout⟩ := h s s' a hr
    obtain ⟨hfinal, hrest⟩ := ih hstep
    refine ⟨hfinal, ?_⟩
    simp only [List.map_cons, emitted, hout, hrest]

/-- A machine each of whose steps comes, up to `R`, to what another makes of the report of that step
ends where the other ends on the reports of the run. -/
theorem final_emitted {τ : Type*} {R : σ → τ → Prop} {step' : τ → β → τ}
    (h : ∀ s t a, R s t → R (step s a) (final step' t (out s a))) {s : σ} {t : τ} (hr : R s t)
    (as : List α) : R (final step s as) (final step' t (emitted step out s as)) := by
  induction as generalizing s t with
  | nil => exact hr
  | cons a as ih =>
    rw [emitted, final_append, final_cons]
    exact ih (h s t a hr)

/-- When a step keeps the walk going exactly if it meets `P`, the reports of a run are a walk
exactly if every action meets `P`. -/
theorem trail_emitted_iff {out : σ → α → List (χ × χ)} {P : σ → α → Prop} (view : σ → χ)
    (h : ∀ s a ps y,
      Trail (view s) (out s a ++ ps) y ↔ P s a ∧ Trail (view (step s a)) ps y)
    (s : σ) (as : List α) :
    Trail (view s) (emitted step out s as) (view (final step s as)) ↔ Always step P s as := by
  induction as generalizing s with
  | nil => simp [emitted, Trail]
  | cons a as ih => simp only [emitted, final_cons, always_cons, h, ih]

/-- A log to which every action adds its report ends with the reports of the run. -/
theorem log_emitted (log : σ → List β) {s : σ} {as : List α}
    (h : Always step (fun s a => log (step s a) = log s ++ out s a) s as) :
    log (final step s as) = log s ++ emitted step out s as := by
  induction as generalizing s with
  | nil => simp [emitted]
  | cons a as ih =>
    obtain ⟨ha, has⟩ := h
    rw [final_cons, ih has, ha, emitted, List.append_assoc]

theorem trail_transitions [DecidableEq χ] (view : σ → χ) (s : σ) (as : List α) :
    Trail (view s) (transitions step view s as) (view (final step s as)) := by
  induction as generalizing s with
  | nil => rfl
  | cons a as ih =>
    rw [transitions, emitted, final_cons]
    by_cases hsame : view s = view (step s a)
    · rw [if_pos hsame, hsame]
      exact ih (step s a)
    · rw [if_neg hsame]
      exact ⟨rfl, hsame, ih (step s a)⟩

/-- A walk of at most one pair is the change from its start to its end, if they differ. -/
theorem Trail.short [DecidableEq χ] {x y : χ} {ps : List (χ × χ)} (h : Trail x ps y)
    (hl : ps.length ≤ 1) : ps = if x = y then [] else [(x, y)] := by
  cases ps with
  | nil =>
    have hxy : x = y := h
    simp [hxy]
  | cons p ps =>
    obtain ⟨hx, hne, ht⟩ := h
    have hps : ps = [] := by simpa using hl
    subst hps hx
    have hy : p.2 = y := ht
    rw [← hy, if_neg hne]

theorem trail_append {x y : χ} {ps qs : List (χ × χ)} :
    Trail x (ps ++ qs) y ↔ ∃ z, Trail x ps z ∧ Trail z qs y := by
  induction ps generalizing x with
  | nil => simp [Trail]
  | cons p ps ih =>
    simp only [List.cons_append, Trail, ih]
    constructor
    · intro h
      obtain ⟨hx, hne, z, hps, hqs⟩ := h
      exact ⟨z, ⟨hx, hne, hps⟩, hqs⟩
    · intro h
      obtain ⟨z, ⟨hx, hne, hps⟩, hqs⟩ := h
      exact ⟨hx, hne, z, hps, hqs⟩

/-- The pairs of a walk say where it ends. -/
theorem Trail.end_unique {x y z : χ} {ps : List (χ × χ)} (hy : Trail x ps y)
    (hz : Trail x ps z) : y = z := by
  induction ps generalizing x with
  | nil => exact hy.symm.trans hz
  | cons p ps ih => exact ih hy.2.2 hz.2.2

/-- A walk goes on along whatever goes on from where it stands. -/
theorem Trail.append_iff {x y z : χ} {ps qs : List (χ × χ)} (h : Trail x ps z) :
    Trail x (ps ++ qs) y ↔ Trail z qs y := by
  rw [trail_append]
  constructor
  · intro hex
    obtain ⟨z', hz', hqs⟩ := hex
    rw [h.end_unique hz']
    exact hqs
  · intro hqs
    exact ⟨z, h, hqs⟩

theorem since_concat {P : σ → α → Prop} [∀ s a, Decidable (P s a)] (kept : List α) (s : σ)
    (as : List α) (a : α) :
    since step P kept s (as ++ [a]) =
      if P (final step s as) a then [] else since step P kept s as ++ [a] := by
  induction as generalizing kept s with
  | nil => rfl
  | cons b as ih => exact ih _ _

theorem endsIn_nil (x : β) : EndsIn x 0 [] := by
  intro m
  cases m with
  | zero => simp
  | succ m => simp [List.replicate_succ']

theorem replicate_suffix_concat (x y : β) (m : Nat) (xs : List β) :
    List.replicate (m + 1) x <:+ xs ++ [y] ↔ x = y ∧ List.replicate m x <:+ xs := by
  rw [List.replicate_succ', List.suffix_concat_iff]
  constructor
  · intro h
    rcases h with h | ⟨t, h, hs⟩
    · simp at h
    · obtain ⟨ht, hx⟩ := List.append_inj' h rfl
      subst ht
      exact ⟨by simpa using hx, hs⟩
  · intro h
    exact .inr ⟨_, by rw [h.1], h.2⟩

theorem EndsIn.concat_self {x : β} {n : Nat} {xs : List β} (h : EndsIn x n xs) :
    EndsIn x (n + 1) (xs ++ [x]) := by
  intro m
  cases m with
  | zero => simp
  | succ m => rw [replicate_suffix_concat, h m]; simp

theorem EndsIn.concat_ne {x y : β} (xs : List β) (h : x ≠ y) : EndsIn x 0 (xs ++ [y]) := by
  intro m
  cases m with
  | zero => simp
  | succ m => simp [replicate_suffix_concat, h]

end ApiCenter.Library.Histories
