import Mathlib.Tactic.TypeStar

namespace ApiCenter.Library.Versions

variable {κ ν τ ω : Type*} {copy copy' : κ → ν → Prop} {stamp : ν → τ} {view : ν → ω}
  {used : τ → Prop}

/-- Every copy of `k` there is bears a stamp in use, and two with the same stamp look the same. -/
structure Stamped (copy : κ → ν → Prop) (stamp : ν → τ) (view : ν → ω) (used : τ → Prop) :
    Prop where
  used : ∀ k a, copy k a → used (stamp a)
  same : ∀ k a b, copy k a → copy k b → stamp a = stamp b → view a = view b

theorem Stamped.mono (h : Stamped copy stamp view used) {used' : τ → Prop}
    (hu : ∀ t, used t → used' t) : Stamped copy stamp view used' :=
  ⟨fun k a ha => hu _ (h.used k a ha), h.same⟩

/-- Copies that look like ones there were before. -/
theorem Stamped.of_copies (h : Stamped copy stamp view used)
    (hold : ∀ k b, copy' k b → ∃ a, copy k a ∧ stamp a = stamp b ∧ view a = view b) :
    Stamped copy' stamp view used := by
  constructor
  · intro k b hb
    obtain ⟨a, ha, hs, -⟩ := hold k b hb
    exact hs ▸ h.used k a ha
  · intro k b b' hb hb' hs
    obtain ⟨a, ha, hsa, hva⟩ := hold k b hb
    obtain ⟨a', ha', hsa', hva'⟩ := hold k b' hb'
    have hview := h.same k a a' ha ha' (hsa.trans (hs.trans hsa'.symm))
    exact hva.symm.trans (hview.trans hva')

/-- The step rule: besides copies that look like old ones there is one new version, the stamp of
which is fresh. -/
theorem Stamped.step (h : Stamped copy stamp view used) {key : κ} {new : ν}
    (hfresh : ¬ used (stamp new))
    (hcopies : ∀ k b, copy' k b →
      (∃ a, copy k a ∧ stamp a = stamp b ∧ view a = view b) ∨ k = key ∧ b = new) :
    Stamped copy' stamp view (fun t => used t ∨ t = stamp new) := by
  constructor
  · intro k b hb
    rcases hcopies k b hb with ⟨a, ha, hs, -⟩ | ⟨-, rfl⟩
    · exact .inl (hs ▸ h.used k a ha)
    · exact .inr rfl
  · intro k b b' hb hb' hs
    rcases hcopies k b hb with ⟨a, ha, hsa, hva⟩ | ⟨hk, rfl⟩
    · rcases hcopies k b' hb' with ⟨a', ha', hsa', hva'⟩ | ⟨hk', rfl⟩
      · have hview := h.same k a a' ha ha' (hsa.trans (hs.trans hsa'.symm))
        exact hva.symm.trans (hview.trans hva')
      · exact absurd (hs ▸ hsa ▸ h.used k a ha) hfresh
    · rcases hcopies k b' hb' with ⟨a', ha', hsa', -⟩ | ⟨-, rfl⟩
      · exact absurd (hs.symm ▸ hsa' ▸ h.used k a' ha') hfresh
      · rfl

end ApiCenter.Library.Versions
