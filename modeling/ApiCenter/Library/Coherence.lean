import Mathlib.Tactic.TypeStar

namespace ApiCenter.Library.Coherence

variable {κ τ : Type*} {cache cache' source source' : κ → Option τ}

/-- Where both hold a value, the cache holds the one of the source. A cached
value whose source is gone is tolerated. -/
def Agrees (cache source : κ → Option τ) : Prop :=
  ∀ k a b, cache k = some a → source k = some b → a = b

theorem agrees_empty (source : κ → Option τ) : Agrees (fun _ => none) source := by
  intro k a b ha
  cases ha

/-- The step rule: what is newly cached was read from the source, and what is
newly in the source is not cached with another value. -/
theorem Agrees.step (h : Agrees cache source)
    (hcache : ∀ k a, cache' k = some a → cache k = some a ∨ source' k = some a)
    (hsource : ∀ k b, source' k = some b →
      source k = some b ∨ ∀ a, cache' k = some a → a = b) : Agrees cache' source' := by
  intro k a b ha hb
  rcases hsource k b hb with hold | hnew
  · rcases hcache k a ha with hcached | hread
    · exact h k a b hcached hold
    · exact Option.some.inj (hread.symm.trans hb)
  · exact hnew a ha

end ApiCenter.Library.Coherence
