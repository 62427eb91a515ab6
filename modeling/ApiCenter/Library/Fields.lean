import Mathlib.Data.List.Nodup

namespace ApiCenter.Library.Fields

variable {κ ν ω : Type*}

section Lookup

variable [BEq κ] [LawfulBEq κ]

/-- With every key there once, a look-up finds exactly the pairs of the list. -/
theorem lookup_eq_some_iff {fields : List (κ × ν)} (h : (fields.map Prod.fst).Nodup) {k : κ}
    {v : ν} : fields.lookup k = some v ↔ (k, v) ∈ fields := by
  induction fields with
  | nil => simp
  | cons field fields ih =>
    obtain ⟨key, value⟩ := field
    obtain ⟨hfresh, hrest⟩ := List.nodup_cons.mp h
    rw [List.lookup_cons]
    by_cases hk : k = key
    · subst hk
      have hother : (k, v) ∉ fields := fun hm => hfresh (List.mem_map.mpr ⟨(k, v), hm, rfl⟩)
      simp [hother, eq_comm]
    · rw [beq_false_of_ne hk]
      simp [hk, ih hrest]

theorem lookup_perm {fields fields' : List (κ × ν)} (hp : fields.Perm fields')
    (h : (fields.map Prod.fst).Nodup) (k : κ) : fields.lookup k = fields'.lookup k := by
  have h' : (fields'.map Prod.fst).Nodup := (hp.map Prod.fst).nodup_iff.mp h
  apply Option.ext
  intro v
  rw [lookup_eq_some_iff h, lookup_eq_some_iff h', hp.mem_iff]

end Lookup

/-- The fields that `f` keeps, under the keys they had. -/
def keep (f : ν → Option ω) (fields : List (κ × ν)) : List (κ × ω) :=
  fields.filterMap fun field => (f field.2).map fun w => (field.1, w)

theorem mem_keep {f : ν → Option ω} {fields : List (κ × ν)} {k : κ} {w : ω} :
    (k, w) ∈ keep f fields ↔ ∃ v, (k, v) ∈ fields ∧ f v = some w := by
  simp only [keep, List.mem_filterMap, Prod.exists, Option.map_eq_some_iff, Prod.mk.injEq]
  constructor
  · rintro ⟨key, v, hm, u, hu, rfl, rfl⟩
    exact ⟨v, hm, hu⟩
  · rintro ⟨v, hm, hv⟩
    exact ⟨k, v, hm, w, hv, rfl, rfl⟩

theorem keep_keys_sublist (f : ν → Option ω) (fields : List (κ × ν)) :
    ((keep f fields).map Prod.fst).Sublist (fields.map Prod.fst) := by
  induction fields with
  | nil => exact .slnil
  | cons field fields ih =>
    unfold keep at ih ⊢
    rw [List.filterMap_cons]
    cases f field.2 with
    | none => exact ih.cons _
    | some w => exact ih.cons_cons _

theorem nodup_keep (f : ν → Option ω) {fields : List (κ × ν)} (h : (fields.map Prod.fst).Nodup) :
    ((keep f fields).map Prod.fst).Nodup := (keep_keys_sublist f fields).nodup h

theorem lookup_keep [BEq κ] [LawfulBEq κ] (f : ν → Option ω) {fields : List (κ × ν)}
    (h : (fields.map Prod.fst).Nodup) (k : κ) :
    (keep f fields).lookup k = (fields.lookup k).bind f := by
  apply Option.ext
  intro w
  rw [lookup_eq_some_iff (nodup_keep f h), mem_keep, Option.bind_eq_some_iff]
  simp only [lookup_eq_some_iff h]

/-- Write one field: in its old place if the key is there, else at the end. -/
def assign [DecidableEq κ] (fields : List (κ × ν)) (k : κ) (v : ν) : List (κ × ν) :=
  if k ∈ fields.map Prod.fst then fields.map fun field => if field.1 = k then (k, v) else field
  else fields ++ [(k, v)]

section Assign

variable [DecidableEq κ]

theorem assign_of_notMem {fields : List (κ × ν)} {k : κ} (h : k ∉ fields.map Prod.fst) (v : ν) :
    assign fields k v = fields ++ [(k, v)] := if_neg h

theorem assign_of_mem {fields : List (κ × ν)} {k : κ} (h : k ∈ fields.map Prod.fst) (v : ν) :
    assign fields k v = fields.map fun field => if field.1 = k then (k, v) else field := if_pos h

theorem nodup_assign {fields : List (κ × ν)} (h : (fields.map Prod.fst).Nodup) (k : κ) (v : ν) :
    ((assign fields k v).map Prod.fst).Nodup := by
  by_cases hk : k ∈ fields.map Prod.fst
  · have hkeys : (assign fields k v).map Prod.fst = fields.map Prod.fst := by
      rw [assign_of_mem hk, List.map_map]
      apply List.map_congr_left
      intro field _
      by_cases hf : field.1 = k <;> simp [hf]
    rwa [hkeys]
  · rw [assign_of_notMem hk, List.map_append, List.nodup_append]
    refine ⟨h, List.nodup_singleton _, ?_⟩
    intro a ha b hb heq
    obtain rfl := List.mem_singleton.mp hb
    exact hk (heq ▸ ha)

theorem mem_assign {fields : List (κ × ν)} {k : κ} {v : ν} {field : κ × ν}
    (h : field ∈ assign fields k v) : field ∈ fields ∨ field = (k, v) := by
  by_cases hk : k ∈ fields.map Prod.fst
  · rw [assign_of_mem hk] at h
    obtain ⟨old, hold, rfl⟩ := List.mem_map.mp h
    split
    · exact .inr rfl
    · exact .inl hold
  · rw [assign_of_notMem hk] at h
    rcases List.mem_append.mp h with hold | hnew
    · exact .inl hold
    · exact .inr (List.mem_singleton.mp hnew)

end Assign

end ApiCenter.Library.Fields
