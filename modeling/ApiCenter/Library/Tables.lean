import Mathlib.Data.List.AList

namespace ApiCenter.Library

/-- A finite map from keys to values. -/
abbrev Table (κ ν : Type*) := AList (fun _ : κ => ν)

namespace Table

variable {κ ν ω : Type*} [DecidableEq κ]

theorem lookup_insert_if (t : Table κ ν) (k : κ) (v : ν) (j : κ) :
    (t.insert k v).lookup j = if j = k then some v else t.lookup j := by
  by_cases h : j = k
  · subst h
    simp
  · simp [h, AList.lookup_insert_ne]

/-- Writing to a key that is there adds no other. -/
theorem isSome_lookup_insert (t : Table κ ν) {k : κ} (v : ν) (h : (t.lookup k).isSome) (j : κ) :
    ((t.insert k v).lookup j).isSome = (t.lookup j).isSome := by
  rw [lookup_insert_if]
  by_cases hj : j = k
  · rw [if_pos hj, hj, h]
    rfl
  · rw [if_neg hj]

theorem lookup_erase_if (t : Table κ ν) (k j : κ) :
    (t.erase k).lookup j = if j = k then none else t.lookup j := by
  by_cases h : j = k
  · subst h
    simp
  · simp [h, AList.lookup_erase_ne]

/-- Removing a key that was just written is removing it from the table before. -/
theorem erase_insert (t : Table κ ν) (k : κ) (v : ν) : (t.insert k v).erase k = t.erase k := by
  apply AList.ext
  change List.kerase k ((⟨k, v⟩ : Sigma fun _ : κ => ν) :: List.kerase k t.entries) = _
  exact List.kerase_cons_eq rfl

theorem erase_of_lookup_none (t : Table κ ν) (k : κ) (h : t.lookup k = none) :
    t.erase k = t := by
  apply AList.ext
  have hk : k ∉ List.keys t.entries := AList.lookup_eq_none.mp h
  exact List.kerase_of_notMem_keys hk

/-- Values that say which key they are stored under list the keys. -/
theorem map_values_eq_keys (t : Table κ ν) (f : ν → κ) (h : ∀ k v, t.lookup k = some v → f v = k) :
    (t.entries.map Sigma.snd).map f = t.keys := by
  change _ = t.entries.map Sigma.fst
  rw [List.map_map]
  apply List.map_congr_left
  intro field hf
  exact h field.1 field.2 (List.mem_dlookup t.nodupKeys hf)

/-- Make of what is stored under a key what `f` says. -/
def alter (t : Table κ ν) (k : κ) (f : Option ν → Option ν) : Table κ ν :=
  match f (t.lookup k) with
  | some v => t.insert k v
  | none => t.erase k

theorem lookup_alter (t : Table κ ν) (k : κ) (f : Option ν → Option ν) (j : κ) :
    (t.alter k f).lookup j = if j = k then f (t.lookup k) else t.lookup j := by
  unfold alter
  cases hf : f (t.lookup k) with
  | none => exact lookup_erase_if t k j
  | some v => exact lookup_insert_if t k v j

/-- Write one entry over `t` when `f` can read it. -/
def overlayOne (f : κ → ω → Option ν) (t : Table κ ν) (e : Sigma fun _ : κ => ω) : Table κ ν :=
  match f e.1 e.2 with
  | some v => t.insert e.1 v
  | none => t

/-- Write over `t` every entry of `u` that `f` can read. -/
def overlay (f : κ → ω → Option ν) (t : Table κ ν) (u : Table κ ω) : Table κ ν :=
  u.entries.foldl (overlayOne f) t

theorem lookup_overlayOne (f : κ → ω → Option ν) (t : Table κ ν) (e : Sigma fun _ : κ => ω)
    (k : κ) : (overlayOne f t e).lookup k =
      if k = e.1 then (f e.1 e.2).or (t.lookup k) else t.lookup k := by
  unfold overlayOne
  cases hf : f e.1 e.2 with
  | none => simp
  | some v => simp [lookup_insert_if]

theorem lookup_foldl_overlayOne (f : κ → ω → Option ν) (t : Table κ ν)
    (es : List (Sigma fun _ : κ => ω)) (hn : es.NodupKeys) (k : κ) :
    (es.foldl (overlayOne f) t).lookup k = ((es.dlookup k).bind (f k)).or (t.lookup k) := by
  induction es generalizing t with
  | nil => simp
  | cons e es ih =>
    obtain ⟨he, hes⟩ := List.nodupKeys_cons.mp hn
    rw [List.foldl_cons, ih _ hes, lookup_overlayOne]
    by_cases hk : k = e.1
    · subst hk
      have hnone : es.dlookup e.1 = none := List.dlookup_eq_none.mpr he
      have hhead : List.dlookup e.1 (e :: es) = some e.2 := List.dlookup_cons_eq es e.1 e.2
      simp [hnone, hhead]
    · rw [if_neg hk, List.dlookup_cons_ne es e hk]

/-- Writing where a test of what is stored allows it. As no key comes twice, the test may as well
look at the table from before the first entry. -/
theorem foldl_overlayOne_stored (f : Option ν → κ → ω → Option ν) (t : Table κ ν)
    {es : List (Sigma fun _ : κ => ω)} (hn : es.NodupKeys) (u : Table κ ν)
    (h : ∀ e ∈ es, u.lookup e.1 = t.lookup e.1) :
    es.foldl (fun u e => overlayOne (fun k => f (u.lookup k) k) u e) u =
      es.foldl (overlayOne fun k => f (t.lookup k) k) u := by
  induction es generalizing u with
  | nil => rfl
  | cons e es ih =>
    obtain ⟨he, hes⟩ := List.nodupKeys_cons.mp hn
    obtain ⟨hstored, hrest⟩ := List.forall_mem_cons.mp h
    have hstep : overlayOne (fun k => f (u.lookup k) k) u e =
        overlayOne (fun k => f (t.lookup k) k) u e := by
      simp only [overlayOne, hstored]
    rw [List.foldl_cons, List.foldl_cons, hstep]
    refine ih hes _ ?_
    intro later hlater
    have hne : later.1 ≠ e.1 := fun heq => he (heq ▸ List.mem_keys_of_mem hlater)
    rw [lookup_overlayOne, if_neg hne]
    exact hrest later hlater

theorem lookup_overlay (f : κ → ω → Option ν) (t : Table κ ν) (u : Table κ ω) (k : κ) :
    (overlay f t u).lookup k = ((u.lookup k).bind (f k)).or (t.lookup k) :=
  lookup_foldl_overlayOne f t u.entries u.nodupKeys k

/-- A table with every value replaced by what `f` makes of it. -/
def mapValues (f : ν → ω) (t : Table κ ν) : Table κ ω where
  entries := t.entries.map fun e => ⟨e.1, f e.2⟩
  nodupKeys := by
    have hkeys : List.keys (t.entries.map fun e => (⟨e.1, f e.2⟩ : Sigma fun _ : κ => ω)) =
        List.keys t.entries := by
      simp [List.keys]
    rw [List.NodupKeys, hkeys]
    exact t.nodupKeys

omit [DecidableEq κ] in
@[simp] theorem mapValues_empty (f : ν → ω) : mapValues f (∅ : Table κ ν) = ∅ := rfl

theorem kerase_map (f : ν → ω) (k : κ) (es : List (Sigma fun _ : κ => ν)) :
    List.kerase k (es.map fun e => (⟨e.1, f e.2⟩ : Sigma fun _ : κ => ω)) =
      (List.kerase k es).map fun e => ⟨e.1, f e.2⟩ := by
  induction es with
  | nil => rfl
  | cons e es ih =>
    have hkey : (⟨e.1, f e.2⟩ : Sigma fun _ : κ => ω).1 = e.1 := rfl
    by_cases he : k = e.1
    · rw [List.map_cons, List.kerase_cons_eq (he.trans hkey.symm), List.kerase_cons_eq he]
    · rw [List.map_cons, List.kerase_cons_ne (hkey ▸ he), List.kerase_cons_ne he, List.map_cons, ih]

theorem mapValues_erase (f : ν → ω) (t : Table κ ν) (k : κ) :
    mapValues f (t.erase k) = (mapValues f t).erase k :=
  AList.ext (kerase_map f k t.entries).symm

theorem mapValues_insert (f : ν → ω) (t : Table κ ν) (k : κ) (v : ν) :
    mapValues f (t.insert k v) = (mapValues f t).insert k (f v) := by
  apply AList.ext
  simp only [mapValues, AList.entries_insert, List.map_cons, kerase_map]

theorem lookup_mapValues (f : ν → ω) (t : Table κ ν) (k : κ) :
    (mapValues f t).lookup k = (t.lookup k).map f := by
  have hfields : ∀ es : List (Sigma fun _ : κ => ν),
      List.dlookup k (es.map fun e => (⟨e.1, f e.2⟩ : Sigma fun _ : κ => ω)) =
        (List.dlookup k es).map f := by
    intro es
    induction es with
    | nil => rfl
    | cons e es ih =>
      obtain ⟨key, v⟩ := e
      by_cases hk : k = key
      · subst hk
        simp
      · have hv : List.dlookup k ((⟨key, v⟩ : Sigma fun _ : κ => ν) :: es) = List.dlookup k es :=
          List.dlookup_cons_ne _ _ hk
        rw [hv, ← ih]
        exact List.dlookup_cons_ne _ (⟨key, f v⟩ : Sigma fun _ : κ => ω) hk
  exact hfields t.entries

end Table

end ApiCenter.Library
