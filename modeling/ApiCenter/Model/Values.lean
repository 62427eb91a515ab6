import ApiCenter.Library.Tables

namespace ApiCenter
open Library

/-- An optional property of a JavaScript object: not there, `null`, or present. -/
inductive Optional (α : Type) where
  | undefined
  | null
  | value (a : α)
  deriving DecidableEq, Repr

namespace Optional

/-- `o ?? d` -/
def getD : Optional α → α → α
  | .value a, _ => a
  | _, d => d

/-- `s && …` and `s || …`: a text counts when it is there and not empty. -/
def text? : Optional String → Option String
  | .value s => if s = "" then none else some s
  | _ => none

/-- `{ key: base, ...{ key: o } }`: only a key that is there overrides. -/
def spreadOver (o base : Optional α) : Optional α :=
  match o with
  | .undefined => base
  | o => o

@[simp] theorem getD_value (a d : α) : (Optional.value a).getD d = a := rfl

@[simp] theorem getD_undefined (d : α) : (Optional.undefined : Optional α).getD d = d := rfl

@[simp] theorem getD_null (d : α) : (Optional.null : Optional α).getD d = d := rfl

theorem text?_eq_some {o : Optional String} {s : String} :
    o.text? = some s ↔ o = .value s ∧ s ≠ "" := by
  cases o with
  | undefined => simp [text?]
  | null => simp [text?]
  | value t =>
    by_cases ht : t = ""
    · simp only [text?, ht, if_true, reduceCtorEq, Optional.value.injEq, false_iff, not_and,
        not_not]
      exact fun h => h.symm
    · simp only [text?, ht, if_false, Option.some.injEq, Optional.value.injEq]
      constructor
      · intro heq
        subst heq
        exact ⟨rfl, ht⟩
      · exact fun h => h.1

end Optional

/-- The string an object is indexed by when the key expression may be missing. -/
def propertyKey : Optional String → String
  | .undefined => "undefined"
  | .null => "null"
  | .value s => s

/-- The names every object literal inherits from `Object.prototype`. -/
def objectPrototype : List String :=
  ["constructor", "__defineGetter__", "__defineSetter__", "hasOwnProperty", "__lookupGetter__",
    "__lookupSetter__", "isPrototypeOf", "propertyIsEnumerable", "toString", "valueOf",
    "__proto__", "toLocaleString"]

/-- The own properties of an object literal. Assigning to `__proto__` replaces
the prototype instead of adding a property, so that key is never among them. -/
structure PlainObject (ν : Type) where
  own : Table String ν
  noProto : own.lookup "__proto__" = none

namespace PlainObject

variable {ν ω : Type}

def empty : PlainObject ν := ⟨∅, by simp⟩

/-- The own property `k`, without the prototype chain. -/
def get? (o : PlainObject ν) (k : String) : Option ν := o.own.lookup k

/-- `o[k] = v` -/
def set (o : PlainObject ν) (k : String) (v : ν) : PlainObject ν :=
  if h : k = "__proto__" then o
  else ⟨o.own.insert k v, by
    rw [Table.lookup_insert_if, if_neg (Ne.symm h)]
    exact o.noProto⟩

/-- `delete o[k]` -/
def delete (o : PlainObject ν) (k : String) : PlainObject ν :=
  ⟨o.own.erase k, by
    rw [Table.lookup_erase_if, o.noProto]
    simp⟩

/-- `Object.keys(o)` -/
def keys (o : PlainObject ν) : List String := o.own.keys

/-- `Object.values(o)` -/
def values (o : PlainObject ν) : List ν := o.own.entries.map Sigma.snd

@[ext] theorem ext {o p : PlainObject ν} (h : o.own = p.own) : o = p := by
  cases o
  cases p
  cases h
  rfl

@[simp] theorem get?_empty (k : String) : (empty : PlainObject ν).get? k = none := by
  simp [empty, get?]

@[simp] theorem get?_proto (o : PlainObject ν) : o.get? "__proto__" = none := o.noProto

theorem mem_keys_iff (o : PlainObject ν) (k : String) : k ∈ o.keys ↔ (o.get? k).isSome :=
  AList.lookup_isSome.symm

theorem mem_values_iff (o : PlainObject ν) (v : ν) : v ∈ o.values ↔ ∃ k, o.get? k = some v := by
  simp only [values, List.mem_map, get?, AList.lookup]
  constructor
  · intro h
    obtain ⟨field, hf, rfl⟩ := h
    exact ⟨field.1, List.mem_dlookup o.own.nodupKeys hf⟩
  · intro h
    obtain ⟨k, hk⟩ := h
    exact ⟨⟨k, v⟩, List.of_mem_dlookup hk, rfl⟩

@[simp] theorem length_values (o : PlainObject ν) : o.values.length = o.keys.length := by
  simp [values, keys, AList.keys, List.keys]

theorem map_values_eq_keys (o : PlainObject ν) (f : ν → String)
    (h : ∀ k v, o.get? k = some v → f v = k) : o.values.map f = o.keys :=
  Table.map_values_eq_keys o.own f h

/-- Objects with the same keys have as many of them. -/
theorem keys_length_congr {o : PlainObject ν} {p : PlainObject ω}
    (h : ∀ k, (o.get? k).isSome = (p.get? k).isSome) : o.keys.length = p.keys.length := by
  apply List.Perm.length_eq
  refine (List.perm_ext_iff_of_nodup o.own.keys_nodup p.own.keys_nodup).mpr ?_
  intro k
  change k ∈ o.keys ↔ k ∈ p.keys
  rw [mem_keys_iff, mem_keys_iff, h]

theorem get?_set (o : PlainObject ν) (k : String) (v : ν) (j : String) :
    (o.set k v).get? j = if j = k ∧ k ≠ "__proto__" then some v else o.get? j := by
  unfold set
  split
  · rename_i h
    simp [h]
  · rename_i h
    simp [get?, Table.lookup_insert_if, h]

theorem get?_set_self (o : PlainObject ν) {k : String} (hk : k ≠ "__proto__") (v : ν) :
    (o.set k v).get? k = some v := by simp [get?_set, hk]

theorem get?_set_ne (o : PlainObject ν) {j k : String} (h : j ≠ k) (v : ν) :
    (o.set k v).get? j = o.get? j := by simp [get?_set, h]

theorem ne_proto_of_get? {o : PlainObject ν} {k : String} {v : ν} (h : o.get? k = some v) :
    k ≠ "__proto__" := by
  intro heq
  subst heq
  rw [get?_proto] at h
  cases h

/-- Assigning to a property that is already there. -/
theorem get?_set_of_some {o : PlainObject ν} {k : String} {w : ν} (h : o.get? k = some w) (v : ν)
    (j : String) : (o.set k v).get? j = if j = k then some v else o.get? j := by
  simp [get?_set, ne_proto_of_get? h]

theorem isSome_get?_set_of_some {o : PlainObject ν} {k : String} {w : ν} (h : o.get? k = some w)
    (v : ν) (j : String) : ((o.set k v).get? j).isSome = (o.get? j).isSome := by
  rw [get?_set_of_some h]
  split
  · rename_i hj
    rw [hj, h]
    rfl
  · rfl

/-- A property whose new value looks the same through `f` leaves the view as it was. -/
theorem map_get?_set_of_some {o : PlainObject ν} {k : String} {v w : ν} (f : ν → ω)
    (h : o.get? k = some w) (hf : f v = f w) (j : String) :
    ((o.set k v).get? j).map f = (o.get? j).map f := by
  rw [get?_set_of_some h]
  split
  · rename_i hj
    rw [hj, h, Option.map_some, Option.map_some, hf]
  · rfl

theorem get?_delete (o : PlainObject ν) (k j : String) :
    (o.delete k).get? j = if j = k then none else o.get? j :=
  Table.lookup_erase_if o.own k j

/-- Deleting a fresh key that was just assigned restores the object. -/
theorem delete_set_of_none (o : PlainObject ν) {k : String} (h : o.get? k = none) (v : ν) :
    (o.set k v).delete k = o := by
  apply ext
  have hgone : o.own.erase k = o.own := Table.erase_of_lookup_none o.own k h
  unfold set
  split
  · exact hgone
  · exact (Table.erase_insert o.own k v).trans hgone

/-- Deleting a key that was just assigned. -/
theorem delete_set (o : PlainObject ν) (k : String) (v : ν) :
    (o.set k v).delete k = o.delete k := by
  apply ext
  unfold set
  split
  · rfl
  · exact Table.erase_insert o.own k v

/-- Assign every field of `u` that `parse` can read. -/
def assignAll (o : PlainObject ν) (parse : ω → Option ν) (u : Table String ω) : PlainObject ν :=
  u.entries.foldl (fun acc field => match parse field.2 with
    | some v => acc.set field.1 v
    | none => acc) o

/-- The fields an assignment can turn into own properties. -/
def assignable (parse : ω → Option ν) (k : String) (w : ω) : Option ν :=
  if k = "__proto__" then none else parse w

theorem own_foldl_assign (o : PlainObject ν) (parse : ω → Option ν)
    (es : List (Sigma fun _ : String => ω)) :
    (es.foldl (fun acc field => match parse field.2 with
      | some v => acc.set field.1 v
      | none => acc) o).own =
    es.foldl (Table.overlayOne (assignable parse)) o.own := by
  induction es generalizing o with
  | nil => rfl
  | cons e es ih =>
    rw [List.foldl_cons, ih, List.foldl_cons]
    congr 1
    unfold Table.overlayOne assignable
    by_cases he : e.1 = "__proto__"
    · cases parse e.2 <;> simp [set, he]
    · cases parse e.2 <;> simp [set, he]

theorem get?_assignAll (o : PlainObject ν) (parse : ω → Option ν) (u : Table String ω)
    (k : String) : (o.assignAll parse u).get? k =
      ((u.lookup k).bind (assignable parse k)).or (o.get? k) := by
  unfold get? assignAll
  rw [own_foldl_assign]
  exact Table.lookup_overlay _ _ _ _

end PlainObject

end ApiCenter
