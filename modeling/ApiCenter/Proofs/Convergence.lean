import ApiCenter.Model.Reconciliation
import ApiCenter.Proofs.Calls

namespace ApiCenter.Proofs.Convergence
open Library RegistryService

/-- The same look at one key: present on both sides or neither, with the same `updatedAt`. -/
theorem sameStamp_iff (theirs mine : Option ServiceRegistryEntry) :
    theirs.map (·.updatedAt) = mine.map (·.updatedAt) ↔
      theirs.isSome = mine.isSome ∧
        ∀ t m, theirs = some t → mine = some m → t.updatedAt = m.updatedAt := by
  cases theirs <;> cases mine <;> simp

/-- No key is on one side only, and no `updatedAt` differs. -/
theorem hasDrift_eq_false_iff (theirs mine : ServiceRegistryMap) :
    hasDrift theirs mine = false ↔
      ∀ k, (theirs.get? k).map (·.updatedAt) = (mine.get? k).map (·.updatedAt) := by
  simp only [hasDrift, Bool.or_eq_false_iff, List.any_eq_false, PlainObject.mem_keys_iff,
    sameStamp_iff]
  constructor
  · intro h k
    obtain ⟨⟨hmissing, hextra⟩, hsame⟩ := h
    refine ⟨Bool.eq_iff_iff.mpr ⟨?_, ?_⟩, ?_⟩
    · intro ht
      simpa [Option.isSome_iff_ne_none] using hmissing k ht
    · intro hm
      simpa [Option.isSome_iff_ne_none] using hextra k hm
    · intro t m ht hm
      simpa [ht, hm] using hsame k (by rw [ht]; rfl)
  · intro h
    refine ⟨⟨?_, ?_⟩, ?_⟩
    · intro k ht
      simp [← (h k).1, ht]
    · intro k hm
      simp [(h k).1, hm]
    · intro k _
      cases ht : theirs.get? k with
      | none => cases mine.get? k <;> simp
      | some t =>
        cases hm : mine.get? k with
        | none => simp
        | some m => simp [(h k).2 t m ht hm]

/-- What one reconciliation with nothing in between must achieve. -/
structure Converges (r : RegistryService) (hash : RedisHash) : Prop where
  keys : ∀ id, ((r.reconcile hash hash).services.get? id).isSome ↔ (hash.lookup id).isSome
  taken : ∀ id e, hash.lookup id = some (.entry e) →
    (r.services.get? id).map (·.updatedAt) ≠ some e.updatedAt →
    (r.reconcile hash hash).services.get? id = some e
  settled : hasDrift (getRedisEntries hash) (r.reconcile hash hash).services = false

/-- Every value of the hash can be read as an entry. -/
def Parses (hash : RedisHash) : Prop := ∀ id v, hash.lookup id = some v → ∃ e, v = .entry e

/-- Every in-memory id is in the hash, and the hash has no field an object cannot take as a key. -/
structure Covered (r : RegistryService) (hash : RedisHash) : Prop where
  memory : ∀ id, (r.services.get? id).isSome → (hash.lookup id).isSome
  noProto : hash.lookup "__proto__" = none

/-- With every value readable, the entries read from the hash are its fields. -/
theorem isSome_getRedisEntries {r : RegistryService} {hash : RedisHash} (hp : Parses hash)
    (hc : Covered r hash) (id : String) :
    ((getRedisEntries hash).get? id).isSome ↔ (hash.lookup id).isSome := by
  simp only [Option.isSome_iff_exists, get?_getRedisEntries_iff]
  constructor
  · intro h
    obtain ⟨e, -, he⟩ := h
    exact ⟨_, he⟩
  · intro h
    obtain ⟨v, hv⟩ := h
    obtain ⟨e, rfl⟩ := hp id v hv
    refine ⟨e, ?_, hv⟩
    intro hid
    rw [hid, hc.noProto] at hv
    cases hv

theorem covered_of_converges {r : RegistryService} {hash : RedisHash} (h : Converges r hash) :
    Covered r hash := by
  constructor
  · intro id hid
    rw [← h.keys id]
    unfold reconcile
    split
    · rw [get?_loadEntries]
      cases (getRedisEntries hash).get? id <;> simp [hid]
    · exact hid
  · have hproto := h.keys "__proto__"
    rw [PlainObject.get?_proto] at hproto
    simpa using hproto

/-- When drift is found, memory takes the hash over; no id is left that only memory has. -/
theorem get?_reload {r : RegistryService} {hash : RedisHash} (hp : Parses hash)
    (hc : Covered r hash) (id : String) :
    (r.loadEntries hash).services.get? id = (getRedisEntries hash).get? id := by
  rw [get?_loadEntries]
  cases hr : (getRedisEntries hash).get? id with
  | some e => rfl
  | none =>
    cases hm : r.services.get? id with
    | none => rfl
    | some e =>
      have hsome := (isSome_getRedisEntries hp hc id).mpr (hc.memory id (by simp [hm]))
      simp [hr] at hsome

theorem converges_of_covered {r : RegistryService} {hash : RedisHash} (hr : r.redis = true)
    (hp : Parses hash) (hc : Covered r hash) : Converges r hash := by
  have hread := isSome_getRedisEntries hp hc
  have hown : ∀ id e, hash.lookup id = some (.entry e) →
      (getRedisEntries hash).get? id = some e := by
    intro id e he
    refine get?_getRedisEntries_iff.mpr ⟨?_, he⟩
    intro hid
    rw [hid, hc.noProto] at he
    cases he
  cases hd : hasDrift (getRedisEntries hash) r.services with
  | true =>
    have hsame : r.reconcile hash hash = r.loadEntries hash := by simp [reconcile, hr, hd]
    have hget := get?_reload hp hc
    refine ⟨?_, ?_, ?_⟩
    · intro id
      rw [hsame, hget, hread]
    · intro id e he _
      rw [hsame, hget]
      exact hown id e he
    · rw [hsame, hasDrift_eq_false_iff]
      intro id
      rw [hget]
  | false =>
    have hsame : r.reconcile hash hash = r := by simp [reconcile, hd]
    have hstamps := (hasDrift_eq_false_iff _ _).mp hd
    refine ⟨?_, ?_, by rw [hsame, hd]⟩
    · intro id
      rw [hsame, ← hread, ← Option.isSome_map (f := (·.updatedAt)), ← hstamps,
        Option.isSome_map]
    · intro id e he hne
      have hstamp := hstamps id
      rw [hown id e he] at hstamp
      exact absurd hstamp.symm hne

/-- A reconciliation converges exactly when memory holds no id that the hash lacks and no field
of the hash is `__proto__`. -/
theorem converges_iff_covered (r : RegistryService) (hash : RedisHash) (hr : r.redis = true)
    (hp : Parses hash) : Converges r hash ↔ Covered r hash :=
  ⟨covered_of_converges, converges_of_covered hr hp⟩

/-- `orders` registered with an empty registry. -/
def registered : Outcome Unit :=
  ({ redis := true } : RegistryService).call
    (.register (Calls.manifestOf "orders" "http://orders:1" "1.0.0")) "t0" .acknowledged

def recorded : RedisHash := execute registered.command ∅

theorem converges_to_recorded : Converges { redis := true } recorded := by
  have hp : Parses recorded := by
    intro id v hv
    by_cases hid : id = "orders"
    · subst hid
      exact ⟨_, (Option.some.inj hv).symm⟩
    · rw [show recorded.lookup id = none from AList.lookup_insert_ne hid] at hv
      cases hv
  exact (converges_iff_covered { redis := true } recorded rfl hp).mpr
    ⟨fun id hid => by simp at hid, rfl⟩

/-- `orders` has been removed from Redis by another instance: the reload keeps it in memory, and
every later run finds the same drift again. -/
theorem removal_not_taken :
    registered.registry.redis = true ∧ Parses ∅ ∧ ¬ Converges registered.registry ∅ := by
  refine ⟨rfl, fun id v hv => by simp at hv, ?_⟩
  intro h
  have horders := h.keys "orders"
  revert horders
  decide

end ApiCenter.Proofs.Convergence
