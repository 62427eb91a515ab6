import ApiCenter.Library.Runs
import ApiCenter.Model.Node
import ApiCenter.Proofs.Retirement
import ApiCenter.Proofs.Statuses

namespace ApiCenter.Proofs.Acknowledged
open Library Calls Statuses

/-- A call on another id, a health check of `id`, or a reconciliation. -/
def Leaves (id : String) : NodeAction → Prop
  | .call c _ _ _ => id ≠ c.id ∨ ∃ l, c = .lifecycle l ∧ l.id = id ∧ l.sets? = none
  | .handleRedisDriftReconciliation => True
  | .loadFromRedis | .restart => False

/-- After the action the status of `id` is still `status`. -/
structure Keeps (id : String) (status : ServiceLifecycleStatus) (s : Node) (a : NodeAction) :
    Prop where
  kept : (s.step a).registry.statusOf id = some (.value status)
  notRoutable : status = .retired → (s.step a).registry.isRoutable id = false

/-- Read back, the record gives `id` that status. The field `__proto__` has assigned properties, in
front of those of `Object.prototype`. -/
def RecordHas (id : String) (status : ServiceLifecycleStatus) (r : RegistryService) :
    RedisValue → Prop
  | .entry e => id ≠ "__proto__" → e.status = status
  | .object own => id = "__proto__" → (own.inFrontOf r.assigned).status = some status
  | .malformed => True

/-- A reconciliation that finds drift reads no record of `id`, or one with that status. -/
def RecordAgrees (id : String) (status : ServiceLifecycleStatus) (s : Node) (a : NodeAction) :
    Prop :=
  a = .handleRedisDriftReconciliation →
  RegistryService.hasDrift (RegistryService.getRedisEntries s.hash) s.registry.services = true →
  ∀ value, s.hash.lookup id = some value → RecordHas id status s.registry value

/-- Redis is there and `id` holds the status in memory. -/
structure Has (id : String) (status : ServiceLifecycleStatus) (s : Node) : Prop where
  redis : s.registry.redis = true
  inMemory : s.registry.heldStatusOf id = some status

/-- So has any record of `id` that can be read from Redis. -/
structure Holds (id : String) (status : ServiceLifecycleStatus) (s : Node) : Prop
    extends Has id status s where
  record : ∀ value, s.hash.lookup id = some value → RecordHas id status s.registry value

variable {r : RegistryService} {hash : RedisHash} {id now : String}
  {status : ServiceLifecycleStatus} {s : Node}

theorem retired_not_routable (h : r.statusOf id = some (.value .retired)) :
    r.isRoutable id = false := by
  obtain ⟨found, hf, hs⟩ := Option.map_eq_some_iff.mp h
  simp [RegistryService.isRoutable, hf, hs]

theorem keeps_iff (a : NodeAction) :
    Keeps id status s a ↔ (s.step a).registry.statusOf id = some (.value status) := by
  constructor
  · exact Keeps.kept
  · intro h
    refine ⟨h, ?_⟩
    intro hs
    subst hs
    exact retired_not_routable h

/-- What a reload leaves under `id`. -/
theorem heldStatusOf_loadEntries :
    (r.loadEntries hash).heldStatusOf id =
      match hash.lookup id with
      | some (.entry e) => if id = "__proto__" then r.heldStatusOf id else some e.status
      | some (.object own) =>
        if id = "__proto__" then (own.inFrontOf r.assigned).status else r.heldStatusOf id
      | _ => r.heldStatusOf id := by
  rw [heldStatusOf_eq, heldStatusOf_eq, RegistryService.get?_loadEntries,
    RegistryService.get?_getRedisEntries]
  by_cases hid : id = "__proto__"
  · subst hid
    cases hl : hash.lookup "__proto__" with
    | none => simp [RegistryService.loadEntries, RegistryService.prototype, hl,
        RegistryService.assigned]
    | some value =>
      cases value <;> simp [RegistryService.loadEntries, RegistryService.prototype, hl,
        RegistryService.assigned, PlainObject.assignable, InheritedMember.seen]
  · cases hl : hash.lookup id with
    | none => simp [hid, RegistryService.loadEntries]
    | some value =>
      cases value <;> simp [hid, PlainObject.assignable, RedisValue.parse,
        RegistryService.loadEntries]

/-- A record with the status the registry holds. -/
theorem recordHas_stringify {found : Found} (hf : r.find id = some found)
    (h : r.heldStatusOf id = some status) : RecordHas id status r found.stringify := by
  have hheld : found.heldStatus = some status := by
    simpa [RegistryService.heldStatusOf, hf] using h
  cases found with
  | entry e =>
    cases hheld
    exact fun _ => rfl
  | member m =>
    obtain ⟨kind, own, behind⟩ := m
    cases kind with
    | function | primitive => trivial
    | object =>
      intro hid
      subst hid
      have hm : r.prototype = ⟨.object, own, behind⟩ :=
        Option.some.inj ((r.find_member_iff _ _).mp hf).2
      have hseen : r.prototype.seen.status = some status := by
        rw [hm]
        exact hheld
      have hown : own = r.prototype.own := by rw [hm]
      rw [hown]
      revert hseen
      unfold RegistryService.prototype
      cases r.replaced <;> simp [InheritedMember.seen, Changes.written, Changes.inFrontOf]

/-- A call that leaves `id` alone keeps its status, and its record carries that status if it
writes one. -/
theorem leaves_call {c : RegistryCall} {write : Write} {applied : Bool}
    (hl : Leaves id (.call c now write applied)) (hash : RedisHash) :
    (r.call c now write).registry.heldStatusOf id = r.heldStatusOf id ∧
      ((execute (r.call c now write).command hash).lookup id = hash.lookup id ∨
        ∃ found : Found, (r.call c now write).registry.find id = some found ∧
          (execute (r.call c now write).command hash).lookup id = some found.stringify) := by
  rcases hl with hid | ⟨l, rfl, rfl, hs⟩
  · exact ⟨heldStatusOf_call_ne c write hid, .inl (call_lookup_ne r c now write hid hash)⟩
  · rcases lifecycle_result r l now with hr | ⟨-, hf, hc⟩ | ⟨hf, hf', hst, hc⟩
    · simp [RegistryService.call, hr]
    · exact ⟨hf, .inl (by simp [RegistryService.call, hc])⟩
    · rename_i found found'
      rw [hs, Option.none_or] at hst
      refine ⟨?_, ?_⟩
      · simp [RegistryService.heldStatusOf, RegistryService.call, hf, hf', hst]
      · simp only [RegistryService.call, hc]
        rcases r.persistToRedis_cases l.id found' with hp | hp
        · rw [hp]
          exact .inl rfl
        · refine .inr ⟨found', hf', ?_⟩
          rw [hp, execute_some, lookup_hset, if_pos rfl]

theorem step_redis (a : NodeAction) (hl : Leaves id a) :
    (s.step a).registry.redis = s.registry.redis := by
  cases a with
  | call c now write applied => exact call_redis s.registry c now write
  | handleRedisDriftReconciliation => exact Retirement.reconcile_redis _ _ _
  | loadFromRedis | restart => cases hl

/-- As long as memory has the status, only a reload of another one can change it. -/
theorem has_step (a : NodeAction) (h : Has id status s) (hl : Leaves id a)
    (ha : RecordAgrees id status s a) : Has id status (s.step a) := by
  refine ⟨(step_redis a hl).trans h.redis, ?_⟩
  cases a with
  | call c now write applied => exact (leaves_call hl s.hash).1.trans h.inMemory
  | handleRedisDriftReconciliation =>
    simp only [Node.step, RegistryService.reconcile, h.redis, Bool.true_and]
    split
    · rename_i hd
      have hrecord := ha rfl hd
      rw [heldStatusOf_loadEntries]
      cases hv : s.hash.lookup id with
      | none => exact h.inMemory
      | some value =>
        have hvalue := hrecord value hv
        by_cases hid : id = "__proto__"
        · cases value with
          | entry e => simpa [hid] using hid ▸ h.inMemory
          | object own => simpa [hid] using hvalue hid
          | malformed => exact h.inMemory
        · cases value with
          | entry e => simpa [hid] using hvalue hid
          | object own => simpa [hid] using h.inMemory
          | malformed => exact h.inMemory
    · exact h.inMemory
  | loadFromRedis | restart => cases hl

/-- What a reload takes over is what the status is read as. -/
theorem statusOf_loadEntries {value : RedisValue} (hv : hash.lookup id = some value)
    (h : (r.loadEntries hash).statusOf id = some (.value status)) :
    RecordHas id status r value := by
  cases value with
  | malformed => trivial
  | entry e =>
    intro hid
    have hget : (r.loadEntries hash).services.get? id = some e := by
      rw [RegistryService.get?_loadEntries,
        RegistryService.get?_getRedisEntries_iff.mpr ⟨hid, hv⟩, Option.some_or]
    rw [RegistryService.statusOf, RegistryService.find_of_get? hget] at h
    cases h
    rfl
  | object own =>
    intro hid
    subst hid
    have hfind : (r.loadEntries hash).find "__proto__" =
        some (.member { kind := .object, own := own, behind := r.assigned }) := by
      refine (RegistryService.find_member_iff _ _ _).mpr ⟨PlainObject.get?_proto _, ?_⟩
      simp [RegistryService.inheritedMember, RegistryService.prototype,
        RegistryService.loadEntries, hv, RegistryService.assigned]
    rw [RegistryService.statusOf, hfind] at h
    simp only [Option.map_some, Option.some.injEq, Found.status, InheritedMember.seen] at h
    cases hs : (own.inFrontOf r.assigned).status with
    | none => simp [hs, assignedValue] at h
    | some st =>
      simp only [hs, assignedValue, Option.map_some, Option.getD_some, Optional.value.injEq] at h
      rw [h]

theorem keeps_iff_recordAgrees (a : NodeAction) (h : Has id status s) (hl : Leaves id a) :
    Keeps id status s a ↔ RecordAgrees id status s a := by
  rw [keeps_iff]
  constructor
  · intro hk
    cases a with
    | call c now write applied => exact fun ha => by cases ha
    | handleRedisDriftReconciliation =>
      intro _ hd value hv
      simp only [Node.step, RegistryService.reconcile, h.redis, Bool.true_and, hd, if_true] at hk
      exact statusOf_loadEntries hv hk
    | loadFromRedis | restart => cases hl
  · intro ha
    exact statusOf_of_held (has_step a h hl ha).inMemory

theorem has_step_keeps (a : NodeAction) (h : Has id status s) (hl : Leaves id a)
    (hk : Keeps id status s a) : Has id status (s.step a) :=
  has_step a h hl ((keeps_iff_recordAgrees a h hl).mp hk)

theorem Holds.recordAgrees (h : Holds id status s) (a : NodeAction) :
    RecordAgrees id status s a :=
  fun _ _ value hv => h.record value hv

theorem Holds.keeps (h : Holds id status s) (a : NodeAction) (hl : Leaves id a) :
    Keeps id status s a :=
  (keeps_iff_recordAgrees a h.toHas hl).mpr (h.recordAgrees a)

/-- A record looks the same as long as the status assigned to `Object.prototype` does. -/
theorem RecordHas.congr {r r' : RegistryService} {value : RedisValue}
    (h : RecordHas id status r value)
    (hs : id = "__proto__" → r'.assigned.status = r.assigned.status) :
    RecordHas id status r' value := by
  cases value with
  | malformed => trivial
  | entry e => exact h
  | object own =>
    intro hid
    have hown := h hid
    simp only [Changes.inFrontOf] at hown ⊢
    rw [hs hid, hown]

theorem holds_step (a : NodeAction) (h : Holds id status s) (hl : Leaves id a) :
    Holds id status (s.step a) := by
  have hhas := has_step a h.toHas hl (h.recordAgrees a)
  refine ⟨hhas, ?_⟩
  cases a with
  | call c now write applied =>
    intro value hv
    have hassigned : id = "__proto__" →
        (s.registry.call c now write).registry.assigned.status = s.registry.assigned.status := by
      intro hid
      refine assigned_status_call write fun hc => ?_
      rcases hl with hne | ⟨l, rfl, -, hs⟩
      · exact absurd (hid.trans hc.symm) hne
      · exact hs
    cases applied with
    | false => exact (h.record value hv).congr hassigned
    | true =>
      rcases (leaves_call hl s.hash).2 with hsame | ⟨found, hf, hrec⟩
      · exact (h.record value (hsame.symm.trans hv)).congr hassigned
      · cases hrec.symm.trans hv
        exact recordHas_stringify hf hhas.inMemory
  | handleRedisDriftReconciliation =>
    intro value hv
    refine (h.record value hv).congr fun _ => ?_
    simp only [Node.step, RegistryService.reconcile]
    split <;> rfl
  | loadFromRedis | restart => cases hl

/-- A lifecycle call that returns has set its status, in Redis too if its write is applied. -/
theorem acknowledged {c : LifecycleCall} {write : Write} {applied : Bool}
    (hr : s.registry.redis = true) (hc : c.sets? = some status)
    (hok : (s.registry.lifecycle c now).result = .ok ()) :
    Has c.id status (s.step (.call (.lifecycle c) now write applied)) ∧
      (applied = true → Holds c.id status (s.step (.call (.lifecycle c) now write applied))) := by
  rcases lifecycle_result s.registry c now with hres | ⟨hs, -, -⟩ | ⟨hf, hf', hst, hcommand⟩
  · rw [hres] at hok
    cases hok
  · cases hs.symm.trans hc
  · rename_i found found'
    rw [hc, Option.some_or] at hst
    have hhas : Has c.id status (s.step (.call (.lifecycle c) now write applied)) := by
      refine ⟨(call_redis s.registry (.lifecycle c) now write).trans hr, ?_⟩
      simp [Node.step, RegistryService.heldStatusOf, RegistryService.call, hf', hst]
    refine ⟨hhas, ?_⟩
    intro happlied
    subst happlied
    refine ⟨hhas, ?_⟩
    intro value hv
    have hrec : (execute (s.registry.lifecycle c now).command s.hash).lookup c.id =
        some found'.stringify := by
      rw [hcommand, lookup_persist hr]
    cases hrec.symm.trans hv
    exact recordHas_stringify hf' hhas.inMemory

/-- After a lifecycle call has returned, the status it set stays in memory exactly as long as
every reconciliation that finds drift agrees with it; and it always does if the write of the
call was applied. -/
theorem acknowledged_kept_iff (s : Node) (hr : s.registry.redis = true) (c : LifecycleCall)
    (hc : c.sets? = some status) (now : String) (applied : Bool)
    (hok : (s.registry.lifecycle c now).result = .ok ()) (run : List NodeAction)
    (hrun : ∀ a ∈ run, Leaves c.id a) :
    (Runs.Always Node.step (Keeps c.id status)
        (s.step (.call (.lifecycle c) now .acknowledged applied)) run ↔
      Runs.Always Node.step (RecordAgrees c.id status)
        (s.step (.call (.lifecycle c) now .acknowledged applied)) run) ∧
    (applied = true → Runs.Always Node.step (Keeps c.id status)
        (s.step (.call (.lifecycle c) now .acknowledged applied)) run) := by
  obtain ⟨hhas, hholds⟩ := acknowledged hr hc hok
  have hguard : Runs.Always Node.step (fun _ a => Leaves c.id a)
      (s.step (.call (.lifecycle c) now .acknowledged applied)) run :=
    Runs.always_of_forall _ hrun
  constructor
  · exact Runs.always_iff_of_invariant (fun _ a => keeps_iff_recordAgrees a)
      (fun _ a => has_step_keeps a) hhas hguard
  · intro happlied
    exact Runs.always_of_invariant (fun _ a => holds_step a) (fun _ a h hl => h.keeps a hl)
      (hholds happlied) hguard

/-- `orders` is registered in memory and in Redis. -/
def ready : Node :=
  Node.step ⟨{ redis := true }, ∅⟩
    (.call (.register (manifestOf "orders" "http://orders:1" "1.0.0")) "t0" .acknowledged true)

def retireOrders (applied : Bool) : Node :=
  ready.step (.call (.lifecycle (.retire "orders")) "t1" .acknowledged applied)

/-- The HSET of a retirement fails without effect; the next reconciliation sees another
`updatedAt` in Redis and makes `orders` active again. -/
theorem lost_retirement_undone :
    ready.registry.redis = true ∧
    (ready.registry.lifecycle (.retire "orders") "t1").result = .ok () ∧
    ¬ Runs.Always Node.step (Keeps "orders" .retired) (retireOrders false)
      [.handleRedisDriftReconciliation] := by
  refine ⟨by decide, by rfl, ?_⟩
  intro h
  have hkept := h.1.kept
  revert hkept
  decide

theorem applied_retirement_kept :
    (Runs.Always Node.step (Keeps "orders" .retired) (retireOrders true)
        [.handleRedisDriftReconciliation] ↔
      Runs.Always Node.step (RecordAgrees "orders" .retired) (retireOrders true)
        [.handleRedisDriftReconciliation]) ∧
    (true = true → Runs.Always Node.step (Keeps "orders" .retired) (retireOrders true)
        [.handleRedisDriftReconciliation]) :=
  acknowledged_kept_iff ready (by decide) (.retire "orders") rfl "t1" true (by rfl) _
    (by simp [Leaves])

end ApiCenter.Proofs.Acknowledged
