import ApiCenter.Proofs.Calls

namespace ApiCenter.Proofs.Atomicity
open Calls

/-- What becomes of the HSET of a registration. -/
inductive Fate where
  | appliedInTime
  | rejected (message : String)
  | appliedLate
  | neverApplied

/-- What `Promise.race` makes of it for the caller. -/
def Fate.write : Fate → Write
  | .appliedInTime => .acknowledged
  | .rejected message => .failed message
  | .appliedLate => .failed "Redis write timed out after 2000ms"
  | .neverApplied => .failed "Redis write timed out after 2000ms"

/-- The hash once all commands have finished. -/
def Fate.settle (fate : Fate) (command : Option RedisCommand) (hash : RedisHash) : RedisHash :=
  match fate with
  | .appliedInTime => execute command hash
  | .appliedLate => execute command hash
  | .rejected _ => hash
  | .neverApplied => hash

/-- The write fails for the caller and never reaches the hash. -/
def Fate.Lost : Fate → Prop
  | .rejected _ => True
  | .neverApplied => True
  | _ => False

/-- Memory and the hash hold the same entry of `id`, or both none. -/
def Agree (r : RegistryService) (hash : RedisHash) (id : String) : Prop :=
  hash.lookup id = (r.services.get? id).map .entry

instance (r : RegistryService) (hash : RedisHash) (id : String) : Decidable (Agree r hash id) :=
  inferInstanceAs (Decidable (_ = _))

/-- A registration takes effect in both stores or in none of them. -/
def Atomic (r : RegistryService) (hash : RedisHash) (m : ServiceManifest) (now : String)
    (fate : Fate) : Prop :=
  let out := r.register m now fate.write
  let settled := fate.settle out.command hash
  match out.result with
  | .ok e =>
    out.registry.services.get? m.serviceId = some e ∧
    settled.lookup m.serviceId = some (.entry e)
  | .error _ =>
    (∀ id, out.registry.services.get? id = r.services.get? id) ∧
    out.registry.registryServicesTotal = r.registryServicesTotal ∧
    settled.lookup m.serviceId = hash.lookup m.serviceId

/-- The call is refused by its own checks, or its write is applied in time, or
it is a first registration whose write is lost and the gauge was in step. -/
def Undoable (r : RegistryService) (m : ServiceManifest) (fate : Fate) : Prop :=
  (∃ e, registerChecks (r.find m.serviceId) m = .error e) ∨
  fate = .appliedInTime ∨
  fate.Lost ∧ r.services.get? m.serviceId = none ∧ r.registryServicesTotal = r.activeCount

variable {r : RegistryService} {m : ServiceManifest} {now : String} {hash : RedisHash}

theorem settle_lost {fate : Fate} (h : fate.Lost) (command : Option RedisCommand) :
    fate.settle command hash = hash := by
  cases fate with
  | appliedInTime => cases h
  | rejected message => rfl
  | appliedLate => cases h
  | neverApplied => rfl

theorem write_failed {fate : Fate} (h : fate ≠ .appliedInTime) :
    ∃ message, fate.write = .failed message := by
  cases fate with
  | appliedInTime => exact absurd rfl h
  | rejected message => exact ⟨message, rfl⟩
  | appliedLate => exact ⟨_, rfl⟩
  | neverApplied => exact ⟨_, rfl⟩

/-- Undoing a first registration restores the map. -/
theorem rollback_services (e : ServiceRegistryEntry) (h : r.services.get? m.serviceId = none) :
    ((r.putAndSync m.serviceId e).deleteAndSync m.serviceId).services = r.services := by
  simp [PlainObject.delete_set_of_none r.services h e]

theorem rollback_gauge (e : ServiceRegistryEntry) (h : r.services.get? m.serviceId = none) :
    ((r.putAndSync m.serviceId e).deleteAndSync m.serviceId).registryServicesTotal =
      r.activeCount := by
  change ((r.putAndSync m.serviceId e).deleteAndSync m.serviceId).activeCount = _
  unfold RegistryService.activeCount
  rw [rollback_services e h]

theorem atomic_refused (now : String) (hash : RedisHash) (fate : Fate)
    (ha : registerChecks (r.find m.serviceId) m = .error e) :
    Atomic r hash m now fate := by
  unfold Atomic
  rw [register_refused _ _ ha]
  refine ⟨fun _ => rfl, rfl, ?_⟩
  cases fate <;> rfl

theorem atomic_applied (now : String) (hash : RedisHash) (hr : r.redis = true)
    (hid : m.serviceId ≠ "__proto__")
    (ha : registerChecks (r.find m.serviceId) m = .ok previousVersion) :
    Atomic r hash m now .appliedInTime := by
  obtain ⟨hs, -, hres⟩ := register_stored now .acknowledged ha (Or.inr rfl)
  have hc : (r.register m now .acknowledged).command = some (.hset m.serviceId
      (.entry (buildEntry (r.find m.serviceId) m previousVersion now))) := by
    rw [register_admitted _ _ ha, RegistryService.persistToRedis_connected hr]
    rfl
  simp only [Atomic, Fate.write, hres, hs]
  refine ⟨PlainObject.get?_set_self r.services hid _, ?_⟩
  rw [hc, Fate.settle, execute_some, lookup_hset, if_pos rfl]

/-- What an admitted registration with a failed write comes down to. -/
theorem atomic_failed_iff (hr : r.redis = true)
    (ha : registerChecks (r.find m.serviceId) m = .ok previousVersion) {fate : Fate}
    (hf : fate ≠ .appliedInTime) :
    Atomic r hash m now fate ↔
      (∀ id, ((r.services.set m.serviceId
        (buildEntry (r.find m.serviceId) m previousVersion now)).delete m.serviceId).get? id =
          r.services.get? id) ∧
      ((r.putAndSync m.serviceId
        (buildEntry (r.find m.serviceId) m previousVersion now)).deleteAndSync
        m.serviceId).registryServicesTotal = r.registryServicesTotal ∧
      (fate.settle (some (.hset m.serviceId
        (.entry (buildEntry (r.find m.serviceId) m previousVersion now)))) hash).lookup
          m.serviceId = hash.lookup m.serviceId := by
  obtain ⟨message, hw⟩ := write_failed hf
  obtain ⟨hreg, -, e, he⟩ := register_rolledBack now ha hr hw
  have hc : (r.register m now fate.write).command = some (.hset m.serviceId
      (.entry (buildEntry (r.find m.serviceId) m previousVersion now))) := by
    rw [register_admitted _ _ ha, RegistryService.persistToRedis_connected hr]
    rfl
  simp only [Atomic, he, hreg, hc]
  rfl

/-- With Redis connected and both stores agreeing on the id, a registration is
atomic exactly when nothing has to be undone that cannot be. -/
theorem register_atomic_iff (hr : r.redis = true) (hid : m.serviceId ≠ "__proto__")
    (hagree : Agree r hash m.serviceId) (fate : Fate) :
    Atomic r hash m now fate ↔ Undoable r m fate := by
  unfold Undoable
  cases ha : registerChecks (r.find m.serviceId) m with
  | error e =>
    have h := atomic_refused now hash fate ha
    simp [h]
  | ok previousVersion =>
    by_cases hf : fate = .appliedInTime
    · subst hf
      have h := atomic_applied now hash hr hid ha
      simp [h]
    · rw [atomic_failed_iff hr ha hf]
      constructor
      · intro hex
        obtain ⟨hmem, hgauge, hhash⟩ := hex
        have hnone : r.services.get? m.serviceId = none := by
          rw [← hmem m.serviceId, PlainObject.get?_delete, if_pos rfl]
        have hlost : fate.Lost := by
          cases fate with
          | appliedInTime => exact absurd rfl hf
          | rejected message => trivial
          | neverApplied => trivial
          | appliedLate =>
            -- the late write creates a record where both stores had none
            rw [Fate.settle, execute_some, lookup_hset, if_pos rfl, hagree, hnone] at hhash
            cases hhash
        rw [rollback_gauge _ hnone] at hgauge
        exact Or.inr (Or.inr ⟨hlost, hnone, hgauge.symm⟩)
      · intro hcase
        rcases hcase with ⟨e, he⟩ | happlied | ⟨hlost, hnone, hgauge⟩
        · cases he
        · exact absurd happlied hf
        · refine ⟨fun id => ?_, ?_, ?_⟩
          · rw [PlainObject.delete_set_of_none r.services hnone]
          · rw [rollback_gauge _ hnone, hgauge]
          · rw [settle_lost hlost]

def orders : ServiceManifest := manifestOf "orders" "http://orders:1" "1.0.0"

/-- The first registration of `orders`, acknowledged by Redis. -/
def registered : Outcome ServiceRegistryEntry :=
  ({ redis := true } : RegistryService).register orders "t0" .acknowledged

def registeredHash : RedisHash := execute registered.command ∅

/-- An update whose HSET is rejected: the entry is gone from memory, not restored. -/
theorem rejected_update_not_atomic :
    registered.registry.redis = true ∧
    Agree registered.registry registeredHash "orders" ∧
    ¬ Atomic registered.registry registeredHash orders "t1" (.rejected "READONLY") := by
  refine ⟨by decide, by decide, ?_⟩
  intro h
  have hmem := h.1 "orders"
  revert hmem
  decide

theorem register_atomic_iff_orders :
    Atomic registered.registry registeredHash orders "t1" .appliedInTime ↔
      Undoable registered.registry orders .appliedInTime :=
  register_atomic_iff (by decide) (by decide) (by decide) .appliedInTime

end ApiCenter.Proofs.Atomicity
