import ApiCenter.Library.Runs
import ApiCenter.Model.Node
import ApiCenter.Proofs.Atomicity

namespace ApiCenter.Proofs.Durability
open Library Calls Atomicity

/-- A registration of `id`, whatever becomes of it. -/
def Registers (id : String) : NodeAction → Prop
  | .call (.register m) _ _ _ => m.serviceId = id
  | _ => False

/-- `id` is not in memory after the action. -/
def StaysAbsent (id : String) (s : Node) (a : NodeAction) : Prop :=
  (s.step a).registry.services.get? id = none

/-- What a deregistration must achieve. `fate` is what becomes of its HDEL. Redis executes the
commands of an instance in order, so what runs later meets the hash with the HDEL settled. -/
structure DurableOrFails (r : RegistryService) (hash : RedisHash) (id now : String) (fate : Fate) :
    Prop where
  durable : (r.call (.deregister id) now fate.write).result = .ok () →
    (r.call (.deregister id) now fate.write).registry.services.get? id = none ∧
    (fate.settle (r.call (.deregister id) now fate.write).command hash).lookup id = none ∧
    ∀ run : List NodeAction, (∀ a ∈ run, ¬ Registers id a) →
      Runs.Always Node.step (StaysAbsent id)
        ⟨(r.call (.deregister id) now fate.write).registry,
          fate.settle (r.call (.deregister id) now fate.write).command hash⟩ run
  fails : (fate.settle (r.call (.deregister id) now fate.write).command hash).lookup id ≠ none →
    (∃ e, (r.call (.deregister id) now fate.write).result = .error e) ∧
    (r.call (.deregister id) now fate.write).registry.services.get? id = r.services.get? id

/-- Memory does not hold `id`, and no entry of it can be read from the hash. -/
structure Gone (id : String) (s : Node) : Prop where
  memory : s.registry.services.get? id = none
  record : ∀ e, s.hash.lookup id ≠ some (.entry e)

variable {r : RegistryService} {hash : RedisHash} {id now : String} {s : Node}

theorem Gone.unreadable (h : Gone id s) :
    (RegistryService.getRedisEntries s.hash).get? id = none := by
  rw [Option.eq_none_iff_forall_ne_some]
  intro e he
  exact h.record e (RegistryService.get?_getRedisEntries_iff.mp he).2

/-- Nothing but a registration makes an entry of an id that memory does not hold. -/
theorem call_absent {c : RegistryCall} (now : String) (write : Write)
    (hm : r.services.get? c.id = none) (hc : ∀ m, c ≠ .register m) :
    (r.call c now write).registry.services.get? c.id = none ∧
      ∀ hash : RedisHash, (∀ e, hash.lookup c.id ≠ some (.entry e)) →
        ∀ e, (execute (r.call c now write).command hash).lookup c.id ≠ some (.entry e) := by
  have heff := call_effect r c now write
  generalize (r.call c now write).registry.services = services at heff ⊢
  generalize (r.call c now write).command = command at heff ⊢
  cases heff with
  | kept => exact ⟨hm, fun hash h => h⟩
  | registered ha hw => exact absurd rfl (hc _)
  | rolledBack ha hr hw => exact absurd rfl (hc _)
  | @deregistered found id hf =>
    refine ⟨by rw [PlainObject.get?_delete]; simp [RegistryCall.id], fun hash h e => ?_⟩
    rcases r.removeFromRedis_cases id with hp | hp
    · rw [hp]
      exact h e
    · simp [hp, lookup_hdel, RegistryCall.id]
  | moved he hmv => cases hm.symm.trans he
  | touched he => cases hm.symm.trans he
  | @movedMember built c changes hf hmv =>
    refine ⟨hm, fun hash h e => ?_⟩
    rcases r.persistToRedis_cases c.id (.member (changes.applyToMember built)) with hp | hp
    · rw [hp]
      exact h e
    · simpa [hp, lookup_hset, RegistryCall.id] using Found.stringify_member_ne _ e

theorem gone_call (c : RegistryCall) (now : String) (write : Write) (applied : Bool)
    (h : Gone id s) (ha : ¬ Registers id (.call c now write applied)) :
    Gone id (s.step (.call c now write applied)) := by
  by_cases hid : id = c.id
  · subst hid
    have hc : ∀ m, c ≠ .register m := by
      intro m hm
      subst hm
      exact ha rfl
    obtain ⟨hm, hr⟩ := call_absent now write h.memory hc
    refine ⟨hm, ?_⟩
    cases applied with
    | false => exact h.record
    | true => exact hr s.hash h.record
  · refine ⟨(call_services_ne s.registry c now write hid).trans h.memory, ?_⟩
    cases applied with
    | false => exact h.record
    | true =>
      intro e he
      exact h.record e ((call_lookup_ne s.registry c now write hid s.hash).symm.trans he)

/-- Reading the hash does not bring it back. -/
theorem Gone.loadEntries (h : Gone id s) {r : RegistryService}
    (hr : r.services.get? id = none) : (r.loadEntries s.hash).services.get? id = none := by
  rw [RegistryService.get?_loadEntries, h.unreadable, hr]
  rfl

theorem gone_step (a : NodeAction) (h : Gone id s) (ha : ¬ Registers id a) :
    Gone id (s.step a) := by
  cases a with
  | call c now write applied => exact gone_call c now write applied h ha
  | loadFromRedis =>
    refine ⟨?_, h.record⟩
    simp only [Node.step, RegistryService.loadFromRedis]
    split
    · exact h.loadEntries h.memory
    · exact h.memory
  | handleRedisDriftReconciliation =>
    refine ⟨?_, h.record⟩
    simp only [Node.step, RegistryService.reconcile]
    split
    · exact h.loadEntries h.memory
    · exact h.memory
  | restart =>
    refine ⟨?_, h.record⟩
    simp only [Node.step, RegistryService.boot, RegistryService.loadFromRedis, if_true]
    exact h.loadEntries (PlainObject.get?_empty id)

/-- Deregistering an id that memory holds takes it out of memory and sends its HDEL. -/
theorem deregister_held (hr : r.redis = true) (he : r.services.get? id = some e) (now : String)
    (write : Write) :
    (r.call (.deregister id) now write).result = .ok () ∧
    (r.call (.deregister id) now write).command = some (.hdel id) ∧
    (r.call (.deregister id) now write).registry.services.get? id = none := by
  simp [RegistryService.call, RegistryService.deregister, RegistryService.beginDeregister,
    RegistryService.find_of_get? he, RegistryService.removeFromRedis, hr,
    RegistryService.completeDeregister, PlainObject.get?_delete]

theorem settled_record (fate : Fate) :
    (fate.settle (some (.hdel id)) hash).lookup id =
      match fate with
      | .appliedInTime | .appliedLate => none
      | .rejected _ | .neverApplied => hash.lookup id := by
  cases fate <;> simp [Fate.settle, lookup_hdel]

theorem settled_absent_iff (fate : Fate) :
    (fate.settle (some (.hdel id)) hash).lookup id = none ↔
      ¬ fate.Lost ∨ hash.lookup id = none := by
  rw [settled_record]
  cases fate <;> simp [Fate.Lost]

/-- A deregistration is durable, or fails as it must, exactly when its HDEL is not lost or there
is no record to remove. -/
theorem deregister_durable_iff (hr : r.redis = true) (he : r.services.get? id = some e)
    (fate : Fate) :
    DurableOrFails r hash id now fate ↔ ¬ fate.Lost ∨ hash.lookup id = none := by
  obtain ⟨hres, hcommand, hmem⟩ := deregister_held hr he now fate.write
  rw [← settled_absent_iff fate]
  constructor
  · intro h
    rw [← hcommand]
    exact (h.durable hres).2.1
  · intro habsent
    rw [← hcommand] at habsent
    constructor
    · intro _
      refine ⟨hmem, habsent, ?_⟩
      intro run hrun
      have hgone : Gone id ⟨(r.call (.deregister id) now fate.write).registry,
          fate.settle (r.call (.deregister id) now fate.write).command hash⟩ :=
        ⟨hmem, fun e' he' => by cases habsent.symm.trans he'⟩
      exact Runs.always_of_invariant (fun s a => gone_step a)
        (fun s a hg ha => (gone_step a hg ha).memory) hgone (Runs.always_of_forall _ hrun)
    · intro hne
      exact absurd habsent hne

/-- `orders` is registered; the HDEL of its deregistration is rejected. The deregistration
resolves all the same, and a reconciliation brings `orders` back. -/
theorem rejected_delete_not_durable :
    registered.registry.redis = true ∧
    (registered.registry.services.get? "orders").isSome ∧
    ¬ DurableOrFails registered.registry registeredHash "orders" "t1" (.rejected "READONLY") := by
  refine ⟨by decide, by decide, ?_⟩
  intro h
  have habsent := ((h.durable rfl).2.2 [.handleRedisDriftReconciliation]
    (by simp [Registers])).1
  revert habsent
  unfold StaysAbsent
  decide

theorem deregister_durable_iff_orders :
    DurableOrFails registered.registry registeredHash "orders" "t1" .appliedLate ↔
      ¬ Fate.appliedLate.Lost ∨ registeredHash.lookup "orders" = none :=
  deregister_durable_iff (e := buildEntry none orders none "t0") (by decide) (by rfl) .appliedLate

end ApiCenter.Proofs.Durability
