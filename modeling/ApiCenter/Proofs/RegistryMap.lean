import Mathlib.Data.Finset.Basic
import ApiCenter.Library.Runs
import ApiCenter.Model.Access
import ApiCenter.Proofs.HealthResults
import ApiCenter.Proofs.Messages

namespace ApiCenter

/-- The registry beside the ids that were registered and not deregistered since. `assigned` is what
the calls made on `__proto__` come to as assignments to `Object.prototype`. -/
structure Ledger where
  registry : RegistryService
  ids : Finset String := ∅
  assigned : Changes := {}

namespace Ledger

/-- The ids after a call that ended with `result`. -/
def record (ids : Finset String) (c : ClientCall) (result : Except Thrown Unit) : Finset String :=
  match c, result with
  | .register m, .ok () => insert m.serviceId ids
  | .deregister id, .ok () => ids.erase id
  | _, _ => ids

/-- The assignments after one more call on `__proto__`. -/
def assign (assigned : Changes) (now : String) : ClientCall → Changes
  | .deprecateService _ sunset replacement =>
    if assigned.status = some .retired then assigned
    else (RegistryService.deprecateChanges sunset replacement now).inFrontOf assigned
  | .retire _ => (RegistryService.retireChanges now).inFrontOf assigned
  | .activate _ =>
    if assigned.status = some .proposed ∨ assigned.status = some .deprecated then
      (RegistryService.activateChanges now).inFrontOf assigned
    else assigned
  | .register _ | .deregister _ => assigned

def step (s : Ledger) (op : RegistryOperation) : Ledger where
  registry := s.registry.operate op
  ids :=
    match op with
    | .call c now write => record s.ids c (s.registry.call c.call now write).result
    | .handleHealthChecks _ | .loadFromRedis _ | .handleRedisDriftReconciliation .. => s.ids
  assigned :=
    match op with
    | .call c now _ => if c.call.id = "__proto__" then assign s.assigned now c else s.assigned
    | .handleHealthChecks _ | .loadFromRedis _ | .handleRedisDriftReconciliation .. => s.assigned

end Ledger

/-- Every lookup says that there is no such service, and nothing changes. -/
structure RegistryService.Absent (r : RegistryService) (id : String) : Prop where
  get : r.get id = none
  deregister : ∀ now, r.deregister id now =
    { registry := r, result := .error (.notFoundError s!"Service '{id}' is not registered") }
  deprecateService : ∀ sunset replacement now, r.deprecateService id sunset replacement now =
    { registry := r, result := .error (.notFoundError s!"Service '{id}' is not registered") }
  retire : ∀ now, r.retire id now =
    { registry := r, result := .error (.notFoundError s!"Service '{id}' is not registered") }
  activate : ∀ now, r.activate id now =
    { registry := r, result := .error (.notFoundError s!"Service '{id}' is not registered") }
  canConsume : ∀ target, r.canConsume id target = .ok false
  getRequiredScopes : r.getRequiredScopes id = some []
  isRoutable : r.isRoutable id = false

namespace Ledger
open Library ApiCenter.Library.Runs Proofs.Calls Proofs.Messages Proofs.Reachability

/-- Looking `id` up is looking it up in a finite map with the keys `ids`. -/
structure ActsAsMap (s : Ledger) (id : String) : Prop where
  get : (s.registry.get id).isSome ↔ id ∈ s.ids
  missing : id ∉ s.ids → s.registry.Absent id

/-- The entries of a memory-only registry are those of the ids on record, and its `services` have
the prototype they began with. -/
structure Refines (s : Ledger) : Prop where
  redis : s.registry.redis = false
  entries : ∀ id, (s.registry.services.get? id).isSome ↔ id ∈ s.ids
  keyed : Keyed s.registry.services
  assigned : s.registry.assigned = s.assigned
  replaced : s.registry.replaced = none

variable {r : RegistryService} {s : Ledger} {id now : String} {v : Validators}

theorem absent_iff : r.Absent id ↔ r.find id = none := by
  constructor
  · intro h
    exact h.get
  · intro hf
    constructor
    · exact hf
    · intro now
      simp only [RegistryService.deregister, RegistryService.beginDeregister, hf]
    · intro sunset replacement now
      simp only [RegistryService.deprecateService, RegistryService.amend, hf]
    · intro now
      simp only [RegistryService.retire, RegistryService.amend, hf]
    · intro now
      simp only [RegistryService.activate, RegistryService.amend, hf]
    · intro target
      simp only [RegistryService.canConsume, hf]
    · simp only [RegistryService.getRequiredScopes, hf]
    · simp only [RegistryService.isRoutable, hf]

/-- A lifecycle call neither adds an entry nor takes one away. -/
theorem lifecycle_isSome (r : RegistryService) (c : LifecycleCall) (now id : String) :
    ((r.lifecycle c now).registry.services.get? id).isSome = (r.services.get? id).isSome := by
  have heff : Effect r now .acknowledged (.lifecycle c) (r.lifecycle c now).registry.services
      (r.lifecycle c now).command := lifecycle_effect c
  generalize (r.lifecycle c now).registry.services = services at heff ⊢
  generalize (r.lifecycle c now).command = command at heff
  cases heff with
  | kept | movedMember => rfl
  | moved he hm => exact PlainObject.isSome_get?_set_of_some he _ id
  | touched he => exact PlainObject.isSome_get?_set_of_some he _ id

theorem endHealthCheck_isSome (r : RegistryService) (key : String) (response : HealthResponse)
    (now id : String) :
    ((r.endHealthCheck key response now).registry.services.get? id).isSome =
      (r.services.get? id).isSome := by
  cases he : r.services.get? key with
  | none => rw [endHealthCheck_missing he]
  | some e =>
    rw [endHealthCheck_stored he]
    exact PlainObject.isSome_get?_set_of_some he _ id

theorem endHealthCheck_redis (r : RegistryService) (id : String) (response : HealthResponse)
    (now : String) : (r.endHealthCheck id response now).registry.redis = r.redis := by
  cases hf : r.find id with
  | none => rw [endHealthCheck_unknown hf]
  | some found =>
    have hchecked := endHealthCheck_checked hf response now
    generalize (r.endHealthCheck id response now).registry = r' at hchecked ⊢
    cases hchecked <;> simp

theorem endHealthCheck_refines (h : s.Refines) {key : String} (hkey : key ≠ "__proto__")
    (response : HealthResponse) (now : String) :
    Refines { s with registry := (s.registry.endHealthCheck key response now).registry } := by
  have hmembers := endHealthCheck_members s.registry key response now
  constructor
  · exact (endHealthCheck_redis s.registry key response now).trans h.redis
  · intro id
    rw [endHealthCheck_isSome]
    exact h.entries id
  · exact endHealthCheck_keyed h.keyed key response now
  · exact (hmembers.assigned_ne hkey).trans h.assigned
  · exact (hmembers.replaced_ne hkey).trans h.replaced

/-- A sweep asks listed services only, and none is listed as `__proto__`. -/
theorem sweep_refines (h : s.Refines) (answers : List HealthAnswer) :
    ({ s with registry := s.registry.sweep answers } : Ledger).Refines := by
  refine RegistryService.sweep_induction_listed
    (I := fun r => Refines { s with registry := r }) (P := (· ≠ "__proto__")) ?_ ?_ h answers
  · intro r key response now hkey hr
    exact endHealthCheck_refines hr hkey response now
  · exact fun svc hsvc => h.keyed.serviceId_ne_proto hsvc

/-- A validated call on another id leaves what is assigned to `Object.prototype` as it was. -/
theorem call_refines (h : s.Refines) (c : ClientCall) (now : String) (write : Write)
    (hv : Validated v c.call)
    (he : ∀ id, ((s.registry.call c.call now write).registry.services.get? id).isSome ↔
      id ∈ record s.ids c (s.registry.call c.call now write).result)
    (ha : c.call.id = "__proto__" →
      (s.registry.call c.call now write).registry.assigned = assign s.registry.assigned now c ∧
        (s.registry.call c.call now write).registry.replaced = none) :
    (s.step (.call c now write)).Refines := by
  have hmembers := call_members s.registry c.call now write
  refine ⟨(call_redis _ _ _ _).trans h.redis, he,
    (call_keyed h.keyed hv now write).1, ?_, ?_⟩
  · simp only [step, RegistryService.operate]
    split
    · rename_i hkey
      rw [← h.assigned]
      exact (ha hkey).1
    · rename_i hkey
      rw [← h.assigned]
      exact hmembers.assigned_ne hkey
  · by_cases hkey : c.call.id = "__proto__"
    · exact (ha hkey).2
    · exact (hmembers.replaced_ne hkey).trans h.replaced

theorem register_refines (h : s.Refines) (m : ServiceManifest) (now : String) (write : Write)
    (hv : Validated v (.register m)) :
    (s.step (.call (.register m) now write)).Refines := by
  have hid := validated_ne_proto hv
  refine call_refines h (.register m) now write hv (fun id => ?_) (fun hkey => absurd hkey hid)
  change ((s.registry.register m now write).registry.services.get? id).isSome ↔
    id ∈ record s.ids (.register m) (s.registry.register m now write).discard.result
  cases ha : registerChecks (s.registry.find m.serviceId) m with
  | error t =>
    rw [register_refused now write ha]
    exact h.entries id
  | ok previousVersion =>
    obtain ⟨hset, -, hok⟩ := register_stored now write ha (.inl h.redis)
    have hresult : (s.registry.register m now write).discard.result = .ok () := by
      simp only [Outcome.discard, hok, Except.map]
    rw [hset, hresult, PlainObject.get?_set]
    simp only [record, Finset.mem_insert, ← h.entries id]
    by_cases hj : id = m.serviceId
    · simp [hj, hid]
    · simp [hj]

theorem deregister_refines (h : s.Refines) (key now : String) (write : Write)
    (hv : Validated v (.deregister key)) :
    (s.step (.call (.deregister key) now write)).Refines := by
  have hsame := deregister_inherits s.registry key now
  refine call_refines h (.deregister key) now write hv (fun id => ?_)
    fun _ => ⟨RegistryService.assigned_congr hsame.1, hsame.2.trans h.replaced⟩
  change ((s.registry.deregister key now).registry.services.get? id).isSome ↔
    id ∈ record s.ids (.deregister key) (s.registry.deregister key now).result
  cases hf : s.registry.find key with
  | none =>
    rw [(absent_iff.mpr hf).deregister]
    exact h.entries id
  | some found =>
    simp only [RegistryService.deregister, RegistryService.beginDeregister, hf,
      RegistryService.completeDeregister, RegistryService.publish_services,
      RegistryService.deleteAndSync_services, PlainObject.get?_delete, record, Finset.mem_erase,
      ← h.entries id]
    by_cases hj : id = key
    · simp [hj]
    · simp [hj]

/-- On `__proto__`, a lifecycle call assigns what it has chosen to `Object.prototype`. -/
theorem amend_proto (h : r.replaced = none) {choose : Found → Except Thrown Changes}
    {sync : Bool} {events : Found → List KafkaMessage} {assigned : Changes}
    (hc : match choose (.member { kind := .object, own := r.assigned }) with
      | .ok changes => changes.inFrontOf r.assigned = assigned
      | .error _ => r.assigned = assigned) :
    (r.amend "__proto__" choose sync events).registry.assigned = assigned ∧
      (r.amend "__proto__" choose sync events).registry.replaced = none := by
  simp only [RegistryService.amend, RegistryService.find_proto h]
  cases hchoose : choose (.member { kind := .object, own := r.assigned }) with
  | error t =>
    simp only [hchoose] at hc
    exact ⟨hc, h⟩
  | ok changes =>
    simp only [hchoose] at hc
    have hassigned := RegistryService.assigned_store_member h "__proto__"
      (changes.applyToMember { kind := .object, own := r.assigned })
    have hreplaced := RegistryService.replaced_store h "__proto__"
      (.member (changes.applyToMember { kind := .object, own := r.assigned }))
    cases sync <;> exact ⟨hassigned.trans hc, hreplaced⟩

theorem lifecycle_refines (h : s.Refines) (c : ClientCall) (hv : Validated v c.call)
    (l : LifecycleCall) (hc : c.call = .lifecycle l)
    (hr : ∀ ids result, record ids c result = ids) (now : String) (write : Write)
    (ha : l.id = "__proto__" →
      (s.registry.lifecycle l now).registry.assigned = assign s.registry.assigned now c ∧
        (s.registry.lifecycle l now).registry.replaced = none) :
    (s.step (.call c now write)).Refines := by
  refine call_refines h c now write hv (fun id => ?_) (by rwa [hc])
  rw [hr, hc, ← h.entries id, ← lifecycle_isSome s.registry l now id]
  rfl

theorem deprecateService_refines (h : s.Refines) (key : String)
    (sunset replacement : Optional String) (now : String) (write : Write)
    (hv : Validated v (.lifecycle (.deprecateService key sunset replacement))) :
    (s.step (.call (.deprecateService key sunset replacement) now write)).Refines := by
  refine lifecycle_refines h _ hv _ rfl (fun ids result => rfl) now write ?_
  intro hkey
  obtain rfl : key = "__proto__" := hkey
  refine amend_proto h.replaced ?_
  simp only [Found.status, InheritedMember.seen, Changes.inFrontOf_empty, assign]
  by_cases hs : s.registry.assigned.status = some .retired
  · simp [hs, assignedValue]
  · have hstatus : assignedValue s.registry.assigned.status ≠ .value .retired :=
      fun heq => hs (assignedValue_eq_value.mp heq)
    simp [hs, hstatus]

theorem activate_refines (h : s.Refines) (key now : String) (write : Write)
    (hv : Validated v (.lifecycle (.activate key))) :
    (s.step (.call (.activate key) now write)).Refines := by
  refine lifecycle_refines h _ hv _ rfl (fun ids result => rfl) now write ?_
  intro hkey
  obtain rfl : key = "__proto__" := hkey
  refine amend_proto h.replaced ?_
  simp only [Found.status, InheritedMember.seen, Changes.inFrontOf_empty, assign, ne_eq,
    assignedValue_eq_value]
  by_cases hs : s.registry.assigned.status = some .proposed ∨
      s.registry.assigned.status = some .deprecated
  · rw [if_neg (by tauto), if_pos hs]
  · rw [if_pos (by tauto), if_neg hs]

theorem retire_refines (h : s.Refines) (key now : String) (write : Write)
    (hv : Validated v (.lifecycle (.retire key))) :
    (s.step (.call (.retire key) now write)).Refines := by
  refine lifecycle_refines h _ hv _ rfl (fun ids result => rfl) now write ?_
  intro hkey
  obtain rfl : key = "__proto__" := hkey
  exact amend_proto h.replaced rfl

theorem step_refines (h : s.Refines) (op : RegistryOperation)
    (hv : ∀ c now write, op = .call c now write → Validated v c.call) :
    (s.step op).Refines := by
  cases op with
  | call c now write =>
    cases c with
    | register m => exact register_refines h m now write (hv _ now write rfl)
    | deregister key => exact deregister_refines h key now write (hv _ now write rfl)
    | deprecateService key sunset replacement =>
      exact deprecateService_refines h key sunset replacement now write (hv _ now write rfl)
    | retire key => exact retire_refines h key now write (hv _ now write rfl)
    | activate key => exact activate_refines h key now write (hv _ now write rfl)
  | handleHealthChecks answers => exact sweep_refines h answers
  | loadFromRedis hash =>
    have hsame : s.registry.loadFromRedis hash = s.registry := by
      simp [RegistryService.loadFromRedis, h.redis]
    simp only [step, RegistryService.operate, hsame]
    exact ⟨h.redis, h.entries, h.keyed, h.assigned, h.replaced⟩
  | handleRedisDriftReconciliation compared loaded =>
    have hsame : s.registry.reconcile compared loaded = s.registry := by
      simp [RegistryService.reconcile, h.redis]
    simp only [step, RegistryService.operate, hsame]
    exact ⟨h.redis, h.entries, h.keyed, h.assigned, h.replaced⟩

/-- With the entries on record, only a name every object inherits is not looked up in them alone. -/
theorem Refines.actsAsMap_iff (h : s.Refines) (id : String) :
    s.ActsAsMap id ↔ id ∈ s.ids ∨ id ∉ objectPrototype ∧ s.assigned.property id = none := by
  have hinherits := RegistryService.inheritedMember_eq_none_iff h.replaced id
  rw [h.assigned] at hinherits
  constructor
  · intro hm
    by_cases hid : id ∈ s.ids
    · exact .inl hid
    · have hfind := absent_iff.mp (hm.missing hid)
      exact .inr (hinherits.mp ((RegistryService.find_none_iff _ _).mp hfind).2)
  · intro hor
    by_cases hid : id ∈ s.ids
    · obtain ⟨e, he⟩ := Option.isSome_iff_exists.mp ((h.entries id).mpr hid)
      have hf := RegistryService.find_of_get? he
      exact ⟨by simp [RegistryService.get, hf, hid], fun hn => absurd hid hn⟩
    · have hnone : s.registry.services.get? id = none := by
        rw [← Option.not_isSome_iff_eq_none, h.entries id]
        exact hid
      have hf : s.registry.find id = none :=
        (RegistryService.find_none_iff _ _).mpr ⟨hnone, hinherits.mpr (hor.resolve_left hid)⟩
      exact ⟨by simp [RegistryService.get, hf, hid], fun _ => absent_iff.mpr hf⟩

/-- In memory only, after every run, an id is looked up as in a finite map exactly when it is on
record, or is not one of the names every object inherits, be they built-in or assigned since. -/
theorem acts_as_map_iff (v : Validators) (as : List RegistryOperation)
    (hv : ∀ c now write, .call c now write ∈ as → Validated v c.call)
    (id : String) :
    (final step { registry := {} } as).ActsAsMap id ↔
      id ∈ (final step { registry := {} } as).ids ∨
        id ∉ objectPrototype ∧ (final step { registry := {} } as).assigned.property id = none := by
  have hstart : Refines { registry := {} } :=
    ⟨rfl, fun id => by simp, fun id e he => by simp at he, rfl, rfl⟩
  have hrun : (final step { registry := {} } as).Refines := by
    refine invariant_final (I := Refines)
      (G := fun _ op => ∀ c now write, op = .call c now write →
        Validated v c.call)
      (fun s op h hg => step_refines h op hg) hstart (always_of_forall _ fun op hop => ?_)
    intro c now write heq
    subst heq
    exact hv c now write hop
  exact hrun.actsAsMap_iff id

def anyUrl : Validators := ⟨fun _ => true, fun _ => true⟩

def ordersDto : ServiceManifestDto anyUrl where
  serviceId := "orders"
  name := "orders"
  baseUrl := "http://orders:1"
  requiredScopes := ["orders:read"]
  exposes := ["/orders"]
  accepted := by decide

def registerAndDeregister : List RegistryOperation :=
  [.call (.register ordersDto.toManifest) "t0" .acknowledged,
    .call (.deregister "orders") "t1" .acknowledged]

theorem acts_as_map_orders :
    (final step { registry := {} } registerAndDeregister).ActsAsMap "orders" := by
  refine (acts_as_map_iff anyUrl registerAndDeregister ?_ "orders").mpr
    (.inr ⟨by decide, by decide⟩)
  intro c now write hmem
  rcases List.mem_pair.mp hmem with heq | heq
  · cases heq
    exact .register ordersDto
  · cases heq
    exact .deregister "orders"

/-- A service named after a built-in member is found in an empty registry. -/
theorem constructor_is_found :
    ¬ ∀ (v : Validators) (as : List RegistryOperation),
      (∀ c now write, .call c now write ∈ as → Validated v c.call) →
      ∀ id, (final step { registry := {} } as).ActsAsMap id := by
  intro h
  have hmap := h anyUrl [] (by simp) "constructor"
  exact absurd (hmap.get.mp (by decide)) (by decide)

end Ledger

end ApiCenter
