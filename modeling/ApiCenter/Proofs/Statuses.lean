import ApiCenter.Proofs.Calls

namespace ApiCenter

/-- The status of what `this.services[id]` gives. -/
def RegistryService.statusOf (r : RegistryService) (id : String) :
    Option (Optional ServiceLifecycleStatus) :=
  (r.find id).map Found.status

/-- The status something has by itself: `Object.prototype` lends its own to every other member. -/
def Found.heldStatus : Found → Option ServiceLifecycleStatus
  | .entry e => some e.status
  | .member m =>
    match m.kind with
    | .object => m.seen.status
    | .function => m.own.status
    | .primitive .. => none

def RegistryService.heldStatusOf (r : RegistryService) (id : String) :
    Option ServiceLifecycleStatus :=
  (r.find id).bind Found.heldStatus

namespace Proofs.Statuses
open Calls

variable {r : RegistryService} {id now : String} {status : ServiceLifecycleStatus}

theorem heldStatus_assign {found assigned : Found} {changes : Changes}
    (ha : found.assign changes = .ok assigned) :
    assigned.heldStatus = changes.status.or found.heldStatus := by
  cases found with
  | entry e =>
    cases ha
    cases h : changes.status <;> simp [Found.heldStatus, Changes.applyTo, h]
  | member m =>
    obtain ⟨rfl, hk⟩ := RegistryService.assign_member_ok ha
    unfold Found.heldStatus
    cases hkind : m.kind with
    | object =>
      simp [Changes.applyToMember, hkind, InheritedMember.seen, Changes.inFrontOf, Option.or_assoc]
    | function => simp [Changes.applyToMember, hkind, Changes.inFrontOf]
    | primitive type text => exact absurd hkind (hk type text)

theorem status_of_held {found : Found} (h : found.heldStatus = some status) :
    found.status = .value status := by
  cases found with
  | entry e =>
    cases h
    rfl
  | member m =>
    unfold Found.heldStatus at h
    cases hkind : m.kind with
    | object =>
      simp only [hkind] at h
      simp [Found.status, h, assignedValue]
    | function =>
      simp only [hkind] at h
      simp [Found.status, InheritedMember.seen, Changes.inFrontOf, h, assignedValue]
    | primitive type text => simp [hkind] at h

theorem statusOf_of_held (h : r.heldStatusOf id = some status) :
    r.statusOf id = some (.value status) := by
  obtain ⟨found, hf, hs⟩ := Option.bind_eq_some_iff.mp h
  rw [RegistryService.statusOf, hf, Option.map_some, status_of_held hs]

/-- Where the status held under a name comes from. -/
theorem heldStatusOf_eq (r : RegistryService) (id : String) :
    r.heldStatusOf id =
      match r.services.get? id with
      | some e => some e.status
      | none =>
        if id = "__proto__" then r.prototype.seen.status
        else if id ∈ objectPrototype then ((r.inherited.lookup id).getD {}).status
        else none := by
  unfold RegistryService.heldStatusOf RegistryService.find
  cases r.services.get? id with
  | some e => rfl
  | none =>
    simp only
    unfold RegistryService.inheritedMember
    split
    · simp only [Option.map_some, Option.bind_some, Found.heldStatus]
      unfold RegistryService.prototype
      cases r.replaced <;> rfl
    · split
      · rfl
      · cases hp : r.prototype.seen.property id with
        | none => rfl
        | some kind =>
          obtain ⟨type, text, rfl⟩ := Changes.property_primitive hp
          rfl

/-- A call on another id leaves the status held under `id`. -/
theorem heldStatusOf_call_ne (c : RegistryCall) (write : Write) (hid : id ≠ c.id) :
    (r.call c now write).registry.heldStatusOf id = r.heldStatusOf id := by
  have hmembers := call_members r c now write
  rw [heldStatusOf_eq, heldStatusOf_eq, call_services_ne r c now write hid, hmembers.lookup_ne hid]
  cases r.services.get? id with
  | some e => rfl
  | none =>
    by_cases hproto : id = "__proto__"
    · subst hproto
      simp only [RegistryService.prototype, RegistryService.assigned, hmembers.lookup_ne hid,
        hmembers.replaced_ne (Ne.symm hid)]
    · simp only [hproto, if_false]

/-- A call that sets no status leaves the one assigned to `Object.prototype`. -/
theorem assigned_status_call {c : RegistryCall} (write : Write)
    (hc : c.id = "__proto__" → c.sets? = none) :
    (r.call c now write).registry.assigned.status = r.assigned.status := by
  have hmembers := call_members r c now write
  by_cases hid : c.id = "__proto__"
  · rw [hid, hc hid] at hmembers
    rcases hmembers with ⟨hi, -⟩ | ⟨m, changes, hf, hk, hs, hi, hr⟩
    · rw [RegistryService.assigned, hi, ← RegistryService.assigned]
    · rw [RegistryService.assigned, hi]
      obtain ⟨-, hm⟩ := (r.find_member_iff _ m).mp hf
      cases hm
      cases hrep : r.replaced with
      | some own => simp [RegistryService.store, hrep, RegistryService.assigned]
      | none =>
        simp [RegistryService.store, hrep, RegistryService.prototype, Changes.applyToMember,
          Changes.inFrontOf, hs]
  · rw [RegistryService.assigned, hmembers.lookup_ne (Ne.symm hid), ← RegistryService.assigned]

/-- What is stored under `id` is what the next look at `id` finds. -/
theorem find_store_assign {found assigned : Found} {changes : Changes} (h : r.find id = some found)
    (ha : found.assign changes = .ok assigned) : (r.store id assigned).find id = some assigned := by
  cases found with
  | entry e =>
    cases ha
    have he := (r.find_entry_iff id e).mp h
    apply RegistryService.find_of_get?
    exact PlainObject.get?_set_self _ (PlainObject.ne_proto_of_get? he) _
  | member m =>
    obtain ⟨rfl, hk⟩ := RegistryService.assign_member_ok ha
    exact RegistryService.find_store_member changes h hk

/-- What a lifecycle call does to what it finds, and the write that goes with it. -/
inductive Result (r : RegistryService) (c : LifecycleCall) (out : Outcome Unit) : Prop where
  | refused (hr : out = { registry := r, result := .error e })
  | unsent (hs : c.sets? = none) (hf : out.registry.heldStatusOf c.id = r.heldStatusOf c.id)
      (hc : out.command = none)
  | assigned (hf : r.find c.id = some found) (hf' : out.registry.find c.id = some found')
      (hs : found'.heldStatus = c.sets?.or found.heldStatus)
      (hc : out.command = r.persistToRedis c.id found')

theorem amend_result {c : LifecycleCall} {choose : Found → Except Thrown Changes} {sync : Bool}
    {events : Found → List KafkaMessage}
    (hs : ∀ found changes, choose found = .ok changes → changes.status = c.sets?) :
    Result r c (r.amend c.id choose sync events).discard := by
  unfold RegistryService.amend
  cases hf : r.find c.id with
  | none => exact .refused rfl
  | some found =>
    cases hc : choose found >>= found.assign with
    | error e =>
      simp only [hc]
      exact .refused rfl
    | ok assigned =>
      obtain ⟨changes, hchosen, ha⟩ := choose_assign_ok hc
      simp only [hc]
      refine Result.assigned hf ?_ ?_ rfl
      · have hfound := find_store_assign hf ha
        cases sync <;> exact hfound
      · rw [heldStatus_assign ha, hs found changes hchosen]

theorem lifecycle_result (r : RegistryService) (c : LifecycleCall) (now : String) :
    Result r c (r.lifecycle c now) := by
  cases c with
  | deprecateService id sunset replacement =>
    apply amend_result (c := .deprecateService id sunset replacement)
    intro found changes h
    split at h <;> cases h
    rfl
  | retire id =>
    apply amend_result (c := .retire id)
    intro found changes h
    cases h
    rfl
  | activate id =>
    apply amend_result (c := .activate id)
    intro found changes h
    split at h <;> cases h
    rfl
  | setHealthStatus id healthy =>
    simp only [RegistryService.lifecycle, RegistryService.setHealthStatus]
    cases hf : r.find id with
    | none => exact .unsent rfl rfl rfl
    | some found =>
      by_cases hh : found.healthy.getD true = healthy
      · simp only [hh, if_true]
        exact .unsent rfl rfl rfl
      · simp only [hh, if_false]
        cases ha : found.assign (RegistryService.healthChanges healthy now) with
        | error e => exact .refused rfl
        | ok assigned => exact .assigned hf (find_store_assign hf ha) (heldStatus_assign ha) rfl
  | touchHealthCheck id =>
    simp only [RegistryService.lifecycle, RegistryService.touchHealthCheck]
    cases hf : r.find id with
    | none => exact .unsent rfl rfl rfl
    | some found =>
      cases ha : found.assign { lastHealthCheckAt := some now } with
      | error e =>
        simp only [ha]
        exact .refused rfl
      | ok assigned =>
        simp only [ha]
        refine .unsent rfl ?_ rfl
        simp [RegistryService.heldStatusOf, LifecycleCall.id, find_store_assign hf ha, hf,
          heldStatus_assign ha]

/-- A health call at most assigns to its entry, and neither the status nor the notice. -/
theorem health_services {l : LifecycleCall} (now : String) (hs : l.sets? = none) :
    (r.lifecycle l now).registry.services = r.services ∨
      ∃ e, ∃ changes : Changes, r.services.get? l.id = some e ∧
        (r.lifecycle l now).registry.services = r.services.set l.id (changes.applyTo e) ∧
        changes.status = none ∧ changes.sunsetDate = none ∧ changes.replacementService = none := by
  have heff : Effect r now .acknowledged (.lifecycle l) (r.lifecycle l now).registry.services
      (r.lifecycle l now).command := lifecycle_effect l
  generalize (r.lifecycle l now).registry.services = services at heff ⊢
  generalize (r.lifecycle l now).command = command at heff
  cases heff with
  | kept | movedMember => exact .inl rfl
  | moved he hm =>
    cases hm with
    | setHealthStatus h => exact .inr ⟨_, _, he, rfl, rfl, rfl, rfl⟩
    | deprecateService h => cases hs
    | retire => cases hs
    | activate h => cases hs
  | touched he => exact .inr ⟨_, { lastHealthCheckAt := some now }, he, rfl, rfl, rfl, rfl⟩

/-- With the built-in names alone inherited, every member takes assignments. -/
theorem assignable_pristine {found : Found} (hp : r.Pristine) (hf : r.find id = some found) :
    Assignable found := by
  cases found with
  | entry e => exact assignable_entry e
  | member m =>
    obtain ⟨-, hm⟩ := (r.find_member_iff id m).mp hf
    have hid := hp.mem_of_find_member hf
    refine assignable_member fun type text hk => ?_
    unfold RegistryService.inheritedMember at hm
    split at hm
    · cases hm
      simp [RegistryService.prototype, hp.replaced] at hk
    · cases hm
      cases hk

theorem health_result {l : LifecycleCall} (now : String) (hs : l.sets? = none)
    (hp : r.Pristine) : (r.lifecycle l now).result = .ok () := by
  cases l with
  | deprecateService | retire | activate => cases hs
  | touchHealthCheck id =>
    simp only [RegistryService.lifecycle, RegistryService.touchHealthCheck]
    cases hf : r.find id with
    | none => rfl
    | some found =>
      obtain ⟨assigned, ha⟩ := assignable_pristine hp hf { lastHealthCheckAt := some now }
      simp only [ha]
  | setHealthStatus id healthy =>
    simp only [RegistryService.lifecycle, RegistryService.setHealthStatus]
    cases hf : r.find id with
    | none => rfl
    | some found =>
      obtain ⟨assigned, ha⟩ := assignable_pristine hp hf (RegistryService.healthChanges healthy now)
      by_cases hh : found.healthy.getD true = healthy <;> simp only [hh, ha] <;> rfl

end Proofs.Statuses

end ApiCenter
