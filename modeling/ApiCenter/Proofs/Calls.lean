import ApiCenter.Model.Lifecycle

namespace ApiCenter

/-- The status a lifecycle call sets; the health calls set none. -/
def LifecycleCall.sets? : LifecycleCall → Option ServiceLifecycleStatus
  | .deprecateService .. => some .deprecated
  | .retire _ => some .retired
  | .activate _ => some .active
  | .setHealthStatus .. | .touchHealthCheck _ => none

def RegistryCall.sets? : RegistryCall → Option ServiceLifecycleStatus
  | .lifecycle c => c.sets?
  | .register _ | .deregister _ => none

namespace Proofs.Calls

/-- The assignments a lifecycle call makes to what it finds. -/
inductive Moves (now : String) : LifecycleCall → Found → Changes → Prop
  | deprecateService {id : String} (h : found.status ≠ .value .retired) :
      Moves now (.deprecateService id sunset replacement) found
        (RegistryService.deprecateChanges sunset replacement now)
  | retire {id : String} : Moves now (.retire id) found (RegistryService.retireChanges now)
  | activate {id : String}
      (h : found.status = .value .proposed ∨ found.status = .value .deprecated) :
      Moves now (.activate id) found (RegistryService.activateChanges now)
  | setHealthStatus {id : String} (h : found.healthy.getD true ≠ healthy) :
      Moves now (.setHealthStatus id healthy) found (RegistryService.healthChanges healthy now)

/-- Everything a call can do to the map of services and send to Redis. -/
inductive Effect (r : RegistryService) (now : String) (write : Write) :
    RegistryCall → ServiceRegistryMap → Option RedisCommand → Prop
  | kept : Effect r now write c r.services none
  | registered {m : ServiceManifest}
      (ha : registerChecks (r.find m.serviceId) m = .ok previousVersion)
      (hw : r.redis = false ∨ write = .acknowledged) :
      Effect r now write (.register m)
        (r.services.set m.serviceId (buildEntry (r.find m.serviceId) m previousVersion now))
        (r.persistToRedis m.serviceId
          (.entry (buildEntry (r.find m.serviceId) m previousVersion now)))
  | rolledBack {m : ServiceManifest}
      (ha : registerChecks (r.find m.serviceId) m = .ok previousVersion)
      (hr : r.redis = true) (hw : write = .failed message) :
      Effect r now write (.register m)
        ((r.services.set m.serviceId
          (buildEntry (r.find m.serviceId) m previousVersion now)).delete m.serviceId)
        (r.persistToRedis m.serviceId
          (.entry (buildEntry (r.find m.serviceId) m previousVersion now)))
  | deregistered {id : String} (hf : r.find id = some found) :
      Effect r now write (.deregister id) (r.services.delete id) (r.removeFromRedis id)
  | moved (he : r.services.get? c.id = some e) (hm : Moves now c (.entry e) changes) :
      Effect r now write (.lifecycle c) (r.services.set c.id (changes.applyTo e))
        (r.persistToRedis c.id (.entry (changes.applyTo e)))
  | touched {id : String} (he : r.services.get? id = some e) :
      Effect r now write (.lifecycle (.touchHealthCheck id))
        (r.services.set id { e with lastHealthCheckAt := .value now }) none
  | movedMember (hf : r.find c.id = some (.member built))
      (hm : Moves now c (.member built) changes)
      (hk : ∀ type text, built.kind ≠ .primitive type text) :
      Effect r now write (.lifecycle c) r.services
        (r.persistToRedis c.id (.member (changes.applyToMember built)))

/-- What was found is no text or boolean, so that its properties can be assigned to. -/
def Assignable (found : Found) : Prop :=
  ∀ changes, ∃ assigned, found.assign changes = .ok assigned

theorem assignable_entry (e : ServiceRegistryEntry) : Assignable (.entry e) :=
  fun changes => ⟨.entry (changes.applyTo e), rfl⟩

theorem assignable_member {m : InheritedMember} (hk : ∀ type text, m.kind ≠ .primitive type text) :
    Assignable (.member m) := by
  intro changes
  refine ⟨.member (changes.applyToMember m), ?_⟩
  unfold Found.assign
  cases hkind : m.kind with
  | object | function => simp only [hkind]
  | primitive type text => exact absurd hkind (hk type text)

theorem assignable_of_ok {found assigned : Found} {changes : Changes}
    (h : found.assign changes = .ok assigned) : Assignable found := by
  cases found with
  | entry e => exact assignable_entry e
  | member m => exact assignable_member (RegistryService.assign_member_ok h).2

variable {r : RegistryService} {m : ServiceManifest} {id now : String} {write : Write}

theorem beginRegister_refused (now : String)
    (h : registerChecks (r.find m.serviceId) m = .error e) :
    r.beginRegister m now = .error e := by
  simp [RegistryService.beginRegister, h, bind, Except.bind]

theorem beginRegister_admitted (now : String)
    (h : registerChecks (r.find m.serviceId) m = .ok previousVersion) :
    r.beginRegister m now =
      .ok (r.putAndSync m.serviceId (buildEntry (r.find m.serviceId) m previousVersion now),
        ⟨m, buildEntry (r.find m.serviceId) m previousVersion now,
          (r.find m.serviceId).isSome, previousVersion⟩) := by
  simp [RegistryService.beginRegister, h, bind, Except.bind, pure, Except.pure]

theorem register_refused (now : String) (write : Write)
    (h : registerChecks (r.find m.serviceId) m = .error e) :
    r.register m now write = { registry := r, result := .error e } := by
  rw [RegistryService.register, beginRegister_refused now h]

theorem register_admitted (now : String) (write : Write)
    (h : registerChecks (r.find m.serviceId) m = .ok previousVersion) :
    r.register m now write =
      { (PendingRegister.resume ⟨m, buildEntry (r.find m.serviceId) m previousVersion now,
          (r.find m.serviceId).isSome, previousVersion⟩
          (r.putAndSync m.serviceId (buildEntry (r.find m.serviceId) m previousVersion now))
          write) with
        command := r.persistToRedis m.serviceId
          (.entry (buildEntry (r.find m.serviceId) m previousVersion now)) } := by
  rw [RegistryService.register, beginRegister_admitted now h]

/-- Up to its Redis write, an admitted registration only puts its entry in memory. -/
theorem beginRegister_ok {written : RegistryService} {pending : PendingRegister}
    (h : r.beginRegister m now = .ok (written, pending)) :
    written = r.putAndSync m.serviceId pending.entry ∧ pending.manifest = m ∧
      pending.entry.serviceId = m.serviceId := by
  obtain ⟨previousVersion, -, hput⟩ := bind_ok h
  cases hput
  exact ⟨rfl, rfl, rfl⟩

theorem register_stored (now : String) (write : Write)
    (h : registerChecks (r.find m.serviceId) m = .ok previousVersion)
    (hw : r.redis = false ∨ write = .acknowledged) :
    (r.register m now write).registry.services =
      r.services.set m.serviceId (buildEntry (r.find m.serviceId) m previousVersion now) ∧
    (r.register m now write).notified =
      (if (r.find m.serviceId).isSome then some m.serviceId else none) ∧
    (r.register m now write).result =
      .ok (buildEntry (r.find m.serviceId) m previousVersion now) := by
  rw [register_admitted _ _ h]
  rcases hw with hw | hw
  · simp [PendingRegister.resume, hw]
  · cases hr : r.redis <;> simp [PendingRegister.resume, hr, hw]

theorem register_rolledBack (now : String)
    (h : registerChecks (r.find m.serviceId) m = .ok previousVersion)
    (hr : r.redis = true) (hw : write = .failed message) :
    (r.register m now write).registry =
      (r.putAndSync m.serviceId
        (buildEntry (r.find m.serviceId) m previousVersion now)).deleteAndSync
        m.serviceId ∧
    (r.register m now write).notified = none ∧
    ∃ e, (r.register m now write).result = .error e := by
  rw [register_admitted _ _ h]
  simp [PendingRegister.resume, hr, hw]

/-- The strict write of an admitted registration either counts as done or fails. -/
theorem write_cases (r : RegistryService) (write : Write) :
    (r.redis = false ∨ write = .acknowledged) ∨
      r.redis = true ∧ ∃ message, write = .failed message := by
  cases hr : r.redis with
  | false => exact Or.inl (Or.inl rfl)
  | true =>
    cases write with
    | acknowledged => exact Or.inl (Or.inr rfl)
    | failed message => exact Or.inr ⟨rfl, message, rfl⟩

theorem register_effect : Effect r now write (.register m)
    (r.register m now write).registry.services (r.register m now write).command := by
  cases ha : registerChecks (r.find m.serviceId) m with
  | error e =>
    rw [register_refused _ _ ha]
    exact .kept
  | ok previousVersion =>
    have hc : (r.register m now write).command = r.persistToRedis m.serviceId
        (.entry (buildEntry (r.find m.serviceId) m previousVersion now)) := by
      rw [register_admitted _ _ ha]
    rw [hc]
    rcases write_cases r write with hw | ⟨hr, message, hw⟩
    · rw [(register_stored _ _ ha hw).1]
      exact .registered ha hw
    · rw [(register_rolledBack _ ha hr hw).1]
      exact .rolledBack ha hr hw

theorem deregister_effect : Effect r now write (.deregister id)
    (r.deregister id now).registry.services (r.deregister id now).command := by
  unfold RegistryService.deregister RegistryService.beginDeregister
  cases hf : r.find id with
  | none => exact .kept
  | some found => exact .deregistered hf

/-- Storing what was found with its assignments is one of the two `moved` effects. -/
theorem store_effect (write : Write) (hf : r.find c.id = some found)
    (hm : Moves now c found changes) (ha : found.assign changes = .ok assigned) :
    Effect r now write (.lifecycle c) (r.store c.id assigned).services
      (r.persistToRedis c.id assigned) := by
  cases found with
  | entry e =>
    cases ha
    exact .moved ((r.find_entry_iff c.id e).mp hf) hm
  | member built =>
    obtain ⟨rfl, hk⟩ := RegistryService.assign_member_ok ha
    rw [RegistryService.store_member_services]
    exact .movedMember hf hm hk

/-- A lifecycle call that gets through has chosen its assignments and made them. -/
theorem choose_assign_ok {found assigned : Found} {choose : Found → Except Thrown Changes}
    (h : (choose found >>= found.assign) = .ok assigned) :
    ∃ changes, choose found = .ok changes ∧ found.assign changes = .ok assigned := bind_ok h

theorem amend_effect
    (hm : ∀ found changes, choose found = .ok changes → Moves now c found changes) :
    Effect r now write (.lifecycle c) (r.amend c.id choose sync events).registry.services
      (r.amend c.id choose sync events).command := by
  unfold RegistryService.amend
  cases hf : r.find c.id with
  | none => exact .kept
  | some found =>
    cases hd : choose found >>= found.assign with
    | error e => simpa [hd] using .kept
    | ok assigned =>
      obtain ⟨changes, hc, ha⟩ := choose_assign_ok hd
      have h := store_effect write hf (hm found changes hc) ha
      cases sync <;> simpa [hd] using h

theorem setHealthStatus_effect : Effect r now write (.lifecycle (.setHealthStatus id healthy))
    (r.setHealthStatus id healthy now).registry.services
    (r.setHealthStatus id healthy now).command := by
  unfold RegistryService.setHealthStatus
  cases hf : r.find id with
  | none => exact .kept
  | some found =>
    by_cases hh : found.healthy.getD true = healthy
    · simpa [hh] using .kept
    · simp only [hh, ↓reduceIte]
      cases ha : found.assign (RegistryService.healthChanges healthy now) with
      | error e => exact .kept
      | ok assigned =>
        exact store_effect write (c := .setHealthStatus id healthy) hf (.setHealthStatus hh) ha

theorem touchHealthCheck_command (r : RegistryService) (id now : String) :
    (r.touchHealthCheck id now).command = none := by
  unfold RegistryService.touchHealthCheck
  cases r.find id with
  | none => rfl
  | some found =>
    cases ha : found.assign { lastHealthCheckAt := some now } <;> simp only [ha]

theorem touch_effect : Effect r now write (.lifecycle (.touchHealthCheck id))
    (r.touchHealthCheck id now).registry.services (r.touchHealthCheck id now).command := by
  rw [touchHealthCheck_command]
  unfold RegistryService.touchHealthCheck
  cases hf : r.find id with
  | none => exact .kept
  | some found =>
    cases found with
    | entry e => exact .touched ((r.find_entry_iff id e).mp hf)
    | member m =>
      cases ha : (Found.member m).assign { lastHealthCheckAt := some now } with
      | error e =>
        simp only [ha]
        exact .kept
      | ok assigned =>
        simp only [ha]
        obtain ⟨rfl, -⟩ := RegistryService.assign_member_ok ha
        rw [RegistryService.store_member_services]
        exact .kept

theorem lifecycle_effect (c : LifecycleCall) : Effect r now write (.lifecycle c)
    (r.lifecycle c now).registry.services (r.lifecycle c now).command := by
  cases c with
  | deprecateService id sunset replacement =>
    apply amend_effect (c := .deprecateService id sunset replacement)
    intro found changes h
    split at h
    · cases h
    · cases h
      exact .deprecateService (by assumption)
  | retire id =>
    apply amend_effect (c := .retire id)
    intro found changes h
    cases h
    exact .retire
  | activate id =>
    apply amend_effect (c := .activate id)
    intro found changes h
    split at h
    · cases h
    · rename_i hs
      cases h
      exact .activate (by tauto)
  | setHealthStatus id healthy => exact setHealthStatus_effect
  | touchHealthCheck id => exact touch_effect

theorem amend_redis {sync : Bool} :
    (r.amend id choose sync events).registry.redis = r.redis := by
  unfold RegistryService.amend
  cases r.find id with
  | none => rfl
  | some found =>
    cases hc : choose found >>= found.assign with
    | error e => simp [hc]
    | ok assigned => cases sync <;> simp [hc]

theorem lifecycle_redis (c : LifecycleCall) :
    (r.lifecycle c now).registry.redis = r.redis := by
  cases c with
  | deprecateService id sunset replacement => exact amend_redis
  | retire id => exact amend_redis
  | activate id => exact amend_redis
  | setHealthStatus id healthy =>
    simp only [RegistryService.lifecycle, Outcome.discard, RegistryService.setHealthStatus]
    cases r.find id with
    | none => rfl
    | some found =>
      by_cases hh : found.healthy.getD true = healthy
      · simp [hh]
      · cases ha : found.assign (RegistryService.healthChanges healthy now) <;> simp [hh, ha]
  | touchHealthCheck id =>
    simp only [RegistryService.lifecycle, RegistryService.touchHealthCheck]
    cases r.find id with
    | none => rfl
    | some found => cases ha : found.assign { lastHealthCheckAt := some now } <;> simp [ha]

/-- Later proofs about a call go by cases on this, not on the call's body. -/
theorem call_effect (r : RegistryService) (c : RegistryCall) (now : String) (write : Write) :
    Effect r now write c (r.call c now write).registry.services (r.call c now write).command := by
  cases c with
  | register m => exact register_effect
  | deregister id => exact deregister_effect
  | lifecycle c => exact lifecycle_effect c

theorem call_redis (r : RegistryService) (c : RegistryCall) (now : String) (write : Write) :
    (r.call c now write).registry.redis = r.redis := by
  cases c with
  | register m =>
    cases ha : registerChecks (r.find m.serviceId) m with
    | error e => simp [RegistryService.call, Outcome.discard, register_refused _ _ ha]
    | ok previousVersion =>
      simp only [RegistryService.call, Outcome.discard, register_admitted _ _ ha,
        PendingRegister.resume]
      split <;> simp
  | deregister id =>
    simp only [RegistryService.call, RegistryService.deregister, RegistryService.beginDeregister]
    cases r.find id <;> simp [RegistryService.completeDeregister]
  | lifecycle c => exact lifecycle_redis c

theorem lookup_persist_ne (r : RegistryService) (hash : RedisHash) {key : String} (h : id ≠ key)
    (found : Found) : (execute (r.persistToRedis key found) hash).lookup id = hash.lookup id := by
  rcases r.persistToRedis_cases key found with hp | hp
  · rw [hp]
    rfl
  · rw [hp]
    exact lookup_apply_ne _ hash h

theorem lookup_persist (hr : r.redis = true) (hash : RedisHash) (id : String) (found : Found) :
    (execute (r.persistToRedis id found) hash).lookup id = some found.stringify := by
  rw [RegistryService.persistToRedis_connected hr, execute_some, lookup_hset, if_pos rfl]

/-- A call leaves the entries and the fields of other ids alone. -/
theorem Effect.frame {c : RegistryCall} {services : ServiceRegistryMap}
    {command : Option RedisCommand} (h : Effect r now write c services command)
    (hid : id ≠ c.id) :
    services.get? id = r.services.get? id ∧
      ∀ hash, (execute command hash).lookup id = hash.lookup id := by
  cases h with
  | kept => exact ⟨rfl, fun hash => rfl⟩
  | registered ha hw =>
    exact ⟨PlainObject.get?_set_ne _ hid _, fun hash => lookup_persist_ne r hash hid _⟩
  | @rolledBack previousVersion message m ha hr hw =>
    have hne : id ≠ m.serviceId := hid
    refine ⟨?_, fun hash => lookup_persist_ne r hash hid _⟩
    rw [PlainObject.get?_delete, if_neg hne, PlainObject.get?_set_ne _ hne]
  | @deregistered found other hf =>
    have hne : id ≠ other := hid
    refine ⟨by rw [PlainObject.get?_delete, if_neg hne], fun hash => ?_⟩
    rcases r.removeFromRedis_cases other with hp | hp
    · rw [hp]
      rfl
    · rw [hp]
      exact lookup_apply_ne _ hash hid
  | moved he hm =>
    exact ⟨PlainObject.get?_set_ne _ hid _, fun hash => lookup_persist_ne r hash hid _⟩
  | touched he => exact ⟨PlainObject.get?_set_ne _ hid _, fun hash => rfl⟩
  | movedMember hf hm => exact ⟨rfl, fun hash => lookup_persist_ne r hash hid _⟩

theorem call_services_ne (r : RegistryService) (c : RegistryCall) (now : String) (write : Write)
    (hid : id ≠ c.id) : (r.call c now write).registry.services.get? id = r.services.get? id :=
  ((call_effect r c now write).frame hid).1

/-- Only what was assigned to the member found under `id` may change, with `status` as the status
assigned. -/
def KeepsMembers (id : String) (status : Option ServiceLifecycleStatus) (r r' : RegistryService) :
    Prop :=
  (r'.inherited = r.inherited ∧ r'.replaced = r.replaced) ∨
    ∃ (m : InheritedMember) (changes : Changes), r.find id = some (.member m) ∧
      (∀ type text, m.kind ≠ .primitive type text) ∧ changes.status = status ∧
      r'.inherited = (r.store id (.member (changes.applyToMember m))).inherited ∧
      r'.replaced = (r.store id (.member (changes.applyToMember m))).replaced

theorem store_members {found : Found} (hf : r.find id = some found) (changes : Changes)
    (ha : found.assign changes = .ok assigned) :
    KeepsMembers id changes.status r (r.store id assigned) := by
  cases found with
  | entry e =>
    cases ha
    exact .inl ⟨rfl, rfl⟩
  | member m =>
    obtain ⟨rfl, hk⟩ := RegistryService.assign_member_ok ha
    exact .inr ⟨m, changes, hf, hk, rfl, rfl, rfl⟩

theorem amend_members {sync : Bool}
    (hs : ∀ found changes, choose found = .ok changes → changes.status = status) :
    KeepsMembers id status r (r.amend id choose sync events).registry := by
  unfold RegistryService.amend
  cases hf : r.find id with
  | none => exact .inl ⟨rfl, rfl⟩
  | some found =>
    cases hc : choose found >>= found.assign with
    | error e =>
      simp only [hc]
      exact .inl ⟨rfl, rfl⟩
    | ok assigned =>
      obtain ⟨changes, hchosen, ha⟩ := choose_assign_ok hc
      simp only [hc, ← hs found changes hchosen]
      cases sync <;> exact store_members hf changes ha

theorem setHealthStatus_members (healthy : Bool) :
    KeepsMembers id none r (r.setHealthStatus id healthy now).registry := by
  unfold RegistryService.setHealthStatus
  cases hf : r.find id with
  | none => exact .inl ⟨rfl, rfl⟩
  | some found =>
    simp only
    split
    · exact .inl ⟨rfl, rfl⟩
    · cases ha : found.assign (RegistryService.healthChanges healthy now) with
      | error e => exact .inl ⟨rfl, rfl⟩
      | ok assigned => exact store_members hf (RegistryService.healthChanges healthy now) ha

theorem touchHealthCheck_members : KeepsMembers id none r (r.touchHealthCheck id now).registry := by
  unfold RegistryService.touchHealthCheck
  cases hf : r.find id with
  | none => exact .inl ⟨rfl, rfl⟩
  | some found =>
    cases ha : found.assign { lastHealthCheckAt := some now } with
    | error e =>
      simp only [ha]
      exact .inl ⟨rfl, rfl⟩
    | ok assigned =>
      simp only [ha]
      exact store_members hf { lastHealthCheckAt := some now } ha

theorem register_inherits (r : RegistryService) (m : ServiceManifest) (now : String)
    (write : Write) : (r.register m now write).registry.inherited = r.inherited ∧
      (r.register m now write).registry.replaced = r.replaced := by
  cases ha : registerChecks (r.find m.serviceId) m with
  | error e => simp [register_refused _ _ ha]
  | ok previousVersion =>
    simp only [register_admitted _ _ ha, PendingRegister.resume]
    split <;> exact ⟨rfl, rfl⟩

theorem deregister_inherits (r : RegistryService) (id now : String) :
    (r.deregister id now).registry.inherited = r.inherited ∧
      (r.deregister id now).registry.replaced = r.replaced := by
  simp only [RegistryService.deregister, RegistryService.beginDeregister]
  cases r.find id <;> exact ⟨rfl, rfl⟩

theorem call_members (r : RegistryService) (c : RegistryCall) (now : String) (write : Write) :
    KeepsMembers c.id c.sets? r (r.call c now write).registry := by
  cases c with
  | register m => exact .inl (register_inherits r m now write)
  | deregister id => exact .inl (deregister_inherits r id now)
  | lifecycle c =>
    cases c with
    | deprecateService id sunset replacement =>
      refine amend_members fun found changes h => ?_
      split at h <;> cases h
      rfl
    | retire id =>
      refine amend_members fun found changes h => ?_
      cases h
      rfl
    | activate id =>
      refine amend_members fun found changes h => ?_
      split at h <;> cases h
      rfl
    | setHealthStatus id healthy => exact setHealthStatus_members healthy
    | touchHealthCheck id => exact touchHealthCheck_members

theorem KeepsMembers.lookup_ne {r r' : RegistryService} {key : String}
    (h : KeepsMembers key status r r') (hid : id ≠ key) :
    r'.inherited.lookup id = r.inherited.lookup id := by
  rcases h with ⟨hi, -⟩ | ⟨m, changes, -, -, -, hi, -⟩
  · rw [hi]
  · rw [hi]
    rcases r.store_member_cases key (changes.applyToMember m) with ⟨-, h⟩ | h
    · rw [h]
    · rw [h]
      exact AList.lookup_insert_ne hid

theorem KeepsMembers.replaced_ne {r r' : RegistryService} {key : String}
    (h : KeepsMembers key status r r') (hkey : key ≠ "__proto__") : r'.replaced = r.replaced := by
  rcases h with ⟨-, hr⟩ | ⟨m, changes, -, -, -, -, hr⟩
  · exact hr
  · rw [hr]
    simp [RegistryService.store, hkey]

theorem KeepsMembers.assigned_ne {r r' : RegistryService} {key : String}
    (h : KeepsMembers key status r r') (hkey : key ≠ "__proto__") : r'.assigned = r.assigned := by
  rw [RegistryService.assigned, h.lookup_ne hkey.symm, ← RegistryService.assigned]

/-- A call on an id that is no built-in name leaves what is inherited as it was. -/
theorem call_inherits_same (hp : r.Pristine) (c : RegistryCall) (hid : c.id ∉ objectPrototype)
    (now : String) (write : Write) :
    (r.call c now write).registry.inherited = r.inherited ∧
      (r.call c now write).registry.replaced = r.replaced := by
  rcases call_members r c now write with hsame | ⟨m, changes, hf, -⟩
  · exact hsame
  · exact absurd (hp.mem_of_find_member hf) hid

theorem call_pristine (hp : r.Pristine) (c : RegistryCall) (hid : c.id ∉ objectPrototype)
    (now : String) (write : Write) : (r.call c now write).registry.Pristine := by
  obtain ⟨hi, hr⟩ := call_inherits_same hp c hid now write
  exact ⟨by rw [RegistryService.assigned, hi, ← RegistryService.assigned, hp.assigned],
    hr.trans hp.replaced⟩

theorem call_lookup_ne (r : RegistryService) (c : RegistryCall) (now : String) (write : Write)
    (hid : id ≠ c.id) (hash : RedisHash) :
    (execute (r.call c now write).command hash).lookup id = hash.lookup id :=
  ((call_effect r c now write).frame hid).2 hash

/-- The manifest of the fixed runs: a tribe service at `baseUrl`. -/
def manifestOf (serviceId baseUrl version : String) : ServiceManifest where
  serviceId := serviceId
  name := serviceId
  baseUrl := baseUrl
  requiredScopes := ["orders:read"]
  exposes := ["/orders"]
  consumes := []
  serviceType := .value .tribe
  version := .value version

end Proofs.Calls

end ApiCenter
