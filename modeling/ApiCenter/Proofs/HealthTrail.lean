import ApiCenter.Library.Histories
import ApiCenter.Proofs.Messages
import ApiCenter.Proofs.Statuses

namespace ApiCenter.Proofs.HealthTrail
open Library ApiCenter.Library.Runs ApiCenter.Library.Histories Calls Messages Statuses

/-- The health changes announced for `id`, from the flag before to the flag after. -/
def healthEvents (id : String) (messages : List KafkaMessage) : List (Bool × Bool) :=
  messages.filterMap fun
    | .serviceHealthChanged serviceId healthy previousHealthy _ _ =>
      if serviceId = id then some (previousHealthy, healthy) else none
    | _ => none

/-- `entry.healthy`, which counts as set until something says otherwise. -/
def flag (id : String) (r : RegistryService) : Bool :=
  (r.find id).elim true (·.healthy.getD true)

/-- The events for `id` alternate, start from healthy and lead to the current flag. -/
def EventsReplay (id : String) (r : RegistryService) : Prop :=
  Trail true (healthEvents id r.published) (flag id r)

def Registered (id : String) (r : RegistryService) : Prop := (r.services.get? id).isSome = true

def StaysRegistered (id : String) (r : RegistryService) (op : RegistryOperation) : Prop :=
  Registered id r → Registered id (r.operate op)

instance (id : String) (r : RegistryService) (op : RegistryOperation) :
    Decidable (StaysRegistered id r op) :=
  inferInstanceAs (Decidable (_ = true → _ = true))

/-- `id` is not registered again while it is unhealthy, and no reload brings it another flag. -/
def KeepsFlag (id : String) : RegistryService → RegistryOperation → Prop :=
  RegistryService.Meets
    (fun r c write => ∀ m, c = .register m → m.serviceId = id → RegisterSucceeds r m write →
      flag id r = true)
    fun r hash => ∀ e, (RegistryService.getRedisEntries hash).get? id = some e →
      e.healthy.getD true = flag id r

variable {r : RegistryService} {id now : String} {write : Write} {op : RegistryOperation}
  {m : ServiceManifest}

@[simp] theorem healthEvents_append (id : String) (ms ms' : List KafkaMessage) :
    healthEvents id (ms ++ ms') = healthEvents id ms ++ healthEvents id ms' :=
  List.filterMap_append

theorem flag_eq (h : r'.find id = r.find id) : flag id r' = flag id r := by
  unfold flag
  rw [h]

/-- The flag is the service's own: what is inherited from `Object.prototype` has none. -/
theorem flag_own (hid : id ≠ "__proto__") (r : RegistryService) :
    flag id r =
      match r.services.get? id with
      | some e => e.healthy.getD true
      | none =>
        if id ∈ objectPrototype then
          (assignedValue ((r.inherited.lookup id).getD {}).healthy).getD true
        else true := by
  unfold flag RegistryService.find
  cases r.services.get? id with
  | some e => rfl
  | none =>
    simp only [RegistryService.inheritedMember, hid, if_false]
    split
    · rfl
    · cases r.prototype.seen.property id <;> rfl

theorem flag_congr (hid : id ≠ "__proto__") (hs : r'.services.get? id = r.services.get? id)
    (hi : r'.inherited.lookup id = r.inherited.lookup id) : flag id r' = flag id r := by
  rw [flag_own hid, flag_own hid, hs, hi]

theorem healthy_assign {found assigned : Found} {changes : Changes}
    (ha : found.assign changes = .ok assigned) :
    assigned.healthy = (changes.healthy.map .value).getD found.healthy := by
  cases found with
  | entry e =>
    cases ha
    rfl
  | member m =>
    obtain ⟨rfl, -⟩ := RegistryService.assign_member_ok ha
    cases h : changes.healthy <;>
      simp [Found.healthy, Changes.applyToMember, Changes.inFrontOf, assignedValue, h]

/-- Clients' calls announce nothing about the health of a service. -/
theorem sends_healthEvents {c : ClientCall} {out : Outcome Unit} (h : Sends r now out c ms)
    (id : String) : healthEvents id ms = [] := by
  cases h with
  | refused | deregistered | deprecated | retired | activated => rfl
  | registered hr ha =>
    simp only [PendingRegister.events]
    split
    · split <;> rfl
    · rfl

theorem call_healthEvents (r : RegistryService) (c : ClientCall) (now : String) (write : Write)
    (id : String) :
    healthEvents id (r.call c.call now write).registry.published = healthEvents id r.published := by
  obtain ⟨ms, hp, hs⟩ := call_sends r c now write
  rw [hp, healthEvents_append, sends_healthEvents hs, List.append_nil]

/-- A client's lifecycle call leaves the flag of every service alone. -/
theorem amend_flag {choose : Found → Except Thrown Changes} {sync : Bool}
    {events : Found → List KafkaMessage}
    (hk : ∀ found changes, choose found = .ok changes → changes.healthy = none) (id : String) :
    flag id (r.amend id choose sync events).registry = flag id r := by
  unfold RegistryService.amend
  cases hf : r.find id with
  | none => rfl
  | some found =>
    cases hc : choose found >>= found.assign with
    | error t => simp only [hc]
    | ok assigned =>
      obtain ⟨changes, hchosen, ha⟩ := choose_assign_ok hc
      simp only [hc]
      have hflag : flag id (r.store id assigned) = flag id r := by
        simp only [flag, find_store_assign hf ha, hf, Option.elim, healthy_assign ha,
          hk found changes hchosen, Option.map_none, Option.getD_none]
      cases sync <;> exact hflag

/-- An accepted registration writes a new entry, which says nothing about its health. -/
theorem register_flag (hs : RegisterSucceeds r m write) (hid : m.serviceId ≠ "__proto__") :
    flag m.serviceId (r.register m now write).registry = true := by
  obtain ⟨⟨previousVersion, ha⟩, hw⟩ := hs
  have hentry : (r.register m now write).registry.services.get? m.serviceId =
      some (buildEntry (r.find m.serviceId) m previousVersion now) := by
    rw [(register_stored now write ha hw).1, PlainObject.get?_set_self _ hid]
  simp only [flag, RegistryService.find_of_get? hentry]
  rfl

/-- A registration that does not come to its end, of a service that stays where it is. -/
theorem register_fails_flag (hs : ¬ RegisterSucceeds r m write)
    (hstay : Registered m.serviceId r →
      Registered m.serviceId (r.register m now write).registry) :
    flag m.serviceId (r.register m now write).registry = flag m.serviceId r := by
  cases ha : registerChecks (r.find m.serviceId) m with
  | error t => rw [register_refused now write ha]
  | ok previousVersion =>
    rcases write_cases r write with hw | ⟨hr, message, hw⟩
    · exact absurd ⟨⟨previousVersion, ha⟩, hw⟩ hs
    · apply flag_eq
      have hreg := (register_rolledBack now ha hr hw).1
      have hgone : (r.register m now write).registry.services.get? m.serviceId = none := by
        rw [hreg, RegistryService.deleteAndSync_services, PlainObject.get?_delete, if_pos rfl]
      have hold : r.services.get? m.serviceId = none := by
        by_contra hold
        have hstored := hstay (Option.isSome_iff_ne_none.mpr hold)
        simp [Registered, hgone] at hstored
      simp only [RegistryService.find, hgone, hold]
      rw [hreg]
      rfl

theorem deregister_flag
    (hstay : Registered id r → Registered id (r.deregister id now).registry) :
    flag id (r.deregister id now).registry = flag id r := by
  cases hf : r.find id with
  | none => simp only [RegistryService.deregister, RegistryService.beginDeregister, hf]
  | some found =>
    have hreg : (r.deregister id now).registry =
        (r.deleteAndSync id).completeDeregister id now := by
      simp only [RegistryService.deregister, RegistryService.beginDeregister, hf]
    have hgone : (r.deregister id now).registry.services.get? id = none := by
      rw [hreg]
      exact (PlainObject.get?_delete r.services id id).trans (if_pos rfl)
    have hold : r.services.get? id = none := by
      by_contra hold
      have hstored := hstay (Option.isSome_iff_ne_none.mpr hold)
      simp [Registered, hgone] at hstored
    apply flag_eq
    simp only [RegistryService.find, hgone, hold]
    rw [hreg]
    rfl

/-- A call that neither registers `id` anew nor takes it away leaves its flag alone. -/
theorem call_flag (hproto : id ≠ "__proto__") (c : ClientCall)
    (hs : ∀ m, c = .register m → m.serviceId = id → ¬ RegisterSucceeds r m write)
    (hstay : Registered id r → Registered id (r.call c.call now write).registry) :
    flag id (r.call c.call now write).registry = flag id r := by
  by_cases hid : id = c.call.id
  · subst hid
    cases c with
    | register m => exact register_fails_flag (hs m rfl rfl) hstay
    | deregister key => exact deregister_flag hstay
    | deprecateService key sunset replacement =>
      refine amend_flag ?_ key
      intro found changes h
      split at h <;> cases h
      rfl
    | retire key =>
      refine amend_flag ?_ key
      intro found changes h
      cases h
      rfl
    | activate key =>
      refine amend_flag ?_ key
      intro found changes h
      split at h <;> cases h
      rfl
  · exact flag_congr hproto (call_services_ne r c.call now write hid)
      ((call_members r c.call now write).lookup_ne hid)

theorem store_flag_ne (hproto : id ≠ "__proto__") {key : String} (found : Found) (h : id ≠ key) :
    flag id (r.store key found) = flag id r := by
  cases found with
  | entry e => exact flag_congr hproto (PlainObject.get?_set_ne _ h _) rfl
  | member m =>
    refine flag_congr hproto (by rw [RegistryService.store_member_services]) ?_
    rcases r.store_member_cases key m with ⟨-, hstore⟩ | hstore
    · rw [hstore]
    · rw [hstore]
      exact AList.lookup_insert_ne h

/-- The end of a health check announces the change of the flag it makes, and no other. -/
theorem ownCheck_replay (h : EventsReplay id r) (hf : r.find id = some found)
    (response : HealthResponse) (now : String) :
    EventsReplay id (r.endHealthCheck id response now).registry := by
  have hold : flag id r = found.healthy.getD true := by simp [flag, hf]
  have hchecked := endHealthCheck_checked hf response now
  generalize (r.endHealthCheck id response now).registry = r' at hchecked ⊢
  cases hchecked with
  | refused => exact h
  | @touched assigned hh ha =>
    have hflag : flag id (r.store id assigned) = flag id r := by
      rw [hold, flag, find_store_assign hf ha]
      simp [healthy_assign ha]
    unfold EventsReplay
    rw [RegistryService.store_published, hflag]
    exact h
  | @flipped assigned hh ha =>
    have hflag : flag id ((r.store id assigned).publish
          [.serviceHealthChanged id response.healthy (!response.healthy) response.reason now])
        = response.healthy := by
      change flag id (r.store id assigned) = response.healthy
      rw [flag, find_store_assign hf ha]
      simp [healthy_assign ha, RegistryService.healthChanges]
    unfold EventsReplay
    rw [hflag, RegistryService.publish_published, RegistryService.store_published,
      healthEvents_append, Trail.append_iff h, hold]
    simp only [healthEvents, List.filterMap_cons, List.filterMap_nil, if_true, Trail, and_true]
    revert hh
    cases found.healthy.getD true <;> cases response.healthy <;> simp

/-- A check of another service says nothing about this one. -/
theorem otherCheck_replay (hproto : id ≠ "__proto__") (h : EventsReplay id r) (hid : id ≠ key)
    (hf : r.find key = some found) (response : HealthResponse) (now : String) :
    EventsReplay id (r.endHealthCheck key response now).registry := by
  have hflag (found' : Found) : flag id (r.store key found') = flag id r :=
    store_flag_ne hproto found' hid
  have hchecked := endHealthCheck_checked hf response now
  generalize (r.endHealthCheck key response now).registry = r' at hchecked ⊢
  unfold EventsReplay at h ⊢
  cases hchecked with
  | refused => exact h
  | touched hh ha =>
    rw [RegistryService.store_published, hflag]
    exact h
  | flipped hh ha =>
    rw [RegistryService.publish_published, RegistryService.store_published, healthEvents_append]
    simp only [healthEvents, List.filterMap_cons, List.filterMap_nil, Ne.symm hid, if_false,
      List.append_nil]
    exact (hflag _).symm ▸ h

theorem endHealthCheck_replay (hproto : id ≠ "__proto__") (h : EventsReplay id r) (key : String)
    (response : HealthResponse) (now : String) :
    EventsReplay id (r.endHealthCheck key response now).registry := by
  cases hf : r.find key with
  | none => rwa [endHealthCheck_unknown hf]
  | some found =>
    by_cases hid : id = key
    · subst hid
      exact ownCheck_replay h hf response now
    · exact otherCheck_replay hproto h hid hf response now

/-- A step that announces nothing about `id` keeps the replay exactly if it keeps the flag. -/
theorem replay_iff_flag (h : EventsReplay id r)
    (hp : healthEvents id r'.published = healthEvents id r.published) :
    EventsReplay id r' ↔ flag id r' = flag id r := by
  unfold EventsReplay at h ⊢
  rw [hp]
  constructor
  · exact fun h' => h'.end_unique h
  · intro heq
    rwa [heq]

theorem load_flag (hproto : id ≠ "__proto__") (r : RegistryService) (hash : RedisHash) :
    flag id (r.loadEntries hash) =
      ((RegistryService.getRedisEntries hash).get? id).elim (flag id r)
        (·.healthy.getD true) := by
  cases hread : (RegistryService.getRedisEntries hash).get? id with
  | none =>
    refine flag_congr hproto ?_ rfl
    rw [RegistryService.get?_loadEntries, hread]
    rfl
  | some e =>
    have hentry : (r.loadEntries hash).services.get? id = some e := by
      rw [RegistryService.get?_loadEntries, hread]
      rfl
    rw [flag, RegistryService.find_of_get? hentry]
    rfl

theorem call_replay_iff (hid : id ≠ "__proto__") (h : EventsReplay id r) (c : ClientCall)
    (hstay : StaysRegistered id r (.call c now write)) :
    EventsReplay id (r.call c.call now write).registry ↔
      ∀ m, c = .register m → m.serviceId = id → RegisterSucceeds r m write →
        flag id r = true := by
  rw [replay_iff_flag h (call_healthEvents r c now write id)]
  by_cases hs : ∃ m, c = .register m ∧ m.serviceId = id ∧ RegisterSucceeds r m write
  · obtain ⟨m, rfl, rfl, hs⟩ := hs
    have hflag : flag m.serviceId (r.call (.register m) now write).registry = true :=
      register_flag hs hid
    constructor
    · intro heq m' hm' hid' hs'
      exact heq.symm.trans hflag
    · intro hk
      exact hflag.trans (hk m rfl rfl hs).symm
  · have hno : ∀ m, c = .register m → m.serviceId = id → ¬ RegisterSucceeds r m write :=
      fun m hc hm hs' => hs ⟨m, hc, hm, hs'⟩
    exact iff_of_true (call_flag hid c hno hstay)
      fun m hc hm hs' => absurd hs' (hno m hc hm)

theorem load_replay_iff (hid : id ≠ "__proto__") (h : EventsReplay id r) (hash : RedisHash) :
    EventsReplay id (r.loadEntries hash) ↔
      ∀ e, (RegistryService.getRedisEntries hash).get? id = some e →
        e.healthy.getD true = flag id r := by
  have hp : healthEvents id (r.loadEntries hash).published = healthEvents id r.published := rfl
  rw [replay_iff_flag h hp, load_flag hid]
  cases (RegistryService.getRedisEntries hash).get? id <;> simp

theorem operate_replay_iff (hid : id ≠ "__proto__") (h : EventsReplay id r)
    (hstay : StaysRegistered id r op) :
    EventsReplay id (r.operate op) ↔ KeepsFlag id r op := by
  refine RegistryService.operate_iff h (fun c now write heq => ?_)
    (fun r key response now h => endHealthCheck_replay hid h key response now)
    (load_replay_iff hid h)
  subst heq
  exact call_replay_iff hid h c hstay

theorem fresh_replay (hid : id ≠ "__proto__") (redis : Bool) :
    EventsReplay id { redis := redis } := by
  have hflag : flag id { redis := redis } = true := by
    rw [flag_own hid, PlainObject.get?_empty]
    simp only
    split <;> rfl
  unfold EventsReplay
  rw [hflag]
  rfl

/-- The events of a service replay to its flag after every step of a run that leaves it registered
exactly when no step resets or reloads the flag to another value. -/
theorem events_replay_iff (id : String) (hid : matchesServiceId id = true) (redis : Bool)
    (as : List RegistryOperation)
    (hstay : Always RegistryService.operate (StaysRegistered id) { redis := redis } as) :
    Always RegistryService.operate (fun r op => EventsReplay id (r.operate op))
        { redis := redis } as ↔
      Always RegistryService.operate (KeepsFlag id) { redis := redis } as := by
  have hproto : id ≠ "__proto__" := by
    intro heq
    subst heq
    exact absurd hid (by decide)
  exact always_iff_of_invariant (I := EventsReplay id)
    (fun r op h hg => operate_replay_iff hproto h hg) (fun r op _ _ hp => hp)
    (fresh_replay hproto redis) hstay

def ordersUp : RegistryOperation :=
  .call (.register { manifestOf "orders" "http://orders:1" "1.0.0" with
    healthCheck := .value "/health" }) "t0" .acknowledged

def ordersDown : RegistryOperation := .handleHealthChecks [⟨0, .responded 500, "t1"⟩]

theorem events_replay_failure :
    Always RegistryService.operate (fun r op => EventsReplay "orders" (r.operate op)) {}
      [ordersUp, ordersDown] := by
  refine (events_replay_iff "orders" (by decide) false [ordersUp, ordersDown]
    ⟨by decide, by decide, trivial⟩).mpr ⟨?_, trivial, trivial⟩
  intro m heq hid hs
  decide

/-- A service that failed its health check and registers again is healthy, and nobody is told. -/
theorem reregistration_not_announced :
    ¬ ∀ (id : String) (redis : Bool) (as : List RegistryOperation),
      matchesServiceId id = true →
      Always RegistryService.operate (StaysRegistered id) { redis := redis } as →
      Always RegistryService.operate (fun r op => EventsReplay id (r.operate op))
        { redis := redis } as := by
  intro h
  obtain ⟨-, -, hlast, -⟩ := h "orders" false [ordersUp, ordersDown, ordersUp] (by decide)
    ⟨by decide, by decide, by decide, trivial⟩
  have hp : healthEvents "orders" (Runs.final RegistryService.operate {}
      [ordersUp, ordersDown, ordersUp]).published = [(true, false)] := by decide
  have hflag : flag "orders" (Runs.final RegistryService.operate {}
      [ordersUp, ordersDown, ordersUp]) = true := by decide
  unfold EventsReplay at hlast
  simp only [final_cons, final_nil] at hp hflag
  rw [hp, hflag] at hlast
  simp [Trail] at hlast

end ApiCenter.Proofs.HealthTrail
