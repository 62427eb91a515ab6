import ApiCenter.Library.Tables
import ApiCenter.Proofs.HealthResults
import ApiCenter.Proofs.Messages

namespace ApiCenter

open Library ApiCenter.Library.Runs Proofs Proofs.Calls Proofs.Messages

/-- What a consumer of the registry's events keeps of a service: where it is, and whether requests
may go there. -/
structure DirectoryEntry where
  name : String
  baseUrl : String
  exposes : List String
  serviceType : Optional ServiceType
  retired : Bool := false
  healthy : Bool := true
  deriving DecidableEq, Repr

/-- The same of an entry of the registry. -/
def ServiceRegistryEntry.directory (e : ServiceRegistryEntry) : DirectoryEntry :=
  ⟨e.name, e.baseUrl, e.exposes, e.serviceType, e.status = .retired, e.healthy.getD true⟩

namespace KafkaMessage

def serviceId : KafkaMessage → String
  | .serviceRegistered id .. | .serviceDeregistered id _ | .serviceDeprecated id ..
  | .serviceRetired id _ | .serviceVersionChanged id .. | .serviceHealthChanged id .. => id

/-- What an event makes of what is known of its service. -/
def act : KafkaMessage → Option DirectoryEntry → Option DirectoryEntry
  | .serviceRegistered _ name baseUrl exposes serviceType _ _, _ =>
    some { name := name, baseUrl := baseUrl, exposes := exposes, serviceType := serviceType }
  | .serviceDeregistered .., _ => none
  | .serviceRetired .., known => known.map fun e => { e with retired := true }
  | .serviceHealthChanged _ healthy .., known => known.map fun e => { e with healthy := healthy }
  | .serviceDeprecated .., known | .serviceVersionChanged .., known => known

end KafkaMessage

namespace EventMirror

abbrev Directory := Table String DirectoryEntry

def follow (d : Directory) (m : KafkaMessage) : Directory := d.alter m.serviceId m.act

/-- The directory of a consumer that has read these events in their order. -/
def replay (ms : List KafkaMessage) : Directory := ms.foldl follow ∅

/-- The events published so far replay to the registry. -/
def Mirrored (r : RegistryService) : Prop :=
  ∀ id, (replay r.published).lookup id = (r.services.get? id).map (·.directory)

variable {r r' : RegistryService} {id now : String} {write : Write} {m : ServiceManifest}

theorem mirrored_iff_of_silent (h : Mirrored r) (hp : r'.published = r.published) :
    Mirrored r' ↔ ∀ id, (r'.services.get? id).map (·.directory) =
      (r.services.get? id).map (·.directory) := by
  unfold Mirrored at h ⊢
  rw [hp]
  exact forall_congr' fun id => by rw [h id, eq_comm]

/-- An event that a directory takes no notice of. -/
def Unnoticed (event : KafkaMessage) : Prop := ∀ known, event.act known = known

theorem lookup_unnoticed (d : Directory) {rest : List KafkaMessage}
    (hrest : ∀ event ∈ rest, Unnoticed event) (id : String) :
    (rest.foldl follow d).lookup id = d.lookup id := by
  induction rest generalizing d with
  | nil => rfl
  | cons event rest ih =>
    obtain ⟨hevent, hrest⟩ := List.forall_mem_cons.mp hrest
    rw [List.foldl_cons, ih _ hrest, follow, Table.lookup_alter, hevent]
    split
    · rename_i hid
      rw [hid]
    · rfl

/-- An event has to say what has become of its service, and nothing else may have changed. -/
theorem mirrored_iff_of_event (h : Mirrored r) {event : KafkaMessage} {rest : List KafkaMessage}
    (hrest : ∀ event ∈ rest, Unnoticed event) (hp : r'.published = r.published ++ event :: rest) :
    Mirrored r' ↔ ∀ id, (r'.services.get? id).map (·.directory) =
      if id = event.serviceId then event.act ((r.services.get? event.serviceId).map (·.directory))
      else (r.services.get? id).map (·.directory) := by
  unfold Mirrored at h ⊢
  rw [hp]
  refine forall_congr' fun id => ?_
  have hreplay : replay (r.published ++ event :: rest) =
      rest.foldl follow (follow (replay r.published) event) := by
    rw [replay, replay, List.foldl_append]
    rfl
  rw [hreplay, lookup_unnoticed _ hrest, follow, Table.lookup_alter, h, h, eq_comm]

/-- An accepted registration that is written is stored under its id, and one that is not leaves
nothing to be forgotten. -/
def Announces (r : RegistryService) (c : ClientCall) (write : Write) : Prop :=
  ∀ m previousVersion, c = .register m →
    registerChecks (r.find m.serviceId) m = .ok previousVersion →
      if r.redis = false ∨ write = .acknowledged then m.serviceId ≠ "__proto__"
      else r.services.get? m.serviceId = none

/-- A reload brings in nothing but what is known. -/
def Familiar (r : RegistryService) (hash : RedisHash) : Prop :=
  ∀ id e, (RegistryService.getRedisEntries hash).get? id = some e →
    (r.services.get? id).map (·.directory) = some e.directory

/-- A registration tells what a directory keeps of it in its first event. -/
theorem events_unnoticed (p : PendingRegister) : ∃ rest, (∀ event ∈ rest, Unnoticed event) ∧
    p.events = .serviceRegistered p.manifest.serviceId p.manifest.name p.manifest.baseUrl
      p.manifest.exposes p.entry.serviceType p.isUpdate p.entry.updatedAt :: rest := by
  refine ⟨_, ?_, rfl⟩
  intro event hevent
  split at hevent
  · split at hevent
    · cases hevent
    · obtain rfl := List.mem_singleton.mp hevent
      exact fun _ => rfl
  · cases hevent

theorem directory_buildEntry (existing : Option Found) (m : ServiceManifest)
    (previousVersion : Option String) (now : String) :
    (buildEntry existing m previousVersion now).directory =
      { name := m.name
        baseUrl := m.baseUrl
        exposes := m.exposes
        serviceType := .value (m.serviceType.getD .tribe) } := by
  have hstatus : (buildEntry existing m previousVersion now).status ≠ .retired := by
    unfold buildEntry
    dsimp only
    split <;> nofun
  have hhealthy : (buildEntry existing m previousVersion now).healthy.getD true = true := rfl
  rw [ServiceRegistryEntry.directory, hhealthy, decide_eq_false hstatus]
  rfl

theorem written_mirrored_iff (h : Mirrored r)
    (ha : registerChecks (r.find m.serviceId) m = .ok previousVersion)
    (hw : r.redis = false ∨ write = .acknowledged) :
    Mirrored (r.register m now write).registry ↔ m.serviceId ≠ "__proto__" := by
  have hregistry := register_registry now write ha hw
  obtain ⟨rest, hrest, hevents⟩ := events_unnoticed ⟨m,
    buildEntry (r.find m.serviceId) m previousVersion now, (r.find m.serviceId).isSome,
    previousVersion⟩
  have hservices : (r.register m now write).registry.services =
      r.services.set m.serviceId (buildEntry (r.find m.serviceId) m previousVersion now) := by
    rw [hregistry]
    rfl
  have hpublished : (r.register m now write).registry.published = r.published ++
      .serviceRegistered m.serviceId m.name m.baseUrl m.exposes
        (.value (m.serviceType.getD .tribe)) (r.find m.serviceId).isSome now :: rest := by
    rw [hregistry, RegistryService.publish_published, hevents]
    rfl
  rw [mirrored_iff_of_event h hrest hpublished, hservices]
  constructor
  · intro hall hproto
    have hown := hall m.serviceId
    have hnone : (r.services.set m.serviceId (buildEntry (r.find m.serviceId) m previousVersion
        now)).get? m.serviceId = none := by
      rw [hproto, PlainObject.get?_proto]
    rw [hnone] at hown
    simp [KafkaMessage.serviceId, KafkaMessage.act] at hown
  · intro hproto id
    rw [PlainObject.get?_set]
    by_cases hid : id = m.serviceId
    · rw [if_pos ⟨hid, hproto⟩, Option.map_some, directory_buildEntry]
      simp [KafkaMessage.serviceId, KafkaMessage.act, hid]
    · rw [if_neg fun hboth => hid hboth.1]
      simp [KafkaMessage.serviceId, hid]

theorem rolledBack_mirrored_iff {message : String} (h : Mirrored r)
    (ha : registerChecks (r.find m.serviceId) m = .ok previousVersion)
    (hr : r.redis = true) (hw : write = .failed message) :
    Mirrored (r.register m now write).registry ↔ r.services.get? m.serviceId = none := by
  obtain ⟨hregistry, -, -⟩ := register_rolledBack now ha hr hw
  have hservices : (r.register m now write).registry.services =
      (r.services.set m.serviceId (buildEntry (r.find m.serviceId) m previousVersion now)).delete
        m.serviceId := by
    rw [hregistry]
    rfl
  have hpublished : (r.register m now write).registry.published = r.published := by
    rw [hregistry]
    rfl
  rw [mirrored_iff_of_silent h hpublished, hservices]
  constructor
  · intro hall
    have hown := hall m.serviceId
    rw [PlainObject.get?_delete, if_pos rfl] at hown
    exact Option.map_eq_none_iff.mp hown.symm
  · intro hnone id
    rw [PlainObject.delete_set_of_none r.services hnone]

theorem deregister_mirrored (h : Mirrored r) (id now : String) :
    Mirrored (r.deregister id now).registry := by
  unfold RegistryService.deregister RegistryService.beginDeregister
  cases hf : r.find id with
  | none => exact h
  | some found =>
    have hlast : ∀ event ∈ ([] : List KafkaMessage), Unnoticed event := nofun
    refine (mirrored_iff_of_event h hlast rfl).mpr fun key => ?_
    change ((r.services.delete id).get? key).map _ = _
    rw [PlainObject.get?_delete]
    by_cases hkey : key = id
    · simp [KafkaMessage.serviceId, KafkaMessage.act, hkey]
    · simp [KafkaMessage.serviceId, hkey]

/-- The events change what is known of one service as `g` says. -/
def Says (ms : List KafkaMessage) (id : String) (g : DirectoryEntry → DirectoryEntry) : Prop :=
  ∀ (d : Directory) key, (ms.foldl follow d).lookup key =
    if key = id then (d.lookup id).map g else d.lookup key

theorem says_nothing (id : String) : Says [] id fun e => e := by
  intro d key
  by_cases hkey : key = id
  · rw [if_pos hkey, Option.map_id', hkey]
    rfl
  · rw [if_neg hkey]
    rfl

theorem says_one {event : KafkaMessage} {g : DirectoryEntry → DirectoryEntry}
    (hact : ∀ known, event.act known = known.map g) : Says [event] event.serviceId g := by
  intro d key
  rw [List.foldl_cons, List.foldl_nil, follow, Table.lookup_alter, hact]

/-- Changing a service and saying so. -/
theorem mirrored_of_says {found assigned : Found} {changes : Changes} {ms : List KafkaMessage}
    {g : DirectoryEntry → DirectoryEntry} (h : Mirrored r) (hf : r.find id = some found)
    (ha : found.assign changes = .ok assigned) (hs : r'.services = (r.store id assigned).services)
    (hp : r'.published = r.published ++ ms) (hms : Says ms id g)
    (hg : ∀ e, found = .entry e → (changes.applyTo e).directory = g e.directory) :
    Mirrored r' := by
  intro key
  have hreplay : replay r'.published = ms.foldl follow (replay r.published) := by
    rw [hp, replay, replay, List.foldl_append]
  rw [hreplay, hms, h, h, hs]
  cases found with
  | entry e =>
    cases ha
    have he := (r.find_entry_iff id e).mp hf
    change _ = ((r.services.set id (changes.applyTo e)).get? key).map _
    rw [PlainObject.get?_set_of_some he]
    by_cases hkey : key = id
    · rw [if_pos hkey, if_pos hkey, he, Option.map_some, Option.map_some, Option.map_some, hg e rfl]
    · rw [if_neg hkey, if_neg hkey]
  | member built =>
    obtain ⟨hnone, -⟩ := (r.find_member_iff id built).mp hf
    obtain ⟨rfl, -⟩ := RegistryService.assign_member_ok ha
    rw [RegistryService.store_member_services]
    by_cases hkey : key = id
    · rw [if_pos hkey, hkey, hnone]
      rfl
    · rw [if_neg hkey]

theorem amend_mirrored {choose : Found → Except Thrown Changes} {sync : Bool}
    {events : Found → List KafkaMessage} {g : DirectoryEntry → DirectoryEntry} (h : Mirrored r)
    (hevents : ∀ found, Says (events found) id g)
    (hg : ∀ e changes, choose (.entry e) = .ok changes →
      (changes.applyTo e).directory = g e.directory) :
    Mirrored (r.amend id choose sync events).discard.registry := by
  change Mirrored (r.amend id choose sync events).registry
  cases hf : r.find id with
  | none =>
    have hnone : ∀ found, r.find id = some found →
        ∃ t, (choose found >>= found.assign) = .error t := by
      intro found hfound
      cases hf.symm.trans hfound
    rwa [(amend_refused sync events hnone).1]
  | some found =>
    cases hc : choose found >>= found.assign with
    | error t =>
      have hrefused : ∀ found, r.find id = some found →
          ∃ t, (choose found >>= found.assign) = .error t := by
        intro found' hfound
        obtain rfl := Option.some.inj (hf.symm.trans hfound)
        exact ⟨t, hc⟩
      rwa [(amend_refused sync events hrefused).1]
    | ok assigned =>
      obtain ⟨changes, hchosen, ha⟩ := choose_assign_ok hc
      refine mirrored_of_says h hf ha ?_ (amend_published sync events hf hc).1
        (hevents _) fun e he => hg e changes (he ▸ hchosen)
      simp only [RegistryService.amend, hf, hc]
      cases sync <;> rfl

theorem announces_of_ne {c : ClientCall} (h : ∀ m, c ≠ .register m) : Announces r c write :=
  fun m _ hc => absurd hc (h m)

theorem register_mirrored_iff (h : Mirrored r) (m : ServiceManifest) (now : String)
    (write : Write) :
    Mirrored (r.register m now write).registry ↔ Announces r (.register m) write := by
  cases ha : registerChecks (r.find m.serviceId) m with
  | error t =>
    rw [register_refused now write ha]
    refine iff_of_true h fun m' previousVersion hm hok => ?_
    cases hm
    cases ha.symm.trans hok
  | ok previousVersion =>
    have hannounces : Announces r (.register m) write ↔
        if r.redis = false ∨ write = .acknowledged then m.serviceId ≠ "__proto__"
        else r.services.get? m.serviceId = none := by
      constructor
      · exact fun hall => hall m previousVersion rfl ha
      · intro hcase m' previousVersion' hm hok
        cases hm
        exact hcase
    rw [hannounces]
    rcases write_cases r write with hw | ⟨hr, message, hw⟩
    · rw [if_pos hw]
      exact written_mirrored_iff h ha hw
    · rw [if_neg (by simp [hr, hw])]
      exact rolledBack_mirrored_iff h ha hr hw

theorem call_mirrored_iff (h : Mirrored r) (c : ClientCall) (now : String) (write : Write) :
    Mirrored (r.call c.call now write).registry ↔ Announces r c write := by
  cases c with
  | register m => exact register_mirrored_iff h m now write
  | deregister id =>
    refine iff_of_true (deregister_mirrored h id now) (announces_of_ne fun m hc => ?_)
    cases hc
  | deprecateService id sunset replacement =>
    refine iff_of_true (amend_mirrored h (g := fun e => e) ?_ ?_)
      (announces_of_ne fun m hc => ?_)
    · exact fun found => says_one fun known => (Option.map_id' (x := known)).symm
    · intro e changes hc
      split at hc
      · cases hc
      · rename_i hlive
        cases hc
        have hstatus : e.status ≠ .retired := fun heq => hlive (congrArg Optional.value heq)
        simp [ServiceRegistryEntry.directory, Changes.applyTo, RegistryService.deprecateChanges,
          hstatus]
    · cases hc
  | retire id =>
    refine iff_of_true (amend_mirrored h (g := fun e => { e with retired := true }) ?_ ?_)
      (announces_of_ne fun m hc => ?_)
    · exact fun found => says_one fun known => rfl
    · intro e changes hc
      cases hc
      rfl
    · cases hc
  | activate id =>
    refine iff_of_true (amend_mirrored h (g := fun e => e) ?_ ?_)
      (announces_of_ne fun m hc => ?_)
    · exact fun found => says_nothing id
    · intro e changes hc
      split at hc
      · cases hc
      · rename_i hstatus
        cases hc
        have hlive : e.status ≠ .retired := by
          intro heq
          apply hstatus
          simp [Found.status, heq]
        simp [ServiceRegistryEntry.directory, Changes.applyTo, RegistryService.activateChanges,
          hlive]
    · cases hc

theorem endHealthCheck_mirrored (h : Mirrored r) (id : String) (response : HealthResponse)
    (now : String) : Mirrored (r.endHealthCheck id response now).registry := by
  cases hf : r.find id with
  | none => rwa [endHealthCheck_unknown hf]
  | some found =>
    have hchecked := endHealthCheck_checked hf response now
    generalize (r.endHealthCheck id response now).registry = r' at hchecked ⊢
    cases hchecked with
    | refused => exact h
    | touched hh ha =>
      refine mirrored_of_says h hf ha rfl ?_ (says_nothing id) fun e he => rfl
      rw [RegistryService.store_published, List.append_nil]
    | flipped hh ha =>
      have hsays : Says [.serviceHealthChanged id response.healthy (!response.healthy)
          response.reason now] id fun e => { e with healthy := response.healthy } :=
        says_one fun known => rfl
      refine mirrored_of_says h hf ha rfl ?_ hsays fun e he => rfl
      rw [RegistryService.publish_published, RegistryService.store_published]

theorem load_mirrored_iff (h : Mirrored r) (hash : RedisHash) :
    Mirrored (r.loadEntries hash) ↔ Familiar r hash := by
  have hsilent : (r.loadEntries hash).published = r.published := rfl
  refine (mirrored_iff_of_silent h hsilent).trans (forall_congr' fun id => ?_)
  rw [RegistryService.get?_loadEntries]
  cases hread : (RegistryService.getRedisEntries hash).get? id with
  | none => simp
  | some e => simp [eq_comm]

/-- Every accepted registration is stored as it is announced, and reloads bring in nothing new. -/
def KeepsMirror : RegistryService → RegistryOperation → Prop :=
  RegistryService.Meets Announces Familiar

theorem operate_mirrored_iff (h : Mirrored r) (op : RegistryOperation) :
    Mirrored (r.operate op) ↔ KeepsMirror r op :=
  RegistryService.operate_iff h (fun c now write _ => call_mirrored_iff h c now write)
    (fun _ id response now h => endHealthCheck_mirrored h id response now) (load_mirrored_iff h)

/-- A consumer that reads the events in the order they are published has the registry's own
directory after every operation of a run exactly if each accepted registration is stored under its
id, none that fails takes an older one with it, and no reload brings in anything new. -/
theorem events_mirror_iff (redis : Bool) (ops : List RegistryOperation) :
    Always RegistryService.operate (fun r op => Mirrored (r.operate op)) { redis := redis } ops ↔
      Always RegistryService.operate KeepsMirror { redis := redis } ops := by
  have hstart : Mirrored { redis := redis } := fun id => rfl
  exact always_iff_of_kept (I := Mirrored) (fun _ op h => operate_mirrored_iff h op)
    (fun _ _ _ hp => hp) hstart ops

end EventMirror

end ApiCenter
