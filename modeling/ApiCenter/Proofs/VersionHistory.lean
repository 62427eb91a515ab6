import ApiCenter.Library.Histories
import ApiCenter.Proofs.Messages

namespace ApiCenter.Proofs.VersionHistory
open Library ApiCenter.Library.Runs ApiCenter.Library.Histories Calls Messages

/-- A call of `register`, with the time it reads and how its Redis write ends. -/
structure Registration where
  manifest : ServiceManifest
  now : String
  write : Write

def step (r : RegistryService) (a : Registration) : RegistryService :=
  (r.register a.manifest a.now a.write).registry

/-- The versions before and after of the changes announced for `id`. -/
def versionEvents (id : String) (messages : List KafkaMessage) :
    List (Optional String × Optional String) :=
  messages.filterMap fun
    | .serviceVersionChanged serviceId previousVersion newVersion _ =>
      if serviceId = id then some (.value previousVersion, newVersion) else none
    | _ => none

def version (id : String) (r : RegistryService) : Optional String :=
  (r.services.get? id).elim .undefined (·.version)

/-- The registration announces the change of the version of `id` that it makes, and no other. -/
def AnnouncesChange (id : String) (r : RegistryService) (a : Registration) : Prop :=
  versionEvents id (step r a).published = versionEvents id r.published ++
    if version id r = version id (step r a) then []
    else [(version id r, version id (step r a))]

/-- Every change over the run is announced once, and the events of the run lead from the first
version to the last. -/
structure EventsReplay (id : String) (r : RegistryService) (as : List Registration) : Prop where
  announced : Always step (AnnouncesChange id) r as
  replay : ∃ events, versionEvents id (final step r as).published =
    versionEvents id r.published ++ events ∧
      Trail (version id r) events (version id (final step r as))

/-- A manifest of `id` has the version stored, or both versions are there. -/
def KeepsVersioned (id : String) (r : RegistryService) (a : Registration) : Prop :=
  a.manifest.serviceId = id → version id r = a.manifest.version ∨
    ((version id r).text?.isSome ∧ a.manifest.version.text?.isSome)

variable {r : RegistryService} {id : String} {a : Registration}

@[simp] theorem versionEvents_append (id : String) (ms ms' : List KafkaMessage) :
    versionEvents id (ms ++ ms') = versionEvents id ms ++ versionEvents id ms' :=
  List.filterMap_append

/-- What an admitted registration remembers as the version before. -/
theorem previousVersion_eq {existing : Option Found} {m : ServiceManifest}
    (ha : registerChecks existing m = .ok previousVersion) :
    previousVersion =
      if m.version.text?.isSome then existing.bind (·.version.text?) else none := by
  have hv := (registerChecks_ok ha).1
  unfold versionGovernance at hv
  cases he : existing.bind (·.version.text?) with
  | none =>
    simp only [he] at hv
    cases hv
    simp
  | some current =>
    cases hm : m.version.text? with
    | none =>
      simp only [he, hm] at hv
      cases hv
      rfl
    | some next =>
      simp only [he, hm] at hv
      obtain ⟨u, -, hu⟩ := map_ok hv
      rw [← hu]
      rfl

/-- The announcement of a registration, from the version before. -/
theorem events_versionEvents (p : PendingRegister) :
    versionEvents p.manifest.serviceId p.events =
      match p.previousVersion with
      | some v => if .value v = p.manifest.version then [] else [(.value v, p.manifest.version)]
      | none => [] := by
  unfold PendingRegister.events
  cases p.previousVersion with
  | none => rfl
  | some v =>
    by_cases hv : .value v = p.manifest.version
    · simp [versionEvents, hv]
    · simp [versionEvents, hv]

theorem events_versionEvents_ne (p : PendingRegister) (h : p.manifest.serviceId ≠ id) :
    versionEvents id p.events = [] := by
  unfold PendingRegister.events
  cases p.previousVersion with
  | none => rfl
  | some v =>
    by_cases hv : .value v = p.manifest.version
    · simp [versionEvents, hv]
    · simp [versionEvents, hv, h]

theorem step_published (hs : RegisterSucceeds r a.manifest a.write) : ∃ previousVersion,
    registerChecks (r.find a.manifest.serviceId) a.manifest = .ok previousVersion ∧
    (step r a).services = r.services.set a.manifest.serviceId
      (buildEntry (r.find a.manifest.serviceId) a.manifest previousVersion a.now) ∧
    (step r a).published = r.published ++ PendingRegister.events ⟨a.manifest,
      buildEntry (r.find a.manifest.serviceId) a.manifest previousVersion a.now,
      (r.find a.manifest.serviceId).isSome, previousVersion⟩ := by
  obtain ⟨⟨previousVersion, ha⟩, hw⟩ := hs
  refine ⟨previousVersion, ha, ?_⟩
  unfold step
  rw [register_registry a.now a.write ha hw]
  exact ⟨rfl, rfl⟩

theorem step_registered (h : (r.services.get? id).isSome = true)
    (hs : RegisterSucceeds r a.manifest a.write) :
    ((step r a).services.get? id).isSome = true := by
  obtain ⟨previousVersion, -, hset, -⟩ := step_published hs
  rw [hset, PlainObject.get?_set]
  split
  · rfl
  · exact h

/-- What is announced of a registration of `id`, with the entry `e` there before. -/
theorem announced_versions {e : ServiceRegistryEntry} (p : PendingRegister)
    (ha : registerChecks (some (.entry e)) p.manifest = .ok p.previousVersion) :
    versionEvents p.manifest.serviceId p.events =
        (if e.version = p.manifest.version then [] else [(e.version, p.manifest.version)]) ↔
      (e.version = p.manifest.version ∨
        (e.version.text?.isSome ∧ p.manifest.version.text?.isSome)) := by
  have hprevious : p.previousVersion =
      if p.manifest.version.text?.isSome then e.version.text? else none := previousVersion_eq ha
  rw [events_versionEvents, hprevious]
  cases hm : p.manifest.version.text? with
  | none => by_cases hv : e.version = p.manifest.version <;> simp [hv]
  | some next =>
    cases he : e.version.text? with
    | none => by_cases hv : e.version = p.manifest.version <;> simp [hv]
    | some current =>
      obtain ⟨hvalue, -⟩ := Optional.text?_eq_some.mp he
      rw [hvalue]
      simp

theorem announces_iff (h : (r.services.get? id).isSome = true)
    (hs : RegisterSucceeds r a.manifest a.write) :
    AnnouncesChange id r a ↔ KeepsVersioned id r a := by
  obtain ⟨e, he⟩ := Option.isSome_iff_exists.mp h
  obtain ⟨previousVersion, ha, hset, hpub⟩ := step_published hs
  have hold : version id r = e.version := by simp [version, he]
  unfold AnnouncesChange KeepsVersioned
  rw [hpub, versionEvents_append, List.append_cancel_left_eq, hold]
  by_cases hid : a.manifest.serviceId = id
  · subst hid
    have hnew : version a.manifest.serviceId (step r a) = a.manifest.version := by
      unfold version
      rw [hset, PlainObject.get?_set_self _ (PlainObject.ne_proto_of_get? he)]
      rfl
    rw [RegistryService.find_of_get? he] at ha
    rw [hnew, forall_prop_of_true rfl]
    exact announced_versions ⟨a.manifest, _, _, previousVersion⟩ ha
  · have hnew : version id (step r a) = e.version := by
      simp [version, hset, PlainObject.get?_set_ne _ (Ne.symm hid), he]
    rw [events_versionEvents_ne _ hid, hnew, if_pos rfl]
    simp [hid]

/-- The version history of a registered service is in its events, over a run of successful
registrations, exactly when no registration changes the version from or to a missing one. -/
theorem version_history_iff (h : (r.services.get? id).isSome = true) (as : List Registration)
    (hs : Always step (fun r a => RegisterSucceeds r a.manifest a.write) r as) :
    EventsReplay id r as ↔ Always step (KeepsVersioned id) r as := by
  have hsame : Always step (AnnouncesChange id) r as ↔ Always step (KeepsVersioned id) r as :=
    always_iff_of_invariant (I := fun r => (r.services.get? id).isSome = true)
      (fun _ _ hi hg => announces_iff hi hg) (fun _ _ hi hg _ => step_registered hi hg) h hs
  constructor
  · intro hp
    exact hsame.mp hp.announced
  · intro hk
    have hannounced := hsame.mpr hk
    have hlog : versionEvents id (final step r as).published =
        versionEvents id r.published ++ transitions step (version id) r as :=
      log_emitted (fun r : RegistryService => versionEvents id r.published) hannounced
    exact ⟨hannounced, _, hlog, trail_transitions (version id) r as⟩

def ordersWith (version : Optional String) : Registration where
  manifest := { manifestOf "orders" "http://orders:1" "1.0.0" with version := version }
  now := "t1"
  write := .acknowledged

/-- `orders` right after its first registration. -/
def ordersRegistered : RegistryService := step {} (ordersWith (.value "1.0.0"))

theorem version_history_upgrade :
    EventsReplay "orders" ordersRegistered [ordersWith (.value "1.1.0")] := by
  refine (version_history_iff (by decide) [ordersWith (.value "1.1.0")]
    ⟨⟨⟨some "1.0.0", by decide⟩, by decide⟩, trivial⟩).mpr ⟨?_, trivial⟩
  intro hid
  exact .inr (by decide)

/-- A registration without a version and one with the next version leave no trace of either
change. -/
theorem omitted_version_not_announced :
    ¬ ∀ (r : RegistryService) (id : String) (as : List Registration),
      (r.services.get? id).isSome = true →
      Always step (fun r a => RegisterSucceeds r a.manifest a.write) r as →
      EventsReplay id r as := by
  intro h
  have hrun := h ordersRegistered "orders" [ordersWith .undefined, ordersWith (.value "1.1.0")]
    (by decide) ⟨⟨⟨none, by decide⟩, by decide⟩, ⟨⟨none, by decide⟩, by decide⟩, trivial⟩
  exact absurd hrun.announced.1 (by unfold AnnouncesChange; decide)

end ApiCenter.Proofs.VersionHistory
