import ApiCenter.Proofs.VersionHistory

namespace ApiCenter.Proofs.PreviousVersions
open Library ApiCenter.Library.Runs Messages VersionHistory

/-- A registry with the registrations it has accepted of one service, the latest first. -/
structure Recorded where
  registry : RegistryService
  history : List Registration := []

def record (s : Recorded) (a : Registration) : Recorded := ⟨step s.registry a, a :: s.history⟩

/-- The versions that registrations gave. -/
def versionsGiven (history : List Registration) : List String :=
  history.filterMap (·.manifest.version.text?)

/-- The latest version given that is not the current one. -/
def lastOther (current : Optional String) (history : List Registration) : Option String :=
  (versionsGiven history).find? (.value · ≠ current)

/-- The entry of `id` remembers the last version before its own that is another one. -/
def RemembersLastOther (id : String) (s : Recorded) : Prop :=
  ∃ e, s.registry.services.get? id = some e ∧
    e.previousVersion = ((lastOther e.version s.history).map .value).getD .undefined ∧
    (e.previousVersion ≠ .undefined → e.previousVersion ≠ e.version)

/-- The registration is for `id`, and it succeeds. -/
def Accepted (id : String) (s : Recorded) (a : Registration) : Prop :=
  a.manifest.serviceId = id ∧ RegisterSucceeds s.registry a.manifest a.write

/-- The registration and the one before both give a version, and another one each; or one of them
gives none, and no version given so far is another one than this registration's. -/
def ReplacesLast (history : List Registration) (a : Registration) : Prop :=
  match history.head?.bind (·.manifest.version.text?), a.manifest.version.text? with
  | some last, some next => last ≠ next
  | _, _ => ∀ v ∈ versionsGiven history, .value v = a.manifest.version

/-- What the registry stores of `id` is what the latest registration said. -/
def Tracks (id : String) (s : Recorded) : Prop :=
  (s.registry.services.get? id).map (·.version) = s.history.head?.map (·.manifest.version)

variable {s : Recorded} {id : String} {a : Registration} {history : List Registration}

/-- No version is remembered as its own predecessor. -/
theorem lastOther_ne {current : Optional String} (h : lastOther current history = some v) :
    .value v ≠ current := by
  simpa using List.find?_some h

/-- The current registration adds nothing to what came before it. -/
theorem lastOther_self (a : Registration) (history : List Registration) :
    lastOther a.manifest.version (a :: history) = lastOther a.manifest.version history := by
  unfold lastOther versionsGiven
  rw [List.filterMap_cons]
  cases hv : a.manifest.version.text? with
  | none => rfl
  | some v =>
    obtain ⟨hvalue, -⟩ := Optional.text?_eq_some.mp hv
    simp [hvalue]

theorem lastOther_eq_none {current : Optional String} :
    lastOther current history = none ↔ ∀ v ∈ versionsGiven history, .value v = current := by
  simp [lastOther]

/-- The version of the registration before is the last other one, if it is another one. -/
theorem lastOther_last {last : String}
    (h : history.head?.bind (·.manifest.version.text?) = some last) (next : String) :
    lastOther (.value next) history = some last ↔ last ≠ next := by
  constructor
  · intro hl heq
    exact lastOther_ne hl (congrArg Optional.value heq)
  · intro hne
    cases history with
    | nil => simp at h
    | cons b history =>
      have hb : b.manifest.version.text? = some last := h
      simp [lastOther, versionsGiven, hb, hne]

/-- Only the entry there before is asked for a version. -/
theorem found_version (ht : Tracks id s) :
    (s.registry.find id).bind (·.version.text?) =
      s.history.head?.bind (·.manifest.version.text?) := by
  have hstored : (s.registry.find id).bind (·.version.text?) =
      ((s.registry.services.get? id).map (·.version)).bind (·.text?) := by
    cases hf : s.registry.find id with
    | none => simp [((s.registry.find_none_iff id).mp hf).1]
    | some found =>
      cases found with
      | entry e =>
        simp [(RegistryService.find_entry_iff s.registry id e).mp hf, Found.version]
      | member m =>
        simp [((s.registry.find_member_iff id m).mp hf).1, Found.version, Optional.text?]
  rw [hstored, ht, Option.bind_map]
  rfl

/-- What an accepted registration leaves of `id`. -/
theorem record_entry (hid : id ≠ "__proto__") (ht : Tracks id s) (ha : Accepted id s a) :
    ∃ e, (record s a).registry.services.get? id = some e ∧ e.version = a.manifest.version ∧
      e.previousVersion = ((if a.manifest.version.text?.isSome
        then s.history.head?.bind (·.manifest.version.text?) else none).map .value).getD
          .undefined := by
  obtain ⟨heq, hs⟩ := ha
  subst heq
  obtain ⟨previousVersion, hchecks, hset, -⟩ := step_published hs
  have hprevious := previousVersion_eq hchecks
  rw [found_version ht] at hprevious
  have hstored : (record s a).registry.services.get? a.manifest.serviceId =
      some (buildEntry (s.registry.find a.manifest.serviceId) a.manifest previousVersion
        a.now) := by
    unfold record
    rw [hset, PlainObject.get?_set_self _ hid]
  refine ⟨_, hstored, rfl, ?_⟩
  rw [← hprevious]
  rfl

theorem record_tracks (hid : id ≠ "__proto__") (ht : Tracks id s) (ha : Accepted id s a) :
    Tracks id (record s a) := by
  obtain ⟨e, he, hversion, -⟩ := record_entry hid ht ha
  unfold Tracks
  rw [he, Option.map_some, hversion]
  rfl

theorem remembered_inj {x y : Option String} :
    (x.map Optional.value).getD .undefined = (y.map .value).getD .undefined ↔ x = y := by
  cases x <;> cases y <;> simp

/-- The predecessor of the entry before is the last other version, exactly when the registration
replaces the last one given. -/
theorem previous_iff (history : List Registration) (a : Registration) :
    (if a.manifest.version.text?.isSome
      then history.head?.bind (·.manifest.version.text?) else none) =
        lastOther a.manifest.version history ↔ ReplacesLast history a := by
  unfold ReplacesLast
  cases hnext : a.manifest.version.text? with
  | none =>
    simp only [Option.isSome_none, Bool.false_eq_true, if_false, eq_comm (a := none)]
    cases history.head?.bind (·.manifest.version.text?) <;> exact lastOther_eq_none
  | some next =>
    obtain ⟨hvalue, -⟩ := Optional.text?_eq_some.mp hnext
    simp only [Option.isSome_some, if_true]
    cases hlast : history.head?.bind (·.manifest.version.text?) with
    | none => rw [eq_comm]; exact lastOther_eq_none
    | some last =>
      rw [hvalue, eq_comm]
      exact lastOther_last hlast next

theorem remembers_iff (hid : id ≠ "__proto__") (ht : Tracks id s) (ha : Accepted id s a) :
    RemembersLastOther id (record s a) ↔ ReplacesLast s.history a := by
  obtain ⟨e, he, hversion, hprevious⟩ := record_entry hid ht ha
  have hlast : lastOther e.version (record s a).history =
      lastOther a.manifest.version s.history := by
    rw [hversion]
    exact lastOther_self a s.history
  rw [← previous_iff, ← remembered_inj, ← hprevious, ← hlast]
  constructor
  · intro h
    obtain ⟨e', he', hremembered, -⟩ := h
    cases he.symm.trans he'
    exact hremembered
  · intro h
    refine ⟨e, he, h, ?_⟩
    intro hpresent heq
    rw [h] at hpresent heq
    cases ho : lastOther e.version (record s a).history with
    | none => simp [ho] at hpresent
    | some v =>
      simp only [ho, Option.map_some, Option.getD_some] at heq
      exact lastOther_ne ho heq

/-- Over a run of accepted registrations of `id`, its first one included, the entry remembers the
last other version after each, exactly when each replaces the last one given. -/
theorem previous_version_iff (hid : id ≠ "__proto__") {r : RegistryService}
    (hnew : r.services.get? id = none) (as : List Registration)
    (ha : Always record (Accepted id) ⟨r, []⟩ as) :
    Always record (fun s a => RemembersLastOther id (record s a)) ⟨r, []⟩ as ↔
      Always record (fun s a => ReplacesLast s.history a) ⟨r, []⟩ as := by
  have hfirst : Tracks id ⟨r, []⟩ := by simp [Tracks, hnew]
  exact always_iff_of_invariant (I := Tracks id) (fun _ _ ht ha => remembers_iff hid ht ha)
    (fun _ _ ht ha _ => record_tracks hid ht ha) hfirst ha

/-- `orders` is registered and updated. -/
def updates : List Registration := [ordersWith (.value "1.0.0"), ordersWith (.value "1.1.0")]

theorem previous_version_upgrades :
    Always record (fun s a => RemembersLastOther "orders" (record s a)) ⟨{}, []⟩ updates := by
  refine (previous_version_iff (by decide) (by decide) updates
    ⟨⟨rfl, ⟨none, by decide⟩, by decide⟩, ⟨rfl, ⟨some "1.0.0", by decide⟩, by decide⟩,
      trivial⟩).mpr ⟨?_, ?_, trivial⟩
  · intro v hv
    cases hv
  · change "1.0.0" ≠ "1.1.0"
    decide

/-- A service that restarts with the version it has becomes its own predecessor, and the version
before is lost. -/
theorem restart_loses_previous_version :
    ¬ ∀ (id : String) (r : RegistryService) (as : List Registration),
      id ≠ "__proto__" → r.redis = false → r.services.get? id = none →
      Always record (Accepted id) ⟨r, []⟩ as →
      Always record (fun s a => RemembersLastOther id (record s a)) ⟨r, []⟩ as := by
  intro h
  have hrun := h "orders" {} (updates ++ [ordersWith (.value "1.1.0")])
    (by decide) rfl (by decide)
    ⟨⟨rfl, ⟨none, by decide⟩, by decide⟩, ⟨rfl, ⟨some "1.0.0", by decide⟩, by decide⟩,
      ⟨rfl, ⟨some "1.1.0", by decide⟩, by decide⟩, trivial⟩
  obtain ⟨e, he, -, hdiffers⟩ := hrun.2.2.1
  have hrestarted : ((record (final record ⟨{}, []⟩ updates)
      (ordersWith (.value "1.1.0"))).registry.services.get? "orders").map (fun e =>
        (e.version, e.previousVersion)) = some (.value "1.1.0", .value "1.1.0") := by decide
  have hentry := congrArg (Option.map fun e => (e.version, e.previousVersion)) he
  obtain ⟨hversion, hprevious⟩ := Prod.mk.inj (Option.some.inj (hentry.symm.trans hrestarted))
  rw [hversion, hprevious] at hdiffers
  exact hdiffers (by simp) rfl

end ApiCenter.Proofs.PreviousVersions
