import ApiCenter.Library.Runs
import ApiCenter.Proofs.Calls

namespace ApiCenter.Proofs.Versions
open Library Calls

/-- An operation on a memory-only registry; registrations come through the DTO. -/
inductive Op (v : Validators) where
  | register (dto : ServiceManifestDto v)
  | deregister (id : String)
  | lifecycle (c : LifecycleCall)

variable {v : Validators}

def Op.call : Op v → RegistryCall
  | .register dto => .register dto.toManifest
  | .deregister id => .deregister id
  | .lifecycle c => .lifecycle c

/-- One operation at the time its clock reads. -/
def step (r : RegistryService) (op : Op v × String) : RegistryService :=
  (r.call op.1.call op.2 .acknowledged).registry

/-- `id` is not deregistered, and a registration of it that gets past the checks
of `register` carries a version. -/
def KeepsVersion (id : String) (r : RegistryService) : Op v × String → Prop
  | (.register dto, _) =>
    dto.serviceId = id → (∃ previousVersion,
      registerChecks (r.find id) dto.toManifest = .ok previousVersion) → ∃ s, dto.version = .value s
  | (.deregister other, _) => other ≠ id
  | (.lifecycle _, _) => True

/-- The stored version of `id` has at least the major number `n`, as a double. -/
def StoredMajor (id : String) (n : Nat) (services : ServiceRegistryMap) : Prop :=
  ∃ e s parsed, services.get? id = some e ∧ e.version = .value s ∧
    parseSemver s = some parsed ∧ toDouble n ≤ parsed.major

variable {id now : String} {n : Nat} {r : RegistryService} {m : ServiceManifest}
  {services : ServiceRegistryMap}

theorem StoredMajor.set_ne (h : StoredMajor id n services) (hne : key ≠ id)
    (e : ServiceRegistryEntry) : StoredMajor id n (services.set key e) := by
  obtain ⟨e', s, parsed, he, rest⟩ := h
  refine ⟨e', s, parsed, ?_, rest⟩
  rw [PlainObject.get?_set_ne services (Ne.symm hne), he]

/-- Rewriting an entry with the version it had keeps the bound, whoever's it is. -/
theorem StoredMajor.set_same (h : StoredMajor id n services) (hold : services.get? key = some old)
    (hv : new.version = old.version) : StoredMajor id n (services.set key new) := by
  by_cases hid : key = id
  · subst hid
    obtain ⟨e, s, parsed, he, hes, rest⟩ := h
    rw [hold] at he
    cases he
    refine ⟨new, s, parsed, ?_, hv.trans hes, rest⟩
    rw [PlainObject.get?_set_of_some hold, if_pos rfl]
  · exact h.set_ne hid new

theorem StoredMajor.delete (h : StoredMajor id n services) (hne : key ≠ id) :
    StoredMajor id n (services.delete key) := by
  obtain ⟨e, s, parsed, he, rest⟩ := h
  refine ⟨e, s, parsed, ?_, rest⟩
  rw [PlainObject.get?_delete, if_neg (Ne.symm hne), he]

theorem text_of_semver {s : String} (h : parseSemver s = some parsed) :
    (Optional.value s).text? = some s := by
  apply Optional.text?_eq_some.mpr
  refine ⟨rfl, ?_⟩
  intro heq
  subst heq
  have hnone : parseSemver "" = none := by decide
  rw [hnone] at h
  cases h

/-- With a version on both sides, `registerChecks` has compared the two. -/
theorem checks_compared (hf : r.find m.serviceId = some (.entry e)) (he : e.version = .value s)
    (hs : parseSemver s = some parsed) (hm : m.version = .value s')
    (hs' : parseSemver s' = some parsed')
    (ha : registerChecks (r.find m.serviceId) m = .ok previousVersion) :
    parsed.major ≤ parsed'.major := by
  cases hu : validateVersionUpgrade s s' with
  | ok u => exact upgrade_major hs hs' hu
  | error t =>
    have hv := (registerChecks_ok ha).1
    simp [versionGovernance, hf, Found.version, he, hm, text_of_semver hs, text_of_semver hs', hu,
      Except.map] at hv

/-- A registration of `id` that carries a version stays above the bound. -/
theorem register_above {dto : ServiceManifestDto v}
    (hi : StoredMajor dto.serviceId n r.services) (hv : dto.version = .value s')
    (ha : registerChecks (r.find dto.serviceId) dto.toManifest = .ok previousVersion) :
    ∃ parsed', parseSemver s' = some parsed' ∧ toDouble n ≤ parsed'.major := by
  obtain ⟨e, s, parsed, he, hes, hs, hn⟩ := hi
  obtain ⟨k, hk⟩ := dto.version_semver hv
  obtain ⟨parsed', hs', -⟩ := parseSemver_major hk
  have hf : r.find dto.toManifest.serviceId = some (.entry e) := RegistryService.find_of_get? he
  exact ⟨parsed', hs', hn.trans (checks_compared hf hes hs hv hs' ha)⟩

theorem register_keeps {dto : ServiceManifestDto v} (hi : StoredMajor id n r.services)
    (hg : KeepsVersion id r (Op.register dto, now))
    (ha : registerChecks (r.find dto.serviceId) dto.toManifest = .ok previousVersion) :
    StoredMajor id n (r.services.set dto.serviceId
      (buildEntry (r.find dto.serviceId) dto.toManifest previousVersion now)) := by
  by_cases hid : dto.serviceId = id
  · subst hid
    obtain ⟨s', hv⟩ := hg rfl ⟨previousVersion, ha⟩
    obtain ⟨parsed', hs', hn'⟩ := register_above hi hv ha
    exact ⟨_, s', parsed', PlainObject.get?_set_self r.services dto.serviceId_ne_proto _, hv,
      hs', hn'⟩
  · exact hi.set_ne hid _

theorem step_keeps (op : Op v × String) (hi : r.redis = false ∧ StoredMajor id n r.services)
    (hg : KeepsVersion id r op) :
    (step r op).redis = false ∧ StoredMajor id n (step r op).services := by
  refine ⟨(call_redis r _ _ _).trans hi.1, ?_⟩
  replace hi := hi.2
  obtain ⟨op, now⟩ := op
  have heff := call_effect r op.call now .acknowledged
  unfold step
  generalize (r.call op.call now .acknowledged).registry.services = services at heff ⊢
  generalize (r.call op.call now .acknowledged).command = command at heff
  generalize hc : op.call = call at heff
  cases heff with
  | kept => exact hi
  | movedMember hf hm => exact hi
  | rolledBack ha hr hw => cases hw
  | moved he hm => exact hi.set_same he rfl
  | touched he => exact hi.set_same he rfl
  | registered ha hw =>
    cases op with
    | register dto =>
      cases hc
      exact register_keeps hi hg ha
    | deregister other => cases hc
    | lifecycle c => cases hc
  | deregistered hf =>
    cases op with
    | register dto => cases hc
    | deregister other =>
      cases hc
      exact hi.delete hg
    | lifecycle c => cases hc

/-- What an accepted registration with a version leaves stored. -/
theorem register_stores {dto : ServiceManifestDto v} (hr : r.redis = false)
    (ha : registerChecks (r.find dto.serviceId) dto.toManifest = .ok previousVersion)
    (hv : dto.version = .value s) (hk : majorOf s = some n) :
    StoredMajor dto.serviceId n (step r (Op.register dto, now)).services := by
  obtain ⟨parsed, hs, hn⟩ := parseSemver_major hk
  have hstored := (register_stored (m := dto.toManifest) now .acknowledged ha (Or.inl hr)).1
  unfold step
  change StoredMajor _ _ (r.register dto.toManifest now .acknowledged).registry.services
  rw [hstored]
  exact ⟨_, s, parsed, PlainObject.get?_set_self r.services dto.serviceId_ne_proto _, hv, hs,
    hn.ge⟩

/-- `register` resolves for this body. -/
def Accepted (r : RegistryService) (dto : ServiceManifestDto v) (now : String) : Prop :=
  ∃ e, (r.register dto.toManifest now .acknowledged).result = .ok e

theorem Accepted.admitted {dto : ServiceManifestDto v} (h : Accepted r dto now) :
    ∃ previousVersion,
      registerChecks (r.find dto.serviceId) dto.toManifest = .ok previousVersion := by
  obtain ⟨e, he⟩ := h
  cases ha : registerChecks (r.find dto.serviceId) dto.toManifest with
  | ok previousVersion => exact ⟨previousVersion, rfl⟩
  | error t =>
    rw [register_refused (m := dto.toManifest) _ _ ha] at he
    cases he

/-- Between two accepted registrations of one id, with no deregistration of it
and no accepted registration of it without a version, the major number does not
drop. `Distinct` excludes majors that rounding to a double merges with smaller ones. -/
theorem majors_never_drop (first last : ServiceManifestDto v) (firstTime lastTime : String)
    (r : RegistryService) (hr : r.redis = false) (hfirst : Accepted r first firstTime)
    (hv : first.version = .value s)
    (ha : majorOf s = some a) (hd : Distinct a) (run : List (Op v × String))
    (hrun : Runs.Always step (KeepsVersion first.serviceId)
      (step r (.register first, firstTime)) run)
    (hid : last.serviceId = first.serviceId)
    (hlast : Accepted (Runs.final step (step r (.register first, firstTime)) run) last lastTime)
    (hv' : last.version = .value s') (hx : majorOf s' = some x) : a ≤ x := by
  obtain ⟨previousVersion, hchecks⟩ := hfirst.admitted
  have hstart : (step r (.register first, firstTime)).redis = false ∧
      StoredMajor first.serviceId a (step r (.register first, firstTime)).services :=
    ⟨(call_redis r _ _ _).trans hr, register_stores hr hchecks hv ha⟩
  have hend := Runs.invariant_final
    (I := fun r => r.redis = false ∧ StoredMajor first.serviceId a r.services)
    (fun r op hi hg => step_keeps op hi hg) hstart hrun
  obtain ⟨previousVersion', hchecks'⟩ := hlast.admitted
  obtain ⟨parsed', hs', hle⟩ := register_above (hid ▸ hend.2) hv' hchecks'
  obtain ⟨parsed, hs, hmajor⟩ := parseSemver_major hx
  rw [hs'] at hs
  cases hs
  rw [hmajor] at hle
  by_contra hlt
  exact absurd (hd x (by omega)) (by omega)

def anything : Validators := ⟨fun _ => true, fun _ => true⟩

/-- A body for `orders`; only the version varies. -/
def ordersBody (version : Optional String) : ManifestBody where
  serviceId := "orders"
  name := "orders"
  baseUrl := "http://orders"
  requiredScopes := ["orders:read"]
  exposes := ["/orders"]
  version := version

def two : ServiceManifestDto anything := ⟨ordersBody (.value "2.0.0"), by decide⟩

def unversioned : ServiceManifestDto anything := ⟨ordersBody .undefined, by decide⟩

def one : ServiceManifestDto anything := ⟨ordersBody (.value "1.0.0"), by decide⟩

def afterTwo : RegistryService := step {} (Op.register two, "t0")

/-- Leaving the version out of an update erases the stored one, so the next
registration is compared with nothing. -/
theorem unversioned_update_forgets_major :
    Accepted {} two "t0" ∧ two.version = .value "2.0.0" ∧ majorOf "2.0.0" = some 2 ∧
    Accepted (step afterTwo (Op.register unversioned, "t1")) one "t2" ∧
    one.version = .value "1.0.0" ∧ majorOf "1.0.0" = some 1 ∧ ¬ 2 ≤ 1 :=
  ⟨⟨_, rfl⟩, rfl, by decide, ⟨_, rfl⟩, rfl, by decide, by decide⟩

def three : ServiceManifestDto anything := ⟨ordersBody (.value "3.1.0"), by decide⟩

def deprecation : Op anything × String :=
  (.lifecycle (.deprecateService "orders" .undefined .undefined), "t1")

/-- A deprecation in between does not lower the bound. -/
theorem majors_never_drop_orders : Accepted (step afterTwo deprecation) three "t2" ∧ 2 ≤ 3 :=
  ⟨⟨_, rfl⟩, majors_never_drop two three "t0" "t2" {} rfl ⟨_, rfl⟩ rfl (by decide)
    (distinct_of_le (by decide)) [deprecation] ⟨trivial, trivial⟩ rfl ⟨_, rfl⟩ rfl (by decide)⟩

end ApiCenter.Proofs.Versions
