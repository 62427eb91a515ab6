import ApiCenter.Model.Registry

namespace ApiCenter

/-- The version check of `register`; what it returns is `previousVersion`. -/
def versionGovernance (existing : Option Found) (manifest : ServiceManifest) :
    Except Thrown (Option String) :=
  match existing.bind (·.version.text?), manifest.version.text? with
  | some current, some next => (validateVersionUpgrade current next).map fun _ => some current
  | _, _ => .ok none

/-- The checks of `register` before it writes. -/
def registerChecks (existing : Option Found) (manifest : ServiceManifest) :
    Except Thrown (Option String) :=
  match versionGovernance existing manifest with
  | .error e => .error e
  | .ok previousVersion =>
    if existing.map (·.status) = some (.value .retired) then
      .error (.conflictError
        s!"Service '{manifest.serviceId}' is retired and cannot be re-registered")
    else .ok previousVersion

theorem registerChecks_retired (existing : Option Found) (manifest : ServiceManifest)
    (h : existing.map (·.status) = some (.value .retired)) :
    ∃ t, registerChecks existing manifest = .error t := by
  unfold registerChecks
  cases versionGovernance existing manifest with
  | error t => exact ⟨t, rfl⟩
  | ok previousVersion => exact ⟨_, if_pos h⟩

/-- Past both checks, the entry there was not retired. -/
theorem registerChecks_ok {existing : Option Found} {manifest : ServiceManifest}
    (h : registerChecks existing manifest = .ok previousVersion) :
    versionGovernance existing manifest = .ok previousVersion ∧
    existing.map (·.status) ≠ some (.value .retired) := by
  unfold registerChecks at h
  cases hv : versionGovernance existing manifest with
  | error t => simp [hv] at h
  | ok v =>
    simp only [hv] at h
    split at h
    · cases h
    · cases h
      exact ⟨rfl, by assumption⟩

def buildEntry (existing : Option Found) (manifest : ServiceManifest)
    (previousVersion : Option String) (now : String) : ServiceRegistryEntry :=
  { manifest with
    serviceType := .value (manifest.serviceType.getD .tribe)
    registeredAt := (existing.bind (·.registeredAt.text?)).getD now
    updatedAt := now
    status := if existing.map (·.status) = some (.value .deprecated) then .deprecated else .active
    previousVersion := (previousVersion.map .value).getD .undefined }

/-- `register`, waiting in `persistToRedisStrict`. -/
structure PendingRegister where
  manifest : ServiceManifest
  entry : ServiceRegistryEntry
  isUpdate : Bool
  previousVersion : Option String

namespace RegistryService

/-- `register` up to the Redis write. -/
def beginRegister (r : RegistryService) (manifest : ServiceManifest) (now : String) :
    Except Thrown (RegistryService × PendingRegister) := do
  let existing := r.find manifest.serviceId
  let previousVersion ← registerChecks existing manifest
  let entry := buildEntry existing manifest previousVersion now
  pure (r.putAndSync manifest.serviceId entry, ⟨manifest, entry, existing.isSome, previousVersion⟩)

end RegistryService

def PendingRegister.events (p : PendingRegister) : List KafkaMessage :=
  .serviceRegistered p.manifest.serviceId p.manifest.name p.manifest.baseUrl p.manifest.exposes
    p.entry.serviceType p.isUpdate p.entry.updatedAt ::
  match p.previousVersion with
  | some v => if .value v = p.manifest.version then [] else
      [.serviceVersionChanged p.manifest.serviceId v p.manifest.version p.entry.updatedAt]
  | none => []

/-- `register` from the answer to the Redis write on. `r` is the registry at
that moment. -/
def PendingRegister.resume (p : PendingRegister) (r : RegistryService) (write : Write) :
    Outcome ServiceRegistryEntry :=
  match r.redis, write with
  | true, .failed message =>
    { registry := r.deleteAndSync p.manifest.serviceId
      result := .error (.error (s!"Registration for '{p.manifest.serviceId}' failed — " ++
        s!"Redis write error: {message}")) }
  | _, _ =>
    { registry := r.publish p.events
      notified := if p.isUpdate then some p.manifest.serviceId else none
      result := .ok p.entry }

namespace RegistryService

/-- `register`, run to completion. -/
def register (r : RegistryService) (manifest : ServiceManifest) (now : String) (write : Write) :
    Outcome ServiceRegistryEntry :=
  match r.beginRegister manifest now with
  | .error e => { registry := r, result := .error e }
  | .ok (written, pending) =>
    { pending.resume written write with
      command := r.persistToRedis manifest.serviceId (.entry pending.entry) }

/-- `deregister` up to the Redis write. -/
def beginDeregister (r : RegistryService) (id : String) : Except Thrown RegistryService :=
  match r.find id with
  | none => .error (.notFoundError s!"Service '{id}' is not registered")
  | some _ => .ok (r.deleteAndSync id)

/-- `deregister` from the answer on; a failed delete is only logged. -/
def completeDeregister (r : RegistryService) (id now : String) : RegistryService :=
  r.publish [.serviceDeregistered id now]

/-- `deregister`, run to completion. -/
def deregister (r : RegistryService) (id now : String) : Outcome Unit :=
  match r.beginDeregister id with
  | .error e => { registry := r, result := .error e }
  | .ok removed =>
    { registry := removed.completeDeregister id now
      command := r.removeFromRedis id
      result := .ok () }

end RegistryService

end ApiCenter
