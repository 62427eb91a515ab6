import ApiCenter.Model.Registration

namespace ApiCenter

namespace RegistryService

/-- What `deprecate`, `retire` and `activate` share: look the entry up, refuse or
assign to it, and persist the whole of it. -/
def amend (r : RegistryService) (id : String) (choose : Found → Except Thrown Changes)
    (sync : Bool) (events : Found → List KafkaMessage) : Outcome Found :=
  match r.find id with
  | none =>
    { registry := r, result := .error (.notFoundError s!"Service '{id}' is not registered") }
  | some found =>
    match choose found >>= found.assign with
    | .error e => { registry := r, result := .error e }
    | .ok found =>
      let stored := r.store id found
      let counted := if sync then stored.syncMetricsGauge else stored
      { registry := counted.publish (events found)
        command := r.persistToRedis id found
        result := .ok found }

def deprecateChanges (sunsetDate replacementService : Optional String) (now : String) :
    Changes where
  status := some .deprecated
  updatedAt := some now
  sunsetDate := sunsetDate.text?.map .value
  replacementService := replacementService.text?.map .value

/-- `deprecate`; the bare word is a keyword here. -/
def deprecateService (r : RegistryService) (id : String)
    (sunsetDate replacementService : Optional String) (now : String) : Outcome Found :=
  r.amend id
    (fun found =>
      if found.status = .value .retired then
        .error (.conflictError s!"Service '{id}' is already retired")
      else .ok (deprecateChanges sunsetDate replacementService now))
    false
    (fun found =>
      [.serviceDeprecated id found.sunsetDate found.replacementService found.updatedAt])

def retireChanges (now : String) : Changes where
  status := some .retired
  updatedAt := some now

def retire (r : RegistryService) (id : String) (now : String) : Outcome Found :=
  r.amend id (fun _ => .ok (retireChanges now)) true
    (fun found => [.serviceRetired id found.updatedAt])

def activateChanges (now : String) : Changes where
  status := some .active
  updatedAt := some now
  sunsetDate := some .undefined
  replacementService := some .undefined

def activate (r : RegistryService) (id : String) (now : String) : Outcome Found :=
  r.amend id
    (fun found =>
      if found.status ≠ .value .proposed ∧ found.status ≠ .value .deprecated then
        .error (.conflictError
          s!"Service '{id}' is '{statusText found.status}' and cannot be activated")
      else .ok (activateChanges now))
    true (fun _ => [])

def healthChanges (healthy : Bool) (now : String) : Changes where
  healthy := some healthy
  lastHealthCheckAt := some now
  updatedAt := some now

/-- The flag says whether the health status changed. -/
def setHealthStatus (r : RegistryService) (id : String) (healthy : Bool) (now : String) :
    Outcome Bool :=
  match r.find id with
  | none => { registry := r, result := .ok false }
  | some found =>
    if found.healthy.getD true = healthy then { registry := r, result := .ok false }
    else
      match found.assign (healthChanges healthy now) with
      | .error e => { registry := r, result := .error e }
      | .ok found =>
        { registry := r.store id found
          command := r.persistToRedis id found
          result := .ok true }

def touchHealthCheck (r : RegistryService) (id : String) (now : String) : Outcome Unit :=
  match r.find id with
  | none => { registry := r, result := .ok () }
  | some found =>
    match found.assign { lastHealthCheckAt := some now } with
    | .error e => { registry := r, result := .error e }
    | .ok found => { registry := r.store id found, result := .ok () }

def isRoutable (r : RegistryService) (id : String) : Bool :=
  match r.find id with
  | none => false
  | some found =>
    if found.healthy = .value false then false
    else found.status = .value .active || found.status = .value .deprecated

end RegistryService

/-- The calls that change an entry without registering or removing it. -/
inductive LifecycleCall where
  | deprecateService (id : String) (sunsetDate replacementService : Optional String)
  | retire (id : String)
  | activate (id : String)
  | setHealthStatus (id : String) (healthy : Bool)
  | touchHealthCheck (id : String)

def LifecycleCall.id : LifecycleCall → String
  | .deprecateService id _ _ => id
  | .retire id => id
  | .activate id => id
  | .setHealthStatus id _ => id
  | .touchHealthCheck id => id

/-- `this` with the value it returned dropped. -/
def Outcome.discard (o : Outcome α) : Outcome Unit :=
  { o with result := o.result.map fun _ => () }

def RegistryService.lifecycle (r : RegistryService) (c : LifecycleCall) (now : String) :
    Outcome Unit :=
  match c with
  | .deprecateService id sunsetDate replacementService =>
    (r.deprecateService id sunsetDate replacementService now).discard
  | .retire id => (r.retire id now).discard
  | .activate id => (r.activate id now).discard
  | .setHealthStatus id healthy => (r.setHealthStatus id healthy now).discard
  | .touchHealthCheck id => r.touchHealthCheck id now

/-- The calls that change the registry. -/
inductive RegistryCall where
  | register (manifest : ServiceManifest)
  | deregister (id : String)
  | lifecycle (c : LifecycleCall)

def RegistryCall.id : RegistryCall → String
  | .register manifest => manifest.serviceId
  | .deregister id => id
  | .lifecycle c => c.id

/-- One call, run to completion. `write` is how the strict write of `register`
ends. -/
def RegistryService.call (r : RegistryService) (c : RegistryCall) (now : String) (write : Write) :
    Outcome Unit :=
  match c with
  | .register manifest => (r.register manifest now write).discard
  | .deregister id => r.deregister id now
  | .lifecycle c => r.lifecycle c now

end ApiCenter
