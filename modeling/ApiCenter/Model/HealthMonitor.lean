import ApiCenter.Model.Lifecycle

namespace ApiCenter

/-- How the request of a health check ends: with a response, or with an error and no response. -/
inductive HealthResponse where
  | responded (status : Nat)
  | failed (message : String)
  deriving DecidableEq, Repr

namespace HealthResponse

/-- 2xx to 4xx means the service is alive. -/
def validateStatus (status : Nat) : Bool := status < 500

def healthy : HealthResponse → Bool
  | .responded status => validateStatus status
  | .failed _ => false

/-- The reason given in the event, which for a refused status is the text of the HTTP client. -/
def reason : HealthResponse → String
  | .responded status =>
    if validateStatus status then "Health check succeeded"
    else s!"Request failed with status code {status}"
  | .failed message => if message = "" then "Unknown error" else message

end HealthResponse

namespace RegistryService

/-- The services a sweep sends a request to. -/
def checkable (r : RegistryService) : List ServiceRegistryEntry :=
  r.services.values.filter fun svc =>
    svc.healthCheck.text?.isSome && svc.status ≠ .retired && svc.status ≠ .proposed

/-- What a health check does once its request has ended. Where an assignment throws, so does the one
that the handler of failures makes, and nothing has changed. -/
def endHealthCheck (r : RegistryService) (id : String) (response : HealthResponse)
    (now : String) : Outcome Unit :=
  let out := r.setHealthStatus id response.healthy now
  match out.result with
  | .ok true =>
    { registry := out.registry.publish
        [.serviceHealthChanged id response.healthy (!response.healthy) response.reason now]
      command := out.command
      result := .ok () }
  | _ => { out.registry.touchHealthCheck id now with command := out.command }

end RegistryService

/-- Where the requests of a health check go. -/
def ServiceManifest.SameAddress (m m' : ServiceManifest) : Prop :=
  m.baseUrl = m'.baseUrl ∧ m.healthCheck = m'.healthCheck

instance (m m' : ServiceManifest) : Decidable (m.SameAddress m') :=
  inferInstanceAs (Decidable (_ ∧ _))

/-- A health check on its way, with the entry it was sent for. `registered` is the manifest the
service has last registered with since. -/
structure Probe where
  svc : ServiceRegistryEntry
  registered : Option ServiceManifest := none

namespace Probe

def register (p : Probe) (manifest : ServiceManifest) : Probe :=
  if manifest.serviceId = p.svc.serviceId then { p with registered := some manifest } else p

/-- The service has since registered at another address, and not come back. -/
def moved (p : Probe) : Bool :=
  p.registered.any fun m => ¬ p.svc.toServiceManifest.SameAddress m

@[simp] theorem register_svc (p : Probe) (m : ServiceManifest) : (p.register m).svc = p.svc := by
  unfold register
  split <;> rfl

theorem register_of_ne {p : Probe} {m : ServiceManifest} (h : m.serviceId ≠ p.svc.serviceId) :
    p.register m = p := if_neg h

theorem moved_register {p : Probe} {m : ServiceManifest} (h : m.serviceId = p.svc.serviceId) :
    (p.register m).moved = true ↔ ¬ p.svc.toServiceManifest.SameAddress m := by
  simp [register, moved, h]

end Probe

/-- One instance and its health monitor, with the health checks on their way and the `register`
calls that wait for their Redis write. -/
structure HealthMonitor where
  registry : RegistryService
  healthCheckRunning : Bool := false
  probes : List Probe := []
  registering : List PendingRegister := []

/-- `respond` ends a health check, and `finish` the sweep; `register` runs up to its Redis write,
and `settle` from the answer on. -/
inductive MonitorAction where
  | handleHealthChecks
  | respond (i : Nat) (response : HealthResponse) (now : String)
  | finish
  | register (manifest : ServiceManifest) (now : String)
  | settle (i : Nat) (write : Write)
  | deregister (id now : String)
  | lifecycle (c : LifecycleCall) (now : String)

namespace HealthMonitor

/-- A sweep up to its requests, all sent at once; two sweeps never run at a time. -/
def handleHealthChecks (s : HealthMonitor) : HealthMonitor :=
  if s.healthCheckRunning then s
  else
    { s with
      healthCheckRunning := !s.registry.checkable.isEmpty
      probes := s.registry.checkable.map fun svc => { svc := svc } }

def respond (s : HealthMonitor) (i : Nat) (response : HealthResponse) (now : String) :
    HealthMonitor :=
  match s.probes[i]? with
  | none => s
  | some p =>
    { s with
      registry := (s.registry.endHealthCheck p.svc.serviceId response now).registry
      probes := s.probes.eraseIdx i }

def finish (s : HealthMonitor) : HealthMonitor :=
  if s.probes.isEmpty then { s with healthCheckRunning := false } else s

def register (s : HealthMonitor) (manifest : ServiceManifest) (now : String) : HealthMonitor :=
  match s.registry.beginRegister manifest now with
  | .error _ => s
  | .ok (written, pending) =>
    { s with
      registry := written
      probes := s.probes.map (·.register manifest)
      registering := s.registering ++ [pending] }

def settle (s : HealthMonitor) (i : Nat) (write : Write) : HealthMonitor :=
  match s.registering[i]? with
  | none => s
  | some pending =>
    { s with
      registry := (pending.resume s.registry write).registry
      registering := s.registering.eraseIdx i }

def step (s : HealthMonitor) : MonitorAction → HealthMonitor
  | .handleHealthChecks => s.handleHealthChecks
  | .respond i response now => s.respond i response now
  | .finish => s.finish
  | .register manifest now => s.register manifest now
  | .settle i write => s.settle i write
  | .deregister id now => { s with registry := (s.registry.deregister id now).registry }
  | .lifecycle c now => { s with registry := (s.registry.lifecycle c now).registry }

end HealthMonitor

end ApiCenter
