import ApiCenter.Model.ProxyHandler
import ApiCenter.Model.Reconciliation

namespace ApiCenter
open Library

/-- One observation of `proxy_requests_total` and `proxy_request_duration_seconds`. -/
structure ProxyMetric where
  request : FinishListener
  statusCode : Nat
  durationMs : Nat
  deriving DecidableEq, Repr

/-- One gateway process: its registry, the handlers of `TribesController` and
`SharedServicesController`, both subscribed to the registry, the `finish`
listeners not fired yet, and the proxy metrics. -/
structure Gateway where
  registry : RegistryService := {}
  tribes : ProxyHandler := { routeNamespace := .tribe, pathPrefix := "/api/v1/tribes" }
  shared : ProxyHandler := { routeNamespace := .shared, pathPrefix := "/api/v1/shared" }
  listeners : List FinishListener := []
  metrics : List ProxyMetric := []

inductive GatewayAction where
  | call (c : RegistryCall) (now : String) (write : Write)
  | loadFromRedis (hash : RedisHash)
  | reconcile (compared loaded : RedisHash)
  | proxyRequest (ns : ServiceType) (target : String) (req : AuthenticatedRequest) (now : Nat)
      (throws : Bool)
  | proxyRes (ns : ServiceType) (target : String) (status now : Nat)
  | proxyError (ns : ServiceType) (target : String) (now : Nat)
  | finish (listener : FinishListener) (statusCode now : Nat)

namespace Gateway

def handler (g : Gateway) : ServiceType → ProxyHandler
  | .tribe => g.tribes
  | .shared => g.shared

def setHandler (g : Gateway) (h : ProxyHandler) : ServiceType → Gateway
  | .tribe => { g with tribes := h }
  | .shared => { g with shared := h }

/-- `notifyCacheInvalidation`, with both handlers subscribed. -/
def notify (g : Gateway) : Option String → Gateway
  | none => g
  | some id =>
    { g with
      tribes := g.tribes.invalidateProxyCache id
      shared := g.shared.invalidateProxyCache id }

def proxied (g : Gateway) (ns : ServiceType) (target : String) (req : AuthenticatedRequest)
    (now : Nat) (throws : Bool) : Proxied :=
  (g.handler ns).proxyRequest g.registry target req now throws

/-- One step of the process; a registry call runs to its end. -/
def step (g : Gateway) : GatewayAction → Gateway
  | .call c now write =>
    let out := g.registry.call c now write
    { g with registry := out.registry }.notify out.notified
  | .loadFromRedis hash => { g with registry := g.registry.loadFromRedis hash }
  | .reconcile compared loaded => { g with registry := g.registry.reconcile compared loaded }
  | .proxyRequest ns target req now throws =>
    let out := g.proxied ns target req now throws
    { g.setHandler out.handler ns with listeners := g.listeners ++ out.onFinish.toList }
  | .proxyRes ns target status now => g.setHandler ((g.handler ns).proxyRes target status now) ns
  | .proxyError ns target now => g.setHandler ((g.handler ns).proxyError target now) ns
  | .finish listener statusCode now =>
    if listener ∈ g.listeners then
      { g with
        listeners := g.listeners.erase listener
        metrics := g.metrics ++ [⟨listener, statusCode, now - listener.proxyStart⟩] }
    else g

@[simp] theorem setHandler_registry (g : Gateway) (h : ProxyHandler) (ns : ServiceType) :
    (g.setHandler h ns).registry = g.registry := by
  cases ns <;> rfl

@[simp] theorem notify_registry (g : Gateway) (notified : Option String) :
    (g.notify notified).registry = g.registry := by
  cases notified <;> rfl

theorem step_registry (g : Gateway) (a : GatewayAction) :
    (g.step a).registry = match a with
      | .call c now write => (g.registry.call c now write).registry
      | .loadFromRedis hash => g.registry.loadFromRedis hash
      | .reconcile compared loaded => g.registry.reconcile compared loaded
      | _ => g.registry := by
  cases a with
  | call c now write => exact notify_registry _ _
  | loadFromRedis hash | reconcile compared loaded => rfl
  | proxyRequest ns target req now throws => exact setHandler_registry _ _ _
  | proxyRes ns target status now => exact setHandler_registry _ _ _
  | proxyError ns target now => exact setHandler_registry _ _ _
  | finish listener statusCode now =>
    simp only [step]
    split <;> rfl

/-- The middleware instance an action hands a request to, with the target. -/
def forwards (g : Gateway) : GatewayAction → Option (String × Middleware)
  | .proxyRequest ns target req now throws =>
    (g.proxied ns target req now throws).forwarded.map fun proxy => (target, proxy)
  | _ => none

end Gateway

end ApiCenter
