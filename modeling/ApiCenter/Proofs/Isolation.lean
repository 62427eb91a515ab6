import ApiCenter.Library.Runs
import ApiCenter.Model.Gateway

namespace ApiCenter
open Library

/-- The upstream an action of the proxy is about; the other actions are about the registry, or
end a request that has been forwarded. -/
def GatewayAction.upstream : GatewayAction → Option (ServiceType × String)
  | .proxyRequest ns target _ _ _ => some (ns, target)
  | .proxyRes ns target _ _ => some (ns, target)
  | .proxyError ns target _ => some (ns, target)
  | .call .. | .loadFromRedis _ | .reconcile .. | .finish .. => none

/-- The action is no traffic of another upstream. -/
def GatewayAction.concerns (ns : ServiceType) (target : String) (a : GatewayAction) : Bool :=
  a.upstream.all (· = (ns, target))

/-- What a client is given for a request. -/
structure ProxyAnswer where
  headers : List (String × HeaderValue)
  forwarded : Option Middleware
  onFinish : Option FinishListener
  result : Except Thrown Unit

def Proxied.answer (p : Proxied) : ProxyAnswer where
  headers := p.headers
  forwarded := p.forwarded
  onFinish := p.onFinish
  result := p.result

namespace Proofs.Isolation

variable {target other : String}

/-- Two handlers that know the same of `target`. -/
structure HandlersAgree (target : String) (h h' : ProxyHandler) : Prop where
  routeNamespace : h.routeNamespace = h'.routeNamespace
  pathPrefix : h.pathPrefix = h'.pathPrefix
  proxyTimeoutMs : h.proxyTimeoutMs = h'.proxyTimeoutMs
  cache : h.proxyCache.lookup target = h'.proxyCache.lookup target
  breaker : h.circuitBreakers.lookup target = h'.circuitBreakers.lookup target

namespace HandlersAgree

variable {h h' : ProxyHandler}

theorem refl (h : ProxyHandler) : HandlersAgree target h h := ⟨rfl, rfl, rfl, rfl, rfl⟩

theorem trans {h'' : ProxyHandler} (a : HandlersAgree target h h')
    (b : HandlersAgree target h' h'') : HandlersAgree target h h'' :=
  ⟨a.routeNamespace.trans b.routeNamespace, a.pathPrefix.trans b.pathPrefix,
    a.proxyTimeoutMs.trans b.proxyTimeoutMs, a.cache.trans b.cache, a.breaker.trans b.breaker⟩

theorem symm (a : HandlersAgree target h h') : HandlersAgree target h' h :=
  ⟨a.routeNamespace.symm, a.pathPrefix.symm, a.proxyTimeoutMs.symm, a.cache.symm, a.breaker.symm⟩

theorem invalidate (a : HandlersAgree target h h') (id : String) :
    HandlersAgree target (h.invalidateProxyCache id) (h'.invalidateProxyCache id) := by
  refine ⟨a.routeNamespace, a.pathPrefix, a.proxyTimeoutMs, ?_, a.breaker⟩
  simp only [ProxyHandler.invalidateProxyCache, Table.lookup_erase_if, a.cache]

end HandlersAgree

theorem lookup_insert_ne {ν : Type} (t : Table String ν) (h : target ≠ other) (v : ν) :
    (t.insert other v).lookup target = t.lookup target := by
  rw [Table.lookup_insert_if, if_neg h]

/-- The handler a forwarded or a rejected request leaves behind. -/
theorem forward_handler (h : ProxyHandler) (target upstream : String) (req : AuthenticatedRequest)
    (headers : List (String × HeaderValue)) (now : Nat) (throws : Bool) :
    (h.forward target upstream req headers now throws).handler =
      { h with
        circuitBreakers := h.circuitBreakers.insert target
          ((h.getOrCreateCircuitBreaker target).tryAcquire now).1
        proxyCache :=
          if ((h.getOrCreateCircuitBreaker target).tryAcquire now).2 = true ∧
              h.proxyCache.lookup target = none then
            h.proxyCache.insert target (h.createProxy target upstream)
          else h.proxyCache } := by
  unfold ProxyHandler.forward
  cases hb : ((h.getOrCreateCircuitBreaker target).tryAcquire now).2 <;>
    cases hc : h.proxyCache.lookup target <;> simp [hb]

/-- Forwarding to another target leaves what is known of this one. -/
theorem forward_other (h : ProxyHandler) (hne : target ≠ other) (upstream : String)
    (req : AuthenticatedRequest) (headers : List (String × HeaderValue)) (now : Nat)
    (throws : Bool) :
    HandlersAgree target (h.forward other upstream req headers now throws).handler h := by
  rw [forward_handler]
  refine ⟨rfl, rfl, rfl, ?_, lookup_insert_ne _ hne _⟩
  dsimp only
  split
  · exact lookup_insert_ne _ hne _
  · rfl

theorem proxyRequest_other (h : ProxyHandler) (r : RegistryService) (hne : target ≠ other)
    (req : AuthenticatedRequest) (now : Nat) (throws : Bool) :
    HandlersAgree target (h.proxyRequest r other req now throws).handler h := by
  unfold ProxyHandler.proxyRequest
  cases h.resolveTarget r other with
  | error e => exact .refl h
  | ok resolved =>
    obtain ⟨upstream, entry⟩ := resolved
    dsimp only
    obtain ⟨headers, gated⟩ := h.enforceLifecycleGate entry other
    cases gated with
    | error e => exact .refl h
    | ok u =>
      cases ProxyHandler.checkConsumer r other req with
      | error e => exact .refl h
      | ok u => exact forward_other h hne upstream req headers now throws

variable {h h' : ProxyHandler}

theorem HandlersAgree.breaker_eq (a : HandlersAgree target h h') :
    h.getOrCreateCircuitBreaker target = h'.getOrCreateCircuitBreaker target := by
  unfold ProxyHandler.getOrCreateCircuitBreaker
  rw [a.breaker]

theorem HandlersAgree.createProxy_eq (a : HandlersAgree target h h') (upstream : String) :
    h.createProxy target upstream = h'.createProxy target upstream := by
  unfold ProxyHandler.createProxy
  rw [a.proxyTimeoutMs, a.pathPrefix]

/-- A request is answered from what is known of its target. -/
theorem HandlersAgree.forward (a : HandlersAgree target h h') (upstream : String)
    (req : AuthenticatedRequest) (headers : List (String × HeaderValue)) (now : Nat)
    (throws : Bool) :
    (h.forward target upstream req headers now throws).answer =
        (h'.forward target upstream req headers now throws).answer ∧
      HandlersAgree target (h.forward target upstream req headers now throws).handler
        (h'.forward target upstream req headers now throws).handler := by
  constructor
  · unfold ProxyHandler.forward Proxied.answer
    rw [a.breaker_eq, a.cache, a.createProxy_eq, a.routeNamespace]
    cases hb : ((h'.getOrCreateCircuitBreaker target).tryAcquire now).2 <;> simp [hb]
  · rw [forward_handler, forward_handler, a.breaker_eq, a.createProxy_eq, a.cache]
    refine ⟨a.routeNamespace, a.pathPrefix, a.proxyTimeoutMs, ?_, ?_⟩
    · dsimp only
      split
      · rw [Table.lookup_insert_if, Table.lookup_insert_if, if_pos rfl, if_pos rfl]
      · exact a.cache
    · rw [Table.lookup_insert_if, Table.lookup_insert_if, if_pos rfl, if_pos rfl]

theorem HandlersAgree.proxyRequest (a : HandlersAgree target h h') (r : RegistryService)
    (req : AuthenticatedRequest) (now : Nat) (throws : Bool) :
    (h.proxyRequest r target req now throws).answer =
        (h'.proxyRequest r target req now throws).answer ∧
      HandlersAgree target (h.proxyRequest r target req now throws).handler
        (h'.proxyRequest r target req now throws).handler := by
  have hresolve : h.resolveTarget r target = h'.resolveTarget r target := by
    unfold ProxyHandler.resolveTarget
    rw [a.routeNamespace]
  have hgate : ∀ entry, h.enforceLifecycleGate entry target =
      h'.enforceLifecycleGate entry target := by
    intro entry
    unfold ProxyHandler.enforceLifecycleGate ProxyHandler.successorLink
    rw [a.routeNamespace]
  unfold ProxyHandler.proxyRequest
  rw [hresolve]
  cases h'.resolveTarget r target with
  | error e => exact ⟨rfl, a⟩
  | ok resolved =>
    obtain ⟨upstream, entry⟩ := resolved
    dsimp only
    rw [hgate]
    obtain ⟨headers, gated⟩ := h'.enforceLifecycleGate entry target
    cases gated with
    | error e => exact ⟨rfl, a⟩
    | ok u =>
      cases ProxyHandler.checkConsumer r target req with
      | error e => exact ⟨rfl, a⟩
      | ok u => exact a.forward upstream req headers now throws

/-- What is recorded at one breaker, `record` being the outcome. -/
theorem record_other (h : ProxyHandler) (hne : target ≠ other) (status now : Nat) :
    HandlersAgree target (h.proxyRes other status now) h ∧
      HandlersAgree target (h.proxyError other now) h := by
  unfold ProxyHandler.proxyRes ProxyHandler.proxyError
  cases h.circuitBreakers.lookup other with
  | none => exact ⟨.refl h, .refl h⟩
  | some cb =>
    exact ⟨⟨rfl, rfl, rfl, rfl, lookup_insert_ne _ hne _⟩,
      ⟨rfl, rfl, rfl, rfl, lookup_insert_ne _ hne _⟩⟩

theorem HandlersAgree.record (a : HandlersAgree target h h') (status now : Nat) :
    HandlersAgree target (h.proxyRes target status now) (h'.proxyRes target status now) ∧
      HandlersAgree target (h.proxyError target now) (h'.proxyError target now) := by
  unfold ProxyHandler.proxyRes ProxyHandler.proxyError
  rw [a.breaker]
  cases h'.circuitBreakers.lookup target with
  | none => exact ⟨a, a⟩
  | some cb =>
    constructor
    · refine ⟨a.routeNamespace, a.pathPrefix, a.proxyTimeoutMs, a.cache, ?_⟩
      simp only [Table.lookup_insert_if, if_true]
    · refine ⟨a.routeNamespace, a.pathPrefix, a.proxyTimeoutMs, a.cache, ?_⟩
      simp only [Table.lookup_insert_if, if_true]

/-- Two gateways that know the same of one upstream. -/
structure GatewaysAgree (ns : ServiceType) (target : String) (g g' : Gateway) : Prop where
  registry : g.registry = g'.registry
  handler : HandlersAgree target (g.handler ns) (g'.handler ns)

theorem handler_setHandler (g : Gateway) (h : ProxyHandler) (ns ns' : ServiceType) :
    (g.setHandler h ns').handler ns = if ns = ns' then h else g.handler ns := by
  cases ns <;> cases ns' <;> rfl

theorem handler_notify (g : Gateway) (ns : ServiceType) (id : Option String) :
    (g.notify id).handler ns = match id with
      | none => g.handler ns
      | some id => (g.handler ns).invalidateProxyCache id := by
  cases id <;> cases ns <;> rfl

/-- What an action does to the handler of one namespace, in terms of that handler alone. -/
theorem step_handler (g : Gateway) (a : GatewayAction) (ns : ServiceType) :
    (g.step a).handler ns = match a with
      | .call c now write =>
        match (g.registry.call c now write).notified with
        | none => g.handler ns
        | some id => (g.handler ns).invalidateProxyCache id
      | .proxyRequest ns' target req now throws =>
        if ns = ns' then ((g.handler ns').proxyRequest g.registry target req now throws).handler
        else g.handler ns
      | .proxyRes ns' target status now =>
        if ns = ns' then (g.handler ns').proxyRes target status now else g.handler ns
      | .proxyError ns' target now =>
        if ns = ns' then (g.handler ns').proxyError target now else g.handler ns
      | .loadFromRedis _ | .reconcile .. | .finish .. => g.handler ns := by
  cases a with
  | call c now write => exact handler_notify _ _ _
  | loadFromRedis hash | reconcile compared loaded => rfl
  | proxyRequest ns' target req now throws => exact handler_setHandler _ _ _ _
  | proxyRes ns' target status now => exact handler_setHandler _ _ _ _
  | proxyError ns' target now => exact handler_setHandler _ _ _ _
  | finish listener statusCode now =>
    simp only [Gateway.step]
    split <;> rfl

variable {ns : ServiceType} {g g' : Gateway} {a : GatewayAction}

theorem GatewaysAgree.step (ha : a.concerns ns target = true) (h : GatewaysAgree ns target g g') :
    GatewaysAgree ns target (g.step a) (g'.step a) := by
  constructor
  · rw [Gateway.step_registry, Gateway.step_registry, h.registry]
  · rw [step_handler, step_handler, h.registry]
    cases a with
    | call c now write =>
      dsimp only
      cases (g'.registry.call c now write).notified with
      | none => exact h.handler
      | some id => exact h.handler.invalidate id
    | loadFromRedis | reconcile | finish => exact h.handler
    | proxyRequest ns' target' req now throws =>
      obtain ⟨rfl, rfl⟩ : ns' = ns ∧ target' = target := by
        simpa [GatewayAction.concerns, GatewayAction.upstream] using ha
      simp only [if_true]
      exact (h.handler.proxyRequest g'.registry req now throws).2
    | proxyRes ns' target' status now =>
      obtain ⟨rfl, rfl⟩ : ns' = ns ∧ target' = target := by
        simpa [GatewayAction.concerns, GatewayAction.upstream] using ha
      simp only [if_true]
      exact (h.handler.record status now).1
    | proxyError ns' target' now =>
      obtain ⟨rfl, rfl⟩ : ns' = ns ∧ target' = target := by
        simpa [GatewayAction.concerns, GatewayAction.upstream] using ha
      simp only [if_true]
      exact (h.handler.record 0 now).2

theorem ne_of_not_concerns (hu : a.upstream = some (ns, other))
    (ha : a.concerns ns target = false) : target ≠ other := by
  rintro rfl
  simp [GatewayAction.concerns, hu] at ha

/-- Traffic of another upstream goes unnoticed. -/
theorem GatewaysAgree.skip (ha : a.concerns ns target = false)
    (h : GatewaysAgree ns target g g') : GatewaysAgree ns target (g.step a) g' := by
  constructor
  · rw [Gateway.step_registry, ← h.registry]
    cases a with
    | call | loadFromRedis | reconcile | finish => cases ha
    | proxyRequest | proxyRes | proxyError => rfl
  · rw [step_handler]
    refine HandlersAgree.trans ?_ h.handler
    cases a with
    | call | loadFromRedis | reconcile | finish => cases ha
    | proxyRequest ns' target' req now throws =>
      dsimp only
      split
      · rename_i hns
        subst hns
        exact proxyRequest_other _ _ (ne_of_not_concerns rfl ha) req now throws
      · exact .refl _
    | proxyRes ns' target' status now =>
      dsimp only
      split
      · rename_i hns
        subst hns
        exact (record_other _ (ne_of_not_concerns rfl ha) status now).1
      · exact .refl _
    | proxyError ns' target' now =>
      dsimp only
      split
      · rename_i hns
        subst hns
        exact (record_other _ (ne_of_not_concerns rfl ha) 0 now).2
      · exact .refl _

/-- Whatever traffic goes to other upstreams, and however it fails, every request to this one is
answered as if there had been none: the same middleware, headers, listener and error. -/
theorem upstreams_isolated (g : Gateway) (ns : ServiceType) (target : String)
    (as : List GatewayAction) (req : AuthenticatedRequest) (now : Nat) (throws : Bool) :
    ((Runs.final Gateway.step g as).proxied ns target req now throws).answer =
      ((Runs.final Gateway.step g (as.filter (·.concerns ns target))).proxied ns target req now
        throws).answer := by
  have h : GatewaysAgree ns target (Runs.final Gateway.step g as)
      (Runs.final Gateway.step g (as.filter (·.concerns ns target))) := by
    apply Runs.final_filter (R := GatewaysAgree ns target)
    · intro s s' a ha hs
      exact hs.step ha
    · intro s s' a ha hs
      exact hs.skip ha
    · exact ⟨rfl, .refl _⟩
  unfold Gateway.proxied
  rw [h.registry]
  exact (h.handler.proxyRequest _ req now throws).1

end Proofs.Isolation

end ApiCenter
