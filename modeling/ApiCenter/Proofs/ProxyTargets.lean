import ApiCenter.Library.Coherence
import ApiCenter.Proofs.Mediation

namespace ApiCenter.Proofs.ProxyTargets
open Library Calls Mediation

/-- The targets the middleware instances of a handler were created with. -/
def targets (h : ProxyHandler) (id : String) : Option String :=
  (h.proxyCache.lookup id).map (·.target)

/-- The registered base URLs. -/
def baseUrls (services : ServiceRegistryMap) (id : String) : Option String :=
  (services.get? id).map (·.baseUrl)

/-- Every cached middleware points at the base URL registered for its id, if one is. -/
def Coherent (g : Gateway) : Prop :=
  ∀ ns, Coherence.Agrees (targets (g.handler ns)) (baseUrls g.registry.services)

/-- No handler caches a middleware for `id` with a target other than `url`. -/
def CachedOnly (g : Gateway) (id url : String) : Prop :=
  ∀ ns target, targets (g.handler ns) id = some target → target = url

/-- A registration that finds no entry, and a reload from Redis, bring in only
base URLs that no cached middleware contradicts. -/
def TargetKept (g : Gateway) : GatewayAction → Prop
  | .call (.register m) _ write =>
    g.registry.find m.serviceId = none → (g.registry.redis = false ∨ write = .acknowledged) →
      CachedOnly g m.serviceId m.baseUrl
  | .loadFromRedis hash =>
    g.registry.redis = true → ∀ id e, (RegistryService.getRedisEntries hash).get? id = some e →
      CachedOnly g id e.baseUrl
  | .reconcile compared loaded =>
    g.registry.redis = true → RegistryService.hasDrift (RegistryService.getRedisEntries compared)
        g.registry.services = true →
      ∀ id e, (RegistryService.getRedisEntries loaded).get? id = some e → CachedOnly g id e.baseUrl
  | _ => True

/-- A request goes to the base URL that is registered for its target. -/
def ForwardsToRegistered (g : Gateway) (a : GatewayAction) : Prop :=
  ∀ target proxy, g.forwards a = some (target, proxy) →
    g.registry.resolveUpstream target "" = some proxy.target

variable {g : Gateway} {h : ProxyHandler} {r : RegistryService} {id : String}
  {services : ServiceRegistryMap} {ns : ServiceType} {target : String}
  {req : AuthenticatedRequest} {throws : Bool}

theorem baseUrls_eq_some : baseUrls services id = some url ↔
    ∃ e, services.get? id = some e ∧ e.baseUrl = url := by
  simp [baseUrls, Option.map_eq_some_iff]

theorem baseUrls_delete {key : String} (h : baseUrls (services.delete key) id = some url) :
    baseUrls services id = some url ∧ id ≠ key := by
  unfold baseUrls at h
  rw [PlainObject.get?_delete] at h
  split at h
  · cases h
  · exact ⟨h, by assumption⟩

/-- Rewriting an entry with the base URL it had. -/
theorem baseUrls_set_same {key : String} {old new : ServiceRegistryEntry}
    (hold : services.get? key = some old) (hurl : new.baseUrl = old.baseUrl) :
    baseUrls (services.set key new) id = baseUrls services id :=
  PlainObject.map_get?_set_of_some (fun e : ServiceRegistryEntry => e.baseUrl) hold hurl id

theorem targets_invalidate (h : ProxyHandler) (key : String) :
    targets (h.invalidateProxyCache key) id = if id = key then none else targets h id := by
  unfold targets ProxyHandler.invalidateProxyCache
  rw [Table.lookup_erase_if]
  split <;> rfl

theorem notify_handler (g : Gateway) (key : String) (ns : ServiceType) :
    (g.notify (some key)).handler ns = (g.handler ns).invalidateProxyCache key := by
  cases ns <;> rfl

theorem targets_notify (g : Gateway) (notified : Option String) (ns : ServiceType)
    (ht : targets ((g.notify notified).handler ns) id = some target) :
    targets (g.handler ns) id = some target ∧ notified ≠ some id := by
  cases notified with
  | none => exact ⟨ht, nofun⟩
  | some key =>
    rw [notify_handler, targets_invalidate] at ht
    split at ht
    · cases ht
    · rename_i hne
      exact ⟨ht, fun he => hne (Option.some.inj he).symm⟩

/-- A base URL a call brings in is that of the manifest it stored. -/
theorem call_baseUrls {c : RegistryCall} {now : String} {write : Write}
    (hb : baseUrls (r.call c now write).registry.services id = some url) :
    baseUrls r.services id = some url ∨
      ∃ m previousVersion, c = .register m ∧ id = m.serviceId ∧ url = m.baseUrl ∧
        registerChecks (r.find m.serviceId) m = .ok previousVersion ∧
        (r.redis = false ∨ write = .acknowledged) := by
  have heff := call_effect r c now write
  generalize (r.call c now write).registry.services = services at heff hb
  generalize (r.call c now write).command = command at heff
  cases heff with
  | kept => exact Or.inl hb
  | movedMember hf hm => exact Or.inl hb
  | @registered previousVersion m ha hw =>
    obtain ⟨e, he, hurl⟩ := baseUrls_eq_some.mp hb
    rw [PlainObject.get?_set] at he
    split at he
    · rename_i hid
      cases he
      exact Or.inr ⟨m, previousVersion, rfl, hid.1, hurl.symm, ha, hw⟩
    · exact Or.inl (baseUrls_eq_some.mpr ⟨e, he, hurl⟩)
  | @rolledBack previousVersion message m ha hr hw =>
    obtain ⟨hset, hne⟩ := baseUrls_delete hb
    rw [baseUrls, PlainObject.get?_set_ne r.services hne] at hset
    exact Or.inl hset
  | deregistered hf => exact Or.inl (baseUrls_delete hb).1
  | moved hold hm => exact Or.inl ((baseUrls_set_same hold (by rfl)).symm.trans hb)
  | touched hold => exact Or.inl ((baseUrls_set_same hold (by rfl)).symm.trans hb)

theorem step_call {now : String} (hi : Coherent g) (hk : TargetKept g (.call c now write)) :
    Coherent (g.step (.call c now write)) := by
  intro ns
  simp only [Gateway.step, Gateway.notify_registry]
  apply (hi ns).step
  · exact fun id target ht => Or.inl (targets_notify _ _ ns ht).1
  · intro id url hb
    rcases call_baseUrls hb with hold | ⟨m, previousVersion, rfl, rfl, rfl, ha, hw⟩
    · exact Or.inl hold
    · right
      intro target ht
      obtain ⟨hcached, hnotified⟩ := targets_notify _ _ ns ht
      have hnotify : (g.registry.call (.register m) now write).notified =
          if (g.registry.find m.serviceId).isSome then some m.serviceId else none :=
        (register_stored now write ha hw).2.1
      cases hf : g.registry.find m.serviceId with
      | none => exact hk hf hw ns target hcached
      | some found =>
        -- the listeners were told, so nothing is cached for this id
        rw [hf] at hnotify
        exact absurd hnotify hnotified

theorem step_load (hi : Coherent g) (hash : RedisHash)
    (hk : ∀ id e, (RegistryService.getRedisEntries hash).get? id = some e →
      CachedOnly g id e.baseUrl) :
    Coherent { g with registry := g.registry.loadEntries hash } := by
  intro ns
  apply (hi ns).step
  · exact fun id target ht => Or.inl ht
  · intro id url hb
    obtain ⟨e, he, rfl⟩ := baseUrls_eq_some.mp hb
    rw [RegistryService.get?_loadEntries, Option.or_eq_some_iff] at he
    rcases he with hread | ⟨-, hold⟩
    · exact Or.inr fun target ht => hk id e hread ns target ht
    · exact Or.inl (baseUrls_eq_some.mpr ⟨e, hold, rfl⟩)

/-- A request adds at most a middleware for the base URL registered right now. -/
theorem proxied_targets (ht : targets (g.proxied ns target req now throws).handler id = some url) :
    targets (g.handler ns) id = some url ∨ baseUrls g.registry.services id = some url := by
  by_cases hp : Passes (g.handler ns) g.registry target req
  · obtain ⟨e, headers, he, hout⟩ := proxyRequest_passes hp
    simp only [Gateway.proxied, hout, ProxyHandler.forward] at ht
    split at ht
    · split at ht
      · exact Or.inl ht
      · rename_i hnew
        have hnone : (g.handler ns).proxyCache.lookup target = none := by simpa using hnew
        simp only [targets, Table.lookup_insert_if, hnone, Option.getD_none] at ht
        split at ht
        · rename_i hid
          cases ht
          exact Or.inr (baseUrls_eq_some.mpr ⟨e, hid ▸ he, rfl⟩)
        · exact Or.inl ht
    · exact Or.inl ht
  · obtain ⟨headers, t, hout⟩ := proxyRequest_blocked now throws hp
    rw [Gateway.proxied, hout] at ht
    exact Or.inl ht

theorem setHandler_handler_self (g : Gateway) (h : ProxyHandler) (ns : ServiceType) :
    (g.setHandler h ns).handler ns = h := by
  cases ns <;> rfl

theorem setHandler_handler_ne (g : Gateway) (h : ProxyHandler) {ns other : ServiceType}
    (hne : other ≠ ns) : (g.setHandler h ns).handler other = g.handler other := by
  cases ns <;> cases other <;> first | rfl | exact absurd rfl hne

/-- Replacing one handler is safe when its new targets are cached or registered ones. -/
theorem setHandler_coherent (hi : Coherent g) (h : ProxyHandler) (ns : ServiceType)
    (ht : ∀ id url, targets h id = some url →
      targets (g.handler ns) id = some url ∨ baseUrls g.registry.services id = some url) :
    Coherent (g.setHandler h ns) := by
  intro other
  rw [Gateway.setHandler_registry]
  by_cases hns : other = ns
  · subst hns
    rw [setHandler_handler_self]
    exact (hi other).step (fun id url hc => ht id url hc) (fun _ _ hb => Or.inl hb)
  · rw [setHandler_handler_ne g h hns]
    exact hi other

theorem proxyRes_targets (h : ProxyHandler) (target : String) (status now : Nat) :
    targets (h.proxyRes target status now) = targets h := by
  unfold ProxyHandler.proxyRes
  split <;> rfl

theorem proxyError_targets (h : ProxyHandler) (target : String) (now : Nat) :
    targets (h.proxyError target now) = targets h := by
  unfold ProxyHandler.proxyError
  split <;> rfl

theorem step_coherent (g : Gateway) (a : GatewayAction) (hi : Coherent g) (hk : TargetKept g a) :
    Coherent (g.step a) := by
  cases a with
  | call c now write => exact step_call hi hk
  | loadFromRedis hash =>
    simp only [Gateway.step, RegistryService.loadFromRedis]
    split
    · rename_i hr
      exact step_load hi hash (hk hr)
    · exact hi
  | reconcile compared loaded =>
    simp only [Gateway.step, RegistryService.reconcile]
    split
    · rename_i hr
      obtain ⟨hr, hdrift⟩ := Bool.and_eq_true_iff.mp hr
      exact step_load hi loaded (hk hr hdrift)
    · exact hi
  | proxyRequest ns target req now throws =>
    exact setHandler_coherent hi (g.proxied ns target req now throws).handler ns
      fun id url ht => proxied_targets ht
  | proxyRes ns target status now =>
    exact setHandler_coherent hi ((g.handler ns).proxyRes target status now) ns
      fun id url ht => Or.inl (proxyRes_targets (g.handler ns) target status now ▸ ht)
  | proxyError ns target now =>
    exact setHandler_coherent hi ((g.handler ns).proxyError target now) ns
      fun id url ht => Or.inl (proxyError_targets (g.handler ns) target now ▸ ht)
  | finish listener statusCode now =>
    simp only [Gateway.step]
    split
    · exact hi
    · exact hi

/-- The middleware a request is handed to was created for the registered base URL. -/
theorem coherent_forwards (g : Gateway) (a : GatewayAction) (hi : Coherent g) :
    ForwardsToRegistered g a := by
  intro target proxy hf
  cases a with
  | proxyRequest ns target' req now throws =>
    have htarget : target = target' := forwards_target hf
    subst htarget
    obtain ⟨hp, hb⟩ := (forwards_isSome_iff throws).mp (Option.isSome_iff_exists.mpr ⟨_, hf⟩)
    obtain ⟨e, headers, he, hout⟩ := proxyRequest_passes hp
    rw [resolveUpstream_entry he]
    simp only [Gateway.forwards, Gateway.proxied, hout,
      forward_admitted e.baseUrl headers throws hb, Option.map_some, Option.some.injEq,
      Prod.mk.injEq, true_and] at hf
    subst hf
    cases hc : (g.handler ns).proxyCache.lookup target with
    | none => rfl
    | some cached =>
      have hcached : targets (g.handler ns) target = some cached.target := by
        rw [targets, hc, Option.map_some]
      have hbase : baseUrls g.registry.services target = some e.baseUrl :=
        baseUrls_eq_some.mpr ⟨e, he, rfl⟩
      exact congrArg some (hi ns target _ _ hcached hbase).symm
  | _ => cases hf

theorem coherent_fresh (r : RegistryService) : Coherent { registry := r } := by
  intro ns
  cases ns <;> exact Coherence.agrees_empty _

/-- Over every run from fresh handlers: when registrations of an id the registry
does not find and reloads leave no cached middleware with another target behind,
every request goes to the registered base URL. -/
theorem forwards_to_registered (r : RegistryService) (run : List GatewayAction)
    (hk : Runs.Always Gateway.step TargetKept { registry := r } run) :
    Runs.Always Gateway.step ForwardsToRegistered { registry := r } run :=
  Runs.always_of_invariant step_coherent (fun g a hi _ => coherent_forwards g a hi)
    (coherent_fresh r) hk

def moved : ServiceManifest := { billing with baseUrl := "http://billing:2" }

def requestBilling : GatewayAction := .proxyRequest .tribe "billing" fromOrders 0 false

/-- An update tells the handlers, so the next request goes to the new base URL. -/
theorem forwards_to_registered_moved :
    Runs.Always Gateway.step ForwardsToRegistered { registry := ready.registry }
      [requestBilling, .call (.register moved) "t2" .acknowledged, requestBilling] := by
  apply forwards_to_registered
  have hfound : ((Gateway.step { registry := ready.registry } requestBilling).registry.find
      "billing").isSome := by decide
  refine ⟨trivial, ?_, trivial, trivial⟩
  intro hf
  exact absurd hf (Option.isSome_iff_ne_none.mp hfound)

/-- Deregistering `billing` tells no handler, so once it is back at another base
URL its requests still go to the old one. -/
theorem stale_middleware_is_used : ¬ Runs.Always Gateway.step ForwardsToRegistered {}
    [.call (.register orders) "t0" .acknowledged, .call (.register billing) "t1" .acknowledged,
      requestBilling, .call (.deregister "billing") "t2" .acknowledged,
      .call (.register moved) "t3" .acknowledged, requestBilling] := by
  intro hex
  obtain ⟨-, -, -, -, -, h, -⟩ := hex
  have hurl := h "billing" (ready.tribes.createProxy "billing" "http://billing:1") (by decide)
  revert hurl
  decide

end ApiCenter.Proofs.ProxyTargets
