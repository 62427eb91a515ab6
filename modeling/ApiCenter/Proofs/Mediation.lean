import ApiCenter.Library.Runs
import ApiCenter.Model.Gateway
import ApiCenter.Proofs.Calls

namespace ApiCenter.Proofs.Mediation
open Library Calls

variable {h : ProxyHandler} {r : RegistryService} {target : String} {req : AuthenticatedRequest}
  {claims : JwtClaims} {now : Nat} {throws : Bool} {g : Gateway} {ns : ServiceType}

/-- The target has an entry of its own with an upstream, in the handler's namespace and not retired,
the caller's entry lists it, and the claims of the request cover its required scopes. -/
def Authorised (h : ProxyHandler) (r : RegistryService) (target : String)
    (req : AuthenticatedRequest) : Prop :=
  ∃ e, r.services.get? target = some e ∧ e.baseUrl ≠ "" ∧
    e.serviceType.getD .tribe = h.routeNamespace ∧ e.status ≠ .retired ∧
    (∃ source, r.services.get? (propertyKey req.tribeId) = some source ∧
      target ∈ source.consumes) ∧
    ∀ claims, req.user = some claims →
      ∀ s ∈ e.requiredScopes, s ∈ claims.scopes.getD [] ∨ s ∈ claims.permissions.getD []

/-- A deprecated service names no replacement, or one that a header may have. -/
def Announceable (e : ServiceRegistryEntry) : Prop :=
  e.status = .deprecated → ∀ replacement, e.replacementService.text? = some replacement →
    ProxyHandler.fitsHeader replacement = true

/-- The gates before the breaker, with the headers that one of them sets. -/
def Passes (h : ProxyHandler) (r : RegistryService) (target : String)
    (req : AuthenticatedRequest) : Prop :=
  Authorised h r target req ∧ ∀ e, r.services.get? target = some e → Announceable e

/-- The target's breaker, or the one that would be created for it, lets the request by. -/
def BreakerAdmits (h : ProxyHandler) (target : String) (now : Nat) : Prop :=
  ((h.getOrCreateCircuitBreaker target).tryAcquire now).2 = true

theorem resolveUpstream_entry {e : ServiceRegistryEntry} (he : r.services.get? target = some e) :
    r.resolveUpstream target "" = some e.baseUrl := by
  unfold RegistryService.resolveUpstream
  rw [RegistryService.find_of_get? he]
  exact congrArg some String.append_empty

theorem resolveTarget_entry {e : ServiceRegistryEntry} (he : r.services.get? target = some e)
    (hurl : e.baseUrl ≠ "") (hns : e.serviceType.getD .tribe = h.routeNamespace) :
    h.resolveTarget r target = .ok (e.baseUrl, .entry e) := by
  simp [ProxyHandler.resolveTarget, resolveUpstream_entry he, Option.filter, hurl,
    RegistryService.get, RegistryService.find_of_get? he, ProxyHandler.serviceTypeOf, hns]

/-- What a resolved target is: the entry found, with its upstream, in the namespace. -/
theorem resolveTarget_ok (ht : h.resolveTarget r target = .ok (upstream, found)) :
    r.find target = some found ∧ r.resolveUpstream target "" = some upstream ∧ upstream ≠ "" ∧
      ProxyHandler.serviceTypeOf found = h.routeNamespace := by
  unfold ProxyHandler.resolveTarget at ht
  split at ht
  · rename_i upstream' found' hu hf
    split at ht
    · cases ht
    · rename_i hns
      cases ht
      obtain ⟨hu, hne⟩ := Option.filter_eq_some_iff.mp hu
      exact ⟨hf, hu, by simpa using hne, not_not.mp hns⟩
  · cases ht

theorem canConsume_ok : r.canConsume source target = .ok true ↔
    ∃ e, r.services.get? source = some e ∧ target ∈ e.consumes := by
  unfold RegistryService.canConsume
  cases hf : r.find source with
  | none =>
    have hnone := ((r.find_none_iff source).mp hf).1
    simp [hnone]
  | some found =>
    cases found with
    | entry e =>
      have he := (r.find_entry_iff source e).mp hf
      simp [he]
    | member m =>
      have hnone := ((r.find_member_iff source m).mp hf).1
      simp [hnone]

theorem checkScopes_nil_iff (hu : req.user = some claims) (required : List String) :
    AuthService.checkScopes req required = [] ↔
      ∀ s ∈ required, s ∈ claims.scopes.getD [] ∨ s ∈ claims.permissions.getD [] := by
  rw [AuthService.checkScopes_eq_nil]
  simp [AuthService.mergeCallerScopes, hu]

theorem checkRequiredScopes_ok_iff (target : String) (required : List String) :
    ProxyHandler.checkRequiredScopes target req required = .ok () ↔
      ∀ claims, req.user = some claims →
        ∀ s ∈ required, s ∈ claims.scopes.getD [] ∨ s ∈ claims.permissions.getD [] := by
  unfold ProxyHandler.checkRequiredScopes
  cases hu : req.user with
  | none => simp
  | some claims =>
    simp only [Option.some.injEq, forall_eq', ← checkScopes_nil_iff hu]
    cases required with
    | nil => simp [AuthService.checkScopes]
    | cons s rest =>
      cases hmissing : AuthService.checkScopes req (s :: rest) with
      | nil => simp
      | cons t missing => simp

/-- The scope check on an entry of its own. -/
theorem checkConsumer_ok_iff {e : ServiceRegistryEntry} (he : r.services.get? target = some e) :
    ProxyHandler.checkConsumer r target req = .ok () ↔
      (∃ source, r.services.get? (propertyKey req.tribeId) = some source ∧
        target ∈ source.consumes) ∧
      ∀ claims, req.user = some claims →
        ∀ s ∈ e.requiredScopes, s ∈ claims.scopes.getD [] ∨ s ∈ claims.permissions.getD [] := by
  rw [← canConsume_ok, ← checkRequiredScopes_ok_iff target]
  unfold ProxyHandler.checkConsumer RegistryService.getRequiredScopes
  rw [RegistryService.find_of_get? he]
  cases hc : r.canConsume (propertyKey req.tribeId) target with
  | error t => simp
  | ok allowed => cases allowed <;> simp

/-- On something inherited the scope check never gets through. -/
theorem checkConsumer_member (req : AuthenticatedRequest) (hf : r.find target = some (.member m)) :
    ∃ t, ProxyHandler.checkConsumer r target req = .error t := by
  unfold ProxyHandler.checkConsumer RegistryService.getRequiredScopes
  rw [hf]
  cases r.canConsume (propertyKey req.tribeId) target with
  | error t => exact ⟨t, rfl⟩
  | ok allowed => cases allowed <;> exact ⟨_, rfl⟩

/-- What stands around the replacement is plain text. -/
theorem successorLink_fits (h : ProxyHandler) (replacement : String) :
    ProxyHandler.fitsHeader (h.successorLink replacement) =
      ProxyHandler.fitsHeader replacement := by
  have hstart : "</api/v1/".toList.all ProxyHandler.headerChar = true := by decide
  have hprefix : (if h.routeNamespace = .shared then "shared" else "tribes").toList.all
      ProxyHandler.headerChar = true := by
    cases h.routeNamespace <;> decide
  have hslash : "/".toList.all ProxyHandler.headerChar = true := by decide
  have hend : ">; rel=\"successor-version\"".toList.all ProxyHandler.headerChar = true := by decide
  simp only [ProxyHandler.fitsHeader, ProxyHandler.successorLink, String.toList_append,
    List.all_append, hstart, hprefix, hslash, hend, Bool.true_and, Bool.and_true]

/-- The lifecycle gate on an entry: it throws for a retired one, and for one it cannot announce. -/
theorem lifecycleGate_ok_iff (h : ProxyHandler) (target : String) (e : ServiceRegistryEntry) :
    (h.enforceLifecycleGate (.entry e) target).2 = .ok () ↔
      e.status ≠ .retired ∧ Announceable e := by
  unfold ProxyHandler.enforceLifecycleGate Announceable
  simp only [Found.status, Found.replacementService, Optional.value.injEq, successorLink_fits]
  by_cases hr : e.status = .retired
  · simp [hr]
  · by_cases hd : e.status = .deprecated
    · cases ht : e.replacementService.text? with
      | none => simp [hd]
      | some replacement =>
        by_cases hfits : ProxyHandler.fitsHeader replacement = true
        · simp [hd, hfits]
        · simp [hd, hfits]
    · simp [hr, hd]

/-- When every gate lets it by, the request comes to the breaker with the headers of the
lifecycle gate. -/
theorem proxyRequest_gated {e : ServiceRegistryEntry} (hp : Passes h r target req)
    (he : r.services.get? target = some e) :
    ∃ headers, h.enforceLifecycleGate (.entry e) target = (headers, .ok ()) ∧ ∀ now throws,
      h.proxyRequest r target req now throws =
        h.forward target e.baseUrl req headers now throws := by
  obtain ⟨⟨e', he', hurl, hns, hstatus, hconsume, hscopes⟩, hfits⟩ := hp
  obtain rfl : e = e' := Option.some.inj (he.symm.trans he')
  have hgate := (lifecycleGate_ok_iff h target e).mpr ⟨hstatus, hfits e he⟩
  have hpair : h.enforceLifecycleGate (.entry e) target =
      ((h.enforceLifecycleGate (.entry e) target).1, .ok ()) := Prod.ext rfl hgate
  have hcheck := (checkConsumer_ok_iff he).mpr ⟨hconsume, hscopes⟩
  refine ⟨_, hpair, fun now throws => ?_⟩
  rw [ProxyHandler.proxyRequest, resolveTarget_entry he hurl hns]
  simp only
  rw [hpair]
  simp only [hcheck]

theorem proxyRequest_passes (hp : Passes h r target req) :
    ∃ e headers, r.services.get? target = some e ∧ ∀ now throws,
      h.proxyRequest r target req now throws =
        h.forward target e.baseUrl req headers now throws := by
  obtain ⟨e, he, -⟩ := id hp.1
  obtain ⟨headers, -, hout⟩ := proxyRequest_gated hp he
  exact ⟨e, headers, he, hout⟩

/-- When one of them does not, the handler is as before and the call throws. -/
theorem proxyRequest_blocked (now : Nat) (throws : Bool) (hn : ¬ Passes h r target req) :
    ∃ headers t, h.proxyRequest r target req now throws =
      { handler := h, headers := headers, result := .error t } := by
  unfold ProxyHandler.proxyRequest
  cases ht : h.resolveTarget r target with
  | error t => exact ⟨[], t, rfl⟩
  | ok resolved =>
    obtain ⟨upstream, found⟩ := resolved
    obtain ⟨hf, hup, hne, hns⟩ := resolveTarget_ok ht
    cases hg : h.enforceLifecycleGate found target with
    | mk headers gated =>
    cases gated with
    | error t => exact ⟨headers, t, by simp [hg]⟩
    | ok u =>
      cases hc : ProxyHandler.checkConsumer r target req with
      | error t => exact ⟨headers, t, by simp [hg]⟩
      | ok u =>
        -- every gate let the request by, so the target is an entry that passes
        exfalso
        cases found with
        | member m =>
          obtain ⟨t, hm⟩ := checkConsumer_member req hf
          rw [hc] at hm
          cases hm
        | entry e =>
          have he := (r.find_entry_iff target e).mp hf
          rw [resolveUpstream_entry he] at hup
          cases hup
          obtain ⟨hstatus, hfits⟩ := (lifecycleGate_ok_iff h target e).mp (by rw [hg])
          have hcheck := (checkConsumer_ok_iff he).mp hc
          refine hn ⟨⟨e, he, hne, hns, hstatus, hcheck.1, hcheck.2⟩, fun e' he' => ?_⟩
          rw [← Option.some.inj (he.symm.trans he')]
          exact hfits

theorem forward_admitted (upstream : String) (headers : List (String × HeaderValue))
    (throws : Bool) (hb : BreakerAdmits h target now) :
    (h.forward target upstream req headers now throws).forwarded =
      some ((h.proxyCache.lookup target).getD (h.createProxy target upstream)) := by
  unfold BreakerAdmits at hb
  simp [ProxyHandler.forward, hb]

theorem forward_rejected (upstream : String) (headers : List (String × HeaderValue))
    (throws : Bool) (hb : ¬ BreakerAdmits h target now) :
    (h.forward target upstream req headers now throws).forwarded = none := by
  unfold BreakerAdmits at hb
  simp [ProxyHandler.forward, hb]

theorem forward_forwarded_iff (upstream : String) (headers : List (String × HeaderValue)) :
    (h.forward target upstream req headers now throws).forwarded.isSome ↔
      BreakerAdmits h target now := by
  by_cases hb : BreakerAdmits h target now
  · simp [forward_admitted upstream headers throws hb, hb]
  · simp [forward_rejected upstream headers throws hb, hb]

/-- A request comes to a middleware exactly when every gate and the breaker let it by. -/
theorem forwards_isSome_iff (throws : Bool) :
    (g.forwards (.proxyRequest ns target req now throws)).isSome ↔
    Passes (g.handler ns) g.registry target req ∧ BreakerAdmits (g.handler ns) target now := by
  simp only [Gateway.forwards, Gateway.proxied, Option.isSome_map]
  by_cases hp : Passes (g.handler ns) g.registry target req
  · obtain ⟨e, headers, -, hout⟩ := proxyRequest_passes hp
    rw [hout, forward_forwarded_iff]
    exact ⟨fun hb => ⟨hp, hb⟩, fun hb => hb.2⟩
  · obtain ⟨headers, t, hout⟩ := proxyRequest_blocked now throws hp
    rw [hout]
    simp [hp]

/-- What is forwarded is forwarded for the target of the request. -/
theorem forwards_target (h : g.forwards (.proxyRequest ns target req now throws) =
    some (target', proxy)) : target' = target := by
  simp only [Gateway.forwards, Option.map_eq_some_iff] at h
  obtain ⟨proxy', -, he⟩ := h
  cases he
  rfl

def billing : ServiceManifest :=
  { manifestOf "billing" "http://billing:1" "1.0.0" with requiredScopes := ["billing:read"] }

def orders : ServiceManifest :=
  { manifestOf "orders" "http://orders:1" "1.0.0" with consumes := ["billing"] }

/-- A gateway on which `orders` may call `billing`. -/
def ready : Gateway := Runs.final Gateway.step {}
  [.call (.register orders) "t0" .acknowledged, .call (.register billing) "t1" .acknowledged]

def ordersClaims : JwtClaims where
  sub := .value "orders"
  tribeId := .value "orders"
  scopes := .value ["billing:read"]

def getInvoices : Request where
  method := "GET"
  path := "/api/v1/tribes/billing/invoices"
  authorization := some "Bearer t"
  xTribeId := none
  ip := some "10.0.0.1"
  remoteAddress := none

def fromOrders : AuthenticatedRequest :=
  { getInvoices with user := some ordersClaims, tribeId := .value "orders" }

/-- `billing` deprecated in favour of a service named in characters that no header may have. -/
def announced : Gateway :=
  ready.step (.call (.lifecycle (.deprecateService "billing" .undefined (.value "billing→v2"))) "t2"
    .acknowledged)

end ApiCenter.Proofs.Mediation
