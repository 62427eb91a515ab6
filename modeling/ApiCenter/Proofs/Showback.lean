import Mathlib.Data.List.Induction
import ApiCenter.Library.Histories
import ApiCenter.Model.Platform
import ApiCenter.Proofs.SdkTokens

namespace ApiCenter

open Library ApiCenter.Library.Runs ApiCenter.Library.Histories Proofs.SdkTokens Platform Proofs

namespace Proofs.Showback

/-- Nobody but the provider signs with its key: a token shown that verifies is one it handed out. -/
def Unforged (p : DevJwtProvider) (s : Platform) (a : PlatformAction) : Prop :=
  ∀ token payload, a.shown = some token → p.jose.payloadOf p.key token = some payload →
    token ∈ s.signed

variable {p : DevJwtProvider} {validateSecret : String → String → Bool} {s : Platform}
  {tribe : String}

/-- The run has a token request in which a registered service shows its own secret. -/
def LoggedIn (p : DevJwtProvider) (validateSecret : String → String → Bool) (s : Platform)
    (run : List PlatformAction) (tribe : String) : Prop :=
  ∃ before secret now after, run = before ++ .token (.token tribe secret) now :: after ∧
    validateSecret tribe secret = true ∧
    ((final (step p validateSecret) s before).gateway.registry.services.get? tribe).isSome

/-- A token the provider signed for a tribe. -/
def SignedFor (p : DevJwtProvider) (tribe token : String) : Prop :=
  (∃ issuedAt, Genuine p tribe token issuedAt) ∨ Refreshing p tribe token

theorem LoggedIn.append {run : List PlatformAction} (h : LoggedIn p validateSecret s run tribe)
    (rest : List PlatformAction) : LoggedIn p validateSecret s (run ++ rest) tribe := by
  obtain ⟨before, secret, now, after, rfl, hsecret, hknown⟩ := h
  refine ⟨before, secret, now, after ++ rest, ?_, hsecret, hknown⟩
  rw [List.append_assoc, List.cons_append]

/-- Both tokens of an answer are signed for the tribe that gets it. -/
theorem SignedFor.of_granted {answer : ProviderToken} {now : Nat}
    (h : Granted p tribe answer now) {token : String}
    (ht : token ∈ answer.accessToken :: answer.refreshToken.toList) : SignedFor p tribe token := by
  rcases List.mem_cons.mp ht with rfl | ht
  · exact .inl ⟨now, h.access⟩
  · exact .inr (h.refresh token (Option.mem_toList.mp ht))

/-- What a token of a tribe says, whichever of the two it is. -/
theorem SignedFor.payload {token : String} (h : SignedFor p tribe token) :
    ∃ payload, p.jose.payloadOf p.key token = some payload ∧ payload.tribeId = .value tribe := by
  rcases h with ⟨issuedAt, permissions, scopes, rfl⟩ | ⟨issuedAt, rfl⟩
  · exact ⟨_, p.jose.payloadOf_sign p.key _, rfl⟩
  · exact ⟨_, p.jose.payloadOf_sign p.key _, rfl⟩

/-- Only a refresh token can be refreshed, and it is so for its own tribe. -/
theorem SignedFor.refreshed {token : String} (h : SignedFor p tribe token) {now : Nat}
    {answer : ProviderToken} (hr : AuthController.refreshToken p token now = .ok answer) :
    Granted p tribe answer now := by
  rcases h with ⟨issuedAt, permissions, scopes, rfl⟩ | hrefreshing
  · obtain ⟨issued, hissued, -⟩ := map_ok hr
    obtain ⟨t, ht⟩ := Tokens.access_not_refreshable
      (.issue tribe permissions scopes (issuedAt / 1000)) (now / 1000)
    rw [ht] at hissued
    cases hissued
  · exact granted_refresh hrefreshing hr

/-- A request that the guard lets through shows a verified token, and is made for its tribe. -/
theorem guard_verified {request : Request} {now : Nat} {req : AuthenticatedRequest}
    (h : guard p request now = .ok req) :
    ∃ token payload, bearerToken request.authorization = some token ∧
      p.jose.payloadOf p.key token = some payload ∧ req.tribeId = payload.tribeId := by
  obtain ⟨token, claims, htoken, hvalid, rfl⟩ := JwtAuthGuard.canActivate_ok h
  obtain ⟨payload, hverify, rfl⟩ := map_ok hvalid
  refine ⟨token, payload, htoken, Tokens.verify_signed hverify, ?_⟩
  cases payload.tribeId <;> rfl

/-- A token endpoint that answers a registered secret. -/
theorem token_secret {r : RegistryService} {secret : String} {now : Nat} {answer : ProviderToken}
    (h : (TokenPost.token tribe secret).serve p r validateSecret now = .ok answer) :
    validateSecret tribe secret = true ∧ (r.services.get? tribe).isSome := by
  obtain ⟨grant, hgrant, -⟩ := map_ok h
  obtain ⟨entry, consumable, token, hentry, -, -, -⟩ := Catalogue.issueToken_ok hgrant
  refine ⟨?_, by rw [hentry]; rfl⟩
  by_contra hsecret
  simp only [AuthController.issueToken, RegistryService.get,
    RegistryService.find_of_get? hentry, if_neg hsecret] at hgrant
  cases hgrant

/-- Every token handed out is signed for a tribe that had logged in. -/
theorem signed_for {run : List PlatformAction} {redis : Bool}
    (hsound : Always (step p validateSecret) (Unforged p) (start redis) run) {token : String}
    (ht : token ∈ (final (step p validateSecret) (start redis) run).signed) :
    ∃ tribe, SignedFor p tribe token ∧ LoggedIn p validateSecret (start redis) run tribe := by
  induction run using List.reverseRecOn generalizing token with
  | nil => cases ht
  | append_singleton run a ih =>
    obtain ⟨hbefore, hnow, -⟩ := (always_append _ _ _).mp hsound
    rw [final_append, final_cons, final_nil] at ht
    have hold : ∀ token ∈ (final (step p validateSecret) (start redis) run).signed,
        ∃ tribe, SignedFor p tribe token ∧
          LoggedIn p validateSecret (start redis) (run ++ [a]) tribe := by
      intro token ht
      obtain ⟨tribe, hsigned, hlogged⟩ := ih hbefore ht
      exact ⟨tribe, hsigned, hlogged.append [a]⟩
    cases a with
    | token post now =>
      simp only [step] at ht
      cases hserve : post.serve p
          (final (step p validateSecret) (start redis) run).gateway.registry validateSecret now with
      | error t =>
        rw [hserve] at ht
        exact hold token ht
      | ok answer =>
        rw [hserve] at ht
        rcases List.mem_append.mp ht with ht | ht
        · exact hold token ht
        · cases post with
          | token tribe secret =>
            obtain ⟨hsecret, hknown⟩ := token_secret hserve
            obtain ⟨grant, hgrant, rfl⟩ := map_ok hserve
            exact ⟨tribe, .of_granted (granted_token hgrant) ht,
              run, secret, now, [], rfl, hsecret, hknown⟩
          | refresh refreshToken =>
            obtain ⟨issued, hissued, -⟩ := map_ok hserve
            obtain ⟨payload, hverify, -⟩ := Tokens.refreshToken_ok_iff.mp ⟨issued, hissued⟩
            have hshown := hnow refreshToken payload rfl (Tokens.verify_signed hverify)
            obtain ⟨tribe, hsigned, hlogged⟩ := hold refreshToken hshown
            exact ⟨tribe, .of_granted (hsigned.refreshed hserve) ht, hlogged⟩
    | request ns target request now throws =>
      refine hold token ?_
      simp only [step] at ht
      split at ht <;> exact ht
    | background a => exact hold token ht

/-- The listener of a forwarded request names the tribe the guard has attached. -/
theorem onFinish_source {h : ProxyHandler} {r : RegistryService} {target : String}
    {req : AuthenticatedRequest} {now : Nat} {throws : Bool} {listener : FinishListener}
    (hf : (h.proxyRequest r target req now throws).onFinish = some listener) :
    listener.sourceTribe = req.tribeId := by
  by_cases hp : Mediation.Passes h r target req
  · obtain ⟨e, headers, -, hout⟩ := Mediation.proxyRequest_passes hp
    rw [hout] at hf
    simp only [ProxyHandler.forward] at hf
    split at hf
    · obtain rfl := Option.some.inj hf
      rfl
    · cases hf
  · obtain ⟨headers, t, hout⟩ := Mediation.proxyRequest_blocked now throws hp
    rw [hout] at hf
    cases hf

/-- What is forwarded of a request that the guard lets through. -/
theorem forwarded_of_guard {ns : ServiceType} {target : String} {received : Request} {now : Nat}
    {throws : Bool} {req : AuthenticatedRequest} (h : guard p received now = .ok req) :
    forwarded p s (.request ns target received now throws) =
      (s.gateway.proxied ns target req now throws).onFinish.toList := by
  simp only [forwarded, h]

/-- A request is only forwarded for a tribe that had logged in before. -/
theorem forwarded_logged_in {run : List PlatformAction} {redis : Bool} {a : PlatformAction}
    (hsound : Always (step p validateSecret) (Unforged p) (start redis) (run ++ [a]))
    {listener : FinishListener}
    (hf : listener ∈ forwarded p (final (step p validateSecret) (start redis) run) a) :
    ∃ tribe, listener.sourceTribe = .value tribe ∧
      LoggedIn p validateSecret (start redis) run tribe := by
  obtain ⟨hbefore, hnow, -⟩ := (always_append _ _ _).mp hsound
  cases a with
  | token post now => cases hf
  | background a => cases hf
  | request ns target received now throws =>
    cases hguard : guard p received now with
    | error t =>
      simp only [forwarded, hguard] at hf
      cases hf
    | ok req =>
      rw [forwarded_of_guard hguard] at hf
      obtain ⟨token, payload, hshown, hverified, htribe⟩ := guard_verified hguard
      obtain ⟨tribe, hsigned, hlogged⟩ :=
        signed_for hbefore (hnow token payload hshown hverified)
      obtain ⟨own, hown, hsays⟩ := hsigned.payload
      obtain rfl : payload = own := Option.some.inj (hverified.symm.trans hown)
      refine ⟨tribe, ?_, hlogged⟩
      rw [onFinish_source (Option.mem_toList.mp hf), htribe, hsays]

/-- The metrics recorded, and those that a listener is still to record, belong to the requests
forwarded so far, one each. -/
def Accounted (s : Platform) (listeners : List FinishListener) : Prop :=
  (s.gateway.metrics.map (·.request) ++ s.gateway.listeners).Perm listeners

theorem accounted_background {listeners : List FinishListener} (h : Accounted s listeners)
    {a : GatewayAction} (ha : a.isRequest = false) :
    Accounted { s with gateway := s.gateway.step a } listeners := by
  cases a with
  | proxyRequest ns target req now throws => cases ha
  | finish listener statusCode now =>
    simp only [Accounted, Gateway.step]
    by_cases hmem : listener ∈ s.gateway.listeners
    · rw [if_pos hmem, List.map_append, List.append_assoc]
      exact ((List.perm_cons_erase hmem).symm.append_left _).trans h
    · rw [if_neg hmem]
      exact h
  | call c now write =>
    simp only [Accounted, Gateway.step]
    cases (s.gateway.registry.call c now write).notified <;> exact h
  | loadFromRedis hash => exact h
  | reconcile compared loaded => exact h
  | proxyRes ns target status now => cases ns <;> exact h
  | proxyError ns target now => cases ns <;> exact h

theorem accounted_step {listeners : List FinishListener} (h : Accounted s listeners)
    (a : PlatformAction) :
    Accounted (s.step p validateSecret a) (listeners ++ forwarded p s a) := by
  cases a with
  | token post now =>
    rw [forwarded, List.append_nil]
    simp only [step]
    split <;> exact h
  | background a =>
    rw [forwarded, List.append_nil]
    exact accounted_background h a.property
  | request ns target received now throws =>
    simp only [step, forwarded]
    cases guard p received now with
    | error t =>
      rw [List.append_nil]
      exact h
    | ok req =>
      have hstep : (s.gateway.step (.proxyRequest ns target req now throws)).listeners =
          s.gateway.listeners ++ (s.gateway.proxied ns target req now throws).onFinish.toList ∧
          (s.gateway.step (.proxyRequest ns target req now throws)).metrics =
            s.gateway.metrics := by
        cases ns <;> exact ⟨rfl, rfl⟩
      simp only [Accounted, hstep.1, hstep.2, ← List.append_assoc]
      exact h.append_right _

theorem accounted_run (s : Platform) (listeners : List FinishListener) (h : Accounted s listeners)
    (run : List PlatformAction) :
    Accounted (final (step p validateSecret) s run)
      (listeners ++ emitted (step p validateSecret) (forwarded p) s run) := by
  induction run generalizing s listeners with
  | nil =>
    rw [emitted, List.append_nil]
    exact h
  | cons a run ih =>
    rw [final_cons, emitted, ← List.append_assoc]
    exact ih _ _ (accounted_step h a)

/-- Showback is sound. Each forwarded request is recorded once, when its response is finished, and
nothing else is; and each is charged to a tribe that had shown its own secret before, while it was
registered. -/
theorem showback_sound (p : DevJwtProvider) (validateSecret : String → String → Bool)
    (redis : Bool) (run : List PlatformAction)
    (hsound : Always (step p validateSecret) (Unforged p) (start redis) run) :
    ((final (step p validateSecret) (start redis) run).gateway.metrics.map (·.request) ++
        (final (step p validateSecret) (start redis) run).gateway.listeners).Perm
      (emitted (step p validateSecret) (forwarded p) (start redis) run) ∧
    ∀ before a after, run = before ++ a :: after →
      ∀ listener ∈ forwarded p (final (step p validateSecret) (start redis) before) a,
        ∃ tribe, listener.sourceTribe = .value tribe ∧
          LoggedIn p validateSecret (start redis) before tribe := by
  constructor
  · exact accounted_run (start redis) [] (.refl _) run
  · intro before a after hrun listener hlistener
    have hsplit : run = (before ++ [a]) ++ after := by
      rw [hrun, List.append_assoc, List.singleton_append]
    rw [hsplit] at hsound
    exact forwarded_logged_in ((always_append _ _ _).mp hsound).1 hlistener

/-- `orders` and `billing` are registered, and `orders` shows its secret. -/
def loginOfOrders : List PlatformAction :=
  [.background ⟨.call (.register Catalogue.orders.toManifest) "t0" .acknowledged, rfl⟩,
    .background ⟨.call (.register Catalogue.billing.toManifest) "t1" .acknowledged, rfl⟩,
    .token (.token "orders" "s3cret") 0]

def askBilling : PlatformAction := .request .tribe "billing" Catalogue.getInvoices 1000 false

theorem signed_loginOfOrders : Catalogue.ordersToken ∈
    (final (step Catalogue.dev Catalogue.secretOf) (start false) loginOfOrders).signed :=
  List.mem_cons_self

theorem unforged_orders :
    Always (step Catalogue.dev Catalogue.secretOf) (Unforged Catalogue.dev) (start false)
      (loginOfOrders ++ [askBilling]) := by
  rw [always_append]
  constructor
  · refine ⟨?_, ?_, ?_, trivial⟩
    all_goals
      intro token payload hshown
      cases hshown
  · refine ⟨?_, trivial⟩
    intro token payload hshown _
    obtain rfl := Option.some.inj (Catalogue.getInvoices_bearer.symm.trans hshown)
    exact signed_loginOfOrders

theorem ordersToken_claims : ∃ claims,
    (Catalogue.dev.provider 1000).validateToken Catalogue.ordersToken = .ok claims ∧
    claims.tribeId = .value "orders" ∧
    claims.permissions = .value (AuthController.permissionsOf "orders") ∧
    claims.scopes = .value ["orders:read", "billing:read"] := by
  have hlive : 1000 / 1000 < 0 + Catalogue.dev.ttl := by decide
  simp only [DevJwtProvider.provider, Catalogue.ordersToken]
  exact Tokens.validate_issued "orders" _ _ hlive

/-- Any request of `orders` for `billing` is forwarded, whatever else is in it. -/
theorem onFinish_orders {claims : JwtClaims} (request : Request)
    (htribe : claims.tribeId = .value "orders")
    (hpermissions : claims.permissions = .value (AuthController.permissionsOf "orders"))
    (hscopes : claims.scopes = .value ["orders:read", "billing:read"]) :
    ((final (step Catalogue.dev Catalogue.secretOf) (start false) loginOfOrders).gateway.proxied
        .tribe "billing" { request with user := some claims, tribeId := claims.tribeId } 1000
        false).onFinish =
      some ⟨.tribe, claims.tribeId, "billing", request.method, 1000⟩ := by
  obtain ⟨sub, tribeId, permissions, scopes, exp, iss, iat, type⟩ := claims
  cases htribe
  cases hpermissions
  cases hscopes
  rfl

/-- The request for the invoices is forwarded. -/
theorem forwarded_orders : ∃ listener, listener ∈ forwarded Catalogue.dev
    (final (step Catalogue.dev Catalogue.secretOf) (start false) loginOfOrders) askBilling := by
  obtain ⟨claims, hvalid, htribe, hpermissions, hscopes⟩ := ordersToken_claims
  obtain ⟨req, hguard⟩ := JwtAuthGuard.canActivate_accepts Catalogue.getInvoices_bearer
    Catalogue.ordersToken_ne_empty hvalid
  obtain ⟨token, claims', htoken, hclaims, rfl⟩ := JwtAuthGuard.canActivate_ok hguard
  obtain rfl := Option.some.inj (Catalogue.getInvoices_bearer.symm.trans htoken)
  obtain rfl := Except.ok.inj (hvalid.symm.trans hclaims)
  refine ⟨⟨.tribe, claims.tribeId, "billing", "GET", 1000⟩, ?_⟩
  rw [askBilling, forwarded_of_guard hguard,
    onFinish_orders Catalogue.getInvoices htribe hpermissions hscopes]
  exact List.mem_cons_self

theorem showback_sound_orders : ∃ listener,
    listener ∈ forwarded Catalogue.dev
      (final (step Catalogue.dev Catalogue.secretOf) (start false) loginOfOrders) askBilling ∧
    ∃ tribe, listener.sourceTribe = .value tribe ∧
      LoggedIn Catalogue.dev Catalogue.secretOf (start false) loginOfOrders tribe := by
  obtain ⟨listener, hlistener⟩ := forwarded_orders
  have hsound := showback_sound Catalogue.dev Catalogue.secretOf false
    (loginOfOrders ++ [askBilling]) unforged_orders
  exact ⟨listener, hlistener, hsound.2 loginOfOrders askBilling [] rfl listener hlistener⟩

end Proofs.Showback

end ApiCenter
