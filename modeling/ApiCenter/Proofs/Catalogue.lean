import ApiCenter.Model.AuthController
import ApiCenter.Proofs.Mediation
import ApiCenter.Proofs.Reachability
import ApiCenter.Proofs.Tokens
import ApiCenter.Proofs.Versions

namespace ApiCenter.Proofs.Catalogue
open Library Mediation Reachability

/-- Validating an access token gives back what was embedded in it. -/
def Embeds (p : AuthProvider) : Prop :=
  ∀ serviceId permissions scopes token claims,
    p.issueToken serviceId permissions scopes = .ok token →
    p.validateToken token.accessToken = .ok claims →
    claims.tribeId = .value serviceId ∧ claims.permissions = .value permissions ∧
      claims.scopes = .value scopes

/-- A service is in the catalogue with this `canAccess`. -/
def Shows (catalogue : List Listing) (id : String) (access : Bool) : Prop :=
  ∃ l ∈ catalogue, l.serviceId = id ∧ l.canAccess = access

/-- Whatever the clock and the upstream do, the request is handed to the breaker. -/
def ReachesBreaker (h : ProxyHandler) (r : RegistryService) (target : String)
    (req : AuthenticatedRequest) : Prop :=
  ∃ upstream headers, ∀ now throws,
    h.proxyRequest r target req now throws = h.forward target upstream req headers now throws

/-- The target has an entry in the handler's namespace that is not retired. -/
def Offers (h : ProxyHandler) (r : RegistryService) (target : String)
    (e : ServiceRegistryEntry) : Prop :=
  r.services.get? target = some e ∧ e.serviceType.getD .tribe = h.routeNamespace ∧
    e.status ≠ .retired

variable {v : Validators} {r : RegistryService} {h : ProxyHandler} {p : AuthProvider}
  {validateSecret : String → String → Bool} {source target : String} {e : ServiceRegistryEntry}
  {req : AuthenticatedRequest} {now : Nat}

/-- Every breaker admits a request once it has cooled down. -/
theorem breaker_admits (h : ProxyHandler) (target : String) :
    ∃ now, BreakerAdmits h target now := by
  refine ⟨(h.getOrCreateCircuitBreaker target).lastFailureTime +
    (h.getOrCreateCircuitBreaker target).resetTimeoutMs, ?_⟩
  unfold BreakerAdmits CircuitBreaker.tryAcquire CircuitBreaker.coolingDown
  split <;> simp

theorem reachesBreaker_iff : ReachesBreaker h r target req ↔ Passes h r target req := by
  constructor
  · intro hex
    obtain ⟨upstream, headers, hout⟩ := hex
    by_contra hn
    obtain ⟨now, hb⟩ := breaker_admits h target
    obtain ⟨headers', t, hblocked⟩ := proxyRequest_blocked now false hn
    have hsome : (h.forward target upstream req headers now false).forwarded = some _ :=
      forward_admitted upstream headers false hb
    rw [← hout, hblocked] at hsome
    cases hsome
  · intro hp
    obtain ⟨e, headers, -, hout⟩ := proxyRequest_passes hp
    exact ⟨e.baseUrl, headers, hout⟩

/-- What came before an answered token request: the caller's own entry, and a
token for its scopes and those of what it consumes. -/
theorem issueToken_ok
    (hi : AuthController.issueToken r validateSecret p source secret = .ok grant) :
    ∃ entry consumable token, r.services.get? source = some entry ∧
      AuthController.consumableScopes r entry.consumes = .ok consumable ∧
      p.issueToken source (AuthController.permissionsOf source)
        (entry.requiredScopes ++ consumable).eraseDups = .ok token ∧
      grant.accessToken = token.accessToken := by
  unfold AuthController.issueToken RegistryService.get at hi
  cases hf : r.find source with
  | none =>
    rw [hf] at hi
    cases hi
  | some found =>
    rw [hf] at hi
    cases hsecret : validateSecret source secret with
    | false =>
      simp only [hsecret] at hi
      cases hi
    | true =>
      cases found with
      | member m =>
        simp only [hsecret] at hi
        cases hi
      | entry entry =>
        have hentry := (r.find_entry_iff source entry).mp hf
        simp only [hsecret, if_true] at hi
        obtain ⟨consumable, hc, hi⟩ := bind_ok hi
        obtain ⟨token, ht, hi⟩ := bind_ok hi
        cases hi
        exact ⟨entry, consumable, token, hentry, hc, ht, rfl⟩

/-- However often and wherever a target is listed, its scopes are among those collected. -/
theorem consumable_covers {ids : List String}
    (hc : AuthController.consumableScopes r ids = .ok scopes) (hmem : target ∈ ids)
    (he : r.services.get? target = some e) : ∀ s ∈ e.requiredScopes, s ∈ scopes := by
  induction ids generalizing scopes with
  | nil => cases hmem
  | cons id ids ih =>
    rw [AuthController.consumableScopes] at hc
    rcases List.mem_cons.mp hmem with rfl | hrest
    · rw [RegistryService.get, RegistryService.find_of_get? he] at hc
      obtain ⟨rest, -, rfl⟩ := map_ok hc
      exact fun s hs => List.mem_append_left rest hs
    · split at hc
      · exact ih hc hrest
      · obtain ⟨rest, hrec, rfl⟩ := map_ok hc
        exact fun s hs => List.mem_append_right _ (ih hrec hrest s hs)
      · cases hc

theorem canConsume_entry (hs : r.services.get? source = some entry) (target : String) :
    r.canConsume source target = .ok (entry.consumes.contains target) := by
  rw [RegistryService.canConsume, RegistryService.find_of_get? hs]

/-- The catalogue a registered caller gets. -/
theorem listServices_entry (hs : r.services.get? source = some entry) (hne : source ≠ "") :
    h.listServices r (.value source) =
      .ok (((r.getByType h.routeNamespace).filter (·.status ≠ .retired)).map fun svc =>
        ProxyHandler.listing svc (entry.consumes.contains svc.serviceId)) := by
  have htext : (Optional.value source).text? = some source := Optional.text?_eq_some.mpr ⟨rfl, hne⟩
  simp only [ProxyHandler.listServices, htext, canConsume_entry hs]
  exact List.mapM_pure

theorem mem_catalogue_iff : e ∈ (r.getByType h.routeNamespace).filter (·.status ≠ .retired) ↔
    ∃ id, Offers h r id e := by
  simp only [RegistryService.getByType, List.mem_filter, PlainObject.mem_values_iff,
    decide_eq_true_eq, Offers]
  constructor
  · intro hmem
    obtain ⟨⟨⟨id, he⟩, hns⟩, hstatus⟩ := hmem
    exact ⟨id, he, hns, hstatus⟩
  · intro hex
    obtain ⟨id, he, hns, hstatus⟩ := hex
    exact ⟨⟨⟨id, he⟩, hns⟩, hstatus⟩

/-- Since every key is the `serviceId` of its entry, the catalogue shows what is offered
under the name it is called by. -/
theorem shows_iff (hk : Keyed r.services) (hs : r.services.get? source = some entry)
    (hl : h.listServices r (.value source) = .ok catalogue) (target : String) (access : Bool) :
    Shows catalogue target access ↔
      ∃ e, Offers h r target e ∧ entry.consumes.contains target = access := by
  rw [listServices_entry hs (hk.ne_empty hs)] at hl
  cases hl
  constructor
  · intro hshows
    obtain ⟨l, hmem, hid, haccess⟩ := hshows
    obtain ⟨e, he, rfl⟩ := List.mem_map.mp hmem
    obtain ⟨id, hoffers⟩ := mem_catalogue_iff.mp he
    have hkey : e.serviceId = id := (hk id e hoffers.1).1
    have hid : e.serviceId = target := hid
    subst hid
    subst hkey
    exact ⟨e, hoffers, haccess⟩
  · intro hex
    obtain ⟨e, hoffers, haccess⟩ := hex
    have hkey : e.serviceId = target := (hk target e hoffers.1).1
    subst hkey
    exact ⟨_, List.mem_map.mpr ⟨e, mem_catalogue_iff.mpr ⟨_, hoffers⟩, rfl⟩, rfl, haccess⟩

theorem headerChar_of_serviceId {c : Char} (h : (c.isLower || c.isDigit || c == '-') = true) :
    ProxyHandler.headerChar c = true := by
  have hrange : 32 ≤ c.toNat ∧ c.toNat ≤ 126 := by
    rcases Bool.or_eq_true_iff.mp h with h | h
    · rcases Bool.or_eq_true_iff.mp h with h | h
      · obtain ⟨hlow, hhigh⟩ := Bool.and_eq_true_iff.mp h
        have hlow : 97 ≤ c.toNat := UInt32.le_iff_toNat_le.mp (of_decide_eq_true hlow)
        have hhigh : c.toNat ≤ 122 := UInt32.le_iff_toNat_le.mp (of_decide_eq_true hhigh)
        omega
      · obtain ⟨hlow, hhigh⟩ := Bool.and_eq_true_iff.mp h
        have hlow : 48 ≤ c.toNat := UInt32.le_iff_toNat_le.mp (of_decide_eq_true hlow)
        have hhigh : c.toNat ≤ 57 := UInt32.le_iff_toNat_le.mp (of_decide_eq_true hhigh)
        omega
    · obtain rfl := beq_iff_eq.mp h
      decide
  unfold ProxyHandler.headerChar
  simp [hrange]

/-- A replacement that could be registered can be announced. -/
theorem announceable_of_passes (h : e.replacementService.passes matchesServiceId = true) :
    Announceable e := by
  intro hdeprecated replacement ht
  rw [(Optional.text?_eq_some.mp ht).1] at h
  have hchars := (Bool.and_eq_true_iff.mp h).2
  unfold ProxyHandler.fitsHeader
  exact List.all_eq_true.mpr fun c hc =>
    headerChar_of_serviceId (List.all_eq_true.mp hchars c hc)

/-- With an upstream, the gates let through what is offered to and consumed by a caller
whose claims hold every scope collected for it. -/
theorem passes_iff (hurl : ∀ id e, r.services.get? id = some e → e.baseUrl ≠ "")
    (hfits : ∀ id e, r.services.get? id = some e → Announceable e)
    (hs : r.services.get? source = some entry) (htribe : req.tribeId = .value source)
    (hcovers : ∀ e, r.services.get? target = some e → target ∈ entry.consumes →
      ∀ claims, req.user = some claims → ∀ s ∈ e.requiredScopes, s ∈ claims.scopes.getD []) :
    Passes h r target req ↔ ∃ e, Offers h r target e ∧ target ∈ entry.consumes := by
  have hkey : propertyKey req.tribeId = source := by rw [htribe]; rfl
  constructor
  · intro hp
    obtain ⟨⟨e, he, -, hns, hstatus, ⟨entry', hs', hmem⟩, -⟩, -⟩ := hp
    rw [hkey, hs] at hs'
    cases hs'
    exact ⟨e, ⟨he, hns, hstatus⟩, hmem⟩
  · intro hex
    obtain ⟨e, ⟨he, hns, hstatus⟩, hmem⟩ := hex
    refine ⟨⟨e, he, hurl target e he, hns, hstatus, ⟨entry, by rw [hkey, hs], hmem⟩, ?_⟩,
      hfits target⟩
    exact fun claims hu s hscope => Or.inl (hcovers e he hmem claims hu s hscope)

/-- What is offered but not consumed is forbidden. -/
theorem proxyRequest_forbidden (hurl : e.baseUrl ≠ "") (hfits : Announceable e)
    (ho : Offers h r target e)
    (hs : r.services.get? (propertyKey req.tribeId) = some entry) (hn : target ∉ entry.consumes)
    (now : Nat) (throws : Bool) :
    ∃ message, (h.proxyRequest r target req now throws).result =
      .error (.forbiddenError message) := by
  obtain ⟨he, hns, hstatus⟩ := ho
  have hgate := (lifecycleGate_ok_iff h target e).mpr ⟨hstatus, hfits⟩
  have hpair : h.enforceLifecycleGate (.entry e) target =
      ((h.enforceLifecycleGate (.entry e) target).1, .ok ()) := Prod.ext rfl hgate
  rw [ProxyHandler.proxyRequest, resolveTarget_entry he hurl hns]
  simp only
  rw [hpair]
  simp [ProxyHandler.checkConsumer, canConsume_entry hs, hn]

theorem resolveTarget_error (ht : h.resolveTarget r target = .error t) :
    ∃ message, t = .notFoundError message := by
  unfold ProxyHandler.resolveTarget at ht
  split at ht
  · split at ht
    · cases ht
      exact ⟨_, rfl⟩
    · cases ht
  · cases ht
    exact ⟨_, rfl⟩

theorem lifecycleGate_retired (target : String) (hretired : e.status = .retired) :
    ∃ message, h.enforceLifecycleGate (.entry e) target = ([], .error (.goneError message)) := by
  unfold ProxyHandler.enforceLifecycleGate
  exact ⟨_, if_pos (by rw [Found.status, hretired])⟩

/-- What is not offered is not found in the namespace, or gone. -/
theorem proxyRequest_hidden (hT : r.inheritedMember target = none)
    (hn : ∀ e, ¬ Offers h r target e) (now : Nat) (throws : Bool) :
    ∃ message, (h.proxyRequest r target req now throws).result =
        .error (.notFoundError message) ∨
      (h.proxyRequest r target req now throws).result = .error (.goneError message) := by
  unfold ProxyHandler.proxyRequest
  cases ht : h.resolveTarget r target with
  | error t =>
    obtain ⟨message, rfl⟩ := resolveTarget_error ht
    exact ⟨message, Or.inl rfl⟩
  | ok resolved =>
    obtain ⟨upstream, found⟩ := resolved
    obtain ⟨hf, -, -, hns⟩ := resolveTarget_ok ht
    cases found with
    | member m =>
      have hm := ((r.find_member_iff target m).mp hf).2
      rw [hT] at hm
      cases hm
    | entry e =>
      have he := (r.find_entry_iff target e).mp hf
      have hretired : e.status = .retired := by
        by_contra hstatus
        exact hn e ⟨he, hns, hstatus⟩
      obtain ⟨message, hgone⟩ := lifecycleGate_retired (h := h) target hretired
      exact ⟨message, Or.inr (by simp [hgone])⟩

/-- The claims of a request that came with the token of an answered token request. -/
theorem guarded_claims (hp : Embeds p)
    (hi : p.issueToken source permissions scopes = .ok token)
    (hbearer : bearerToken request.authorization = some token.accessToken)
    (hguard : JwtAuthGuard.canActivate p.validateToken request = .ok req) :
    req.tribeId = .value source ∧
      ∀ claims, req.user = some claims → claims.scopes = .value scopes := by
  obtain ⟨t, claims, ht, hv, rfl⟩ := JwtAuthGuard.canActivate_ok hguard
  rw [hbearer] at ht
  cases ht
  obtain ⟨htribe, -, hscopes⟩ := hp source permissions scopes token claims hi hv
  refine ⟨htribe, ?_⟩
  intro claims' hu
  cases hu
  exact hscopes

/-- In every reachable state, what a service is shown as accessible is exactly
what the token it obtains there opens; the rest of the catalogue is forbidden,
and what is neither in it nor the name of something inherited is not found or gone. -/
theorem catalogue_agrees (h : ProxyHandler) (hr : ReachableBy (Accepted v) r)
    (hurl : ∀ id e, r.services.get? id = some e → e.baseUrl ≠ "") (hp : Embeds p)
    (hi : AuthController.issueToken r validateSecret p source secret = .ok grant)
    (hbearer : bearerToken request.authorization = some grant.accessToken)
    (hguard : JwtAuthGuard.canActivate p.validateToken request = .ok req) (target : String) :
    ∃ catalogue, h.listServices r (.value source) = .ok catalogue ∧
      (Shows catalogue target true ↔ ReachesBreaker h r target req) ∧
      (Shows catalogue target false → ∀ now throws, ∃ message,
        (h.proxyRequest r target req now throws).result = .error (.forbiddenError message)) ∧
      (r.inheritedMember target = none → (∀ access, ¬ Shows catalogue target access) →
        ∀ now throws, ∃ message,
          (h.proxyRequest r target req now throws).result = .error (.notFoundError message) ∨
          (h.proxyRequest r target req now throws).result = .error (.goneError message)) := by
  have hk := reachable_keyed (hr.mono fun _ => Accepted.validated)
  have hfits : ∀ id e, r.services.get? id = some e → Announceable e :=
    fun id e he => announceable_of_passes (replacement_kept.reachable hr id e he)
  obtain ⟨entry, consumable, token, hs, hc, ht, haccess⟩ := issueToken_ok hi
  rw [haccess] at hbearer
  obtain ⟨htribe, hscopes⟩ := guarded_claims hp ht hbearer hguard
  have hne : source ≠ "" := hk.ne_empty hs
  have hkey : propertyKey req.tribeId = source := by rw [htribe]; rfl
  have hcovers : ∀ e, r.services.get? target = some e → target ∈ entry.consumes →
      ∀ claims, req.user = some claims → ∀ s ∈ e.requiredScopes, s ∈ claims.scopes.getD [] := by
    intro e he hmem claims hu s hscope
    rw [hscopes claims hu, Optional.getD_value, List.mem_eraseDups]
    exact List.mem_append_right _ (consumable_covers hc hmem he s hscope)
  have hl := listServices_entry (h := h) hs hne
  have hshows := shows_iff hk hs hl target
  refine ⟨_, hl, ?_, ?_, ?_⟩
  · rw [hshows, reachesBreaker_iff, passes_iff hurl hfits hs htribe hcovers]
    simp
  · intro hshown now throws
    obtain ⟨e, ho, hmem⟩ := (hshows false).mp hshown
    have hn : target ∉ entry.consumes := by simpa using hmem
    exact proxyRequest_forbidden (hurl target e ho.1) (hfits target e ho.1) ho (hkey ▸ hs) hn now
      throws
  · intro hT hnone now throws
    refine proxyRequest_hidden hT (fun e ho => ?_) now throws
    exact hnone _ ((hshows _).mpr ⟨e, ho, rfl⟩)

/-- The `dev` provider as the controller and the guard use it, with the readings of its clock. -/
def devAuth (p : DevJwtProvider) (issuedAt now : Nat) : AuthProvider where
  issueToken serviceId permissions scopes :=
    let issued := p.issueToken serviceId permissions scopes issuedAt
    .ok ⟨issued.accessToken, some issued.refreshToken, issued.expiresIn⟩
  validateToken token := p.validateToken token now

theorem devAuth_validateToken (p : DevJwtProvider) (issuedAt now : Nat) (token : String) :
    (devAuth p issuedAt now).validateToken token = p.validateToken token now := rfl

theorem devAuth_embeds (p : DevJwtProvider) (issuedAt now : Nat) :
    Embeds (devAuth p issuedAt now) := by
  intro serviceId permissions scopes token claims hi hv
  cases hi
  obtain ⟨payload, hverify, rfl⟩ := map_ok hv
  have hpayload := (Tokens.verify_ok_iff.mp hverify).1
  have hsigned := p.jose.payloadOf_sign p.key
    (p.accessPayload serviceId permissions scopes issuedAt)
  cases hsigned.symm.trans hpayload
  exact ⟨rfl, rfl, rfl⟩

/-- The header a client sends; a token has no blank in it. -/
theorem bearerToken_bearer {token : String} (hblank : ' ' ∉ token.toList) :
    bearerToken (some ("Bearer " ++ token)) = some token := by
  have hlist : ("Bearer " ++ token).toList = "Bearer".toList ++ ' ' :: token.toList := by
    rw [String.toList_append]
    rfl
  have hsplit : ("Bearer " ++ token).toList.splitOn ' ' = ["Bearer".toList, token.toList] := by
    rw [hlist, List.splitOn_append_cons_self_of_not_mem (by decide),
      List.splitOn_eq_singleton hblank]
  rw [bearerToken, Option.bind_some, hsplit]
  exact congrArg some String.ofList_toList

def body (id : String) (scopes consumes : List String) : ManifestBody where
  serviceId := id
  name := id
  baseUrl := s!"http://{id}"
  requiredScopes := scopes
  exposes := ["/"]
  consumes := .value consumes

def orders : ServiceManifestDto Versions.anything :=
  ⟨body "orders" ["orders:read"] ["billing"], by decide⟩

def billing : ServiceManifestDto Versions.anything :=
  ⟨body "billing" ["billing:read"] [], by decide⟩

/-- `orders`, which consumes `billing`, and `billing`, which consumes nothing. -/
def onboarded : RegistryService :=
  ((RegistryService.call {} (.register orders.toManifest) "t0" .acknowledged).registry.call
    (.register billing.toManifest) "t1" .acknowledged).registry

theorem onboarded_reachable : ReachableBy (Accepted Versions.anything) onboarded :=
  .call (.call (.fresh false) (.register orders) "t0" .acknowledged) (.register billing) "t1"
    .acknowledged

def dev : DevJwtProvider := { Tokens.devProvider with tokenTtlSeconds := .value 60 }

def ordersToken : String :=
  (dev.issueToken "orders" (AuthController.permissionsOf "orders") ["orders:read", "billing:read"]
    0).accessToken

theorem ordersToken_blank : ' ' ∉ ordersToken.toList := by
  unfold ordersToken DevJwtProvider.issueToken
  change ' ' ∉ (String.ofList (Tokens.payloadCodec.write _)).toList
  rw [String.toList_ofList]
  decide

def secretOf (id secret : String) : Bool := id == "orders" && secret == "s3cret"

theorem onboarded_issues : AuthController.issueToken onboarded secretOf (devAuth dev 0 1)
    "orders" "s3cret" = .ok
      { accessToken := ordersToken
        refreshToken := some (dev.jose.sign dev.key (dev.refreshPayload "orders" 0))
        expiresIn := 60
        tribeId := "orders"
        permissions := AuthController.permissionsOf "orders"
        scopes := ["orders:read", "billing:read"] } := by
  rfl

def getInvoices : Request :=
  { Mediation.getInvoices with authorization := some ("Bearer " ++ ordersToken) }

theorem ordersToken_valid : ∃ claims, (devAuth dev 0 1).validateToken ordersToken = .ok claims := by
  have hlive : 1 < 0 + dev.ttl := by decide
  obtain ⟨claims, hv, -⟩ := Tokens.validate_issued "orders" (AuthController.permissionsOf "orders")
    ["orders:read", "billing:read"] hlive
  simp only [devAuth_validateToken, ordersToken]
  exact ⟨claims, hv⟩

theorem ordersToken_ne_empty : ordersToken ≠ "" := by
  intro heq
  have hlist := congrArg String.toList heq
  unfold ordersToken DevJwtProvider.issueToken at hlist
  change (String.ofList (Tokens.payloadCodec.write _)).toList = _ at hlist
  rw [String.toList_ofList] at hlist
  cases hlist

theorem getInvoices_bearer : bearerToken getInvoices.authorization = some ordersToken := by
  rw [getInvoices]
  exact bearerToken_bearer ordersToken_blank

def tribes : ProxyHandler := { routeNamespace := .tribe, pathPrefix := "/api/v1/tribes" }

theorem catalogue_agrees_orders : ∃ req catalogue,
    JwtAuthGuard.canActivate (devAuth dev 0 1).validateToken getInvoices = .ok req ∧
    tribes.listServices onboarded (.value "orders") = .ok catalogue ∧
    (Shows catalogue "billing" true ↔ ReachesBreaker tribes onboarded "billing" req) ∧
    (Shows catalogue "billing" false → ∀ now throws, ∃ message,
      (tribes.proxyRequest onboarded "billing" req now throws).result =
        .error (.forbiddenError message)) ∧
    (onboarded.inheritedMember "billing" = none → (∀ access, ¬ Shows catalogue "billing" access) →
      ∀ now throws, ∃ message,
        (tribes.proxyRequest onboarded "billing" req now throws).result =
          .error (.notFoundError message) ∨
        (tribes.proxyRequest onboarded "billing" req now throws).result =
          .error (.goneError message)) := by
  have hurl : ∀ id e, onboarded.services.get? id = some e → e.baseUrl ≠ "" := by
    intro id e he
    have hall : ∀ e ∈ onboarded.services.values, e.baseUrl ≠ "" := by decide
    exact hall e ((PlainObject.mem_values_iff _ e).mpr ⟨id, he⟩)
  obtain ⟨claims, hv⟩ := ordersToken_valid
  obtain ⟨req, hguard⟩ :=
    JwtAuthGuard.canActivate_accepts getInvoices_bearer ordersToken_ne_empty hv
  obtain ⟨catalogue, hl, hagree⟩ := catalogue_agrees tribes onboarded_reachable hurl
    (devAuth_embeds dev 0 1) onboarded_issues getInvoices_bearer hguard "billing"
  exact ⟨req, catalogue, hguard, hl, hagree⟩

end ApiCenter.Proofs.Catalogue
