import ApiCenter.Library.Codec
import ApiCenter.Model.DevJwt

namespace ApiCenter.Proofs.Tokens
open Library

/-- The token bundles `issueToken` and any chain of `refreshToken` calls return. -/
inductive Produced (p : DevJwtProvider) : IssuedToken → Prop
  | issue (serviceId : String) (permissions scopes : List String) (now : Nat) :
      Produced p (p.issueToken serviceId permissions scopes now)
  | refresh {token : String} {now : Nat} (h : p.refreshToken token now = .ok issued) :
      Produced p issued

variable {p : DevJwtProvider} {now : Nat} {token : String} {payload : JwtPayload}

def Unexpired (payload : JwtPayload) (now : Nat) : Prop :=
  payload.exp = .undefined ∨ ∃ exp, payload.exp = .value exp ∧ now < exp

theorem unexpired_value {exp : Nat} (h : payload.exp = .value exp) :
    Unexpired payload now ↔ now < exp := by
  simp [Unexpired, h]

/-- A token that verifies is signed over what comes back. -/
theorem verify_signed (h : p.verify now token = .ok payload) :
    p.jose.payloadOf p.key token = some payload := by
  unfold DevJwtProvider.verify Jose.jwtVerify at h
  cases hp : p.jose.payloadOf p.key token with
  | none => simp [hp] at h
  | some payload' =>
    simp only [hp] at h
    split at h
    · cases h
    · split at h
      · exact congrArg some (Except.ok.inj h)
      · cases h
      · split at h
        · cases h
        · exact congrArg some (Except.ok.inj h)

/-- A signed token verifies when it has the right issuer and is not expired. -/
theorem verify_signed_iff (hp : p.jose.payloadOf p.key token = some payload) :
    p.verify now token = .ok payload ↔ payload.iss = .value p.issuer ∧ Unexpired payload now := by
  unfold DevJwtProvider.verify Jose.jwtVerify
  simp only [hp]
  by_cases hiss : payload.iss = .value p.issuer
  · rw [if_neg (not_not_intro hiss)]
    cases hexp : payload.exp with
    | undefined => simp [hiss, Unexpired, hexp]
    | null => simp [Unexpired, hexp]
    | value exp =>
      rw [unexpired_value hexp]
      by_cases hlt : exp ≤ now
      · simp [hlt, Nat.not_lt.mpr hlt]
      · simp [hlt, hiss, Nat.not_le.mp hlt]
  · simp [hiss]

/-- Verification is exactly: signed with the key, right issuer, not expired. -/
theorem verify_ok_iff : p.verify now token = .ok payload ↔
    p.jose.payloadOf p.key token = some payload ∧ payload.iss = .value p.issuer ∧
      Unexpired payload now := by
  constructor
  · intro h
    have hp := verify_signed h
    exact ⟨hp, (verify_signed_iff hp).mp h⟩
  · intro h
    obtain ⟨hp, hvalid⟩ := h
    exact (verify_signed_iff hp).mpr hvalid

/-- A token the provider signed verifies until it expires. -/
theorem verify_sign (hiss : payload.iss = .value p.issuer) (hexp : payload.exp = .value exp)
    (hlt : now < exp) : p.verify now (p.jose.sign p.key payload) = .ok payload :=
  verify_ok_iff.mpr ⟨p.jose.payloadOf_sign p.key payload, hiss, Or.inr ⟨exp, hexp, hlt⟩⟩

theorem refreshToken_ok_iff : (∃ issued, p.refreshToken token now = .ok issued) ↔
    ∃ payload, p.verify now token = .ok payload ∧ payload.type = .value "refresh" := by
  unfold DevJwtProvider.refreshToken
  cases hv : p.verify now token with
  | error e => simp
  | ok payload =>
    by_cases ht : payload.type = .value "refresh"
    · simp [ht]
    · simp [ht]

theorem validateToken_of_verify (h : p.verify now token = .ok payload) :
    ∃ claims, p.validateToken token now = .ok claims :=
  ⟨_, by rw [DevJwtProvider.validateToken, h]; rfl⟩

/-- Every bundle is one that `issueToken` made. -/
theorem Produced.of_issue (h : Produced p issued) :
    ∃ serviceId permissions scopes now, issued = p.issueToken serviceId permissions scopes now := by
  cases h with
  | issue serviceId permissions scopes now => exact ⟨serviceId, permissions, scopes, now, rfl⟩
  | @refresh _ token now h =>
    unfold DevJwtProvider.refreshToken at h
    split at h
    · cases h
    · split at h
      · cases h
      · cases h
        exact ⟨_, _, _, now, rfl⟩

/-- An access token carries no `type`, so refreshing with it is refused. -/
theorem access_not_refreshable (h : Produced p issued) (later : Nat) :
    ∃ e, p.refreshToken issued.accessToken later = .error e := by
  obtain ⟨serviceId, permissions, scopes, now, rfl⟩ := h.of_issue
  cases hr : p.refreshToken (p.issueToken serviceId permissions scopes now).accessToken later with
  | error e => exact ⟨e, rfl⟩
  | ok issued =>
    obtain ⟨payload, hv, ht⟩ := refreshToken_ok_iff.mp ⟨issued, hr⟩
    have hp := (verify_ok_iff.mp hv).1
    rw [DevJwtProvider.issueToken, p.jose.payloadOf_sign] at hp
    cases hp
    cases ht

/-- A token that refreshes is of no use as a bearer token, and an access token
does not refresh. -/
def KindsDisjoint (p : DevJwtProvider) (token : String) (now : Nat) : Prop :=
  ((∃ issued, p.refreshToken token now = .ok issued) →
    (∃ e, p.validateToken token now = .error e) ∧
    ∀ request : Request, bearerToken request.authorization = some token →
      ∃ e, JwtAuthGuard.canActivate (p.validateToken · now) request = .error e) ∧
  ((∃ issued, Produced p issued ∧ issued.accessToken = token) →
    ∀ later, ∃ e, p.refreshToken token later = .error e)

/-- Signed with the provider's key for its issuer, unexpired, of type `refresh`. -/
def LiveRefresh (p : DevJwtProvider) (token : String) (now : Nat) : Prop :=
  ∃ payload, p.jose.payloadOf p.key token = some payload ∧ payload.iss = .value p.issuer ∧
    Unexpired payload now ∧ payload.type = .value "refresh"

theorem refreshable_iff_live :
    (∃ issued, p.refreshToken token now = .ok issued) ↔ LiveRefresh p token now := by
  rw [refreshToken_ok_iff]
  constructor
  · intro hex
    obtain ⟨payload, hv, ht⟩ := hex
    obtain ⟨hp, hiss, hu⟩ := verify_ok_iff.mp hv
    exact ⟨payload, hp, hiss, hu, ht⟩
  · intro hex
    obtain ⟨payload, hp, hiss, hu, ht⟩ := hex
    exact ⟨payload, verify_ok_iff.mpr ⟨hp, hiss, hu⟩, ht⟩

/-- `validateToken` does not look at `type`, so the two kinds are kept apart on
every token but the live refresh tokens. -/
theorem kinds_disjoint_iff (p : DevJwtProvider) (token : String) (now : Nat) :
    KindsDisjoint p token now ↔ ¬ LiveRefresh p token now := by
  constructor
  · intro hex hlive
    obtain ⟨hrefresh, -⟩ := hex
    obtain ⟨⟨e, he⟩, -⟩ := hrefresh (refreshable_iff_live.mpr hlive)
    obtain ⟨payload, hp, hiss, hu, -⟩ := hlive
    obtain ⟨claims, hclaims⟩ := validateToken_of_verify (verify_ok_iff.mpr ⟨hp, hiss, hu⟩)
    rw [he] at hclaims
    cases hclaims
  · intro hlive
    refine ⟨fun hrefresh => absurd (refreshable_iff_live.mp hrefresh) hlive, ?_⟩
    intro hex later
    obtain ⟨issued, hproduced, rfl⟩ := hex
    exact access_not_refreshable hproduced later

/-- Refresh once at each of the times, always with the refresh token just returned. -/
def refreshChain (p : DevJwtProvider) : IssuedToken → List Nat → Except Thrown IssuedToken
  | issued, [] => .ok issued
  | issued, now :: times =>
    match p.refreshToken issued.refreshToken now with
    | .error e => .error e
    | .ok next => refreshChain p next times

/-- Each refresh comes before the refresh token it uses expires. -/
def Timely (p : DevJwtProvider) : Nat → List Nat → Prop
  | _, [] => True
  | issuedAt, now :: times =>
    now < issuedAt + p.ttl * p.refreshTtlMultiplier ∧ Timely p now times

def lastTime : Nat → List Nat → Nat
  | issuedAt, [] => issuedAt
  | _, now :: times => lastTime now times

/-- Same tribe, permissions and scopes, and no scope check that passed before fails. -/
def SameGrant (before after : JwtClaims) : Prop :=
  after.tribeId = before.tribeId ∧ after.permissions = before.permissions ∧
  after.scopes = before.scopes ∧
  ∀ (req : AuthenticatedRequest) required,
    AuthService.checkScopes { req with user := some before } required = [] →
    AuthService.checkScopes { req with user := some after } required = []

/-- The refresh payload has no `permissions` and no `scopes`, so a refresh
issues for the same service with both empty. -/
theorem refresh_issued (serviceId : String) (permissions scopes : List String)
    (h : now < issuedAt + p.ttl * p.refreshTtlMultiplier) :
    p.refreshToken (p.issueToken serviceId permissions scopes issuedAt).refreshToken now =
      .ok (p.issueToken serviceId [] [] now) := by
  have hv : p.verify now (p.issueToken serviceId permissions scopes issuedAt).refreshToken =
      .ok (p.refreshPayload serviceId issuedAt) := verify_sign rfl rfl h
  simp [DevJwtProvider.refreshToken, hv, DevJwtProvider.refreshPayload]

theorem chain_issued (serviceId : String) (permissions scopes : List String) {times : List Nat}
    (hn : times ≠ []) (ht : Timely p issuedAt times) :
    refreshChain p (p.issueToken serviceId permissions scopes issuedAt) times =
      .ok (p.issueToken serviceId [] [] (lastTime issuedAt times)) := by
  induction times generalizing issuedAt permissions scopes with
  | nil => exact absurd rfl hn
  | cons now times ih =>
    obtain ⟨hnow, hrest⟩ := ht
    simp only [refreshChain, refresh_issued serviceId permissions scopes hnow, lastTime]
    cases times with
    | nil => rfl
    | cons next rest => exact ih [] [] (by simp) hrest

/-- What `validateToken` reads off an access token while it lives. -/
theorem validate_issued (serviceId : String) (permissions scopes : List String)
    (h : now < issuedAt + p.ttl) :
    ∃ claims, p.validateToken (p.issueToken serviceId permissions scopes issuedAt).accessToken now =
      .ok claims ∧ claims.tribeId = .value serviceId ∧ claims.permissions = .value permissions ∧
      claims.scopes = .value scopes := by
  have hv : p.verify now (p.issueToken serviceId permissions scopes issuedAt).accessToken =
      .ok (p.accessPayload serviceId permissions scopes issuedAt) := verify_sign rfl rfl h
  exact ⟨_, by rw [DevJwtProvider.validateToken, hv]; rfl, rfl, rfl, rfl⟩

theorem checkScopes_congr {before after : JwtClaims} (hp : after.permissions = before.permissions)
    (hs : after.scopes = before.scopes) (req : AuthenticatedRequest) (required : List String) :
    AuthService.checkScopes { req with user := some after } required =
      AuthService.checkScopes { req with user := some before } required := by
  simp [AuthService.checkScopes, AuthService.mergeCallerScopes, hp, hs]

/-- Every timely chain of one or more refreshes ends in a valid access token for
the same tribe; it carries the grant of the original one exactly when that
grant was empty. -/
theorem refresh_keeps_grant_iff (p : DevJwtProvider) (serviceId : String)
    (permissions scopes : List String) (issuedAt : Nat) (times : List Nat) (hn : times ≠ [])
    (ht : Timely p issuedAt times) (hearly : early < issuedAt + p.ttl)
    (hlate : late < lastTime issuedAt times + p.ttl) :
    ∃ issued before after,
      refreshChain p (p.issueToken serviceId permissions scopes issuedAt) times = .ok issued ∧
      p.validateToken (p.issueToken serviceId permissions scopes issuedAt).accessToken early =
        .ok before ∧
      p.validateToken issued.accessToken late = .ok after ∧
      (SameGrant before after ↔ permissions = [] ∧ scopes = []) := by
  obtain ⟨before, hb, htribe, hperms, hscopes⟩ :=
    validate_issued serviceId permissions scopes hearly
  obtain ⟨after, ha, htribe', hperms', hscopes'⟩ := validate_issued serviceId [] [] hlate
  refine ⟨_, before, after, chain_issued serviceId permissions scopes hn ht, hb, ha, ?_⟩
  constructor
  · intro hex
    obtain ⟨-, hp, hs, -⟩ := hex
    rw [hperms, hperms'] at hp
    rw [hscopes, hscopes'] at hs
    cases hp
    cases hs
    exact ⟨rfl, rfl⟩
  · intro hex
    obtain ⟨rfl, rfl⟩ := hex
    have hp := hperms'.trans hperms.symm
    have hs := hscopes'.trans hscopes.symm
    refine ⟨htribe'.trans htribe.symm, hp, hs, fun req required h => ?_⟩
    rw [checkScopes_congr hp hs]
    exact h

def optionOf : Optional α → Option (Option α)
  | .undefined => none
  | .null => some none
  | .value a => some (some a)

def optionalOf : Option (Option α) → Optional α
  | none => .undefined
  | some none => .null
  | some (some a) => .value a

theorem optionalOf_optionOf (o : Optional α) : optionalOf (optionOf o) = o := by
  cases o <;> rfl

def optionalCodec (c : Codec α) : Codec (Optional α) :=
  c.option.option.via optionOf optionalOf optionalOf_optionOf

def payloadCodec : Codec JwtPayload :=
  let text := optionalCodec Codec.string
  let number := optionalCodec Codec.nat
  let texts := optionalCodec Codec.string.list
  (text.pair (text.pair (number.pair (number.pair (text.pair (texts.pair (texts.pair text))))))).via
    (fun p => (p.sub, p.iss, p.iat, p.exp, p.tribeId, p.permissions, p.scopes, p.type))
    (fun (sub, iss, iat, exp, tribeId, permissions, scopes, type) =>
      ⟨sub, iss, iat, exp, tribeId, permissions, scopes, type⟩)
    fun _ => rfl

def plainJose : Jose where
  Key := Unit
  sign _ payload := String.ofList (payloadCodec.write payload)
  payloadOf _ token := (payloadCodec.read token.toList).map Prod.fst
  payloadOf_sign _ payload := by
    have h := payloadCodec.read_write payload []
    rw [List.append_nil] at h
    simp [h]

def devProvider : DevJwtProvider where
  jose := plainJose
  key := ()
  issuer := "api-center-dev"

def ordersToken : IssuedToken :=
  devProvider.issueToken "orders" ["tribe:orders:read"] ["orders:read"] 1000

/-- The refresh token of a fresh bundle passes as a bearer token. -/
theorem refresh_token_is_bearer : Produced devProvider ordersToken ∧
    ¬ KindsDisjoint devProvider ordersToken.refreshToken 1001 := by
  refine ⟨.issue _ _ _ _, ?_⟩
  intro h
  have hv : devProvider.verify 1001 ordersToken.refreshToken =
      .ok (devProvider.refreshPayload "orders" 1000) := verify_sign rfl rfl (by decide)
  obtain ⟨⟨e, he⟩, -⟩ := h.1 (refreshToken_ok_iff.mpr ⟨_, hv, rfl⟩)
  obtain ⟨claims, hclaims⟩ := validateToken_of_verify hv
  rw [he] at hclaims
  cases hclaims

/-- One refresh, and the permissions and scopes are gone. -/
theorem refresh_drops_grant : ∃ issued before after,
    refreshChain devProvider ordersToken [2000] = .ok issued ∧
    devProvider.validateToken ordersToken.accessToken 1001 = .ok before ∧
    devProvider.validateToken issued.accessToken 2001 = .ok after ∧ ¬ SameGrant before after := by
  obtain ⟨before, hb, -, hperms, -⟩ := validate_issued (p := devProvider) "orders"
    ["tribe:orders:read"] ["orders:read"] (show 1001 < 1000 + devProvider.ttl by decide)
  obtain ⟨after, ha, -, hperms', -⟩ := validate_issued (p := devProvider) "orders" [] []
    (show 2001 < 2000 + devProvider.ttl by decide)
  refine ⟨_, before, after, chain_issued _ _ _ (by simp) ⟨by decide, trivial⟩, hb, ha, ?_⟩
  intro hex
  obtain ⟨-, hp, -⟩ := hex
  rw [hperms, hperms'] at hp
  cases hp

theorem refresh_keeps_grant_iff_orders : ∃ issued before after,
    refreshChain devProvider (devProvider.issueToken "orders" [] [] 1000) [2000, 3000] =
      .ok issued ∧
    devProvider.validateToken (devProvider.issueToken "orders" [] [] 1000).accessToken 1001 =
      .ok before ∧
    devProvider.validateToken issued.accessToken 3001 = .ok after ∧
    (SameGrant before after ↔ ([] : List String) = [] ∧ ([] : List String) = []) :=
  refresh_keeps_grant_iff devProvider "orders" [] [] 1000 [2000, 3000] (by simp)
    ⟨by decide, by decide, trivial⟩ (by decide) (by decide)

end ApiCenter.Proofs.Tokens
