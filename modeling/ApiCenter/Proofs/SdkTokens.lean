import ApiCenter.Library.Runs
import ApiCenter.Model.TokenExchange
import ApiCenter.Proofs.Catalogue

namespace ApiCenter.Proofs.SdkTokens
open Library

/-- Signed tokens are compact JWTs: texts without a blank, and never empty. -/
structure Compact (jose : Jose) : Prop where
  noBlank : ∀ key payload, ' ' ∉ (jose.sign key payload).toList
  nonempty : ∀ key payload, jose.sign key payload ≠ ""

variable {p : DevJwtProvider} {validateSecret : String → String → Bool} {tribeId : String} {s : Sdk}

/-- An access token of the tribe, issued at this time. -/
def Genuine (p : DevJwtProvider) (tribeId token : String) (issuedAt : Nat) : Prop :=
  ∃ permissions scopes,
    token = (p.issueToken tribeId permissions scopes (issuedAt / 1000)).accessToken

/-- A refresh token of the tribe. -/
def Refreshing (p : DevJwtProvider) (tribeId token : String) : Prop :=
  ∃ issuedAt, token = p.jose.sign p.key (p.refreshPayload tribeId issuedAt)

/-- An answer of a token endpoint to the tribe. -/
structure Granted (p : DevJwtProvider) (tribeId : String) (answer : ProviderToken)
    (issuedAt : Nat) : Prop where
  access : Genuine p tribeId answer.accessToken issuedAt
  refresh : ∀ token, answer.refreshToken = some token → Refreshing p tribeId token
  expiresIn : answer.expiresIn = p.ttl

theorem granted_issue (permissions scopes : List String) (issuedAt : Nat) :
    Granted p tribeId
      ⟨(p.issueToken tribeId permissions scopes (issuedAt / 1000)).accessToken,
        some (p.issueToken tribeId permissions scopes (issuedAt / 1000)).refreshToken,
        (p.issueToken tribeId permissions scopes (issuedAt / 1000)).expiresIn⟩ issuedAt where
  access := ⟨permissions, scopes, rfl⟩
  refresh token h := by
    cases h
    exact ⟨issuedAt / 1000, rfl⟩
  expiresIn := rfl

/-- The token endpoint issues for the tribe that asks. -/
theorem granted_token {r : RegistryService} {secret : String} {now : Nat} {grant : TokenGrant}
    (h : AuthController.issueToken r validateSecret (p.provider now) tribeId secret = .ok grant) :
    Granted p tribeId ⟨grant.accessToken, grant.refreshToken, grant.expiresIn⟩ now := by
  unfold AuthController.issueToken at h
  cases hr : r.get tribeId with
  | none => simp [hr, throw, throwThe, MonadExceptOf.throw] at h
  | some found =>
    simp only [hr] at h
    split at h
    · cases found with
      | member m => cases h
      | entry e =>
        obtain ⟨consumable, -, h⟩ := bind_ok h
        obtain ⟨token, ht, h⟩ := bind_ok h
        cases ht
        cases h
        exact granted_issue _ _ now
    · cases h

theorem granted_refresh {token : String} {now : Nat} {answer : ProviderToken}
    (ht : Refreshing p tribeId token)
    (h : AuthController.refreshToken p token now = .ok answer) : Granted p tribeId answer now := by
  obtain ⟨issuedAt, rfl⟩ := ht
  obtain ⟨issued, hi, rfl⟩ := map_ok h
  unfold DevJwtProvider.refreshToken at hi
  split at hi
  · cases hi
  · rename_i payload hv
    have hp := (Tokens.verify_ok_iff.mp hv).1
    rw [p.jose.payloadOf_sign] at hp
    cases hp
    split at hi
    · cases hi
    · cases hi
      exact granted_issue _ _ now

/-- What is posted to a token endpoint is the tribe's own. -/
def OwnPost (p : DevJwtProvider) (tribeId : String) : TokenPost → Prop
  | .token id _ => id = tribeId
  | .refresh token => Refreshing p tribeId token

theorem granted_serve {post : TokenPost} (ho : OwnPost p tribeId post) {r : RegistryService}
    {now : Nat} {answer : ProviderToken} (h : post.serve p r validateSecret now = .ok answer) :
    Granted p tribeId answer now := by
  cases post with
  | token id secret =>
    cases ho
    obtain ⟨grant, hg, rfl⟩ := map_ok h
    exact granted_token hg
  | refresh token => exact granted_refresh ho h

/-- A call is made with a token of the tribe, and either right when the token has arrived or while
`ensureAuth` still takes it for fresh. -/
structure OwnRequest (p : DevJwtProvider) (tribeId : String) (q : SdkRequest) : Prop where
  bearer : ∃ token, q.authorization = "Bearer " ++ token ∧ Genuine p tribeId token q.issuedAt
  fresh : q.madeAt = q.arrivedAt ∨ q.madeAt + 30000 < q.arrivedAt + p.ttl * 1000

/-- What every step of a client keeps. -/
structure Consistent (p : DevJwtProvider) (tribeId : String) (s : Sdk) : Prop where
  own : s.tokens.tribeId = tribeId
  access : ∀ token, s.tokens.accessToken = some token →
    Genuine p tribeId token s.issuedAt ∧ s.tokens.tokenExpiry = s.arrivedAt + p.ttl * 1000
  refresh : ∀ token, s.tokens.refreshToken = some token → Refreshing p tribeId token
  posts : ∀ x ∈ s.exchanges, OwnPost p tribeId x.post
  served : ∀ x ∈ s.exchanges, ∀ answer issuedAt, x.served = some (.ok answer, issuedAt) →
    Granted p tribeId answer issuedAt
  requests : ∀ q ∈ s.requests, OwnRequest p tribeId q

theorem held_eq_some {o : Option String} {token : String} (h : SdkTokens.held o = some token) :
    o = some token := (Option.filter_eq_some_iff.mp h).1

theorem Consistent.own_refresh (h : Consistent p tribeId s) :
    OwnPost p tribeId s.tokens.refresh := by
  unfold SdkTokens.refresh
  cases hr : SdkTokens.held s.tokens.refreshToken with
  | none => exact h.own
  | some token => exact h.refresh token (held_eq_some hr)

/-- A new exchange with nothing answered yet. -/
theorem Consistent.send (h : Consistent p tribeId s) {post : TokenPost}
    (ho : OwnPost p tribeId post) (call : Option SdkCall) :
    Consistent p tribeId
      { s with exchanges := s.exchanges ++ [{ post := post, call := call }] } where
  own := h.own
  access := h.access
  refresh := h.refresh
  posts x hx := by
    rcases List.mem_append.mp hx with hold | hnew
    · exact h.posts x hold
    · obtain rfl := List.mem_singleton.mp hnew
      exact ho
  served x hx := by
    rcases List.mem_append.mp hx with hold | hnew
    · exact h.served x hold
    · obtain rfl := List.mem_singleton.mp hnew
      nofun
  requests := h.requests

theorem Consistent.replace (h : Consistent p tribeId s) (i : Nat) {x : TokenExchange}
    (ho : OwnPost p tribeId x.post)
    (hs : ∀ answer issuedAt, x.served = some (.ok answer, issuedAt) →
      Granted p tribeId answer issuedAt) :
    Consistent p tribeId { s with exchanges := s.exchanges.set i x } where
  own := h.own
  access := h.access
  refresh := h.refresh
  posts y hy := by
    rcases List.mem_or_eq_of_mem_set hy with hold | rfl
    · exact h.posts y hold
    · exact ho
  served y hy := by
    rcases List.mem_or_eq_of_mem_set hy with hold | rfl
    · exact h.served y hold
    · exact hs
  requests := h.requests

theorem Consistent.drop (h : Consistent p tribeId s) (i : Nat) :
    Consistent p tribeId { s with exchanges := s.exchanges.eraseIdx i } where
  own := h.own
  access := h.access
  refresh := h.refresh
  posts x hx := h.posts x (List.mem_of_mem_eraseIdx hx)
  served x hx := h.served x (List.mem_of_mem_eraseIdx hx)
  requests := h.requests

theorem Consistent.fail (h : Consistent p tribeId s) (i : Nat) (x : TokenExchange) :
    Consistent p tribeId (s.fail i x) := by
  unfold Sdk.fail
  cases x.post with
  | token id secret => exact h.drop i
  | refresh token => exact h.replace i h.own nofun

theorem Consistent.request (h : Consistent p tribeId s) {token : String}
    (ht : s.tokens.accessToken = some token) (c : SdkCall) {now : Nat}
    (hnow : now = s.arrivedAt ∨ now + 30000 < s.arrivedAt + p.ttl * 1000) :
    Consistent p tribeId (s.request c now) where
  own := h.own
  access := h.access
  refresh := h.refresh
  posts := h.posts
  served := h.served
  requests q hq := by
    rcases List.mem_append.mp hq with hold | hnew
    · exact h.requests q hold
    · obtain rfl := List.mem_singleton.mp hnew
      exact ⟨⟨token, by rw [ht]; rfl, (h.access token ht).1⟩, hnow⟩

/-- A call goes out at once only with a token that `ensureAuth` takes for fresh. -/
theorem Consistent.call (h : Consistent p tribeId s) (c : SdkCall) (now : Nat) :
    Consistent p tribeId (s.call c now) := by
  unfold Sdk.call
  cases he : s.tokens.ensureAuth now with
  | some post =>
    refine h.send ?_ (some c)
    unfold SdkTokens.ensureAuth at he
    split at he
    · cases he
      exact h.own_refresh
    · cases he
  | none =>
    unfold SdkTokens.ensureAuth at he
    split at he
    · cases he
    · rename_i hfresh
      rw [not_or, Option.isNone_iff_eq_none] at hfresh
      obtain ⟨token, ht⟩ := Option.ne_none_iff_exists'.mp hfresh.1
      have haccess := held_eq_some ht
      refine h.request haccess c (.inr ?_)
      have hexpiry := (h.access token haccess).2
      omega

/-- An answer that arrives replaces what the client holds. -/
theorem Consistent.answered (h : Consistent p tribeId s) {answer : ProviderToken} {issuedAt : Nat}
    (hg : Granted p tribeId answer issuedAt) (post : TokenPost) (i now : Nat) :
    Consistent p tribeId { s with
      tokens := s.tokens.answered answer now post
      exchanges := s.exchanges.eraseIdx i
      issuedAt := issuedAt
      arrivedAt := now } := by
  have haccess : (s.tokens.answered answer now post).accessToken = some answer.accessToken := by
    cases post <;> rfl
  have hexpiry : (s.tokens.answered answer now post).tokenExpiry =
      now + answer.expiresIn * 1000 := by
    cases post <;> rfl
  refine ⟨?_, ?_, ?_, (h.drop i).posts, (h.drop i).served, h.requests⟩
  · cases post <;> exact h.own
  · intro token ht
    rw [haccess] at ht
    cases ht
    rw [hexpiry, hg.expiresIn]
    exact ⟨hg.access, rfl⟩
  · intro token ht
    cases post with
    | token id secret => exact hg.refresh token ht
    | refresh old =>
      rcases Option.or_eq_some_iff.mp ht with hnew | ⟨-, hold⟩
      · exact hg.refresh token hnew
      · exact h.refresh token hold

theorem Consistent.deliver (h : Consistent p tribeId s) {x : TokenExchange} {i : Nat}
    (hx : x ∈ s.exchanges) (now : Nat) : Consistent p tribeId (s.deliver i now x) := by
  unfold Sdk.deliver
  split
  · exact h
  · exact h.fail i x
  · rename_i answer issuedAt hserved
    have hnext := h.answered (h.served x hx answer issuedAt hserved) x.post i now
    have haccess : (s.tokens.answered answer now x.post).accessToken =
        some answer.accessToken := by
      cases x.post <;> rfl
    dsimp only
    cases x.call with
    | none => exact hnext
    | some c => exact hnext.request haccess c (.inl rfl)

theorem consistent_step (h : Consistent p tribeId s) (a : SdkAction) :
    Consistent p tribeId (s.step p validateSecret a) := by
  cases a with
  | call c now => exact h.call c now
  | authenticate => exact h.send (show OwnPost p tribeId s.tokens.authenticate from h.own) none
  | refresh => exact h.send h.own_refresh none
  | serve i r now =>
    unfold Sdk.step
    dsimp only
    split
    · rename_i post call hx
      have hmem := List.mem_of_getElem? hx
      have hown : OwnPost p tribeId post := h.posts _ hmem
      refine h.replace i hown ?_
      intro answer issuedAt hserved
      obtain ⟨hok, hat⟩ := Prod.mk.inj (Option.some.inj hserved)
      rw [← hat]
      exact granted_serve hown hok
    · exact h
  | deliver i now =>
    unfold Sdk.step
    dsimp only
    split
    · exact h
    · rename_i x hx
      exact h.deliver (List.mem_of_getElem? hx) now
  | lose i =>
    unfold Sdk.step
    dsimp only
    split
    · exact h
    · exact h.fail i _

/-- A client that has not asked for a token yet. -/
def fresh (tribeId secret : String) : Sdk := { tokens := { tribeId := tribeId, secret := secret } }

theorem consistent_fresh (p : DevJwtProvider) (tribeId secret : String) :
    Consistent p tribeId (fresh tribeId secret) where
  own := rfl
  access token h := by cases h
  refresh token h := by cases h
  posts x hx := by cases hx
  served x hx := by cases hx
  requests q hq := by cases hq

theorem consistent_run (p : DevJwtProvider) (validateSecret : String → String → Bool)
    (tribeId secret : String) (as : List SdkAction) :
    Consistent p tribeId (Runs.final (Sdk.step p validateSecret) (fresh tribeId secret) as) :=
  Runs.invariant_reached (I := Consistent p tribeId) (fun _ a h => consistent_step h a)
    (consistent_fresh p tribeId secret) as

/-- The guard of the gateway, when a request comes in at `now` milliseconds. -/
def guard (p : DevJwtProvider) (q : SdkRequest) (now : Nat) :
    Except Thrown AuthenticatedRequest :=
  JwtAuthGuard.canActivate (p.provider now).validateToken q.received

theorem bearer_received (hj : Compact p.jose) {q : SdkRequest} {token : String} {issuedAt : Nat}
    (hq : q.authorization = "Bearer " ++ token) (ht : Genuine p tribeId token issuedAt) :
    bearerToken q.received.authorization = some token ∧ token ≠ "" := by
  obtain ⟨permissions, scopes, rfl⟩ := ht
  refine ⟨?_, hj.nonempty _ _⟩
  change bearerToken (some q.authorization) = _
  rw [hq]
  exact Catalogue.bearerToken_bearer (hj.noBlank _ _)

theorem validates_iff {token : String} {issuedAt : Nat} (ht : Genuine p tribeId token issuedAt)
    (now : Nat) : (∃ claims, (p.provider now).validateToken token = .ok claims) ↔
      now / 1000 < issuedAt / 1000 + p.ttl := by
  obtain ⟨permissions, scopes, rfl⟩ := ht
  constructor
  · intro h
    obtain ⟨claims, hc⟩ := h
    obtain ⟨payload, hv, -⟩ := map_ok hc
    obtain ⟨hsigned, -, hexp⟩ := Tokens.verify_ok_iff.mp hv
    rw [DevJwtProvider.issueToken, p.jose.payloadOf_sign] at hsigned
    cases hsigned
    exact (Tokens.unexpired_value rfl).mp hexp
  · intro h
    obtain ⟨claims, hc, -⟩ := Tokens.validate_issued (p := p) tribeId permissions scopes h
    exact ⟨claims, hc⟩

/-- The guard takes a request for the tribe's until its token expires. -/
theorem guard_admits (hj : Compact p.jose) {q : SdkRequest} (hq : OwnRequest p tribeId q)
    {now : Nat} (h : now / 1000 < q.issuedAt / 1000 + p.ttl) :
    ∃ req, guard p q now = .ok req ∧ req.tribeId = .value tribeId := by
  obtain ⟨token, hauth, permissions, scopes, htoken⟩ := hq.bearer
  obtain ⟨hbearer, hne⟩ := bearer_received hj hauth ⟨permissions, scopes, htoken⟩
  obtain ⟨claims, hc, htribe, -⟩ :=
    Tokens.validate_issued (p := p) tribeId permissions scopes h
  rw [← htoken] at hc
  have hvalid : (p.provider now).validateToken token = .ok claims := hc
  obtain ⟨req, hreq⟩ := JwtAuthGuard.canActivate_accepts hbearer hne hvalid
  obtain ⟨token', claims', hbearer', hvalid', rfl⟩ := JwtAuthGuard.canActivate_ok hreq
  cases hbearer.symm.trans hbearer'
  cases hvalid.symm.trans hvalid'
  exact ⟨_, hreq, htribe⟩

theorem guard_rejects (hj : Compact p.jose) {q : SdkRequest} (hq : OwnRequest p tribeId q)
    {now : Nat} (h : q.issuedAt / 1000 + p.ttl ≤ now / 1000) : ∃ e, guard p q now = .error e := by
  obtain ⟨token, hauth, ht⟩ := hq.bearer
  obtain ⟨hbearer, -⟩ := bearer_received hj hauth ht
  cases hv : (p.provider now).validateToken token with
  | error e => exact JwtAuthGuard.canActivate_rejected hbearer hv
  | ok claims =>
    have hlt := (validates_iff ht now).mp ⟨claims, hv⟩
    omega

/-- What becomes of a request of the SDK. The token's way to the client, on its clock, and the
request's way back, on the gateway's, have 29 seconds together; how far the two clocks are apart
does not matter. -/
structure Honoured (p : DevJwtProvider) (tribeId : String) (q : SdkRequest) : Prop where
  inTime : ∀ now, q.arrivedAt + now ≤ q.issuedAt + q.madeAt + 29000 →
    ∃ req, guard p q now = .ok req ∧ req.tribeId = .value tribeId
  expired : ∀ now, q.issuedAt / 1000 + p.ttl ≤ now / 1000 → ∃ e, guard p q now = .error e

/-- In whatever order token requests overlap, are answered, fail and are made again, every call the
client makes is taken for one of its tribe. -/
theorem sdk_calls_honoured (p : DevJwtProvider) (hj : Compact p.jose) (ht : 30 ≤ p.ttl)
    (validateSecret : String → String → Bool) (tribeId secret : String) (as : List SdkAction) :
    ∀ q ∈ (Runs.final (Sdk.step p validateSecret) (fresh tribeId secret) as).requests,
      Honoured p tribeId q := by
  intro q hq
  have hown := (consistent_run p validateSecret tribeId secret as).requests q hq
  constructor
  · intro now hnow
    apply guard_admits hj hown
    rcases hown.fresh with hat | hlater
    · omega
    · omega
  · exact fun now hnow => guard_rejects hj hown hnow

/-- Every character as its code. -/
def word : Codec String :=
  (Codec.nat.via Char.toNat Char.ofNat fun c => Char.ofNat_toNat c).list.via String.toList
    String.ofList fun _ => String.ofList_toList

def compactCodec : Codec JwtPayload :=
  let text := Tokens.optionalCodec word
  let number := Tokens.optionalCodec Codec.nat
  let texts := Tokens.optionalCodec word.list
  (text.pair (text.pair (number.pair (number.pair (text.pair (texts.pair (texts.pair text))))))).via
    (fun p => (p.sub, p.iss, p.iat, p.exp, p.tribeId, p.permissions, p.scopes, p.type))
    (fun q => ⟨q.1, q.2.1, q.2.2.1, q.2.2.2.1, q.2.2.2.2.1, q.2.2.2.2.2.1, q.2.2.2.2.2.2.1,
      q.2.2.2.2.2.2.2⟩)
    fun _ => rfl

theorem word_noBlank : word.Avoids ' ' :=
  (((Codec.avoids_nat (by decide) (by decide)).via).list (by decide) (by decide)).via

theorem optional_noBlank {α : Type} {c : Codec α} (h : c.Avoids ' ') :
    (Tokens.optionalCodec c).Avoids ' ' :=
  ((h.option (by decide) (by decide)).option (by decide) (by decide)).via

theorem compactCodec_noBlank : compactCodec.Avoids ' ' := by
  have htext := optional_noBlank word_noBlank
  have hnat : Codec.nat.Avoids ' ' := Codec.avoids_nat (by decide) (by decide)
  have hnumber := optional_noBlank hnat
  have htexts := optional_noBlank (word_noBlank.list (by decide) (by decide))
  unfold compactCodec
  exact (htext.pair (htext.pair (hnumber.pair (hnumber.pair (htext.pair (htexts.pair
    (htexts.pair htext))))))).via

def compactJose : Jose where
  Key := Unit
  sign _ payload := String.ofList ('j' :: compactCodec.write payload)
  payloadOf _ token := (compactCodec.read (token.toList.drop 1)).map Prod.fst
  payloadOf_sign _ payload := by
    have h := compactCodec.read_write payload []
    rw [List.append_nil] at h
    simp [h]

theorem compactJose_compact : Compact compactJose where
  noBlank _ payload := by
    change ' ' ∉ (String.ofList ('j' :: compactCodec.write payload)).toList
    rw [String.toList_ofList]
    simpa using compactCodec_noBlank payload
  nonempty _ payload h := by
    have hlist := congrArg String.toList h
    change (String.ofList ('j' :: compactCodec.write payload)).toList = _ at hlist
    rw [String.toList_ofList] at hlist
    cases hlist

def compactProvider : DevJwtProvider where
  jose := compactJose
  key := ()
  issuer := "api-center-dev"

/-- Two calls overlap before there is a token; the second answer comes 20 seconds late. -/
def overlappingCalls : List SdkAction :=
  [.call (.callService "billing" "/invoices") 1000, .call .listServices 1100,
    .serve 0 Catalogue.onboarded 1050, .serve 1 Catalogue.onboarded 1150, .deliver 0 1200,
    .deliver 0 21150]

theorem overlapping_calls_honoured :
    (Runs.final (Sdk.step compactProvider Catalogue.secretOf) (fresh "orders" "s3cret")
        overlappingCalls).requests.length = 2 ∧
      ∀ q ∈ (Runs.final (Sdk.step compactProvider Catalogue.secretOf) (fresh "orders" "s3cret")
        overlappingCalls).requests, Honoured compactProvider "orders" q :=
  ⟨by decide, sdk_calls_honoured compactProvider compactJose_compact (by decide) Catalogue.secretOf
    "orders" "s3cret" overlappingCalls⟩

end ApiCenter.Proofs.SdkTokens
