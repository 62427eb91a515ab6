import ApiCenter.Model.AuthController
import ApiCenter.Model.DevJwt

namespace ApiCenter

/-- The provider as the controller uses it, with the clock at `now` milliseconds. -/
def DevJwtProvider.provider (p : DevJwtProvider) (now : Nat) : AuthProvider where
  issueToken serviceId permissions scopes :=
    let issued := p.issueToken serviceId permissions scopes (now / 1000)
    .ok ⟨issued.accessToken, some issued.refreshToken, issued.expiresIn⟩
  validateToken token := p.validateToken token (now / 1000)

/-- `refreshToken` of the controller. -/
def AuthController.refreshToken (p : DevJwtProvider) (refreshToken : String) (now : Nat) :
    Except Thrown ProviderToken :=
  (p.refreshToken refreshToken (now / 1000)).map fun issued =>
    ⟨issued.accessToken, some issued.refreshToken, issued.expiresIn⟩

/-- What the SDK posts to the token endpoints. -/
inductive TokenPost where
  | token (tribeId secret : String)
  | refresh (refreshToken : String)
  deriving DecidableEq, Repr

/-- How the gateway answers, at `now` milliseconds. -/
def TokenPost.serve (p : DevJwtProvider) (r : RegistryService)
    (validateSecret : String → String → Bool) (now : Nat) : TokenPost → Except Thrown ProviderToken
  | .token tribeId secret =>
    (AuthController.issueToken r validateSecret (p.provider now) tribeId secret).map fun grant =>
      ⟨grant.accessToken, grant.refreshToken, grant.expiresIn⟩
  | .refresh refreshToken => AuthController.refreshToken p refreshToken now

/-- The calls a tribe makes through its client. -/
inductive SdkCall where
  | callService (serviceId path : String)
  | callSharedService (serviceId path : String)
  | callExternal (apiName path : String)
  | listServices
  | listSharedServices
  deriving DecidableEq, Repr

def SdkCall.url : SdkCall → String
  | .callService serviceId path => s!"/api/v1/tribes/{serviceId}{path}"
  | .callSharedService serviceId path => s!"/api/v1/shared/{serviceId}{path}"
  | .callExternal apiName path => s!"/api/v1/external/{apiName}{path}"
  | .listServices => "/api/v1/tribes"
  | .listSharedServices => "/api/v1/shared"

/-- The credentials of a client, and what it keeps of the last answer. -/
structure SdkTokens where
  tribeId : String
  secret : String
  accessToken : Option String := none
  refreshToken : Option String := none
  tokenExpiry : Nat := 0

namespace SdkTokens

/-- A text that counts as there. -/
def held (o : Option String) : Option String := o.filter (· ≠ "")

/-- `authenticate` up to its answer. -/
def authenticate (c : SdkTokens) : TokenPost := .token c.tribeId c.secret

/-- `refresh` up to its answer. -/
def refresh (c : SdkTokens) : TokenPost :=
  match held c.refreshToken with
  | some refreshToken => .refresh refreshToken
  | none => c.authenticate

/-- What `ensureAuth` posts, if it does not let the call go on at once. -/
def ensureAuth (c : SdkTokens) (now : Nat) : Option TokenPost :=
  if (held c.accessToken).isNone ∨ c.tokenExpiry ≤ now + 30000 then some c.refresh else none

/-- An answer to `authenticate` arrives; `expiresIn` is always there. -/
def authenticated (c : SdkTokens) (answer : ProviderToken) (now : Nat) : SdkTokens :=
  { c with
    accessToken := some answer.accessToken
    refreshToken := answer.refreshToken
    tokenExpiry := now + answer.expiresIn * 1000 }

/-- An answer to `refresh` arrives. -/
def refreshed (c : SdkTokens) (answer : ProviderToken) (now : Nat) : SdkTokens :=
  { c with
    accessToken := some answer.accessToken
    refreshToken := answer.refreshToken.or c.refreshToken
    tokenExpiry := now + answer.expiresIn * 1000 }

def answered (c : SdkTokens) (answer : ProviderToken) (now : Nat) : TokenPost → SdkTokens
  | .token _ _ => c.authenticated answer now
  | .refresh _ => c.refreshed answer now

end SdkTokens

/-- A post on its way, with the call that waits for it. The gateway's answer comes with the reading
of its clock. -/
structure TokenExchange where
  post : TokenPost
  call : Option SdkCall
  served : Option (Except Thrown ProviderToken × Nat) := none

/-- A call as it is handed to `requestWithRetry`, with the times that count for its token: when it
was issued, when it arrived, and when the call was made. -/
structure SdkRequest where
  url : String
  authorization : String
  issuedAt : Nat
  arrivedAt : Nat
  madeAt : Nat

/-- A client of the SDK. `issuedAt` and `arrivedAt` are the times of the token it holds. -/
structure Sdk where
  tokens : SdkTokens
  exchanges : List TokenExchange := []
  requests : List SdkRequest := []
  issuedAt : Nat := 0
  arrivedAt : Nat := 0

/-- `now` is the clock of the gateway for `serve`, and that of the client for the rest. -/
inductive SdkAction where
  | call (c : SdkCall) (now : Nat)
  | authenticate
  | refresh
  | serve (i : Nat) (r : RegistryService) (now : Nat)
  | deliver (i : Nat) (now : Nat)
  | lose (i : Nat)

namespace Sdk

/-- The rest of a call, once there is a token. -/
def request (s : Sdk) (c : SdkCall) (now : Nat) : Sdk :=
  { s with
    requests := s.requests ++ [
      { url := c.url
        authorization := "Bearer " ++ s.tokens.accessToken.getD "null"
        issuedAt := s.issuedAt
        arrivedAt := s.arrivedAt
        madeAt := now }] }

def call (s : Sdk) (c : SdkCall) (now : Nat) : Sdk :=
  match s.tokens.ensureAuth now with
  | some post => { s with exchanges := s.exchanges ++ [{ post := post, call := some c }] }
  | none => s.request c now

/-- A post fails: `refresh` goes on to `authenticate`, which throws. -/
def fail (s : Sdk) (i : Nat) (x : TokenExchange) : Sdk :=
  match x.post with
  | .token _ _ => { s with exchanges := s.exchanges.eraseIdx i }
  | .refresh _ =>
    { s with exchanges := s.exchanges.set i { post := s.tokens.authenticate, call := x.call } }

/-- The answer of an exchange arrives, and the call that waits for it goes on. -/
def deliver (s : Sdk) (i now : Nat) (x : TokenExchange) : Sdk :=
  match x.served with
  | none => s
  | some (.error _, _) => s.fail i x
  | some (.ok answer, issuedAt) =>
    let s := { s with
      tokens := s.tokens.answered answer now x.post
      exchanges := s.exchanges.eraseIdx i
      issuedAt := issuedAt
      arrivedAt := now }
    match x.call with
    | some c => s.request c now
    | none => s

def step (p : DevJwtProvider) (validateSecret : String → String → Bool) (s : Sdk) :
    SdkAction → Sdk
  | .call c now => s.call c now
  | .authenticate =>
    { s with exchanges := s.exchanges ++ [{ post := s.tokens.authenticate, call := none }] }
  | .refresh => { s with exchanges := s.exchanges ++ [{ post := s.tokens.refresh, call := none }] }
  | .serve i r now =>
    match s.exchanges[i]? with
    | some { post, call, served := none } =>
      { s with exchanges :=
          s.exchanges.set i ⟨post, call, some (post.serve p r validateSecret now, now)⟩ }
    | _ => s
  | .deliver i now =>
    match s.exchanges[i]? with
    | none => s
    | some x => s.deliver i now x
  | .lose i =>
    match s.exchanges[i]? with
    | none => s
    | some x => s.fail i x

end Sdk

/-- The request as the gateway receives it. -/
def SdkRequest.received (q : SdkRequest) : Request where
  method := "GET"
  path := q.url
  authorization := some q.authorization
  xTribeId := none
  ip := none
  remoteAddress := none

end ApiCenter
