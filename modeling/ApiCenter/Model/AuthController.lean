import ApiCenter.Model.Access
import ApiCenter.Model.Auth

namespace ApiCenter

/-- What a provider issues. -/
structure ProviderToken where
  accessToken : String
  refreshToken : Option String
  expiresIn : Nat
  deriving DecidableEq, Repr

/-- The configured `AuthProvider`, as far as issuing and validating tokens goes. -/
structure AuthProvider where
  issueToken : String → List String → List String → Except Thrown ProviderToken
  validateToken : String → Except Thrown JwtClaims

/-- The data `issueToken` answers with; the event it publishes says the same. -/
structure TokenGrant where
  accessToken : String
  refreshToken : Option String
  expiresIn : Nat
  tribeId : String
  permissions : List String
  scopes : List String
  deriving DecidableEq, Repr

namespace AuthController

/-- The scopes of the targets a service may consume. -/
def consumableScopes (r : RegistryService) : List String → Except Thrown (List String)
  | [] => .ok []
  | targetId :: rest =>
    match r.get targetId with
    | none => consumableScopes r rest
    | some (.entry target) =>
      (consumableScopes r rest).map fun scopes => target.requiredScopes ++ scopes
    | some (.member _) =>
      .error (.typeError "Spread syntax requires ...iterable[Symbol.iterator] to be a function")

def permissionsOf (tribeId : String) : List String :=
  [s!"tribe:{tribeId}:read", s!"tribe:{tribeId}:write", "external:read"]

/-- `issueToken`. `validateSecret` compares with the secret in the environment. -/
def issueToken (r : RegistryService) (validateSecret : String → String → Bool)
    (provider : AuthProvider) (tribeId secret : String) : Except Thrown TokenGrant := do
  match r.get tribeId with
  | none => throw (.notFoundError s!"Unknown service: {tribeId}")
  | some service =>
    if validateSecret tribeId secret then
      match service with
      | .member _ => throw (.typeError "service.consumes is not iterable")
      | .entry e =>
        let consumable ← consumableScopes r e.consumes
        let scopes := (e.requiredScopes ++ consumable).eraseDups
        let token ← provider.issueToken tribeId (permissionsOf tribeId) scopes
        pure ⟨token.accessToken, token.refreshToken, token.expiresIn, tribeId,
          permissionsOf tribeId, scopes⟩
    else throw (.unauthorizedError "Invalid credentials")

end AuthController

end ApiCenter
