import ApiCenter.Model.Errors
import ApiCenter.Model.Types

namespace ApiCenter

/-- `request.headers.authorization?.split(' ')[1]` -/
def bearerToken (authorization : Option String) : Option String :=
  authorization.bind fun header => ((header.toList.splitOn ' ')[1]?).map String.ofList

namespace JwtAuthGuard

/-- `canActivate`; what it attaches is in the request it returns. -/
def canActivate (validateToken : String → Except Thrown JwtClaims) (request : Request) :
    Except Thrown AuthenticatedRequest :=
  match bearerToken request.authorization with
  | none => .error (.unauthorizedError "Missing authorization token")
  | some token =>
    if token = "" then .error (.unauthorizedError "Missing authorization token")
    else
      match validateToken token with
      | .ok claims => .ok { request with user := some claims, tribeId := claims.tribeId }
      | .error _ => .error (.unauthorizedError "Invalid or expired token")

end JwtAuthGuard

namespace AuthService

def mergeCallerScopes (claims : JwtClaims) : List String :=
  claims.scopes.getD [] ++ claims.permissions.getD []

/-- The required scopes the caller lacks. -/
def checkScopes (req : AuthenticatedRequest) (requiredScopes : List String) : List String :=
  let callerScopes := mergeCallerScopes (req.user.getD {})
  requiredScopes.filter fun s => !callerScopes.contains s

def authorize (req : AuthenticatedRequest) (requiredPermission : String) : Except Thrown Unit :=
  if (mergeCallerScopes (req.user.getD {})).contains requiredPermission then .ok ()
  else .error (.forbiddenError s!"Missing permission: '{requiredPermission}'")

theorem checkScopes_eq_nil (req : AuthenticatedRequest) (required : List String) :
    checkScopes req required = [] ↔
      ∀ s ∈ required, s ∈ mergeCallerScopes (req.user.getD {}) := by
  simp [checkScopes, List.filter_eq_nil_iff]

end AuthService

namespace JwtAuthGuard

/-- A request the guard lets through carries the claims of its own bearer token. -/
theorem canActivate_ok {validateToken : String → Except Thrown JwtClaims} {request : Request}
    {req : AuthenticatedRequest} (h : canActivate validateToken request = .ok req) :
    ∃ token claims, bearerToken request.authorization = some token ∧
      validateToken token = .ok claims ∧
      req = { request with user := some claims, tribeId := claims.tribeId } := by
  unfold canActivate at h
  split at h
  · cases h
  · rename_i token htoken
    split at h
    · cases h
    · split at h
      · rename_i claims hclaims
        cases h
        exact ⟨token, claims, htoken, hclaims, rfl⟩
      · cases h

/-- A token the provider accepts gets a request through. -/
theorem canActivate_accepts {validateToken : String → Except Thrown JwtClaims}
    {request : Request} (ht : bearerToken request.authorization = some token) (hne : token ≠ "")
    (hv : validateToken token = .ok claims) :
    ∃ req, canActivate validateToken request = .ok req := by
  unfold canActivate
  rw [ht]
  exact ⟨{ request with user := some claims, tribeId := claims.tribeId }, by simp [hne, hv]⟩

/-- One it rejects does not. -/
theorem canActivate_rejected {validateToken : String → Except Thrown JwtClaims}
    {request : Request} (ht : bearerToken request.authorization = some token)
    (hv : validateToken token = .error e) : ∃ t, canActivate validateToken request = .error t := by
  unfold canActivate
  rw [ht]
  by_cases hempty : token = ""
  · exact ⟨_, if_pos hempty⟩
  · exact ⟨.unauthorizedError "Invalid or expired token", by simp [hempty, hv]⟩

end JwtAuthGuard

end ApiCenter
