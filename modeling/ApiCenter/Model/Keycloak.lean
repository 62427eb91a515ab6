import ApiCenter.Model.Auth
import ApiCenter.Model.Json

namespace ApiCenter

/-- Claims as `validateToken` really returns them: a property can be anything. -/
abbrev RawClaims := List (String × Option Json)

/-- What `jwtVerify` is asked to enforce besides the signature and the expiry. -/
structure JwtVerifyOptions where
  issuer : Option String
  audience : Option String

/-- The provider, with `jwks` for the key store being there, and the verification of the `jose`
package, which gives the payload of a token it accepts. -/
structure KeycloakProvider where
  jwks : Bool
  issuer : Optional String
  audience : Optional String
  jwtVerify : JwtVerifyOptions → String → Except Thrown JsonObject

namespace KeycloakProvider

/-- `payload['realm_access']?.roles ?? []` -/
def realmRoles (payload : JsonObject) : Json :=
  (((payload.lookup "realm_access").bind (·.get? "roles")).bind Json.present).getD (.array [])

/-- What `ra.roles ?? []` adds to a flat array. -/
def rolesOf : Json → Except Thrown (List Json)
  | .null => .error (.typeError "Cannot read properties of null (reading 'roles')")
  | ra =>
    match (ra.get? "roles").bind Json.present with
    | none => .ok []
    | some (.array items) => .ok items
    | some value => .ok [value]

def flatRoles : List Json → Except Thrown (List Json)
  | [] => .ok []
  | ra :: rest => do
    let roles ← rolesOf ra
    let others ← flatRoles rest
    pure (roles ++ others)

/-- The clients of `payload['resource_access'] ?? {}`. -/
def clients (payload : JsonObject) : List Json :=
  (((payload.lookup "resource_access").bind Json.present).getD (.object [])).values

/-- `s.split(' ').filter(Boolean)` -/
def words (s : String) : List String :=
  ((s.toList.splitOn ' ').map String.ofList).filter (· ≠ "")

def scopeWords (payload : JsonObject) : Except Thrown (List String) :=
  match ((payload.lookup "scope").bind Json.present).getD (.string "") with
  | .string s => .ok (words s)
  | _ => .error (.typeError "payload.scope.split is not a function")

/-- The claims made of a verified payload; the payload's own properties come last, so they
replace the ones computed. -/
def normalise (payload : JsonObject) : Except Thrown RawClaims := do
  let resourceRoles ← flatRoles (clients payload)
  let realm ← (realmRoles payload).spread
  let scopes ← scopeWords payload
  pure (payload.map (fun field => (field.1, some field.2)) ++
    [("sub", some (((payload.lookup "sub").bind Json.present).getD (.string ""))),
      ("tribeId", payload.lookup "tribeId"),
      ("permissions", some (.array (realm ++ resourceRoles))),
      ("scopes", some (.array (scopes.map .string))),
      ("exp", payload.lookup "exp")])

def validateToken (p : KeycloakProvider) (token : String) : Except Thrown RawClaims :=
  if p.jwks then do
    let payload ← p.jwtVerify ⟨p.issuer.text?, p.audience.text?⟩ token
    normalise payload
  else .error (.error "KeycloakProvider not initialised — KEYCLOAK_JWKS_URI missing")

end KeycloakProvider

namespace RawClaims

def get? (claims : RawClaims) (key : String) : Option Json := (claims.lookup key).join

def mergeCallerScopes (claims : RawClaims) : Except Thrown (List Json) := do
  let scopes ← (((claims.get? "scopes").bind Json.present).getD (.array [])).spread
  let permissions ← (((claims.get? "permissions").bind Json.present).getD (.array [])).spread
  pure (scopes ++ permissions)

/-- `items.includes(s)` -/
def includes (items : List Json) (s : String) : Bool :=
  items.any fun
    | .string t => t = s
    | _ => false

def checkScopes (claims : RawClaims) (requiredScopes : List String) :
    Except Thrown (List String) := do
  let callerScopes ← claims.mergeCallerScopes
  pure (requiredScopes.filter fun s => !includes callerScopes s)

end RawClaims

namespace ScopedAdminGuard

/-- `canActivate`, with the claims it attaches to the request. -/
def canActivate (platformAdminSecret : Optional String)
    (validateToken : String → Except Thrown RawClaims)
    (xPlatformSecret authorization : Option String) : Except Thrown (Option RawClaims) :=
  let denied := Except.error (.unauthorizedError
    ("Admin access requires a valid X-Platform-Secret header or " ++
      "a JWT with platform:admin scope"))
  if xPlatformSecret.any (· ≠ "") ∧ platformAdminSecret.text? = xPlatformSecret then .ok none
  else
    match (bearerToken authorization).filter (· ≠ "") with
    | none => denied
    | some token =>
      match validateToken token with
      | .error _ => denied
      | .ok claims =>
        match claims.mergeCallerScopes with
        | .error _ => denied
        | .ok scopes =>
          if RawClaims.includes scopes "platform:admin" then .ok (some claims) else denied

end ScopedAdminGuard

end ApiCenter
