import ApiCenter.Model.AuthController
import ApiCenter.Model.Config
import ApiCenter.Model.Manifest

namespace ApiCenter

/-- `s.toUpperCase()`; `unicode` is the table for the characters past ASCII. -/
def toUpperCase (unicode : Char → List Char) (s : String) : List Char :=
  s.toList.flatMap fun c => if c.toNat < 128 then [c.toUpper] else unicode c

/-- `cs.replaceAll('-', '_')` -/
def hyphensToUnderscores (cs : List Char) : List Char := cs.map fun c => if c = '-' then '_' else c

/-- `cs.replace(/[^A-Z0-9]/g, '_')`, which sees two code units in a character past the BMP. -/
def othersToUnderscores (cs : List Char) : List Char :=
  cs.flatMap fun c =>
    if c.isUpper || c.isDigit then [c] else if c.toNat < 0x10000 then ['_'] else ['_', '_']

/-- `s.length` -/
def utf16Length (s : String) : Nat :=
  (s.toList.flatMap fun c => if c.toNat < 0x10000 then [c] else [c, c]).length

namespace RegistryService

/-- The variable with the secret of a service. -/
def secretEnvKey (unicode : Char → List Char) (serviceId : String) : String :=
  "TRIBE_SECRET_" ++ String.ofList (hyphensToUnderscores (toUpperCase unicode serviceId))

/-- `validateSecret`; `sha256` is the hexadecimal digest. The comparison throws when the texts
have as many UTF-16 code units but not as many bytes. -/
def validateSecret (unicode : Char → List Char) (sha256 : String → String) (env : ProcessEnv)
    (serviceId secret : String) : Except Thrown Bool :=
  match env.given (secretEnvKey unicode serviceId) with
  | none => .ok false
  | some expected =>
    let hash := sha256 secret
    if utf16Length hash ≠ utf16Length expected then .ok false
    else if hash.utf8ByteSize ≠ expected.utf8ByteSize then
      .error (.error "Input buffers must have the same byte length")
    else .ok (hash = expected)

end RegistryService

/-- The form a token endpoint is posted, and where. -/
structure TokenRequest where
  endpoint : String
  grant_type : String
  client_id : String
  client_secret : String
  scope : String
  deriving DecidableEq, Repr

namespace KeycloakProvider

/-- The variable with the client secret of a service. -/
def clientSecretEnvKey (unicode : Char → List Char) (serviceId : String) : String :=
  "KEYCLOAK_CLIENT_SECRET_" ++
    String.ofList (othersToUnderscores (toUpperCase unicode serviceId))

/-- The client secret of a service: an empty variable is there, and stands in the way of the
default. -/
def clientSecret (unicode : Char → List Char) (config : KeycloakConfig) (env : ProcessEnv)
    (serviceId : String) : String :=
  (env.lookup (clientSecretEnvKey unicode serviceId)).getD config.defaultClientSecret

/-- `issueToken`; `post` is what the token endpoint answers. -/
def issueToken (unicode : Char → List Char) (config : KeycloakConfig)
    (post : TokenRequest → Except Thrown ProviderToken) (env : ProcessEnv) (serviceId : String)
    (_permissions scopes : List String) : Except Thrown ProviderToken :=
  let secret := clientSecret unicode config env serviceId
  if secret = "" then
    .error (.error (s!"No Keycloak client secret found for service '{serviceId}'. Set " ++
      clientSecretEnvKey unicode serviceId ++ " or KEYCLOAK_DEFAULT_CLIENT_SECRET."))
  else
    post
      { endpoint := if config.tokenEndpoint = "" then
          s!"{config.baseUrl}/realms/{config.realm}/protocol/openid-connect/token"
          else config.tokenEndpoint
        grant_type := "client_credentials"
        client_id := serviceId
        client_secret := secret
        scope := " ".intercalate ("openid" :: scopes) }

end KeycloakProvider

end ApiCenter
