import ApiCenter.Model.External
import ApiCenter.Model.Semver
import ApiCenter.Model.Values

namespace ApiCenter
open Library

/-- The variables of `process.env`, with what `dotenv.config()` adds when the modules load. -/
abbrev ProcessEnv := Table String String

namespace ProcessEnv

/-- The variable `key`, where only a text that is not empty counts. -/
def given (env : ProcessEnv) (key : String) : Option String := (env.lookup key).filter (· ≠ "")

/-- `process.env.KEY || d` -/
def getOr (env : ProcessEnv) (key d : String) : String := (env.given key).getD d

theorem given_eq_some {env : ProcessEnv} {key s : String} :
    env.given key = some s ↔ env.lookup key = some s ∧ s ≠ "" := by
  simp [given, Option.filter_eq_some_iff]

end ProcessEnv

/-- The white space `parseInt` skips. -/
def isStrWhiteSpace (c : Char) : Bool :=
  [0x9, 0xA, 0xB, 0xC, 0xD, 0x20, 0xA0, 0x1680, 0x2028, 0x2029, 0x202F, 0x205F, 0x3000,
    0xFEFF].contains c.toNat || (0x2000 ≤ c.toNat && c.toNat ≤ 0x200A)

/-- The digits a text begins with, as a number. -/
def leadingNumber (cs : List Char) : Option Int :=
  match cs.takeWhile Char.isDigit with
  | [] => none
  | ds => some (parseInt ds)

/-- `parseInt(s, 10)`; `none` is `NaN`. -/
def parseDecimal (s : String) : Option Int :=
  match s.toList.dropWhile isStrWhiteSpace with
  | '-' :: cs => (leadingNumber cs).map (- ·)
  | '+' :: cs => leadingNumber cs
  | cs => leadingNumber cs

/-- `s.split(',')` -/
def splitCommas (s : String) : List String := (s.toList.splitOn ',').map String.ofList

/-- The parts, with the commas put back, are the text. -/
theorem splitCommas_inj {s t : String} : splitCommas s = splitCommas t ↔ s = t := by
  constructor
  · intro h
    have hparts := (List.map_inj_right fun _ _ => String.ofList_inj.mp).mp h
    have hjoined := congrArg [','].intercalate hparts
    rw [List.intercalate_splitOn, List.intercalate_splitOn] at hjoined
    exact String.toList_inj.mp hjoined
  · exact congrArg splitCommas

/-- `'*'`, or the origins listed. -/
inductive AllowedOrigins where
  | any
  | listed (origins : List String)
  deriving DecidableEq, Repr

structure CorsConfig where
  origin : AllowedOrigins
  credentials : Bool

structure KeycloakConfig where
  baseUrl : String
  realm : String
  jwksUri : String
  tokenEndpoint : String
  issuer : String
  audience : String
  refreshClientId : String
  defaultClientSecret : String

structure DevJwtConfig where
  issuer : String
  tokenTtlSeconds : Option Int
  refreshTtlMultiplier : Option Int

structure KafkaConfig where
  clientId : String
  brokers : List String
  groupId : String

structure RedisConfig where
  rateLimitUrl : String
  cacheUrl : String

structure SupabaseConfig where
  url : String
  serviceRoleKey : String

structure RateLimitConfig where
  windowMs : Option Int
  max : Option Int

structure TracingConfig where
  jaegerEndpoint : String
  serviceName : String

/-- The fields of the service. Nothing assigns to them after the constructor. -/
structure ConfigService where
  port : Option Int
  nodeEnv : String
  cors : CorsConfig
  authProvider : String
  keycloak : KeycloakConfig
  devJwt : DevJwtConfig
  kafka : KafkaConfig
  platformAdminSecret : String
  redis : RedisConfig
  supabase : SupabaseConfig
  rateLimit : RateLimitConfig
  external : ExternalConfig
  tracing : TracingConfig
  allowedOrigins : AllowedOrigins

def defaultJwksUri (env : ProcessEnv) : String :=
  env.getOr "KEYCLOAK_BASE_URL" "http://localhost:8080" ++ "/realms/" ++
    env.getOr "KEYCLOAK_REALM" "api-center" ++ "/protocol/openid-connect/certs"

def originsOf (allowed : Option String) : AllowedOrigins :=
  match allowed with
  | some origins => .listed (splitCommas origins)
  | none => .any

namespace ConfigService

/-- The field initialisers. -/
def ofEnv (env : ProcessEnv) : ConfigService where
  port := parseDecimal (env.getOr "PORT" "3000")
  nodeEnv := env.getOr "NODE_ENV" "development"
  cors :=
    { origin := originsOf (env.given "ALLOWED_ORIGINS")
      credentials := true }
  authProvider := env.getOr "AUTH_PROVIDER" "dev-jwt"
  keycloak :=
    { baseUrl := env.getOr "KEYCLOAK_BASE_URL" "http://localhost:8080"
      realm := env.getOr "KEYCLOAK_REALM" "api-center"
      jwksUri := env.getOr "KEYCLOAK_JWKS_URI" (defaultJwksUri env)
      tokenEndpoint := env.getOr "KEYCLOAK_TOKEN_ENDPOINT" ""
      issuer := env.getOr "KEYCLOAK_ISSUER" ""
      audience := env.getOr "KEYCLOAK_AUDIENCE" ""
      refreshClientId := env.getOr "KEYCLOAK_REFRESH_CLIENT_ID" "api-center"
      defaultClientSecret := env.getOr "KEYCLOAK_DEFAULT_CLIENT_SECRET" "" }
  devJwt :=
    { issuer := env.getOr "DEV_JWT_ISSUER" "api-center-dev"
      tokenTtlSeconds := parseDecimal (env.getOr "DEV_JWT_TTL_SECONDS" "3600")
      refreshTtlMultiplier := parseDecimal (env.getOr "DEV_JWT_REFRESH_TTL_MULTIPLIER" "24") }
  kafka :=
    { clientId := env.getOr "KAFKA_CLIENT_ID" "api-center"
      brokers := splitCommas (env.getOr "KAFKA_BROKERS" "localhost:9092")
      groupId := env.getOr "KAFKA_GROUP_ID" "api-center-group" }
  platformAdminSecret := env.getOr "PLATFORM_ADMIN_SECRET" ""
  redis :=
    { rateLimitUrl := env.getOr "REDIS_RATE_LIMIT_URL" "redis://localhost:6380"
      cacheUrl := env.getOr "REDIS_CACHE_URL" "redis://localhost:6381" }
  supabase :=
    { url := env.getOr "SUPABASE_URL" ""
      serviceRoleKey := env.getOr "SUPABASE_SERVICE_ROLE_KEY" "" }
  rateLimit :=
    { windowMs := parseDecimal (env.getOr "RATE_LIMIT_WINDOW_MS" "60000")
      max := parseDecimal (env.getOr "RATE_LIMIT_MAX" "100") }
  external :=
    { geolocation :=
        { url := env.getOr "GEOLOCATION_API_URL" "https://api.ipgeolocation.io"
          key := env.getOr "GEOLOCATION_API_KEY" "" }
      geofencing :=
        { url := env.getOr "GEOFENCING_API_URL" "https://api.geofencing.example.com"
          key := env.getOr "GEOFENCING_API_KEY" "" } }
  tracing :=
    { jaegerEndpoint := env.getOr "JAEGER_ENDPOINT" "http://localhost:14268/api/traces"
      serviceName := env.getOr "OTEL_SERVICE_NAME" "api-center" }
  allowedOrigins := originsOf (env.given "ALLOWED_ORIGINS")

def isProduction (c : ConfigService) : Bool := c.nodeEnv = "production"

def validProviders : List String := ["keycloak", "dev-jwt"]

/-- The base URL has the host name `localhost`; `hostname` is `new URL(url).hostname`, or `none`
when that throws. -/
def keycloakIsLocalhost (hostname : String → Option String) (c : ConfigService) : Bool :=
  hostname c.keycloak.baseUrl = some "localhost"

def errors (hostname : String → Option String) (c : ConfigService) : List String :=
  (if c.platformAdminSecret = "" ∧ c.isProduction then
    ["PLATFORM_ADMIN_SECRET must be set in production"] else []) ++
  (if c.authProvider ∈ validProviders then [] else
    ["AUTH_PROVIDER must be one of: " ++ ", ".intercalate validProviders ++
      s!" (got '{c.authProvider}')"]) ++
  (if c.authProvider = "keycloak" ∧ c.keycloakIsLocalhost hostname ∧ c.isProduction then
    ["KEYCLOAK_BASE_URL must be set to a production Keycloak URL"] else []) ++
  (if c.authProvider = "dev-jwt" ∧ c.isProduction then
    ["AUTH_PROVIDER=dev-jwt must NOT be used in production. Use AUTH_PROVIDER=keycloak"] else [])

/-- `url.includes('localhost')` -/
def mentionsLocalhost (url : String) : Bool :=
  url.toList.tails.any "localhost".toList.isPrefixOf

def warnings (hostname : String → Option String) (c : ConfigService) : List String :=
  (if c.authProvider = "keycloak" ∧ c.keycloakIsLocalhost hostname ∧ ¬ c.isProduction then
    ["KEYCLOAK_BASE_URL still points to localhost"] else []) ++
  (if c.authProvider = "keycloak" ∧ c.keycloak.issuer = "" ∧ c.isProduction then
    ["KEYCLOAK_ISSUER is not set — token issuer validation is disabled"] else []) ++
  (if c.isProduction ∧ "localhost:9092" ∈ c.kafka.brokers then
    ["KAFKA_BROKERS still points to localhost in production"] else []) ++
  (if c.isProduction ∧ mentionsLocalhost c.redis.rateLimitUrl then
    ["REDIS_RATE_LIMIT_URL still points to localhost in production"] else []) ++
  (if c.isProduction ∧ mentionsLocalhost c.redis.cacheUrl then
    ["REDIS_CACHE_URL still points to localhost in production"] else [])

/-- The startup validation, with what it prints. -/
def onModuleInit (hostname : String → Option String) (c : ConfigService) :
    List String × Except Thrown Unit :=
  let printed := (c.warnings hostname).map fun w => s!"[ConfigService] WARNING: {w}"
  match c.errors hostname with
  | [] => (printed, .ok ())
  | errors =>
    let msg := "[ConfigService] Fatal configuration errors:\n" ++
      "\n".intercalate (errors.map fun e => s!"  - {e}")
    (printed ++ [msg], .error (.error msg))

end ConfigService

/-- What becomes of the call to AWS Secrets Manager: an error of the call or of the parsing, no
`SecretString`, or the properties of the parsed one, as the texts `process.env` makes of them. -/
inductive SecretAnswer where
  | unavailable (message : String)
  | empty
  | secrets (secrets : Table String String)

namespace SecretsService

/-- One turn of the loop, with the number of variables set so far. A name of `Object.prototype`
is there in every environment. -/
def loadSecret (s : ProcessEnv × Nat) (field : Sigma fun _ : String => String) :
    ProcessEnv × Nat :=
  if (s.1.given field.1).isNone ∧ field.1 ∉ objectPrototype then
    (s.1.insert field.1 field.2, s.2 + 1)
  else s

def loadSecrets (env : ProcessEnv) (secrets : Table String String) : ProcessEnv × Nat :=
  secrets.entries.foldl loadSecret (env, 0)

/-- The environment the hook leaves behind, and what it logs. -/
def onModuleInit (getSecretValue : String → String → SecretAnswer) (env : ProcessEnv) :
    ProcessEnv × List String :=
  match env.given "AWS_SECRET_NAME" with
  | none =>
    (env, ["AWS_SECRET_NAME not set — using process.env for secrets (local dev mode)"])
  | some secretName =>
    let loading := s!"Loading secrets from AWS Secrets Manager: {secretName}"
    match getSecretValue secretName (env.getOr "AWS_REGION" "us-east-1") with
    | .unavailable message =>
      (env, [loading,
        s!"AWS Secrets Manager unavailable — falling back to process.env: {message}"])
    | .empty =>
      (env, [loading,
        s!"AWS secret '{secretName}' returned empty — falling back to process.env"])
    | .secrets secrets =>
      let (loaded, count) := loadSecrets env secrets
      (loaded, [loading, s!"Loaded {count} secret(s) from AWS Secrets Manager " ++
        s!"({secrets.keys.length} total, {secrets.keys.length - count} skipped as already set)"])

end SecretsService

/-- The configuration module as it starts. -/
structure ConfigModule where
  env : ProcessEnv
  config : ConfigService
  logged : List String := []
  failed : Option Thrown := none

/-- The `onModuleInit` hooks of the module. -/
inductive InitHook where
  | secretsService
  | configService
  deriving DecidableEq, Repr

namespace ConfigModule

/-- The providers are constructed before any hook runs. -/
def construct (env : ProcessEnv) : ConfigModule := { env := env, config := .ofEnv env }

def runHook (getSecretValue : String → String → SecretAnswer)
    (hostname : String → Option String) (m : ConfigModule) : InitHook → ConfigModule
  | .secretsService =>
    let (env, logged) := SecretsService.onModuleInit getSecretValue m.env
    { m with env := env, logged := m.logged ++ logged }
  | .configService =>
    let (printed, started) := m.config.onModuleInit hostname
    { m with
      logged := m.logged ++ printed
      failed := match started with
        | .ok () => m.failed
        | .error e => m.failed.or (some e) }

end ConfigModule

end ApiCenter
