import ApiCenter.Library.Runs
import ApiCenter.Model.Config
import ApiCenter.Model.Keycloak

namespace ApiCenter.Proofs.ConfigBoot
open Library ApiCenter.Library.Runs ConfigModule

/-- The secret map a start gets from AWS; empty when it gets none. -/
def fetched (getSecretValue : String → String → SecretAnswer) (env : ProcessEnv) :
    Table String String :=
  match env.given "AWS_SECRET_NAME" with
  | none => ∅
  | some secretName =>
    match getSecretValue secretName (env.getOr "AWS_REGION" "us-east-1") with
    | .secrets secrets => secrets
    | _ => ∅

/-- The environment with the secrets under every key that it does not give itself. -/
def merged (env : ProcessEnv) (secrets : Table String String) : ProcessEnv :=
  Table.overlay (fun key value => if (env.given key).isSome then none else some value) env secrets

/-- The configuration is the one of the merged environment; and an admin secret that comes from
AWS alone opens the guard and passes the validation. -/
structure SecretsTakeEffect (hostname : String → Option String) (env : ProcessEnv)
    (secrets : Table String String) (config : ConfigService) : Prop where
  fields : config = .ofEnv (merged env secrets)
  admin : ∀ secret, env.given "PLATFORM_ADMIN_SECRET" = none →
    ProcessEnv.given secrets "PLATFORM_ADMIN_SECRET" = some secret →
    (∀ validateToken authorization,
      ScopedAdminGuard.canActivate (.value config.platformAdminSecret) validateToken
        (some secret) authorization = .ok none) ∧
    "PLATFORM_ADMIN_SECRET must be set in production" ∉ config.errors hostname

/-- The secret map has no text for `key`, or one that reads like the default, or the environment
gives `key` itself. -/
def Idle (env : ProcessEnv) (secrets : Table String String) (key : String)
    (likeDefault : String → Prop) : Prop :=
  ∀ s, ProcessEnv.given secrets key = some s → (env.given key).isSome ∨ likeDefault s

/-- The keys that fields hold as texts, and `KAFKA_BROKERS`, with their defaults. -/
def textDefaults : List (String × String) :=
  [("NODE_ENV", "development"), ("AUTH_PROVIDER", "dev-jwt"),
    ("KEYCLOAK_BASE_URL", "http://localhost:8080"), ("KEYCLOAK_REALM", "api-center"),
    ("KEYCLOAK_TOKEN_ENDPOINT", ""), ("KEYCLOAK_ISSUER", ""), ("KEYCLOAK_AUDIENCE", ""),
    ("KEYCLOAK_REFRESH_CLIENT_ID", "api-center"), ("KEYCLOAK_DEFAULT_CLIENT_SECRET", ""),
    ("DEV_JWT_ISSUER", "api-center-dev"), ("KAFKA_CLIENT_ID", "api-center"),
    ("KAFKA_BROKERS", "localhost:9092"), ("KAFKA_GROUP_ID", "api-center-group"),
    ("PLATFORM_ADMIN_SECRET", ""), ("REDIS_RATE_LIMIT_URL", "redis://localhost:6380"),
    ("REDIS_CACHE_URL", "redis://localhost:6381"), ("SUPABASE_URL", ""),
    ("SUPABASE_SERVICE_ROLE_KEY", ""), ("GEOLOCATION_API_URL", "https://api.ipgeolocation.io"),
    ("GEOLOCATION_API_KEY", ""), ("GEOFENCING_API_URL", "https://api.geofencing.example.com"),
    ("GEOFENCING_API_KEY", ""), ("JAEGER_ENDPOINT", "http://localhost:14268/api/traces"),
    ("OTEL_SERVICE_NAME", "api-center")]

/-- The keys that are parsed as numbers, with their defaults. -/
def numberDefaults : List (String × String) :=
  [("PORT", "3000"), ("DEV_JWT_TTL_SECONDS", "3600"), ("DEV_JWT_REFRESH_TTL_MULTIPLIER", "24"),
    ("RATE_LIMIT_WINDOW_MS", "60000"), ("RATE_LIMIT_MAX", "100")]

/-- No key a field reads has a new value in the secret map. -/
structure SecretsIdle (env : ProcessEnv) (secrets : Table String String) : Prop where
  texts : ∀ d ∈ textDefaults, Idle env secrets d.1 (· = d.2)
  numbers : ∀ d ∈ numberDefaults,
    Idle env secrets d.1 fun s => parseDecimal s = parseDecimal d.2
  origins : Idle env secrets "ALLOWED_ORIGINS" fun _ => False
  jwksUri : Idle env secrets "KEYCLOAK_JWKS_URI" (· = defaultJwksUri env)

variable {env : ProcessEnv} {secrets : Table String String} {key : String}

/-- An explicit text wins; otherwise the secret map is asked. -/
theorem given_merged (env : ProcessEnv) (secrets : Table String String) (key : String) :
    (merged env secrets).given key = (env.given key).or (ProcessEnv.given secrets key) := by
  have hlookup := Table.lookup_overlay
    (fun key value => if (env.given key).isSome then none else some value) env secrets key
  cases he : env.given key with
  | some s =>
    obtain ⟨hs, hne⟩ := ProcessEnv.given_eq_some.mp he
    rw [Option.some_or, ProcessEnv.given_eq_some]
    refine ⟨?_, hne⟩
    rw [merged, hlookup, he, hs]
    cases secrets.lookup key <;> rfl
  | none =>
    rw [he] at hlookup
    unfold ProcessEnv.given at he ⊢
    rw [merged, hlookup, Option.none_or]
    cases secrets.lookup key with
    | none => exact he
    | some s => rfl

/-- What `loadSecret` sets where `stored` is what it finds. -/
def loads (stored : Option String) (key value : String) : Option String :=
  if (stored.filter (· ≠ "")).isNone ∧ key ∉ objectPrototype then some value else none

theorem loadSecret_env (s : ProcessEnv × Nat) (field : Sigma fun _ : String => String) :
    Table.overlayOne (fun k => loads (s.1.lookup k) k) s.1 field =
      (SecretsService.loadSecret s field).1 := by
  unfold SecretsService.loadSecret Table.overlayOne loads ProcessEnv.given
  split <;> split <;> simp_all

/-- The loop writes the secrets over the environment it started from. -/
theorem loadSecrets_lookup (env : ProcessEnv) (secrets : Table String String) (key : String) :
    (SecretsService.loadSecrets env secrets).1.lookup key =
      ((secrets.lookup key).bind (loads (env.lookup key) key)).or (env.lookup key) := by
  have hloop : (SecretsService.loadSecrets env secrets).1 =
      secrets.entries.foldl (Table.overlayOne fun k => loads (env.lookup k) k) env := by
    rw [← Table.foldl_overlayOne_stored loads env secrets.nodupKeys env fun _ _ => rfl]
    exact (List.foldl_hom Prod.fst loadSecret_env).symm
  rw [hloop]
  exact Table.lookup_overlay _ _ _ _

theorem loads_eq (env : ProcessEnv) (hkey : key ∉ objectPrototype) :
    loads (env.lookup key) key =
      fun value => if (env.given key).isSome then none else some value := by
  funext value
  change (if (env.given key).isNone ∧ key ∉ objectPrototype then some value else none) = _
  cases env.given key <;> simp [hkey]

/-- The hook does merge the secrets into `process.env`, for those who read it afterwards. -/
theorem onModuleInit_merges (getSecretValue : String → String → SecretAnswer)
    (env : ProcessEnv) (hkey : key ∉ objectPrototype) :
    (SecretsService.onModuleInit getSecretValue env).1.lookup key =
      (merged env (fetched getSecretValue env)).lookup key := by
  unfold SecretsService.onModuleInit fetched merged
  rw [Table.lookup_overlay]
  cases env.given "AWS_SECRET_NAME" with
  | none => simp
  | some secretName =>
    simp only
    cases getSecretValue secretName (env.getOr "AWS_REGION" "us-east-1") with
    | unavailable message => simp
    | empty => simp
    | secrets secrets =>
      refine (loadSecrets_lookup env secrets key).trans ?_
      rw [loads_eq env hkey]

/-- A reading of one variable is the same in the merged environment, exactly when the secrets are
idle there. -/
theorem reading_iff {β : Type} (read : Option String → β) :
    read (env.given key) = read ((merged env secrets).given key) ↔
      Idle env secrets key fun s => read (some s) = read none := by
  unfold Idle
  rw [given_merged]
  cases env.given key with
  | some s => simp
  | none =>
    cases ProcessEnv.given secrets key with
    | none => simp
    | some s => simp [eq_comm]

theorem text_iff (d : String) :
    env.getOr key d = (merged env secrets).getOr key d ↔ Idle env secrets key (· = d) :=
  reading_iff (·.getD d)

theorem number_iff (d : String) :
    parseDecimal (env.getOr key d) = parseDecimal ((merged env secrets).getOr key d) ↔
      Idle env secrets key fun s => parseDecimal s = parseDecimal d :=
  reading_iff fun o => parseDecimal (o.getD d)

theorem origins_iff :
    originsOf (env.given key) = originsOf ((merged env secrets).given key) ↔
      Idle env secrets key fun _ => False := by
  rw [reading_iff originsOf]
  simp [originsOf]

theorem brokers_iff (d : String) :
    splitCommas (env.getOr key d) = splitCommas ((merged env secrets).getOr key d) ↔
      Idle env secrets key (· = d) := by
  rw [splitCommas_inj]
  exact text_iff d

/-- The default of `jwksUri` is made of the base URL and the realm. -/
theorem jwksUri_iff (hbase : Idle env secrets "KEYCLOAK_BASE_URL" (· = "http://localhost:8080"))
    (hrealm : Idle env secrets "KEYCLOAK_REALM" (· = "api-center")) :
    env.getOr key (defaultJwksUri env) =
        (merged env secrets).getOr key (defaultJwksUri (merged env secrets)) ↔
      Idle env secrets key (· = defaultJwksUri env) := by
  have hdefault : defaultJwksUri (merged env secrets) = defaultJwksUri env := by
    unfold defaultJwksUri
    rw [(text_iff _).mpr hbase, (text_iff _).mpr hrealm]
  rw [hdefault]
  exact text_iff _

/-- The fields computed at the start are those of the merged environment, exactly when no key they
read has a new value. -/
theorem ofEnv_merged_iff :
    ConfigService.ofEnv env = .ofEnv (merged env secrets) ↔ SecretsIdle env secrets := by
  simp only [ConfigService.ofEnv, ConfigService.mk.injEq, CorsConfig.mk.injEq,
    KeycloakConfig.mk.injEq, DevJwtConfig.mk.injEq, KafkaConfig.mk.injEq, RedisConfig.mk.injEq,
    SupabaseConfig.mk.injEq, RateLimitConfig.mk.injEq, ExternalConfig.mk.injEq,
    ExternalEndpoint.mk.injEq, TracingConfig.mk.injEq, text_iff, number_iff, origins_iff,
    brokers_iff]
  constructor
  · intro h
    obtain ⟨-, -, ⟨horigins, -⟩, -, ⟨hbase, hrealm, hjwks, -⟩, -⟩ := id h
    refine ⟨?_, ?_, horigins, (jwksUri_iff hbase hrealm).mp hjwks⟩
    · simp only [textDefaults, List.forall_mem_cons, h, true_and]
      exact List.forall_mem_nil _
    · simp only [numberDefaults, List.forall_mem_cons, h, true_and]
      exact List.forall_mem_nil _
  · intro h
    have htexts := h.texts
    have hnumbers := h.numbers
    simp only [textDefaults, List.forall_mem_cons] at htexts
    simp only [numberDefaults, List.forall_mem_cons] at hnumbers
    obtain ⟨-, -, hbase, hrealm, -⟩ := id htexts
    have hjwks := (jwksUri_iff hbase hrealm).mpr h.jwksUri
    simp only [htexts, hnumbers, h.origins, hjwks, and_self]

/-- No hook assigns to a field. -/
theorem runHook_config (getSecretValue : String → String → SecretAnswer)
    (hostname : String → Option String) (m : ConfigModule) (hook : InitHook) :
    (runHook getSecretValue hostname m hook).config = m.config := by
  cases hook <;> rfl

/-- A secret that is there is not reported as missing; the other messages are about other keys. -/
theorem admin_not_missing (hostname : String → Option String) {c : ConfigService}
    (h : c.platformAdminSecret ≠ "") :
    "PLATFORM_ADMIN_SECRET must be set in production" ∉ c.errors hostname := by
  intro hmem
  unfold ConfigService.errors at hmem
  simp only [h, false_and, if_false, List.nil_append, List.mem_append] at hmem
  rcases hmem with (hmem | hmem) | hmem
  · split at hmem
    · cases hmem
    · have hletter := congrArg (fun s : String => s.toList.head?) (List.mem_singleton.mp hmem)
      simp only [String.toList_append] at hletter
      have hsame : some 'P' = some 'A' := hletter
      exact absurd hsame (by decide)
  · split at hmem
    · exact absurd (List.mem_singleton.mp hmem) (by decide)
    · cases hmem
  · split at hmem
    · exact absurd (List.mem_singleton.mp hmem) (by decide)
    · cases hmem

/-- The guard lets in whoever sends the secret it is configured with. -/
theorem guard_opens {secret : String} (h : secret ≠ "")
    (validateToken : String → Except Thrown RawClaims) (authorization : Option String) :
    ScopedAdminGuard.canActivate (.value secret) validateToken (some secret) authorization =
      .ok none := by
  unfold ScopedAdminGuard.canActivate
  refine if_pos ⟨by simp [h], ?_⟩
  exact Optional.text?_eq_some.mpr ⟨rfl, h⟩

theorem takes_effect_of_fields {config : ConfigService} (hostname : String → Option String)
    (h : config = .ofEnv (merged env secrets)) :
    SecretsTakeEffect hostname env secrets config := by
  refine ⟨h, ?_⟩
  intro secret hnone hsecret
  have hne : secret ≠ "" := (ProcessEnv.given_eq_some.mp hsecret).2
  have hadmin : config.platformAdminSecret = secret := by
    rw [h]
    change (merged env secrets).getOr "PLATFORM_ADMIN_SECRET" "" = secret
    rw [ProcessEnv.getOr, given_merged, hnone, hsecret]
    rfl
  rw [hadmin]
  exact ⟨guard_opens hne, admin_not_missing hostname (hadmin ▸ hne)⟩

/-- In whatever order the hooks run, the secrets that were fetched take effect on the configuration
exactly when they have nothing new to say. -/
theorem secrets_take_effect_iff (getSecretValue : String → String → SecretAnswer)
    (hostname : String → Option String) (env : ProcessEnv) (hooks : List InitHook) :
    SecretsTakeEffect hostname env (fetched getSecretValue env)
        (final (runHook getSecretValue hostname) (construct env) hooks).config ↔
      SecretsIdle env (fetched getSecretValue env) := by
  have hconfig : (final (runHook getSecretValue hostname) (construct env) hooks).config =
      .ofEnv env :=
    final_eq_of_step (f := ConfigModule.config) (runHook_config getSecretValue hostname)
      (construct env) hooks
  rw [hconfig, ← ofEnv_merged_iff]
  constructor
  · intro h
    exact h.fields
  · intro h
    exact takes_effect_of_fields hostname h

/-- A gateway in production that leaves its admin secret to AWS. -/
def production : ProcessEnv :=
  ((((∅ : ProcessEnv).insert "NODE_ENV" "production").insert "AUTH_PROVIDER" "keycloak").insert
    "KEYCLOAK_BASE_URL" "https://auth.example.com").insert "AWS_SECRET_NAME" "api-center"

def adminSecret (_secretName _region : String) : SecretAnswer :=
  .secrets ((∅ : Table String String).insert "PLATFORM_ADMIN_SECRET" "s3cret")

/-- The secret is fetched, and the validation reports it as missing. -/
theorem fetched_admin_secret_has_no_effect :
    ¬ ∀ (getSecretValue : String → String → SecretAnswer) (hostname : String → Option String)
      (env : ProcessEnv) (hooks : List InitHook),
      SecretsTakeEffect hostname env (fetched getSecretValue env)
        (final (runHook getSecretValue hostname) (construct env) hooks).config := by
  intro h
  have hadmin := (h adminSecret (fun _ => some "auth.example.com") production
    [.secretsService, .configService]).admin "s3cret" (by decide) (by decide)
  exact hadmin.2 (by decide)

example : (final (runHook adminSecret fun _ => some "auth.example.com") (construct production)
    [.secretsService, .configService]).failed.isSome = true := by decide

end ApiCenter.Proofs.ConfigBoot
