import ApiCenter.Model.ServiceSecrets

namespace ApiCenter.Proofs.SecretKeys
open RegistryService KeycloakProvider

/-- What both variable names make of a character of a service id. -/
def keyChar (c : Char) : Char := if c = '-' then '_' else c.toUpper

/-- The character of a service id a character of a variable name comes from. -/
def readChar (c : Char) : Char := if c = '_' then '-' else c.toLower

def idChar (c : Char) : Bool := c.isLower || c.isDigit || c == '-'

/-- The two environments hold the same, the variables of `id` apart. -/
def SameExcept (unicode : Char → List Char) (id : String) (env env' : ProcessEnv) : Prop :=
  ∀ key, key ≠ secretEnvKey unicode id → key ≠ clientSecretEnvKey unicode id →
    env.lookup key = env'.lookup key

/-- The variables of two services are others, and what those of one hold makes no difference to
whether the other is authenticated and to what is issued to it. -/
structure SecretsApart (unicode : Char → List Char) (id other : String) : Prop where
  secret_keys : secretEnvKey unicode id ≠ secretEnvKey unicode other
  client_keys : clientSecretEnvKey unicode id ≠ clientSecretEnvKey unicode other
  authenticates : ∀ env env', SameExcept unicode id env env' → ∀ sha256 secret,
    validateSecret unicode sha256 env other secret =
      validateSecret unicode sha256 env' other secret
  issues : ∀ env env', SameExcept unicode id env env' → ∀ config post permissions scopes,
    issueToken unicode config post env other permissions scopes =
      issueToken unicode config post env' other permissions scopes

variable {unicode : Char → List Char} {c : Char} {id other : String}

theorem idChar_ascii (h : idChar c = true) : c.toNat < 128 := by
  unfold idChar at h
  rw [Bool.or_eq_true, Bool.or_eq_true, beq_iff_eq] at h
  rcases h with (hlower | hdigit) | hhyphen
  · have hle : c.val ≤ 'z'.val := of_decide_eq_true ((Bool.and_eq_true _ _).mp hlower).2
    exact Nat.lt_of_le_of_lt hle (by decide)
  · have hle : c.val ≤ '9'.val := of_decide_eq_true ((Bool.and_eq_true _ _).mp hdigit).2
    exact Nat.lt_of_le_of_lt hle (by decide)
  · subst hhyphen
    decide

/-- The table of the ASCII characters a service id can have. -/
theorem ascii_table : ∀ n < 128, idChar (Char.ofNat n) = true →
    hyphensToUnderscores [(Char.ofNat n).toUpper] = [keyChar (Char.ofNat n)] ∧
    othersToUnderscores [(Char.ofNat n).toUpper] = [keyChar (Char.ofNat n)] ∧
    readChar (keyChar (Char.ofNat n)) = Char.ofNat n := by decide

theorem idChar_table (h : idChar c = true) :
    hyphensToUnderscores [c.toUpper] = [keyChar c] ∧
    othersToUnderscores [c.toUpper] = [keyChar c] ∧ readChar (keyChar c) = c := by
  have ht := ascii_table c.toNat (idChar_ascii h)
  rw [Char.ofNat_toNat] at ht
  exact ht h

theorem idChars (h : matchesServiceId id = true) : ∀ c ∈ id.toList, idChar c = true := by
  unfold matchesServiceId at h
  rw [Bool.and_eq_true, List.all_eq_true] at h
  exact h.2

/-- Upper-casing a service id never needs the Unicode table. -/
theorem toUpperCase_id (h : ∀ c ∈ id.toList, idChar c = true) :
    toUpperCase unicode id = id.toList.map Char.toUpper := by
  unfold toUpperCase
  rw [List.map_eq_flatMap]
  exact List.flatMap_congr fun c hc => if_pos (idChar_ascii (h c hc))

/-- A replacement that goes character by character and makes `keyChar` of each. -/
theorem replaced_eq {replace : List Char → List Char} (hnil : replace [] = [])
    (hcons : ∀ c cs, replace (c :: cs) = replace [c] ++ replace cs)
    (hchar : ∀ c, idChar c = true → replace [c.toUpper] = [keyChar c]) {cs : List Char}
    (h : ∀ c ∈ cs, idChar c = true) : replace (cs.map Char.toUpper) = cs.map keyChar := by
  induction cs with
  | nil => exact hnil
  | cons c cs ih =>
    obtain ⟨hc, hcs⟩ := List.forall_mem_cons.mp h
    rw [List.map_cons, hcons, hchar c hc, ih hcs, List.map_cons, List.singleton_append]

theorem secretEnvKey_id (h : ∀ c ∈ id.toList, idChar c = true) :
    secretEnvKey unicode id = "TRIBE_SECRET_" ++ String.ofList (id.toList.map keyChar) := by
  unfold secretEnvKey
  rw [toUpperCase_id h, replaced_eq rfl (fun _ _ => rfl) (fun c hc => (idChar_table hc).1) h]

theorem clientSecretEnvKey_id (h : ∀ c ∈ id.toList, idChar c = true) :
    clientSecretEnvKey unicode id =
      "KEYCLOAK_CLIENT_SECRET_" ++ String.ofList (id.toList.map keyChar) := by
  unfold clientSecretEnvKey
  have hcons : ∀ c cs, othersToUnderscores (c :: cs) =
      othersToUnderscores [c] ++ othersToUnderscores cs := by
    intro c cs
    simp [othersToUnderscores]
  rw [toUpperCase_id h, replaced_eq rfl hcons (fun c hc => (idChar_table hc).2.1) h]

/-- A service id is read back from the name made of it. -/
theorem read_keyChars {cs : List Char} (h : ∀ c ∈ cs, idChar c = true) :
    (cs.map keyChar).map readChar = cs := by
  induction cs with
  | nil => rfl
  | cons c cs ih =>
    obtain ⟨hc, hcs⟩ := List.forall_mem_cons.mp h
    rw [List.map_cons, List.map_cons, ih hcs, (idChar_table hc).2.2]

/-- Two service ids with the same name behind the same prefix are the same. -/
theorem named_inj (hid : ∀ c ∈ id.toList, idChar c = true)
    (hother : ∀ c ∈ other.toList, idChar c = true) {pre : String}
    (h : pre ++ String.ofList (id.toList.map keyChar) =
      pre ++ String.ofList (other.toList.map keyChar)) : id = other := by
  have hlist := congrArg String.toList h
  rw [String.toList_append, String.toList_append, String.toList_ofList,
    String.toList_ofList] at hlist
  have hread := congrArg (List.map readChar) (List.append_cancel_left hlist)
  rw [read_keyChars hid, read_keyChars hother] at hread
  exact String.toList_inj.mp hread

theorem secretEnvKey_inj (hid : matchesServiceId id = true) (hother : matchesServiceId other = true)
    (h : secretEnvKey unicode id = secretEnvKey unicode other) : id = other := by
  rw [secretEnvKey_id (idChars hid), secretEnvKey_id (idChars hother)] at h
  exact named_inj (idChars hid) (idChars hother) h

theorem clientSecretEnvKey_inj (hid : matchesServiceId id = true)
    (hother : matchesServiceId other = true)
    (h : clientSecretEnvKey unicode id = clientSecretEnvKey unicode other) : id = other := by
  rw [clientSecretEnvKey_id (idChars hid), clientSecretEnvKey_id (idChars hother)] at h
  exact named_inj (idChars hid) (idChars hother) h

/-- The two kinds of variables begin with another letter each. -/
theorem secretEnvKey_ne_client (id other : String) :
    secretEnvKey unicode id ≠ clientSecretEnvKey unicode other := by
  intro h
  have hhead := congrArg (fun s : String => s.toList.head?) h
  unfold secretEnvKey clientSecretEnvKey at hhead
  simp only [String.toList_append] at hhead
  have hletter : some 'T' = some 'K' := hhead
  exact absurd hletter (by decide)

/-- Only the variable of the service itself is read to authenticate it. -/
theorem validateSecret_congr {env env' : ProcessEnv}
    (h : env.lookup (secretEnvKey unicode id) = env'.lookup (secretEnvKey unicode id))
    (sha256 : String → String) (secret : String) :
    validateSecret unicode sha256 env id secret =
      validateSecret unicode sha256 env' id secret := by
  unfold validateSecret ProcessEnv.given
  rw [h]

theorem issueToken_congr {env env' : ProcessEnv}
    (h : env.lookup (clientSecretEnvKey unicode id) = env'.lookup (clientSecretEnvKey unicode id))
    (config : KeycloakConfig) (post : TokenRequest → Except Thrown ProviderToken)
    (permissions scopes : List String) :
    issueToken unicode config post env id permissions scopes =
      issueToken unicode config post env' id permissions scopes := by
  unfold issueToken clientSecret
  rw [h]

/-- Two services of the registry have no variable with a secret in common. -/
theorem secrets_apart (unicode : Char → List Char) (hid : matchesServiceId id = true)
    (hother : matchesServiceId other = true) (hne : id ≠ other) :
    SecretsApart unicode id other := by
  have hsecret : secretEnvKey unicode id ≠ secretEnvKey unicode other :=
    fun h => hne (secretEnvKey_inj hid hother h)
  have hclient : clientSecretEnvKey unicode id ≠ clientSecretEnvKey unicode other :=
    fun h => hne (clientSecretEnvKey_inj hid hother h)
  refine ⟨hsecret, hclient, ?_, ?_⟩
  · intro env env' hsame sha256 secret
    have hread := hsame _ hsecret.symm (secretEnvKey_ne_client other id)
    exact validateSecret_congr hread sha256 secret
  · intro env env' hsame config post permissions scopes
    have hread := hsame _ (secretEnvKey_ne_client id other).symm hclient.symm
    exact issueToken_congr hread config post permissions scopes

/-- Two ids with a hyphen between them. -/
theorem secrets_apart_orders : SecretsApart (fun c => [c]) "orders-v2" "ordersv2" :=
  secrets_apart _ (by decide) (by decide) (by decide)

example : secretEnvKey (fun c => [c]) "orders-v2" = "TRIBE_SECRET_ORDERS_V2" := by decide

end ApiCenter.Proofs.SecretKeys
