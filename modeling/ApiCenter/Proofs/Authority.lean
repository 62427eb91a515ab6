import ApiCenter.Model.Keycloak

namespace ApiCenter

namespace Json

def text? : Json → Option String
  | .string s => some s
  | _ => none

/-- The texts of an array. -/
def texts : Json → List String
  | .array items => items.filterMap text?
  | _ => []

end Json

namespace KeycloakProvider

variable {payload : JsonObject} {claims : RawClaims} {items : List Json} {s : String}

theorem includes_iff : RawClaims.includes items s = true ↔ Json.string s ∈ items := by
  unfold RawClaims.includes
  rw [List.any_eq_true]
  constructor
  · intro h
    obtain ⟨item, hmem, htext⟩ := h
    cases item with
    | string t =>
      simp only [decide_eq_true_eq] at htext
      rwa [htext] at hmem
    | null | bool | number | array | object => cases htext
  · intro h
    exact ⟨.string s, h, by simp⟩

theorem admin_merged {merged : List Json} (hm : claims.mergeCallerScopes = .ok merged)
    (h : Json.string "platform:admin" ∈ merged) (platformAdminSecret : Optional String)
    {validateToken : String → Except Thrown RawClaims} (xPlatformSecret : Option String)
    {authorization : Option String} {token : String} (hb : bearerToken authorization = some token)
    (hne : token ≠ "") (hv : validateToken token = .ok claims) :
    ∃ attached, ScopedAdminGuard.canActivate platformAdminSecret validateToken xPlatformSecret
      authorization = .ok attached := by
  have htoken : (bearerToken authorization).filter (· ≠ "") = some token := by
    rw [hb, Option.filter_some]
    simp [hne]
  unfold ScopedAdminGuard.canActivate
  split
  · exact ⟨none, rfl⟩
  · simp only [htoken, hv, hm, includes_iff.mpr h, if_true]
    exact ⟨some claims, rfl⟩

end KeycloakProvider

end ApiCenter
