import ApiCenter.Model.Semver

namespace ApiCenter

/-- `/^[a-z0-9-]+$/` -/
def matchesServiceId (s : String) : Bool :=
  s != "" && s.toList.all fun c => c.isLower || c.isDigit || c == '-'

/-- `@IsOptional()`: the other checks of a property run unless it is `null` or
not there. -/
def Optional.passes (check : α → Bool) : Optional α → Bool
  | .value a => check a
  | _ => true

/-- A request body with the fields of `ServiceManifestDto`. -/
structure ManifestBody where
  serviceId : String
  name : String
  baseUrl : String
  requiredScopes : List String
  exposes : List String
  consumes : Optional (List String) := .value []
  healthCheck : Optional String := .undefined
  version : Optional String := .undefined
  description : Optional String := .undefined
  tags : Optional (List String) := .undefined
  ownerTeam : Optional String := .undefined
  contact : Optional String := .undefined
  serviceTier : Optional ServiceTier := .undefined
  costCenter : Optional String := .undefined
  sunsetDate : Optional String := .undefined
  replacementService : Optional String := .undefined
  serviceType : Optional ServiceType := .value .tribe
  deriving DecidableEq, Repr

/-- The decorators of the DTO. `isUrl` and `isDateString` stand for the two
validators of the `validator` package. -/
structure Validators where
  isUrl : String → Bool
  isDateString : String → Bool

def ManifestBody.valid (v : Validators) (b : ManifestBody) : Bool :=
  b.serviceId != "" && b.serviceId.length ≤ 64 && matchesServiceId b.serviceId &&
  b.name != "" && b.name.length ≤ 128 &&
  v.isUrl b.baseUrl &&
  1 ≤ b.requiredScopes.length && 1 ≤ b.exposes.length &&
  b.version.passes (fun s => (matchSemver s).isSome) &&
  b.description.passes (·.length ≤ 500) &&
  b.ownerTeam.passes (·.length ≤ 128) &&
  b.contact.passes (·.length ≤ 256) &&
  b.costCenter.passes (·.length ≤ 64) &&
  b.sunsetDate.passes v.isDateString &&
  b.replacementService.passes matchesServiceId

/-- A body the validation pipe lets through. -/
structure ServiceManifestDto (v : Validators) extends ManifestBody where
  accepted : toManifestBody.valid v = true

/-- A request body with the fields of `DeprecateServiceDto`. -/
structure DeprecateBody where
  sunsetDate : Optional String := .undefined
  replacementService : Optional String := .undefined
  deriving DecidableEq, Repr

def DeprecateBody.valid (v : Validators) (b : DeprecateBody) : Bool :=
  b.sunsetDate.passes v.isDateString && b.replacementService.passes matchesServiceId

structure DeprecateServiceDto (v : Validators) extends DeprecateBody where
  accepted : toDeprecateBody.valid v = true

theorem DeprecateServiceDto.replacementService_passes {v : Validators} (d : DeprecateServiceDto v) :
    d.replacementService.passes matchesServiceId = true := by
  have h := d.accepted
  simp only [DeprecateBody.valid, Bool.and_eq_true] at h
  exact h.2

/-- The manifest `RegistryController.register` builds of a body. -/
def ManifestBody.toManifest (b : ManifestBody) : ServiceManifest where
  serviceId := b.serviceId
  name := b.name
  baseUrl := b.baseUrl
  requiredScopes := b.requiredScopes
  exposes := b.exposes
  consumes := b.consumes.getD []
  serviceType := .value (b.serviceType.getD .tribe)
  healthCheck := b.healthCheck
  version := b.version
  description := b.description
  tags := b.tags
  ownerTeam := b.ownerTeam
  contact := b.contact
  serviceTier := b.serviceTier
  costCenter := b.costCenter
  sunsetDate := b.sunsetDate
  replacementService := b.replacementService

namespace ServiceManifestDto

variable {v : Validators}

theorem serviceId_matches (d : ServiceManifestDto v) : matchesServiceId d.serviceId = true := by
  have h := d.accepted
  simp only [ManifestBody.valid, Bool.and_eq_true] at h
  tauto

/-- Underscores are not accepted, so no request can name `__proto__`. -/
theorem serviceId_ne_proto (d : ServiceManifestDto v) : d.serviceId ≠ "__proto__" := by
  intro h
  have hm := d.serviceId_matches
  rw [h] at hm
  exact absurd hm (by decide)

theorem replacementService_passes (d : ServiceManifestDto v) :
    d.replacementService.passes matchesServiceId = true := by
  have h := d.accepted
  simp only [ManifestBody.valid, Bool.and_eq_true] at h
  tauto

/-- A version that is there starts with three numbers. -/
theorem version_semver (d : ServiceManifestDto v) {s : String} (h : d.version = .value s) :
    ∃ n, majorOf s = some n := by
  have ha := d.accepted
  simp only [ManifestBody.valid, Bool.and_eq_true] at ha
  have hs : d.version.passes (fun s => (matchSemver s).isSome) = true := by tauto
  rw [h] at hs
  obtain ⟨m, hm⟩ := Option.isSome_iff_exists.mp hs
  exact ⟨digitsValue m.1, by simp [majorOf, hm]⟩

end ServiceManifestDto

end ApiCenter
