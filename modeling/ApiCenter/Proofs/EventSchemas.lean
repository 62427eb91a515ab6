import ApiCenter.Library.Runs
import ApiCenter.Model.Schemas
import ApiCenter.Proofs.Messages

namespace ApiCenter

/-- `publish` does not reject the message for its payload. -/
def KafkaMessage.Accepted (m : KafkaMessage) : Prop :=
  ∀ detail, validatePublish m.topic m.payload detail = .ok ()

namespace Proofs.EventSchemas
open Library ApiCenter.Library.Runs Calls Messages

/-- The calls whose bodies the validation pipe lets through. -/
inductive Validated (v : Validators) : ClientCall → Prop
  | register (dto : ServiceManifestDto v) : Validated v (.register dto.toManifest)
  | deregister (id : String) : Validated v (.deregister id)
  | deprecateService (id : String) (dto : DeprecateServiceDto v) :
      Validated v (.deprecateService id dto.sunsetDate dto.replacementService)
  | retire (id : String) : Validated v (.retire id)
  | activate (id : String) : Validated v (.activate id)

/-- Nothing the registry and its monitor have published so far was rejected. -/
def NoneDropped (r : RegistryService) : Prop := ∀ m ∈ r.published, m.Accepted

/-- No `deprecate` leaves a `null` it found in the entry without a text of its own. -/
def ReplacesNulls : RegistryService → RegistryOperation → Prop :=
  RegistryService.Meets
    (fun r c _ => ∀ id sunset replacement, c = .deprecateService id sunset replacement →
      ∀ found, r.find id = some found → Assignable found → found.status ≠ .value .retired →
        (found.sunsetDate = .null → sunset.text?.isSome) ∧
          (found.replacementService = .null → replacement.text?.isSome))
    fun _ _ => True

variable {r : RegistryService} {now : String} {write : Write}

theorem accepted_iff {m : KafkaMessage} {schema : ZodObject}
    (h : topicSchemas.lookup m.topic = some schema) :
    m.Accepted ↔ schema.safeParse m.payload = true := by
  simp only [KafkaMessage.Accepted, validatePublish, h]
  by_cases hp : schema.safeParse m.payload = true
  · simp [hp]
  · simp [hp]

theorem registered_accepted (serviceId name baseUrl : String) (exposes : List String)
    (serviceType : ServiceType) (isUpdate : Bool) (timestamp : String) :
    (KafkaMessage.serviceRegistered serviceId name baseUrl exposes (.value serviceType) isUpdate
      timestamp).Accepted := by
  have hexposes : (exposes.map Json.string).all Json.isString = true := by simp [Json.isString]
  refine (accepted_iff rfl).mpr ?_
  cases serviceType with
  | shared =>
    change ((exposes.map Json.string).all Json.isString && true) = true
    rw [hexposes]
    rfl
  | tribe =>
    change ((exposes.map Json.string).all Json.isString && true) = true
    rw [hexposes]
    rfl

theorem deregistered_accepted (serviceId timestamp : String) :
    (KafkaMessage.serviceDeregistered serviceId timestamp).Accepted :=
  (accepted_iff rfl).mpr rfl

theorem retired_accepted (serviceId timestamp : String) :
    (KafkaMessage.serviceRetired serviceId (.value timestamp)).Accepted :=
  (accepted_iff rfl).mpr rfl

theorem versionChanged_accepted (serviceId previousVersion newVersion timestamp : String) :
    (KafkaMessage.serviceVersionChanged serviceId previousVersion (.value newVersion)
      timestamp).Accepted :=
  (accepted_iff rfl).mpr rfl

theorem healthChanged_accepted (serviceId : String) (healthy previousHealthy : Bool)
    (reason timestamp : String) :
    (KafkaMessage.serviceHealthChanged serviceId healthy previousHealthy reason
      timestamp).Accepted :=
  (accepted_iff rfl).mpr rfl

/-- The notice of a deprecation may be missing, but not `null`. -/
theorem deprecated_accepted_iff (serviceId : String)
    (sunsetDate replacementService : Optional String) (timestamp : String) :
    (KafkaMessage.serviceDeprecated serviceId sunsetDate replacementService
        (.value timestamp)).Accepted ↔
      sunsetDate ≠ .null ∧ replacementService ≠ .null := by
  refine (accepted_iff rfl).trans ?_
  cases sunsetDate with
  | null => exact iff_of_false (by exact Bool.false_ne_true) (fun h => h.1 rfl)
  | undefined | value s =>
    cases replacementService with
    | null => exact iff_of_false (by exact Bool.false_ne_true) (fun h => h.2 rfl)
    | undefined | value s' => exact iff_of_true rfl (by simp)

/-- A version is only compared when the manifest has one. -/
theorem versionGovernance_some {existing : Option Found} {m : ServiceManifest} {v : String}
    (h : versionGovernance existing m = .ok (some v)) : ∃ s, m.version = .value s := by
  unfold versionGovernance at h
  cases hm : m.version.text? with
  | some next => exact ⟨next, (Optional.text?_eq_some.mp hm).1⟩
  | none =>
    rw [hm] at h
    cases hc : existing.bind (·.version.text?) <;> rw [hc] at h <;> cases h

theorem registration_accepted {m : ServiceManifest}
    (ha : registerChecks (r.find m.serviceId) m = .ok previousVersion) (now : String) :
    ∀ msg ∈ PendingRegister.events ⟨m, buildEntry (r.find m.serviceId) m previousVersion now,
      (r.find m.serviceId).isSome, previousVersion⟩, msg.Accepted := by
  intro msg hmem
  rcases List.mem_cons.mp hmem with rfl | hmem
  · exact registered_accepted _ _ _ _ _ _ _
  · cases hp : previousVersion with
    | none =>
      rw [hp] at hmem
      cases hmem
    | some v =>
      rw [hp] at ha hmem
      obtain ⟨s, hs⟩ := versionGovernance_some (registerChecks_ok ha).1
      simp only [hs] at hmem
      split at hmem
      · cases hmem
      · obtain rfl := List.mem_singleton.mp hmem
        exact versionChanged_accepted _ _ _ _

/-- A text of the call takes the place of what the entry had. -/
theorem assigned_ne_null (o : Optional String) (old : Optional String) :
    (o.text?.map Optional.value).getD old ≠ .null ↔ (old = .null → o.text?.isSome) := by
  cases o.text? with
  | none => simp
  | some s => simp

theorem notice_assign {found assigned : Found} {changes : Changes}
    (ha : found.assign changes = .ok assigned) :
    assigned.sunsetDate = changes.sunsetDate.getD found.sunsetDate ∧
      assigned.replacementService = changes.replacementService.getD found.replacementService := by
  cases found with
  | entry e =>
    cases ha
    exact ⟨rfl, rfl⟩
  | member m =>
    obtain ⟨rfl, -⟩ := RegistryService.assign_member_ok ha
    constructor
    · cases h : changes.sunsetDate <;>
        simp [Found.sunsetDate, InheritedMember.seen_applyToMember, Changes.inFrontOf, h]
    · cases h : changes.replacementService <;>
        simp [Found.replacementService, InheritedMember.seen_applyToMember, Changes.inFrontOf, h]

theorem noneDropped_iff (h : NoneDropped r) (hp : r'.published = r.published ++ ms) :
    NoneDropped r' ↔ ∀ m ∈ ms, m.Accepted := by
  unfold NoneDropped at h ⊢
  rw [hp, List.forall_mem_append]
  exact and_iff_right h

theorem deprecate_result {id : String} (hf : r.find id = some found) (ha : Assignable found)
    (hs : found.status ≠ .value .retired) (sunset replacement : Optional String) (now : String) :
    (r.deprecateService id sunset replacement now).discard.result = .ok () := by
  obtain ⟨assigned, hassigned⟩ := ha (RegistryService.deprecateChanges sunset replacement now)
  simp [RegistryService.deprecateService, RegistryService.amend, hf, hs, hassigned,
    Outcome.discard, bind, Except.bind, Except.map]

theorem call_dropped_iff (h : NoneDropped r) (c : ClientCall) (now : String) (write : Write) :
    NoneDropped (r.call c.call now write).registry ↔
      ∀ id sunset replacement, c = .deprecateService id sunset replacement →
        ∀ found, r.find id = some found → Assignable found → found.status ≠ .value .retired →
          (found.sunsetDate = .null → sunset.text?.isSome) ∧
            (found.replacementService = .null → replacement.text?.isSome) := by
  obtain ⟨ms, hp, hs⟩ := call_sends r c now write
  rw [noneDropped_iff h hp]
  cases hs with
  | refused hr =>
    refine iff_of_true (by simp) fun id sunset replacement heq found hf hassign hst => ?_
    subst heq
    cases hr.symm.trans (deprecate_result hf hassign hst sunset replacement now)
  | registered hr ha =>
    refine iff_of_true (registration_accepted ha now) fun id sunset replacement heq => ?_
    cases heq
  | deregistered hr =>
    refine iff_of_true ?_ fun id sunset replacement heq => by cases heq
    exact List.forall_mem_singleton.mpr (deregistered_accepted _ _)
  | retired hr =>
    refine iff_of_true ?_ fun id sunset replacement heq => by cases heq
    exact List.forall_mem_singleton.mpr (retired_accepted _ _)
  | activated hr =>
    refine iff_of_true (by simp) fun id sunset replacement heq => by cases heq
  | @deprecated found sunset replacement found' id hr hf hst hd =>
    have hupdated : found'.updatedAt = .value now := updatedAt_assign hd rfl
    obtain ⟨hsunset, hreplacement⟩ := notice_assign hd
    rw [List.forall_mem_singleton, hupdated, deprecated_accepted_iff, hsunset, hreplacement,
      RegistryService.deprecateChanges, assigned_ne_null, assigned_ne_null]
    constructor
    · intro hk id' sunset' replacement' heq found'' hf' hassign' hst'
      cases heq
      cases hf.symm.trans hf'
      exact hk
    · exact fun hk => hk id sunset replacement rfl found hf (assignable_of_ok hd) hst

theorem endHealthCheck_noneDropped (h : NoneDropped r) (id : String) (response : HealthResponse)
    (now : String) : NoneDropped (r.endHealthCheck id response now).registry := by
  cases hf : r.find id with
  | none => rwa [endHealthCheck_unknown hf]
  | some found =>
    have hchecked := endHealthCheck_checked hf response now
    generalize (r.endHealthCheck id response now).registry = r' at hchecked ⊢
    cases hchecked with
    | refused => exact h
    | touched hh ha =>
      unfold NoneDropped
      rwa [RegistryService.store_published]
    | flipped hh ha =>
      intro m hm
      rw [RegistryService.publish_published, RegistryService.store_published] at hm
      rcases List.mem_append.mp hm with hold | hnew
      · exact h m hold
      · obtain rfl := List.mem_singleton.mp hnew
        exact healthChanged_accepted _ _ _ _ _

theorem operate_dropped_iff (h : NoneDropped r) (op : RegistryOperation) :
    NoneDropped (r.operate op) ↔ ReplacesNulls r op :=
  RegistryService.operate_iff h (fun c now write _ => call_dropped_iff h c now write)
    (fun _ id response now h => endHealthCheck_noneDropped h id response now)
    fun _ => iff_of_true h trivial

/-- No event of a run is dropped by its schema exactly when no deprecation is announced with a
`null` left over from the manifest. -/
theorem none_dropped_iff (redis : Bool) (as : List RegistryOperation) :
    Always RegistryService.operate (fun r op => NoneDropped (r.operate op)) { redis := redis } as ↔
      Always RegistryService.operate ReplacesNulls { redis := redis } as := by
  have hstart : NoneDropped { redis := redis } := nofun
  exact always_iff_of_kept (I := NoneDropped) (fun _ op h => operate_dropped_iff h op)
    (fun _ _ _ hp => hp) hstart as

def anyUrl : Validators := ⟨fun _ => true, fun _ => true⟩

/-- A manifest that spells out that it has no sunset date. -/
def ordersDto : ServiceManifestDto anyUrl where
  serviceId := "orders"
  name := "orders"
  baseUrl := "http://orders:1"
  requiredScopes := ["orders:read"]
  exposes := ["/orders"]
  sunsetDate := .null
  accepted := by decide

def emptyDeprecation : DeprecateServiceDto anyUrl where
  accepted := by decide

def registerAndDeprecate : List RegistryOperation :=
  [.call (.register ordersDto.toManifest) "t0" .acknowledged,
    .call (.deprecateService "orders" emptyDeprecation.sunsetDate
      emptyDeprecation.replacementService) "t1" .acknowledged]

theorem null_sunset_dropped :
    ¬ ∀ (v : Validators) (redis : Bool) (as : List RegistryOperation),
      (∀ c now write, .call c now write ∈ as → Validated v c) →
      Always RegistryService.operate (fun r op => NoneDropped (r.operate op))
        { redis := redis } as := by
  intro h
  have hvalid : ∀ c now write, .call c now write ∈ registerAndDeprecate → Validated anyUrl c := by
    intro c now write hmem
    rcases List.mem_pair.mp hmem with heq | heq
    · cases heq
      exact .register ordersDto
    · cases heq
      exact .deprecateService "orders" emptyDeprecation
  obtain ⟨-, hlast, -⟩ := h anyUrl false registerAndDeprecate hvalid
  have hsent := hlast (.serviceDeprecated "orders" .null .undefined (.value "t1")) (by decide)
  exact ((deprecated_accepted_iff _ _ _ _).mp hsent).1 rfl

end Proofs.EventSchemas

end ApiCenter
