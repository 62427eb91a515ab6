import ApiCenter.Model.RegistryRun
import ApiCenter.Proofs.Calls

namespace ApiCenter.Proofs.Messages
open Library Calls

/-- What a client's call that ends as `out` hands to Kafka. -/
inductive Sends (r : RegistryService) (now : String) (out : Outcome Unit) :
    ClientCall → List KafkaMessage → Prop
  | refused (hr : out.result = .error t) : Sends r now out c []
  | registered {m : ServiceManifest} (hr : out.result = .ok ())
      (ha : registerChecks (r.find m.serviceId) m = .ok previousVersion) :
      Sends r now out (.register m)
        (PendingRegister.events ⟨m, buildEntry (r.find m.serviceId) m previousVersion now,
          (r.find m.serviceId).isSome, previousVersion⟩)
  | deregistered {id : String} (hr : out.result = .ok ()) :
      Sends r now out (.deregister id) [.serviceDeregistered id now]
  | deprecated {id : String} (hr : out.result = .ok ()) (hf : r.find id = some found)
      (hs : found.status ≠ .value .retired)
      (hd : found.assign (RegistryService.deprecateChanges sunset replacement now) = .ok found') :
      Sends r now out (.deprecateService id sunset replacement)
        [.serviceDeprecated id found'.sunsetDate found'.replacementService found'.updatedAt]
  | retired {id : String} (hr : out.result = .ok ()) :
      Sends r now out (.retire id) [.serviceRetired id (.value now)]
  | activated {id : String} (hr : out.result = .ok ()) : Sends r now out (.activate id) []

/-- The registration of `m` is accepted and written. -/
def RegisterSucceeds (r : RegistryService) (m : ServiceManifest) (write : Write) : Prop :=
  (∃ previousVersion, registerChecks (r.find m.serviceId) m = .ok previousVersion) ∧
    (r.redis = false ∨ write = .acknowledged)

variable {r : RegistryService} {id now : String} {write : Write} {m : ServiceManifest}

theorem updatedAt_assign {found assigned : Found} {changes : Changes}
    (ha : found.assign changes = .ok assigned) (h : changes.updatedAt = some now) :
    assigned.updatedAt = .value now := by
  cases found with
  | entry e =>
    cases ha
    simp [Found.updatedAt, Changes.applyTo, h]
  | member m =>
    obtain ⟨rfl, -⟩ := RegistryService.assign_member_ok ha
    simp [Found.updatedAt, InheritedMember.seen_applyToMember, Changes.inFrontOf, assignedValue, h]

/-- Once it has found an entry to change, a lifecycle call sends the events for what it stores. -/
theorem amend_published {choose : Found → Except Thrown Changes} (sync : Bool)
    (events : Found → List KafkaMessage) (hf : r.find id = some found)
    (hc : (choose found >>= found.assign) = .ok assigned) :
    (r.amend id choose sync events).registry.published = r.published ++ events assigned ∧
      (r.amend id choose sync events).result = .ok assigned := by
  simp only [RegistryService.amend, hf, hc]
  cases sync <;> simp

theorem amend_refused {choose : Found → Except Thrown Changes} (sync : Bool)
    (events : Found → List KafkaMessage)
    (h : ∀ found, r.find id = some found → ∃ t, (choose found >>= found.assign) = .error t) :
    (r.amend id choose sync events).registry = r ∧
      ∃ t, (r.amend id choose sync events).result = .error t := by
  unfold RegistryService.amend
  cases hf : r.find id with
  | none =>
    simp only
    exact ⟨trivial, _, rfl⟩
  | some found =>
    obtain ⟨t, ht⟩ := h found hf
    simp only [ht]
    exact ⟨trivial, t, rfl⟩

theorem register_registry (now : String) (write : Write)
    (h : registerChecks (r.find m.serviceId) m = .ok previousVersion)
    (hw : r.redis = false ∨ write = .acknowledged) :
    (r.register m now write).registry =
      (r.putAndSync m.serviceId (buildEntry (r.find m.serviceId) m previousVersion now)).publish
        (PendingRegister.events ⟨m, buildEntry (r.find m.serviceId) m previousVersion now,
          (r.find m.serviceId).isSome, previousVersion⟩) := by
  rw [register_admitted _ _ h]
  rcases hw with hw | hw
  · simp [PendingRegister.resume, hw]
  · cases hr : r.redis <;> simp [PendingRegister.resume, hr, hw]

theorem register_sends (r : RegistryService) (m : ServiceManifest) (now : String)
    (write : Write) : ∃ ms, (r.call (.register m) now write).registry.published =
      r.published ++ ms ∧ Sends r now (r.call (.register m) now write) (.register m) ms := by
  cases ha : registerChecks (r.find m.serviceId) m with
  | error e =>
    refine ⟨[], ?_, .refused (t := e) ?_⟩
    · simp [RegistryService.call, Outcome.discard, register_refused _ _ ha]
    · simp [RegistryService.call, Outcome.discard, register_refused _ _ ha, Except.map]
  | ok previousVersion =>
    rcases write_cases r write with hw | ⟨hr, message, hw⟩
    · refine ⟨_, ?_, .registered ?_ ha⟩
      · simp [RegistryService.call, Outcome.discard, register_registry now write ha hw]
      · simp [RegistryService.call, Outcome.discard, (register_stored now write ha hw).2.2,
          Except.map]
    · obtain ⟨hreg, -, e, he⟩ := register_rolledBack now ha hr hw
      refine ⟨[], ?_, .refused (t := e) ?_⟩
      · simp [RegistryService.call, Outcome.discard, hreg]
      · simp [RegistryService.call, Outcome.discard, he, Except.map]

theorem deregister_sends (r : RegistryService) (id now : String) :
    ∃ ms, (r.deregister id now).registry.published = r.published ++ ms ∧
      Sends r now (r.deregister id now) (.deregister id) ms := by
  cases hf : r.find id with
  | none =>
    refine ⟨[], ?_, .refused (t := .notFoundError s!"Service '{id}' is not registered") ?_⟩ <;>
      simp [RegistryService.deregister, RegistryService.beginDeregister, hf]
  | some found =>
    refine ⟨[.serviceDeregistered id now], ?_, .deregistered ?_⟩ <;>
      simp [RegistryService.deregister, RegistryService.beginDeregister, hf,
        RegistryService.completeDeregister]

/-- What a lifecycle call of a client hands to Kafka, from what its first check says. -/
theorem amend_sends {c : ClientCall} {choose : Found → Except Thrown Changes} {sync : Bool}
    {events : Found → List KafkaMessage}
    (hs : ∀ found changes assigned, r.find id = some found → choose found = .ok changes →
      found.assign changes = .ok assigned →
      (r.amend id choose sync events).discard.result = .ok () →
      Sends r now (r.amend id choose sync events).discard c (events assigned)) :
    ∃ ms, (r.amend id choose sync events).discard.registry.published = r.published ++ ms ∧
      Sends r now (r.amend id choose sync events).discard c ms := by
  by_cases h : ∃ found assigned, r.find id = some found ∧
      (choose found >>= found.assign) = .ok assigned
  · obtain ⟨found, assigned, hf, hc⟩ := h
    obtain ⟨changes, hchosen, ha⟩ := choose_assign_ok hc
    obtain ⟨hp, hr⟩ := amend_published sync events hf hc
    exact ⟨_, hp, hs found changes assigned hf hchosen ha
      (by simp [Outcome.discard, hr, Except.map])⟩
  · have hrefused : ∀ found, r.find id = some found →
        ∃ t, (choose found >>= found.assign) = .error t := by
      intro found hf
      cases hc : choose found >>= found.assign with
      | error t => exact ⟨t, rfl⟩
      | ok assigned => exact absurd ⟨found, assigned, hf, hc⟩ h
    obtain ⟨hreg, t, ht⟩ := amend_refused sync events hrefused
    refine ⟨[], ?_, .refused (t := t) (by simp [Outcome.discard, ht, Except.map])⟩
    simp [Outcome.discard, hreg]

theorem call_sends (r : RegistryService) (c : ClientCall) (now : String) (write : Write) :
    ∃ ms, (r.call c.call now write).registry.published = r.published ++ ms ∧
      Sends r now (r.call c.call now write) c ms := by
  cases c with
  | register m => exact register_sends r m now write
  | deregister id => exact deregister_sends r id now
  | deprecateService id sunset replacement =>
    apply amend_sends
    intro found changes assigned hf hc ha hr
    split at hc
    · cases hc
    · rename_i hs
      cases hc
      exact .deprecated hr hf hs ha
  | retire id =>
    apply amend_sends
    intro found changes assigned hf hc ha hr
    cases hc
    rw [updatedAt_assign ha rfl]
    exact .retired hr
  | activate id =>
    apply amend_sends
    intro found changes assigned hf hc ha hr
    exact .activated hr

theorem endHealthCheck_unknown (h : r.find id = none) (response : HealthResponse) (now : String) :
    (r.endHealthCheck id response now).registry = r := by
  simp [RegistryService.endHealthCheck, RegistryService.setHealthStatus,
    RegistryService.touchHealthCheck, h]

/-- What the end of a health check leaves of a registry that has found its service: what was found
takes no assignment, or is only touched, or has its flag changed, which is said to Kafka. -/
inductive Checked (r : RegistryService) (id : String) (found : Found) (response : HealthResponse)
    (now : String) : RegistryService → Prop
  | refused (h : ∀ changes, ∃ t, found.assign changes = .error t) :
      Checked r id found response now r
  | touched (hh : found.healthy.getD true = response.healthy)
      (ha : found.assign { lastHealthCheckAt := some now } = .ok assigned) :
      Checked r id found response now (r.store id assigned)
  | flipped (hh : found.healthy.getD true ≠ response.healthy)
      (ha : found.assign (RegistryService.healthChanges response.healthy now) = .ok assigned) :
      Checked r id found response now ((r.store id assigned).publish
        [.serviceHealthChanged id response.healthy (!response.healthy) response.reason now])

/-- Whether an assignment throws does not depend on what is assigned. -/
theorem assign_error {found : Found} {changes : Changes} (h : found.assign changes = .error t) :
    ∀ changes, ∃ t, found.assign changes = .error t := by
  intro other
  cases ha : found.assign other with
  | error t => exact ⟨t, rfl⟩
  | ok assigned =>
    obtain ⟨_, hok⟩ := assignable_of_ok ha changes
    cases h.symm.trans hok

theorem endHealthCheck_checked (h : r.find id = some found) (response : HealthResponse)
    (now : String) :
    Checked r id found response now (r.endHealthCheck id response now).registry := by
  by_cases hh : found.healthy.getD true = response.healthy
  · cases ha : found.assign { lastHealthCheckAt := some now } with
    | error t =>
      simpa [RegistryService.endHealthCheck, RegistryService.setHealthStatus,
        RegistryService.touchHealthCheck, h, hh, ha] using .refused (assign_error ha)
    | ok assigned =>
      simpa [RegistryService.endHealthCheck, RegistryService.setHealthStatus,
        RegistryService.touchHealthCheck, h, hh, ha] using .touched hh ha
  · cases ha : found.assign (RegistryService.healthChanges response.healthy now) with
    | error t =>
      obtain ⟨t', ht'⟩ := assign_error ha { lastHealthCheckAt := some now }
      simpa [RegistryService.endHealthCheck, RegistryService.setHealthStatus,
        RegistryService.touchHealthCheck, h, hh, ha, ht'] using .refused (assign_error ha)
    | ok assigned =>
      simpa [RegistryService.endHealthCheck, RegistryService.setHealthStatus, h, hh, ha] using
        .flipped hh ha

theorem endHealthCheck_members (r : RegistryService) (id : String) (response : HealthResponse)
    (now : String) : KeepsMembers id none r (r.endHealthCheck id response now).registry := by
  cases hf : r.find id with
  | none =>
    rw [endHealthCheck_unknown hf]
    exact .inl ⟨rfl, rfl⟩
  | some found =>
    have hchecked := endHealthCheck_checked hf response now
    generalize (r.endHealthCheck id response now).registry = r' at hchecked ⊢
    cases hchecked with
    | refused h => exact .inl ⟨rfl, rfl⟩
    | touched hh ha => exact store_members hf { lastHealthCheckAt := some now } ha
    | flipped hh ha =>
      exact store_members hf (RegistryService.healthChanges response.healthy now) ha

end ApiCenter.Proofs.Messages
