import Mathlib.Data.List.Perm.Basic
import ApiCenter.Proofs.HealthResults
import ApiCenter.Proofs.HealthTrail

namespace ApiCenter

open Library ApiCenter.Library.Runs ApiCenter.Library.Histories Proofs.Calls Proofs.Messages
  Proofs.HealthTrail

namespace ServiceRegistryEntry

/-- The entry is one a sweep sends a request for. -/
def isCheckable (e : ServiceRegistryEntry) : Bool :=
  e.healthCheck.text?.isSome && e.status ≠ .retired && e.status ≠ .proposed

/-- The entry once its health check has ended. -/
def checked (e : ServiceRegistryEntry) (response : HealthResponse) (now : String) :
    ServiceRegistryEntry :=
  if e.healthy.getD true = response.healthy then { e with lastHealthCheckAt := .value now }
  else (RegistryService.healthChanges response.healthy now).applyTo e

/-- The change of the flag that is announced, if there is one. -/
def flipped (e : ServiceRegistryEntry) (response : HealthResponse) : List (Bool × Bool) :=
  if e.healthy.getD true = response.healthy then []
  else [(!response.healthy, response.healthy)]

end ServiceRegistryEntry

namespace HealthMonitor

variable {s : HealthMonitor} {id : String} {e : ServiceRegistryEntry}

/-- A state some run of the process comes to. -/
def Reachable (s : HealthMonitor) : Prop :=
  ∃ (r : RegistryService) (as : List MonitorAction),
    OwnKeys r.services ∧ s = final step { registry := r } as

/-- The action is no call about `id`; the health check of `id` may end. -/
def Spares (id : String) (s : HealthMonitor) : MonitorAction → Prop
  | .register m _ => m.serviceId ≠ id
  | .settle i _ => ∀ p, s.registering[i]? = some p → p.manifest.serviceId ≠ id
  | .deregister other _ => other ≠ id
  | .lifecycle c _ => c.id ≠ id
  | .handleHealthChecks | .respond .. | .finish => True

/-- How many health checks of `id` are on their way. -/
def inFlight (id : String) (s : HealthMonitor) : Nat :=
  s.probes.countP (·.svc.serviceId = id)

/-- The end of a health check of `id`, if the action is one. -/
def answersOf (id : String) (s : HealthMonitor) : MonitorAction → List (HealthResponse × String)
  | .respond i response now =>
    match s.probes[i]? with
    | some p => if p.svc.serviceId = id then [(response, now)] else []
    | none => []
  | .handleHealthChecks | .finish | .register .. | .settle .. | .deregister .. | .lifecycle .. => []

/-- Nobody checks `id` and, as far as this sweep goes, nobody will. -/
structure Concluded (id : String) (s : HealthMonitor) : Prop where
  tracked : Tracked s
  none_inFlight : s.inFlight id = 0
  no_sweep : s.healthCheckRunning = true ∨
    ∀ e, s.registry.services.get? id = some e → e.isCheckable = false

/-- The sweep waits for the end of the one health check of `id`. -/
structure Awaited (id : String) (e : ServiceRegistryEntry) (s : HealthMonitor) : Prop where
  tracked : Tracked s
  one_inFlight : s.inFlight id = 1
  running : s.healthCheckRunning = true
  stored : s.registry.services.get? id = some e

theorem Reachable.tracked (h : Reachable s) : Tracked s := by
  obtain ⟨r, as, hr, rfl⟩ := h
  exact invariant_reached (fun _ a h => h.step a) (tracked_new hr) as

/-- Without a sweep there are no health checks on their way. -/
theorem Reachable.idle (h : Reachable s) : s.healthCheckRunning = false → s.probes = [] := by
  obtain ⟨r, as, -, rfl⟩ := h
  refine invariant_reached (I := fun s : HealthMonitor =>
    s.healthCheckRunning = false → s.probes = []) ?_ (fun _ => rfl) as
  intro s a hs
  cases a with
  | handleHealthChecks =>
    simp only [step, handleHealthChecks]
    split
    · exact hs
    · intro hrunning
      simpa using hrunning
  | respond i response now =>
    simp only [step, respond]
    split
    · exact hs
    · intro hrunning
      rw [hs hrunning]
      rfl
  | finish =>
    simp only [step, finish]
    split
    · rename_i hempty
      intro _
      simpa using hempty
    · exact hs
  | register m now =>
    simp only [step, register]
    split
    · exact hs
    · intro hrunning
      rw [hs hrunning]
      rfl
  | settle i write =>
    simp only [step, settle]
    split
    · exact hs
    · exact hs
  | deregister other now => exact hs
  | lifecycle c now => exact hs

section

variable {r : RegistryService}

/-- The ids of the services a sweep asks are distinct. -/
theorem checkable_nodup (h : OwnKeys r.services) :
    (r.checkable.map (·.serviceId)).Nodup := by
  have hkeys : r.services.values.map (·.serviceId) = r.services.keys :=
    r.services.map_values_eq_keys _ h
  have hsub : (r.checkable.map (·.serviceId)).Sublist r.services.keys := by
    rw [← hkeys]
    exact List.filter_sublist.map _
  exact hsub.nodup r.services.own.keys_nodup

theorem mem_checkable (h : OwnKeys r.services) :
    id ∈ r.checkable.map (·.serviceId) ↔
      ∃ e, r.services.get? id = some e ∧ e.isCheckable = true := by
  constructor
  · intro hmem
    obtain ⟨e, he, rfl⟩ := List.mem_map.mp hmem
    obtain ⟨hvalue, hcheck⟩ := List.mem_filter.mp he
    obtain ⟨k, hk⟩ := (PlainObject.mem_values_iff _ e).mp hvalue
    refine ⟨e, ?_, hcheck⟩
    rw [h k e hk]
    exact hk
  · intro hex
    obtain ⟨e, he, hcheck⟩ := hex
    refine List.mem_map.mpr ⟨e, List.mem_filter.mpr ⟨?_, hcheck⟩, h id e he⟩
    exact (PlainObject.mem_values_iff _ e).mpr ⟨id, he⟩

theorem count_checkable (h : OwnKeys r.services) :
    (r.checkable.map fun svc => ({ svc := svc } : Probe)).countP (·.svc.serviceId = id) =
      if id ∈ r.checkable.map (·.serviceId) then 1 else 0 := by
  rw [← (checkable_nodup h).count, List.countP_map, List.count, List.countP_map]
  refine List.countP_congr ?_
  intro e he
  simp

end

/-- The end of a health check takes it from those on their way. -/
theorem inFlight_eraseIdx {i : Nat} {p : Probe} (hp : s.probes[i]? = some p) :
    (s.probes.eraseIdx i).countP (·.svc.serviceId = id) +
      (if p.svc.serviceId = id then 1 else 0) = s.inFlight id := by
  obtain ⟨hi, rfl⟩ := List.getElem?_eq_some_iff.mp hp
  have hperm := List.getElem_cons_eraseIdx_perm hi
  rw [inFlight, ← hperm.countP_eq, List.countP_cons]
  simp

section

variable {r : RegistryService} {key : String}

/-- The end of the health check of another service. -/
theorem endHealthCheck_other (hne : key ≠ id) (response : HealthResponse) (now : String) :
    (r.endHealthCheck key response now).registry.services.get? id = r.services.get? id ∧
      healthEvents id (r.endHealthCheck key response now).registry.published =
        healthEvents id r.published := by
  constructor
  · cases hk : r.services.get? key with
    | none => rw [endHealthCheck_missing hk]
    | some f => rw [endHealthCheck_stored hk, PlainObject.get?_set_of_some hk, if_neg (Ne.symm hne)]
  · cases hk : r.find key with
    | none => rw [endHealthCheck_unknown hk]
    | some found =>
      have hchecked := endHealthCheck_checked hk response now
      generalize (r.endHealthCheck key response now).registry = r' at hchecked ⊢
      cases hchecked with
      | refused => rfl
      | touched hh ha => rw [RegistryService.store_published]
      | flipped hh ha =>
        rw [RegistryService.publish_published, RegistryService.store_published,
          healthEvents_append]
        simp [healthEvents, hne]

/-- The end of the health check of a registered service. -/
theorem endHealthCheck_own (he : r.services.get? id = some e) (response : HealthResponse)
    (now : String) :
    (r.endHealthCheck id response now).registry.services.get? id =
        some (e.checked response now) ∧
      healthEvents id (r.endHealthCheck id response now).registry.published =
        healthEvents id r.published ++ e.flipped response := by
  constructor
  · rw [endHealthCheck_stored he, PlainObject.get?_set_of_some he, if_pos rfl]
    rfl
  · have hchecked := endHealthCheck_checked (RegistryService.find_of_get? he) response now
    generalize (r.endHealthCheck id response now).registry = r' at hchecked ⊢
    cases hchecked with
    | refused h =>
      obtain ⟨t, ht⟩ := h {}
      cases ht
    | touched hh ha =>
      have hfound : e.healthy.getD true = response.healthy := hh
      rw [ServiceRegistryEntry.flipped, if_pos hfound, RegistryService.store_published,
        List.append_nil]
    | flipped hh ha =>
      have hfound : ¬ e.healthy.getD true = response.healthy := hh
      rw [ServiceRegistryEntry.flipped, if_neg hfound, RegistryService.publish_published,
        RegistryService.store_published, healthEvents_append]
      simp [healthEvents]

theorem resume_other {p : PendingRegister} (hne : p.manifest.serviceId ≠ id) (write : Write) :
    (p.resume r write).registry.services.get? id = r.services.get? id ∧
      healthEvents id (p.resume r write).registry.published = healthEvents id r.published := by
  have hevents : healthEvents id p.events = [] := by
    unfold PendingRegister.events
    split
    · split <;> rfl
    · rfl
  unfold PendingRegister.resume
  split
  · refine ⟨?_, ?_⟩
    · rw [RegistryService.deleteAndSync_services, PlainObject.get?_delete, if_neg (Ne.symm hne)]
    · rw [RegistryService.deleteAndSync_published]
  · refine ⟨by rw [RegistryService.publish_services], ?_⟩
    rw [RegistryService.publish_published, healthEvents_append, hevents, List.append_nil]

/-- A lifecycle call of one of the two jobs announces nothing by itself. -/
theorem lifecycle_healthEvents (c : LifecycleCall) (now : String) :
    healthEvents id (r.lifecycle c now).registry.published = healthEvents id r.published := by
  cases c with
  | deprecateService other sunsetDate replacementService =>
    exact call_healthEvents r (.deprecateService other sunsetDate replacementService) now
      .acknowledged id
  | retire other => exact call_healthEvents r (.retire other) now .acknowledged id
  | activate other => exact call_healthEvents r (.activate other) now .acknowledged id
  | setHealthStatus other healthy =>
    simp only [RegistryService.lifecycle, Outcome.discard, RegistryService.setHealthStatus]
    cases r.find other with
    | none => rfl
    | some found =>
      simp only
      split
      · rfl
      · cases found.assign (RegistryService.healthChanges healthy now) with
        | error t => rfl
        | ok assigned => rw [RegistryService.store_published]
  | touchHealthCheck other =>
    simp only [RegistryService.lifecycle, RegistryService.touchHealthCheck]
    cases r.find other with
    | none => rfl
    | some found =>
      cases ha : found.assign { lastHealthCheckAt := some now } with
      | error t => simp only [ha]
      | ok assigned => simp only [ha, RegistryService.store_published]

end

/-- What an action that spares `id` and is no end of its health check leaves as it was. -/
theorem spared_step {a : MonitorAction} (hs : Spares id s a) (hanswers : answersOf id s a = []) :
    (s.step a).registry.services.get? id = s.registry.services.get? id ∧
      healthEvents id (s.step a).registry.published = healthEvents id s.registry.published := by
  cases a with
  | handleHealthChecks =>
    simp only [step, handleHealthChecks]
    split <;> exact ⟨rfl, rfl⟩
  | respond i response now =>
    simp only [step, respond]
    cases hp : s.probes[i]? with
    | none => exact ⟨rfl, rfl⟩
    | some p =>
      have hne : p.svc.serviceId ≠ id := by
        intro hid
        simp [answersOf, hp, hid] at hanswers
      exact endHealthCheck_other hne response now
  | finish =>
    simp only [step, finish]
    split <;> exact ⟨rfl, rfl⟩
  | register m now =>
    have hne : m.serviceId ≠ id := hs
    simp only [step, register]
    cases hb : s.registry.beginRegister m now with
    | error t => exact ⟨rfl, rfl⟩
    | ok begun =>
      obtain ⟨written, pending⟩ := begun
      obtain ⟨rfl, -, -⟩ := beginRegister_ok hb
      refine ⟨?_, ?_⟩
      · rw [RegistryService.putAndSync_services, PlainObject.get?_set_ne _ (Ne.symm hne)]
      · rw [RegistryService.putAndSync_published]
  | settle i write =>
    simp only [step, settle]
    cases hp : s.registering[i]? with
    | none => exact ⟨rfl, rfl⟩
    | some p => exact resume_other (hs p hp) write
  | deregister other now =>
    have hne : id ≠ other := fun h => hs h.symm
    exact ⟨call_services_ne s.registry (.deregister other) now .acknowledged hne,
      call_healthEvents s.registry (.deregister other) now .acknowledged id⟩
  | lifecycle c now =>
    have hne : id ≠ c.id := fun h => hs h.symm
    exact ⟨call_services_ne s.registry (.lifecycle c) now .acknowledged hne,
      lifecycle_healthEvents c now⟩

/-- An action that is no end of a health check of `id` leaves them on their way; only a new sweep
sends more. -/
theorem inFlight_step {a : MonitorAction} (hanswers : answersOf id s a = [])
    (hsweep : a = .handleHealthChecks → s.healthCheckRunning = true) :
    (s.step a).inFlight id = s.inFlight id := by
  cases a with
  | handleHealthChecks =>
    simp only [step, handleHealthChecks, if_pos (hsweep rfl)]
  | respond i response now =>
    simp only [step, respond]
    cases hp : s.probes[i]? with
    | none => rfl
    | some p =>
      have hne : p.svc.serviceId ≠ id := by
        intro hid
        simp [answersOf, hp, hid] at hanswers
      have herase : (s.probes.eraseIdx i).countP (·.svc.serviceId = id) +
        (if p.svc.serviceId = id then 1 else 0) = s.inFlight id := inFlight_eraseIdx hp
      rw [if_neg hne] at herase
      exact herase
  | finish =>
    simp only [step, finish]
    split <;> rfl
  | register m now =>
    simp only [step, register]
    split
    · rfl
    · simp [inFlight, List.countP_map, Function.comp_def]
  | settle i write =>
    simp only [step, settle]
    split <;> rfl
  | deregister other now => rfl
  | lifecycle c now => rfl

/-- A sweep goes on until it is ended. -/
theorem running_step {a : MonitorAction} (hf : a ≠ .finish) (h : s.healthCheckRunning = true) :
    (s.step a).healthCheckRunning = true := by
  cases a with
  | handleHealthChecks =>
    simp only [step, handleHealthChecks, if_pos h]
    exact h
  | respond i response now =>
    simp only [step, respond]
    split <;> exact h
  | finish => exact absurd rfl hf
  | register m now =>
    simp only [step, register]
    split <;> exact h
  | settle i write =>
    simp only [step, settle]
    split <;> exact h
  | deregister other now => exact h
  | lifecycle c now => exact h

theorem Concluded.step (h : Concluded id s) {a : MonitorAction} (hf : a ≠ .finish)
    (hs : Spares id s a) :
    Concluded id (s.step a) ∧ answersOf id s a = [] ∧
      (s.step a).registry.services.get? id = s.registry.services.get? id ∧
      healthEvents id (s.step a).registry.published = healthEvents id s.registry.published := by
  have hanswers : answersOf id s a = [] := by
    cases a with
    | respond i response now =>
      simp only [answersOf]
      cases hp : s.probes[i]? with
      | none => rfl
      | some p =>
        have hnone := List.countP_eq_zero.mp h.none_inFlight p (List.mem_of_getElem? hp)
        have hne : p.svc.serviceId ≠ id := by simpa using hnone
        simp [hne]
    | handleHealthChecks | finish | register | settle | deregister | lifecycle => rfl
  obtain ⟨hstored, hevents⟩ := spared_step hs hanswers
  refine ⟨⟨h.tracked.step a, ?_, ?_⟩, hanswers, hstored, hevents⟩
  · by_cases hsweep : a = .handleHealthChecks → s.healthCheckRunning = true
    · rw [inFlight_step hanswers hsweep]
      exact h.none_inFlight
    · obtain ⟨rfl, hidle⟩ := Classical.not_imp.mp hsweep
      -- A new sweep does not ask `id` either.
      have hunchecked := h.no_sweep.resolve_left hidle
      simp only [HealthMonitor.step, handleHealthChecks, if_neg hidle, inFlight]
      rw [count_checkable h.tracked.keys, if_neg]
      rw [mem_checkable h.tracked.keys]
      rintro ⟨e, he, hcheck⟩
      rw [hunchecked e he] at hcheck
      cases hcheck
  · rcases h.no_sweep with hrunning | hunchecked
    · exact .inl (running_step hf hrunning)
    · right
      intro e he
      rw [hstored] at he
      exact hunchecked e he

/-- Nothing more happens to a service that is settled. -/
theorem Concluded.run (h : Concluded id s) {as : List MonitorAction} (hf : ∀ a ∈ as, a ≠ .finish)
    (hs : Always HealthMonitor.step (Spares id) s as) :
    emitted HealthMonitor.step (answersOf id) s as = [] ∧
      (final HealthMonitor.step s as).registry.services.get? id = s.registry.services.get? id ∧
      healthEvents id (final HealthMonitor.step s as).registry.published =
        healthEvents id s.registry.published := by
  induction as generalizing s with
  | nil => exact ⟨rfl, rfl, rfl⟩
  | cons a as ih =>
    obtain ⟨hfa, hfas⟩ := List.forall_mem_cons.mp hf
    obtain ⟨hsa, hsas⟩ := hs
    obtain ⟨hnext, hanswers, hstored, hevents⟩ := h.step hfa hsa
    obtain ⟨hnone, hsame, hquiet⟩ := ih hnext hfas hsas
    refine ⟨?_, hsame.trans hstored, hquiet.trans hevents⟩
    rw [emitted, hanswers, hnone]
    rfl

/-- Either the health check of `id` is still on its way, or it ends and `id` is settled. -/
theorem Awaited.step (h : Awaited id e s) {a : MonitorAction} (hf : a ≠ .finish)
    (hs : Spares id s a) :
    (Awaited id e (s.step a) ∧ answersOf id s a = [] ∧
      healthEvents id (s.step a).registry.published = healthEvents id s.registry.published) ∨
    ∃ response now, answersOf id s a = [(response, now)] ∧ Concluded id (s.step a) ∧
      (s.step a).registry.services.get? id = some (e.checked response now) ∧
      healthEvents id (s.step a).registry.published =
        healthEvents id s.registry.published ++ e.flipped response := by
  by_cases hanswers : answersOf id s a = []
  · obtain ⟨hstored, hevents⟩ := spared_step hs hanswers
    refine .inl ⟨⟨h.tracked.step a, ?_, running_step hf h.running, hstored.trans h.stored⟩,
      hanswers, hevents⟩
    rw [inFlight_step hanswers fun _ => h.running]
    exact h.one_inFlight
  · right
    cases a with
    | respond i response now =>
      cases hp : s.probes[i]? with
      | none => simp [answersOf, hp] at hanswers
      | some p =>
        by_cases hid : p.svc.serviceId = id
        · have herase : (s.probes.eraseIdx i).countP (·.svc.serviceId = id) +
            (if p.svc.serviceId = id then 1 else 0) = s.inFlight id := inFlight_eraseIdx hp
          rw [if_pos hid, h.one_inFlight] at herase
          have hstep : s.step (.respond i response now) =
              { s with
                registry := (s.registry.endHealthCheck id response now).registry
                probes := s.probes.eraseIdx i } := by
            simp only [HealthMonitor.step, respond, hp, hid]
          obtain ⟨hstored, hevents⟩ := endHealthCheck_own h.stored response now
          refine ⟨response, now, by simp [answersOf, hp, hid], ⟨h.tracked.step _, ?_, ?_⟩, ?_, ?_⟩
          · rw [hstep]
            exact Nat.succ.inj herase
          · rw [hstep]
            exact .inl h.running
          · rw [hstep]
            exact hstored
          · rw [hstep]
            exact hevents
        · simp [answersOf, hp, hid] at hanswers
    | handleHealthChecks | finish | register | settle | deregister | lifecycle =>
      exact absurd rfl hanswers

theorem Awaited.run (h : Awaited id e s) {as : List MonitorAction} (hf : ∀ a ∈ as, a ≠ .finish)
    (hs : Always HealthMonitor.step (Spares id) s as)
    (hend : (final HealthMonitor.step s as).inFlight id = 0) :
    ∃ response now, emitted HealthMonitor.step (answersOf id) s as = [(response, now)] ∧
      (final HealthMonitor.step s as).registry.services.get? id =
        some (e.checked response now) ∧
      healthEvents id (final HealthMonitor.step s as).registry.published =
        healthEvents id s.registry.published ++ e.flipped response := by
  induction as generalizing s with
  | nil =>
    have hnone : s.inFlight id = 0 := hend
    rw [h.one_inFlight] at hnone
    cases hnone
  | cons a as ih =>
    obtain ⟨hfa, hfas⟩ := List.forall_mem_cons.mp hf
    obtain ⟨hsa, hsas⟩ := hs
    rcases h.step hfa hsa with ⟨hnext, hanswers, hevents⟩ |
      ⟨response, now, hanswers, hnext, hstored, hevents⟩
    · obtain ⟨response, now, hone, hchecked, hflipped⟩ := ih hnext hfas hsas hend
      refine ⟨response, now, ?_, hchecked, ?_⟩
      · rw [emitted, hanswers, hone]
        rfl
      · rw [final_cons, hflipped, hevents]
    · obtain ⟨hnone, hsame, hquiet⟩ := hnext.run hfas hsas
      refine ⟨response, now, ?_, hsame.trans hstored, hquiet.trans hevents⟩
      rw [emitted, hanswers, hnone]
      rfl

/-- What a sweep asks when it starts. -/
theorem inFlight_sweep (ht : Tracked s) (hidle : s.healthCheckRunning = false) (id : String) :
    s.handleHealthChecks.inFlight id =
      if id ∈ s.registry.checkable.map (·.serviceId) then 1 else 0 := by
  have hnot : ¬ s.healthCheckRunning = true := by simp [hidle]
  rw [handleHealthChecks, if_neg hnot]
  exact count_checkable ht.keys

theorem sweep_running (hidle : s.healthCheckRunning = false)
    (h : id ∈ s.registry.checkable.map (·.serviceId)) :
    s.handleHealthChecks.healthCheckRunning = true := by
  have hnot : ¬ s.healthCheckRunning = true := by simp [hidle]
  rw [handleHealthChecks, if_neg hnot]
  cases hc : s.registry.checkable with
  | nil => simp [hc] at h
  | cons svc rest => rfl

theorem sweep_registry (s : HealthMonitor) : s.handleHealthChecks.registry = s.registry := by
  unfold handleHealthChecks
  split <;> rfl

end HealthMonitor

namespace Proofs.Sweeps

open HealthMonitor

variable {s : HealthMonitor} {id : String}

/-- A sweep starts when no health check of another is on its way, and it is exact, in whatever order
the answers come and whatever else is called meanwhile. A service that it is to check, and that
nobody else touches, is asked once: its entry ends up as its own answer says, and the change is
announced exactly if it is one. A service that it is not to check stays as it is. -/
theorem sweep_exact (hs : Reachable s) (hidle : s.healthCheckRunning = false) (id : String)
    (as : List MonitorAction) (hopen : ∀ a ∈ as, a ≠ .finish)
    (hspares : Always step (Spares id) s.handleHealthChecks as)
    (hanswered : (final step s.handleHealthChecks as).inFlight id = 0) :
    s.probes = [] ∧
    (∀ e, s.registry.services.get? id = some e → e.isCheckable = true →
      ∃ response now, emitted step (answersOf id) s.handleHealthChecks as = [(response, now)] ∧
        (final step s.handleHealthChecks as).registry.services.get? id =
          some (e.checked response now) ∧
        healthEvents id (final step s.handleHealthChecks as).registry.published =
          healthEvents id s.registry.published ++ e.flipped response) ∧
    ((∀ e, s.registry.services.get? id = some e → e.isCheckable = false) →
      emitted step (answersOf id) s.handleHealthChecks as = [] ∧
        (final step s.handleHealthChecks as).registry.services.get? id =
          s.registry.services.get? id ∧
        healthEvents id (final step s.handleHealthChecks as).registry.published =
          healthEvents id s.registry.published) := by
  have ht := hs.tracked
  have hasked := inFlight_sweep ht hidle id
  have hregistry := sweep_registry s
  have htracked : Tracked s.handleHealthChecks := ht.sweep
  refine ⟨hs.idle hidle, ?_, ?_⟩
  · intro e he hcheck
    have hmem : id ∈ s.registry.checkable.map (·.serviceId) :=
      (mem_checkable ht.keys).mpr ⟨e, he, hcheck⟩
    rw [if_pos hmem] at hasked
    have hawaited : Awaited id e s.handleHealthChecks :=
      ⟨htracked, hasked, sweep_running hidle hmem, by rw [hregistry]; exact he⟩
    obtain ⟨response, now, hone, hchecked, hflipped⟩ := hawaited.run hopen hspares hanswered
    rw [hregistry] at hflipped
    exact ⟨response, now, hone, hchecked, hflipped⟩
  · intro hunchecked
    have hnot : id ∉ s.registry.checkable.map (·.serviceId) := by
      rw [mem_checkable ht.keys]
      rintro ⟨e, he, hcheck⟩
      rw [hunchecked e he] at hcheck
      cases hcheck
    rw [if_neg hnot] at hasked
    have hsettled : Concluded id s.handleHealthChecks := by
      refine ⟨htracked, hasked, .inr ?_⟩
      rw [hregistry]
      exact hunchecked
    have hrun := hsettled.run hopen hspares
    rw [hregistry] at hrun
    exact hrun

def monitored (serviceId : String) : ServiceManifest :=
  { manifestOf serviceId s!"http://{serviceId}" "1.0.0" with healthCheck := .value "/health" }

def twoServices : List MonitorAction :=
  [.register (monitored "orders") "t0", .settle 0 .acknowledged,
    .register (monitored "billing") "t0", .settle 0 .acknowledged]

/-- While both are asked, `billing` is deprecated, `orders` fails and another sweep is due. -/
def meanwhile : List MonitorAction :=
  [.lifecycle (.deprecateService "billing" .undefined .undefined) "t1",
    .respond 1 (.failed "timeout of 5000ms exceeded") "t2", .handleHealthChecks,
    .respond 0 (.responded 200) "t3"]

theorem sweep_exact_orders : ∃ e response now,
    (final step (final step { registry := {} } twoServices).handleHealthChecks
      meanwhile).registry.services.get? "orders" =
        some (ServiceRegistryEntry.checked e response now) := by
  have hkeys : OwnKeys ({} : RegistryService).services :=
    ownKeys_of_reachable (v := ⟨fun _ => true, fun _ => true⟩) (.fresh false)
  have hopen : ∀ a ∈ meanwhile, a ≠ .finish := by
    intro a ha
    simp only [meanwhile, List.mem_cons, List.not_mem_nil, or_false] at ha
    rcases ha with rfl | rfl | rfl | rfl <;> simp
  have hspares : Always step (Spares "orders")
      (final step { registry := {} } twoServices).handleHealthChecks meanwhile := by
    refine ⟨?_, trivial, trivial, trivial, trivial⟩
    simp [Spares, LifecycleCall.id]
  obtain ⟨-, hasked, -⟩ := sweep_exact ⟨{}, twoServices, hkeys, rfl⟩ rfl "orders" meanwhile hopen
    hspares rfl
  obtain ⟨response, now, -, hchecked, -⟩ := hasked _ rfl (by decide)
  exact ⟨_, response, now, hchecked⟩

end Proofs.Sweeps

end ApiCenter
