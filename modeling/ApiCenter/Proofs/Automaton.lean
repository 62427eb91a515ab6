import ApiCenter.Library.Runs
import ApiCenter.Proofs.Statuses

namespace ApiCenter

/-- What a call asks for, whatever its arguments. -/
inductive RegistryRequest where
  | register
  | deregister
  | deprecateService
  | retire
  | activate
  | healthCheck
  deriving DecidableEq, Repr

def RegistryCall.request : RegistryCall → RegistryRequest
  | .register _ => .register
  | .deregister _ => .deregister
  | .lifecycle (.deprecateService ..) => .deprecateService
  | .lifecycle (.retire _) => .retire
  | .lifecycle (.activate _) => .activate
  | .lifecycle (.setHealthStatus ..) => .healthCheck
  | .lifecycle (.touchHealthCheck _) => .healthCheck

/-- Where a request takes a service; `none` in the place of a status is an unregistered service,
and a request without a place to go is refused. -/
def RegistryRequest.move :
    RegistryRequest → Option ServiceLifecycleStatus → Option (Option ServiceLifecycleStatus)
  | .register, none => some (some .active)
  | .register, some .active => some (some .active)
  | .register, some .deprecated => some (some .deprecated)
  | .deregister, some _ => some none
  | .deprecateService, some .active => some (some .deprecated)
  | .deprecateService, some .deprecated => some (some .deprecated)
  | .activate, some .deprecated => some (some .active)
  | .retire, some _ => some (some .retired)
  | .healthCheck, place => some place
  | _, _ => none

namespace Proofs.Automaton
open Library Calls

/-- The status of a registered service. -/
def place (services : ServiceRegistryMap) (id : String) : Option ServiceLifecycleStatus :=
  (services.get? id).map (·.status)

/-- One call at a time without Redis, where no strict write can fail. -/
def step (r : RegistryService) (p : RegistryCall × String) : RegistryService :=
  (r.call p.1 p.2 .acknowledged).registry

/-- The call follows the automaton. -/
structure Lawful (r : RegistryService) (p : RegistryCall × String) : Prop where
  refused : p.1.request.move (place r.services p.1.id) = none →
    ∃ e, (r.call p.1 p.2 .acknowledged).result = .error e
  unchanged : ∀ e, (r.call p.1 p.2 .acknowledged).result = .error e →
    ∀ id, (step r p).services.get? id = r.services.get? id
  moves : (r.call p.1 p.2 .acknowledged).result = .ok () →
    p.1.request.move (place r.services p.1.id) = some (place (step r p).services p.1.id)
  accepted : p.1.request.move (place r.services p.1.id) ≠ none →
    (∀ m, p.1 = .register m → ∃ v, versionGovernance (r.find m.serviceId) m = .ok v) →
    (r.call p.1 p.2 .acknowledged).result = .ok ()
  others : ∀ id, id ≠ p.1.id → (step r p).services.get? id = r.services.get? id
  notProposed : ∀ id, place (step r p).services id ≠ some .proposed

/-- Without Redis, with the built-in names alone inherited, and no service proposed. -/
structure Local (r : RegistryService) : Prop where
  pristine : r.Pristine
  redis : r.redis = false
  notProposed : ∀ id, place r.services id ≠ some .proposed

variable {r : RegistryService} {id now : String}

/-- What a call does at its own id: refused for one of two reasons, or moved along. -/
inductive Follows (r : RegistryService) (c : RegistryCall) (out : Outcome Unit) : Prop where
  | refused (hres : out.result = .error e) (hreg : out.registry = r)
      (hwhy : c.request.move (place r.services c.id) = none ∨
        ∃ m, c = .register m ∧ ∀ v, versionGovernance (r.find m.serviceId) m ≠ .ok v)
  | moved (hres : out.result = .ok ())
      (hplace : c.request.move (place r.services c.id) =
        some (place out.registry.services c.id))

theorem place_set (services : ServiceRegistryMap) (hid : id ∉ objectPrototype)
    (e : ServiceRegistryEntry) : place (services.set id e) id = some e.status := by
  have hne : id ≠ "__proto__" := by
    intro heq
    exact hid (by simp [heq, objectPrototype])
  simp [place, PlainObject.get?_set_self services hne]

/-- A registration is refused for its version, or because the entry is retired. -/
theorem refused_register (hpr : r.Pristine) (hid : m.serviceId ∉ objectPrototype)
    (ha : registerChecks (r.find m.serviceId) m = .error e) :
    (RegistryCall.register m).request.move (place r.services m.serviceId) = none ∨
      ∀ v, versionGovernance (r.find m.serviceId) m ≠ .ok v := by
  unfold registerChecks at ha
  cases hv : versionGovernance (r.find m.serviceId) m with
  | error t => exact .inr fun v h => by cases h
  | ok v =>
    left
    simp only [hv] at ha
    split at ha
    · rename_i hs
      rw [hpr.find_own hid] at hs
      cases hm : r.services.get? m.serviceId with
      | none => simp [hm] at hs
      | some e =>
        have hret : e.status = .retired := by simpa [hm, Found.status] using hs
        simp [RegistryCall.request, place, hm, hret, RegistryRequest.move]
    · cases ha

/-- The entry an admitted registration builds is where the automaton moves to. -/
theorem moves_register (hpr : r.Pristine) (hid : m.serviceId ∉ objectPrototype)
    (hp : place r.services m.serviceId ≠ some .proposed)
    (hret : (r.find m.serviceId).map Found.status ≠ some (.value .retired))
    (previousVersion : Option String) (now : String) :
    (RegistryCall.register m).request.move (place r.services m.serviceId) =
      some (some (buildEntry (r.find m.serviceId) m previousVersion now).status) := by
  simp only [buildEntry, RegistryCall.request]
  rw [hpr.find_own hid] at hret ⊢
  unfold place at hp ⊢
  cases hm : r.services.get? m.serviceId with
  | none => simp [RegistryRequest.move]
  | some e =>
    rw [hm] at hp hret
    cases hst : e.status <;> simp [hst, Found.status, RegistryRequest.move] at hp hret ⊢

theorem follows_register (hpr : r.Pristine) (hr : r.redis = false) (m : ServiceManifest)
    (hid : m.serviceId ∉ objectPrototype) (hp : place r.services m.serviceId ≠ some .proposed)
    (now : String) : Follows r (.register m) (r.call (.register m) now .acknowledged) := by
  cases ha : registerChecks (r.find m.serviceId) m with
  | error e =>
    refine .refused (e := e) ?_ ?_ ?_
    · simp [RegistryService.call, Outcome.discard, register_refused _ _ ha, Except.map]
    · simp [RegistryService.call, Outcome.discard, register_refused _ _ ha]
    · exact (refused_register hpr hid ha).imp_right fun hv => ⟨m, rfl, hv⟩
  | ok previousVersion =>
    obtain ⟨hs, -, hres⟩ := register_stored now .acknowledged ha (.inl hr)
    refine .moved ?_ ?_
    · simp [RegistryService.call, Outcome.discard, hres, Except.map]
    · simp only [RegistryService.call, Outcome.discard, hs, RegistryCall.id]
      rw [place_set _ hid]
      exact moves_register hpr hid hp (registerChecks_ok ha).2 previousVersion now

theorem follows_deregister (hpr : r.Pristine) (hid : id ∉ objectPrototype) (now : String) :
    Follows r (.deregister id) (r.call (.deregister id) now .acknowledged) := by
  have hfind := hpr.find_own hid
  simp only [RegistryService.call, RegistryService.deregister, RegistryService.beginDeregister]
  cases hm : r.services.get? id with
  | none =>
    simp only [hfind, hm, Option.map_none]
    exact .refused rfl rfl (.inl (by
      simp [RegistryCall.request, RegistryCall.id, place, hm, RegistryRequest.move]))
  | some e =>
    simp only [hfind, hm, Option.map_some]
    refine .moved rfl ?_
    simp [RegistryCall.request, RegistryCall.id, place, hm, RegistryRequest.move,
      RegistryService.completeDeregister, PlainObject.get?_delete]

/-- The three calls that amend an entry are refused where there is none, and otherwise as
`choose` says. -/
theorem follows_amend {c : LifecycleCall} {choose : Found → Except Thrown Changes} {sync : Bool}
    {events : Found → List KafkaMessage} (hpr : r.Pristine) (hid : c.id ∉ objectPrototype)
    (hnone : (RegistryCall.lifecycle c).request.move none = none)
    (hsome : ∀ e, r.services.get? c.id = some e →
      (RegistryCall.lifecycle c).request.move (some e.status) =
        (choose (.entry e)).toOption.map fun changes => some (changes.applyTo e).status) :
    Follows r (.lifecycle c) (r.amend c.id choose sync events).discard := by
  have hfind := hpr.find_own hid
  unfold RegistryService.amend
  cases hm : r.services.get? c.id with
  | none =>
    simp only [hfind, hm, Option.map_none]
    exact .refused rfl rfl (.inl (by simpa [RegistryCall.id, place, hm] using hnone))
  | some e =>
    have hmove := hsome e hm
    simp only [hfind, hm, Option.map_some]
    cases hc : choose (.entry e) with
    | error t =>
      rw [hc] at hmove
      simp only [bind, Except.bind]
      exact .refused rfl rfl (.inl (by
        simpa [RegistryCall.id, place, hm, Except.toOption] using hmove))
    | ok changes =>
      rw [hc] at hmove
      refine .moved rfl ?_
      have hplace : place r.services (RegistryCall.lifecycle c).id = some e.status := by
        simp [RegistryCall.id, place, hm]
      have hafter := place_set r.services hid (changes.applyTo e)
      rw [hplace, hmove]
      cases sync <;> exact congrArg some hafter.symm

theorem follows_check {c : LifecycleCall} (hpr : r.Pristine) (hid : c.id ∉ objectPrototype)
    (hs : c.sets? = none) (hreq : (RegistryCall.lifecycle c).request = .healthCheck)
    (now : String) : Follows r (.lifecycle c) (r.call (.lifecycle c) now .acknowledged) := by
  refine .moved (Proofs.Statuses.health_result now hs hpr) ?_
  rw [hreq]
  simp only [RegistryCall.id, RegistryService.call, RegistryRequest.move, Option.some.injEq]
  rcases Proofs.Statuses.health_services now hs with hsame | ⟨e, changes, he, hset, hstatus, -⟩
  · rw [hsame]
  · rw [hset, place_set _ hid]
    simp [place, he, Changes.applyTo, hstatus]

theorem follows_lifecycle (hpr : r.Pristine) (c : LifecycleCall) (hid : c.id ∉ objectPrototype)
    (hp : place r.services c.id ≠ some .proposed) (now : String) :
    Follows r (.lifecycle c) (r.call (.lifecycle c) now .acknowledged) := by
  have hst : ∀ e, r.services.get? c.id = some e → e.status ≠ .proposed := by
    intro e he hs
    exact hp (by simp [place, he, hs])
  cases c with
  | deprecateService id sunset replacement =>
    refine follows_amend (c := .deprecateService id sunset replacement) hpr hid rfl ?_
    intro e he
    cases hs : e.status with
    | proposed => exact absurd hs (hst e he)
    | active | deprecated | retired =>
      simp [RegistryCall.request, RegistryRequest.move, Found.status, hs,
        RegistryService.deprecateChanges, Changes.applyTo, Except.toOption]
  | retire id =>
    refine follows_amend (c := .retire id) hpr hid rfl ?_
    intro e he
    rfl
  | activate id =>
    refine follows_amend (c := .activate id) hpr hid rfl ?_
    intro e he
    cases hs : e.status with
    | proposed => exact absurd hs (hst e he)
    | active | deprecated | retired =>
      simp [RegistryCall.request, RegistryRequest.move, Found.status, hs,
        RegistryService.activateChanges, Changes.applyTo, Except.toOption]
  | setHealthStatus | touchHealthCheck => exact follows_check hpr hid rfl rfl now

theorem call_follows (h : Local r) (c : RegistryCall) (hid : c.id ∉ objectPrototype)
    (now : String) : Follows r c (r.call c now .acknowledged) := by
  cases c with
  | register m => exact follows_register h.pristine h.redis m hid (h.notProposed _) now
  | deregister id => exact follows_deregister h.pristine hid now
  | lifecycle c => exact follows_lifecycle h.pristine c hid (h.notProposed _) now

/-- No arrow of the automaton leads to a proposed service. -/
theorem move_ne_proposed (q : RegistryRequest) {old new : Option ServiceLifecycleStatus}
    (h : q.move old = some new) (ho : old ≠ some .proposed) : new ≠ some .proposed := by
  cases q <;> rcases old with - | (- | - | - | -) <;> simp [RegistryRequest.move] at h ho <;>
    simp [← h]

theorem lawful_step (h : Local r) (p : RegistryCall × String) (hid : p.1.id ∉ objectPrototype) :
    Lawful r p ∧ Local (step r p) := by
  obtain ⟨c, now⟩ := p
  have hothers : ∀ id, id ≠ c.id →
      (step r (c, now)).services.get? id = r.services.get? id :=
    fun id hne => call_services_ne r c now .acknowledged hne
  have hplace : ∀ id, id ≠ c.id → place (step r (c, now)).services id = place r.services id := by
    intro id hne
    unfold place
    rw [hothers id hne]
  have hpristine : (step r (c, now)).Pristine := call_pristine h.pristine c hid now _
  have hredis : (step r (c, now)).redis = false := (call_redis r c now _).trans h.redis
  rcases call_follows h c hid now with ⟨hres, hreg, hwhy⟩ | ⟨hres, hmove⟩
  · have hsame : step r (c, now) = r := hreg
    refine ⟨⟨fun _ => ⟨_, hres⟩, fun _ _ id => by rw [hsame], ?_, ?_, hothers, ?_⟩,
      ⟨hpristine, hredis, ?_⟩⟩
    · intro hok
      cases hres.symm.trans hok
    · intro hmove hversion
      rcases hwhy with hnone | ⟨m, hm, hv⟩
      · exact absurd hnone hmove
      · obtain ⟨v, hv'⟩ := hversion m hm
        exact absurd hv' (hv v)
    · rw [hsame]
      exact h.notProposed
    · rw [hsame]
      exact h.notProposed
  · have hnot : ∀ id, place (step r (c, now)).services id ≠ some .proposed := by
      intro id
      by_cases hne : id = c.id
      · subst hne
        exact move_ne_proposed _ hmove (h.notProposed _)
      · rw [hplace id hne]
        exact h.notProposed id
    refine ⟨⟨?_, ?_, fun _ => hmove, fun _ _ => hres, hothers, hnot⟩, ⟨hpristine, hredis, hnot⟩⟩
    · intro hnone
      rw [hmove] at hnone
      cases hnone
    · intro e he
      cases hres.symm.trans he

/-- Every call of every run without Redis follows the automaton. -/
theorem lifecycle_lawful (run : List (RegistryCall × String))
    (hrun : ∀ p ∈ run, p.1.id ∉ objectPrototype) : Runs.Always step Lawful {} run := by
  have hstart : Local {} := ⟨⟨rfl, rfl⟩, rfl, fun id => by simp [place]⟩
  have hguard : Runs.Always step (fun _ p => p.1.id ∉ objectPrototype) {} run :=
    Runs.always_of_forall _ hrun
  exact Runs.always_of_invariant (I := Local) (fun r p h hid => (lawful_step h p hid).2)
    (fun r p h hid => (lawful_step h p hid).1) hstart hguard

/-- `orders` is deprecated, activated and retired, and registered again in vain. -/
theorem lifecycle_lawful_orders : Runs.Always step Lawful {}
    [(.register (manifestOf "orders" "http://orders:1" "1.0.0"), "t0"),
      (.lifecycle (.deprecateService "orders" .undefined .undefined), "t1"),
      (.lifecycle (.activate "orders"), "t2"), (.lifecycle (.retire "orders"), "t3"),
      (.register (manifestOf "orders" "http://orders:1" "1.0.0"), "t4")] :=
  lifecycle_lawful _ (by decide)

end Proofs.Automaton

end ApiCenter
