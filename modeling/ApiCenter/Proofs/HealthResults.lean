import ApiCenter.Library.Runs
import ApiCenter.Model.HealthMonitor
import ApiCenter.Proofs.Reachability

namespace ApiCenter

open Library ApiCenter.Library.Runs Proofs.Calls

/-- Every entry is stored under its own id. -/
def OwnKeys (services : ServiceRegistryMap) : Prop :=
  ∀ id e, services.get? id = some e → e.serviceId = id

/-- Every entry of `services'` has the address it has in `services`. -/
def KeepsAddresses (services services' : ServiceRegistryMap) : Prop :=
  ∀ id e', services'.get? id = some e' → ∃ e, services.get? id = some e ∧
    e'.serviceId = e.serviceId ∧ e.SameAddress e'.toServiceManifest

namespace HealthMonitor

/-- The end of a health check changes a flag only where the entry has the address the request went
to, and a failure takes only such an entry out of routing. -/
structure AppliesToProbed (s : HealthMonitor) (a : MonitorAction) : Prop where
  flag : ∀ i response now p, a = .respond i response now → s.probes[i]? = some p →
    ∀ id e e', s.registry.services.get? id = some e →
      (s.step a).registry.services.get? id = some e' → e'.healthy ≠ e.healthy →
        p.svc.SameAddress e.toServiceManifest
  routable : ∀ i response now p, a = .respond i response now → s.probes[i]? = some p →
    response.healthy = false → ∀ id e, s.registry.services.get? id = some e →
      s.registry.isRoutable id = true → (s.step a).registry.isRoutable id = false →
        p.svc.SameAddress e.toServiceManifest

/-- A health check of a service that has moved away does not end with anything new. -/
def keepsToAddress (s : HealthMonitor) : MonitorAction → Bool
  | .respond i response _ =>
    match s.probes[i]? with
    | none => true
    | some p => !p.moved ||
      (s.registry.services.get? p.svc.serviceId).all (·.healthy.getD true == response.healthy)
  | .handleHealthChecks | .finish | .register .. | .settle .. | .deregister .. | .lifecycle .. =>
    true

/-- A health check counts as moved exactly when the entry stored has another address. -/
structure Tracked (s : HealthMonitor) : Prop where
  keys : OwnKeys s.registry.services
  moved : ∀ p ∈ s.probes, ∀ e, s.registry.services.get? p.svc.serviceId = some e →
    (p.moved = true ↔ ¬ p.svc.SameAddress e.toServiceManifest)

end HealthMonitor

theorem ownKeys_of_reachable {v : Validators} {r : RegistryService}
    (h : Proofs.Reachability.Reachable v r) : OwnKeys r.services :=
  fun id e he => (Proofs.Reachability.reachable_keyed h id e he).1

section

variable {services services' : ServiceRegistryMap} {r : RegistryService} {s : HealthMonitor}
  {id now : String}

theorem sameAddress_congr {m m' m'' : ServiceManifest} (h : m'.SameAddress m'') :
    m.SameAddress m' ↔ m.SameAddress m'' := by
  unfold ServiceManifest.SameAddress at h ⊢
  rw [h.1, h.2]

theorem KeepsAddresses.refl (services : ServiceRegistryMap) : KeepsAddresses services services :=
  fun _ e he => ⟨e, he, rfl, rfl, rfl⟩

theorem keepsAddresses_delete (services : ServiceRegistryMap) (id : String) :
    KeepsAddresses services (services.delete id) := by
  intro j e he
  rw [PlainObject.get?_delete] at he
  split at he
  · cases he
  · exact ⟨e, he, rfl, rfl, rfl⟩

/-- Assigning to an entry in place. -/
theorem keepsAddresses_set {e e' : ServiceRegistryEntry} (he : services.get? id = some e)
    (hid : e'.serviceId = e.serviceId) (ha : e.SameAddress e'.toServiceManifest) :
    KeepsAddresses services (services.set id e') := by
  intro j f hf
  rw [PlainObject.get?_set_of_some he] at hf
  split at hf
  · rename_i hj
    subst hj
    cases hf
    exact ⟨e, he, hid, ha⟩
  · exact ⟨f, hf, rfl, rfl, rfl⟩

theorem KeepsAddresses.ownKeys (h : KeepsAddresses services services') (hk : OwnKeys services) :
    OwnKeys services' := by
  intro id e' he'
  obtain ⟨e, he, hid, -⟩ := h id e' he'
  exact hid.trans (hk id e he)

theorem lifecycle_keepsAddresses (r : RegistryService) (c : LifecycleCall) (now : String) :
    KeepsAddresses r.services (r.lifecycle c now).registry.services := by
  have heff : Effect r now .acknowledged (.lifecycle c) (r.lifecycle c now).registry.services
      (r.lifecycle c now).command := lifecycle_effect c
  generalize (r.lifecycle c now).registry.services = services at heff ⊢
  generalize (r.lifecycle c now).command = command at heff
  cases heff with
  | kept | movedMember => exact .refl _
  | moved he hm => exact keepsAddresses_set he rfl ⟨rfl, rfl⟩
  | touched he => exact keepsAddresses_set he rfl ⟨rfl, rfl⟩

theorem deregister_keepsAddresses (r : RegistryService) (id now : String) :
    KeepsAddresses r.services (r.deregister id now).registry.services := by
  have heff : Effect r now .acknowledged (.deregister id) (r.deregister id now).registry.services
      (r.deregister id now).command := deregister_effect
  generalize (r.deregister id now).registry.services = services at heff ⊢
  generalize (r.deregister id now).command = command at heff
  cases heff with
  | kept => exact .refl _
  | deregistered hf => exact keepsAddresses_delete _ _

theorem resume_keepsAddresses (p : PendingRegister) (r : RegistryService) (write : Write) :
    KeepsAddresses r.services (p.resume r write).registry.services := by
  unfold PendingRegister.resume
  split
  · exact keepsAddresses_delete _ _
  · exact .refl _

theorem lifecycle_missing (c : LifecycleCall) (h : r.services.get? c.id = none) :
    (r.lifecycle c now).registry.services = r.services := by
  have heff : Effect r now .acknowledged (.lifecycle c) (r.lifecycle c now).registry.services
      (r.lifecycle c now).command := lifecycle_effect c
  generalize (r.lifecycle c now).registry.services = services at heff ⊢
  generalize (r.lifecycle c now).command = command at heff
  cases heff with
  | kept | movedMember => rfl
  | moved he hm => cases h.symm.trans he
  | touched he => cases h.symm.trans he

theorem endHealthCheck_missing (h : r.services.get? id = none) (response : HealthResponse)
    (now : String) : (r.endHealthCheck id response now).registry.services = r.services := by
  have hset : (r.setHealthStatus id response.healthy now).registry.services = r.services :=
    lifecycle_missing (.setHealthStatus id response.healthy) h
  have htouch : ((r.setHealthStatus id response.healthy now).registry.touchHealthCheck id
      now).registry.services = (r.setHealthStatus id response.healthy now).registry.services :=
    lifecycle_missing (.touchHealthCheck id) (by rw [hset]; exact h)
  simp only [RegistryService.endHealthCheck]
  split
  · exact hset
  · exact htouch.trans hset

/-- What the end of a health check writes to the entry of its service. -/
theorem endHealthCheck_stored {e : ServiceRegistryEntry} (he : r.services.get? id = some e)
    (response : HealthResponse) (now : String) :
    (r.endHealthCheck id response now).registry.services = r.services.set id
      (if e.healthy.getD true = response.healthy then { e with lastHealthCheckAt := .value now }
        else (RegistryService.healthChanges response.healthy now).applyTo e) := by
  have hf := RegistryService.find_of_get? he
  by_cases hh : e.healthy.getD true = response.healthy
  · simp only [RegistryService.endHealthCheck, RegistryService.setHealthStatus,
      RegistryService.touchHealthCheck, hf, Found.healthy, hh, ↓reduceIte]
    rfl
  · simp only [RegistryService.endHealthCheck, RegistryService.setHealthStatus, hf,
      Found.healthy, hh, ↓reduceIte]
    rfl

theorem endHealthCheck_keyed (h : Proofs.Reachability.Keyed r.services) (id : String)
    (response : HealthResponse) (now : String) :
    Proofs.Reachability.Keyed (r.endHealthCheck id response now).registry.services := by
  cases he : r.services.get? id with
  | none => rwa [endHealthCheck_missing he]
  | some e =>
    obtain ⟨hid, hmatches⟩ := h id e he
    rw [endHealthCheck_stored he]
    refine h.set ⟨?_, hmatches⟩
    split
    · exact hid
    · exact hid

/-- The end of a health check keeps every entry, up to the flag and the time of the check, and sets
the flag of its own service where the answer is new. -/
theorem endHealthCheck_entry {e : ServiceRegistryEntry} {j : String}
    (he : r.services.get? j = some e) (id : String) (response : HealthResponse) (now : String) :
    ∃ e', (r.endHealthCheck id response now).registry.services.get? j = some e' ∧
      e'.status = e.status ∧
      (e'.healthy ≠ e.healthy ↔ j = id ∧ e.healthy.getD true ≠ response.healthy) := by
  cases hid : r.services.get? id with
  | none =>
    rw [endHealthCheck_missing hid]
    refine ⟨e, he, rfl, fun h => absurd rfl h, ?_⟩
    rintro ⟨rfl, -⟩
    cases he.symm.trans hid
  | some f =>
    rw [endHealthCheck_stored hid, PlainObject.get?_set_of_some hid]
    by_cases hj : j = id
    · subst hj
      obtain rfl := Option.some.inj (he.symm.trans hid)
      refine ⟨_, if_pos rfl, ?_⟩
      by_cases hh : e.healthy.getD true = response.healthy
      · simp [hh]
      · have hne : Optional.value response.healthy ≠ e.healthy := by
          intro heq
          rw [← heq] at hh
          exact hh rfl
        simpa [hh, RegistryService.healthChanges, Changes.applyTo] using hne
    · exact ⟨e, by rw [if_neg hj, he], rfl, by simp [hj]⟩

theorem endHealthCheck_keepsAddresses (r : RegistryService) (id : String)
    (response : HealthResponse) (now : String) :
    KeepsAddresses r.services (r.endHealthCheck id response now).registry.services := by
  cases he : r.services.get? id with
  | none =>
    rw [endHealthCheck_missing he]
    exact .refl _
  | some e =>
    rw [endHealthCheck_stored he]
    refine keepsAddresses_set he ?_ ?_
    · split <;> rfl
    · split <;> exact ⟨rfl, rfl⟩

theorem isRoutable_congr {r r' : RegistryService} {e e' : ServiceRegistryEntry}
    (he : r.services.get? id = some e) (he' : r'.services.get? id = some e')
    (hs : e'.status = e.status) (hh : e'.healthy = e.healthy) :
    r'.isRoutable id = r.isRoutable id := by
  unfold RegistryService.isRoutable
  rw [RegistryService.find_of_get? he, RegistryService.find_of_get? he']
  simp [Found.healthy, Found.status, hs, hh]

namespace HealthMonitor

/-- A step that registers nothing and sends nothing. -/
theorem Tracked.of_keeps {s' : HealthMonitor} (h : Tracked s)
    (hk : KeepsAddresses s.registry.services s'.registry.services)
    (hp : ∀ p ∈ s'.probes, p ∈ s.probes) : Tracked s' where
  keys := hk.ownKeys h.keys
  moved p hmem e' he' := by
    obtain ⟨e, he, -, hsame⟩ := hk _ e' he'
    rw [h.moved p (hp p hmem) e he, sameAddress_congr hsame]

/-- A sweep asks every service at the address it has. -/
theorem Tracked.sweep (h : Tracked s) : Tracked s.handleHealthChecks := by
  unfold handleHealthChecks
  split
  · exact h
  · refine ⟨h.keys, ?_⟩
    intro p hp e he
    obtain ⟨svc, hsvc, rfl⟩ := List.mem_map.mp hp
    obtain ⟨id, hid⟩ := (PlainObject.mem_values_iff _ svc).mp (List.mem_filter.mp hsvc).1
    have hkey : svc.serviceId = id := h.keys id svc hid
    have heq : s.registry.services.get? svc.serviceId = some e := he
    rw [hkey, hid] at heq
    cases heq
    simp [Probe.moved, ServiceManifest.SameAddress]

theorem Tracked.respond (h : Tracked s) (i : Nat) (response : HealthResponse) (now : String) :
    Tracked (s.respond i response now) := by
  unfold HealthMonitor.respond
  split
  · exact h
  · exact h.of_keeps (endHealthCheck_keepsAddresses _ _ _ _) fun p hp => List.mem_of_mem_eraseIdx hp

/-- A registration moves the health checks of its service to the address of its entry. -/
theorem Tracked.register (h : Tracked s) (m : ServiceManifest) (now : String) :
    Tracked (s.register m now) := by
  unfold HealthMonitor.register
  cases ha : registerChecks (s.registry.find m.serviceId) m with
  | error t =>
    rw [beginRegister_refused now ha]
    exact h
  | ok previousVersion =>
    rw [beginRegister_admitted now ha]
    refine ⟨?_, ?_⟩
    · intro id e he
      rw [RegistryService.putAndSync_services, PlainObject.get?_set] at he
      split at he
      · rename_i hid
        cases he
        exact hid.1.symm
      · exact h.keys id e he
    · intro p' hp' e he
      obtain ⟨p, hp, rfl⟩ := List.mem_map.mp hp'
      rw [Probe.register_svc, RegistryService.putAndSync_services] at he
      by_cases hid : m.serviceId = p.svc.serviceId
      · rw [hid, PlainObject.get?_set_self _ (PlainObject.ne_proto_of_get? he)] at he
        cases he
        rw [Probe.register_svc]
        exact Probe.moved_register hid
      · rw [PlainObject.get?_set_ne _ (Ne.symm hid)] at he
        rw [Probe.register_of_ne hid]
        exact h.moved p hp e he

theorem Tracked.step (h : Tracked s) (a : MonitorAction) : Tracked (s.step a) := by
  cases a with
  | handleHealthChecks => exact h.sweep
  | respond i response now => exact h.respond i response now
  | finish =>
    simp only [HealthMonitor.step, HealthMonitor.finish]
    split
    · exact h.of_keeps (.refl _) fun p hp => hp
    · exact h
  | register m now => exact h.register m now
  | settle i write =>
    simp only [HealthMonitor.step, HealthMonitor.settle]
    split
    · exact h
    · exact h.of_keeps (resume_keepsAddresses _ _ _) fun p hp => hp
  | deregister id now => exact h.of_keeps (deregister_keepsAddresses _ _ _) fun p hp => hp
  | lifecycle c now => exact h.of_keeps (lifecycle_keepsAddresses _ _ _) fun p hp => hp

theorem tracked_new {r : RegistryService} (h : OwnKeys r.services) : Tracked { registry := r } where
  keys := h
  moved p hp := by cases hp

theorem step_respond {i : Nat} {p : Probe} (hp : s.probes[i]? = some p)
    (response : HealthResponse) (now : String) :
    (s.step (.respond i response now)).registry =
      (s.registry.endHealthCheck p.svc.serviceId response now).registry := by
  simp only [HealthMonitor.step, HealthMonitor.respond, hp]

theorem keepsToAddress_respond {i : Nat} {p : Probe} (hp : s.probes[i]? = some p)
    (response : HealthResponse) (now : String) :
    s.keepsToAddress (.respond i response now) = true ↔
      (p.moved = true → ∀ e, s.registry.services.get? p.svc.serviceId = some e →
        e.healthy.getD true = response.healthy) := by
  simp only [keepsToAddress, hp]
  cases p.moved with
  | false => simp
  | true => cases s.registry.services.get? p.svc.serviceId <;> simp

/-- A flag that a health check leaves alone keeps its entry in routing. -/
theorem AppliesToProbed.of_flag {a : MonitorAction}
    (h : ∀ i response now p, a = .respond i response now → s.probes[i]? = some p →
      ∀ id e e', s.registry.services.get? id = some e →
        (s.step a).registry.services.get? id = some e' → e'.healthy ≠ e.healthy →
          p.svc.SameAddress e.toServiceManifest) : AppliesToProbed s a where
  flag := h
  routable i response now p ha hp _ id e he hr hr' := by
    obtain ⟨e', he', hs, -⟩ := endHealthCheck_entry he p.svc.serviceId response now
    rw [← step_respond hp, ← ha] at he'
    refine h i response now p ha hp id e e' he he' fun hh => ?_
    rw [isRoutable_congr he he' hs hh, hr] at hr'
    cases hr'

theorem appliesToProbed_iff (h : Tracked s) (a : MonitorAction) :
    AppliesToProbed s a ↔ s.keepsToAddress a = true := by
  constructor
  · intro ha
    cases a with
    | respond i response now =>
      cases hp : s.probes[i]? with
      | none => simp [keepsToAddress, hp]
      | some p =>
        rw [keepsToAddress_respond hp]
        intro hm e he
        by_contra hnew
        obtain ⟨e', he', -, hflag⟩ := endHealthCheck_entry he p.svc.serviceId response now
        rw [← step_respond hp] at he'
        have hsame := ha.flag i response now p rfl hp _ e e' he he' (hflag.mpr ⟨rfl, hnew⟩)
        exact (h.moved p (List.mem_of_getElem? hp) e he).mp hm hsame
    | handleHealthChecks | finish | register | settle | deregister | lifecycle => rfl
  · intro hk
    refine .of_flag fun i response now p ha hp id e e' he he' hne => ?_
    subst ha
    rw [step_respond hp] at he'
    obtain ⟨f, hf, -, hflag⟩ := endHealthCheck_entry he p.svc.serviceId response now
    obtain rfl := Option.some.inj (hf.symm.trans he')
    obtain ⟨rfl, hnew⟩ := hflag.mp hne
    by_contra hother
    have hm := (h.moved p (List.mem_of_getElem? hp) e he).mpr hother
    exact hnew ((keepsToAddress_respond hp response now).mp hk hm e he)

end HealthMonitor

end

namespace HealthMonitor

/-- In a run that starts with no health check on its way, results go to what was probed exactly if
none comes with something new for a service that has moved away. -/
theorem results_apply_iff {r : RegistryService} (h : OwnKeys r.services)
    (as : List MonitorAction) :
    Always step AppliesToProbed { registry := r } as ↔
      Always step (fun s a => s.keepsToAddress a = true) { registry := r } as :=
  always_iff_of_kept (I := Tracked) (fun _ a hi => appliesToProbed_iff hi a)
    (fun _ a hi _ => hi.step a) (tracked_new h) as

def ordersAt (baseUrl : String) : ServiceManifest :=
  { manifestOf "orders" baseUrl "1.0.0" with healthCheck := .value "/health" }

/-- `orders` registers at another address while a health check of the first one is on its way. -/
def moveAndRespond (response : HealthResponse) : List MonitorAction :=
  [.register (ordersAt "http://orders:1") "t0", .settle 0 .acknowledged, .handleHealthChecks,
    .register (ordersAt "http://orders:2") "t1", .settle 0 .acknowledged,
    .respond 0 response "t2"]

theorem results_apply_late_success :
    Always step AppliesToProbed { registry := {} } (moveAndRespond (.responded 200)) := by
  have hkeys : OwnKeys ({} : RegistryService).services :=
    ownKeys_of_reachable (v := ⟨fun _ => true, fun _ => true⟩) (.fresh false)
  refine (results_apply_iff hkeys _).mpr ?_
  exact ⟨by decide, by decide, by decide, by decide, by decide, by decide, trivial⟩

/-- The failure of the old address makes the service unroutable at the new one. -/
theorem late_failure_applies :
    ¬ Always step AppliesToProbed { registry := {} }
      (moveAndRespond (.failed "timeout of 5000ms exceeded")) := by
  intro h
  obtain ⟨-, -, -, -, -, hlate, -⟩ := h
  have hsame := hlate.routable 0 _ _ _ rfl rfl rfl "orders" _ rfl (by decide) (by decide)
  exact absurd hsame (by decide)

end HealthMonitor

end ApiCenter
