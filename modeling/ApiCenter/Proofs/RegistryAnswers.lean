import ApiCenter.Model.RegistryController
import ApiCenter.Proofs.ConsumerViews
import ApiCenter.Proofs.HealthResults
import ApiCenter.Proofs.Messages

namespace ApiCenter
open Library

/-- An entry without what health checks write to it. -/
def ServiceRegistryEntry.unprobed (e : ServiceRegistryEntry) : ServiceRegistryEntry :=
  { e with healthy := .undefined, lastHealthCheckAt := .undefined, updatedAt := "" }

/-- What the answers to the requests so far say is registered, and what they say was assigned to
`services['__proto__']`. -/
structure Bulletin where
  services : Table String ServiceRegistryEntry := ∅
  assigned : Changes := {}

namespace Bulletin

variable {v : Validators}

def insert (l : Bulletin) (id : String) (e : ServiceRegistryEntry) : Bulletin :=
  { l with services := l.services.insert id e }

def erase (l : Bulletin) (id : String) : Bulletin := { l with services := l.services.erase id }

def amend (l : Bulletin) (id : String) (m : InheritedMember) : Bulletin :=
  if id = "__proto__" then { l with assigned := m.own } else l

def enter (l : Bulletin) (id : String) : RegistryData → Bulletin
  | .entry (.entry e) | .amended (.entry e) _ => l.insert id e
  | .entry (.member m) | .amended (.member m) _ => l.amend id m
  | .services _ | .removed .. | .consumers .. => l

def answered (l : Bulletin) (reply : Except Exception RegistryReply) :
    RegistryRoute (ServiceManifestDto v) (DeprecateServiceDto v) → Bulletin
  | .register dto =>
    match reply with
    | .ok reply => l.enter dto.serviceId reply.data
    -- the one error that is no `AppError`: a write that failed takes the entry out
    | .error (.unexpected ..) => l.erase dto.serviceId
    | .error _ => l
  | .deregister id =>
    match reply with
    | .ok _ => l.erase id
    | .error _ => l
  | .deprecateService id _ | .retire id | .activate id =>
    match reply with
    | .ok reply => l.enter id reply.data
    | .error _ => l
  | .listServices | .getService _ | .getConsumers _ => l

/-- A body the pipe refuses registers nothing. -/
def note (pipe : ValidationPipe v) (l : Bulletin) (route : RegistryRoute Json Json)
    (reply : Except Exception RegistryReply) : Bulletin :=
  match pipe.transform route with
  | .ok route => l.answered reply route
  | .error _ => l

end Bulletin

/-- A registry and what its clients have been told. -/
structure Observed where
  registry : RegistryService
  bulletin : Bulletin := {}

namespace Observed

variable {v : Validators}

def step (api : RegistryApi v) (s : Observed) (a : ApiAction) : Observed :=
  { registry := api.step s.registry a
    bulletin := match a with
      | .request req =>
        s.bulletin.note api.pipe req.route (api.serve s.registry req).reply
      | .handleHealthChecks _ => s.bulletin }

end Observed

namespace Proofs.RegistryAnswers
open Calls Reachability ConsumerViews Messages

/-- The entries are those of the bulletin, up to health checks, and `Object.prototype` has what the
bulletin says. -/
structure Matches (r : RegistryService) (l : Bulletin) : Prop where
  entries : ∀ id, (r.services.get? id).map (·.unprobed) = (l.services.lookup id).map (·.unprobed)
  assigned : r.assigned = l.assigned
  replaced : r.replaced = none

/-- How the reading routes answer a request, as far as the bulletin says. -/
structure ReadsAs (l : Bulletin) (req : AdminRequest)
    (reply : Except Exception RegistryReply) : Prop where
  entry : ∀ id e, req.route = .getService id → l.services.lookup id = some e → ∃ e',
    reply = .ok { data := .entry (.entry e'), timestamp := req.ctx.timestamp } ∧
      e'.unprobed = e.unprobed
  missing : ∀ id, req.route = .getService id ∨ req.route = .getConsumers id →
    l.services.lookup id = none → id ∉ objectPrototype → l.assigned.property id = none →
      reply = .error (.appError s!"Service '{id}' is not registered" 404 "NOT_FOUND")
  listed : req.route = .listServices → ∃ entries : List ServiceRegistryEntry,
    reply = .ok { data := .services (entries.map fun e => e.summary)
                  total := some entries.length, timestamp := req.ctx.timestamp } ∧
      (entries.map (·.serviceId)).Nodup ∧
      ∀ e, e ∈ entries.map (·.unprobed) ↔
        ∃ id e', l.services.lookup id = some e' ∧ e'.unprobed = e
  consumers : ∀ id e, req.route = .getConsumers id → l.services.lookup id = some e → ∃ consumers,
    reply = .ok { data := .consumers id consumers, total := some consumers.length
                  timestamp := req.ctx.timestamp } ∧
      consumers.Nodup ∧
      ∀ source, source ∈ consumers ↔ ∃ e, l.services.lookup source = some e ∧ id ∈ e.consumes

variable {v : Validators} {r : RegistryService} {l : Bulletin} {id now : String}

section

/-- What was assigned to `Object.prototype` is as before. -/
def KeepsPrototype (r r' : RegistryService) : Prop :=
  r'.assigned = r.assigned ∧ r'.replaced = r.replaced

/-- A lifecycle call that does not throw answers what it stores. -/
inductive Amended (r : RegistryService) (id : String) (out : Outcome Found) : Prop
  | refused (h : out = { registry := r, result := .error e })
  | stored (hg : r.services.get? id = some e) (hr : out.result = .ok (.entry e'))
      (hs : out.registry.services = r.services.set id e') (hk : KeepsPrototype r out.registry)
  | member (hr : out.result = .ok (.member m)) (hs : out.registry.services = r.services)
      (hm : r.replaced = none → out.registry.replaced = none ∧
        out.registry.assigned = if id = "__proto__" then m.own else r.assigned)

theorem amended (r : RegistryService) (id : String) (choose : Found → Except Thrown Changes)
    (sync : Bool) (events : Found → List KafkaMessage) :
    Amended r id (r.amend id choose sync events) := by
  unfold RegistryService.amend
  cases hf : r.find id with
  | none => exact .refused rfl
  | some found =>
    cases hc : choose found >>= found.assign with
    | error e =>
      simp only [hc]
      exact .refused rfl
    | ok assigned =>
      obtain ⟨changes, -, ha⟩ := choose_assign_ok hc
      simp only [hc]
      cases found with
      | entry e =>
        cases ha
        have he := (r.find_entry_iff id e).mp hf
        cases sync <;> exact .stored he rfl rfl ⟨rfl, rfl⟩
      | member m =>
        obtain ⟨rfl, -⟩ := RegistryService.assign_member_ok ha
        have hs := r.store_member_services id (changes.applyToMember m)
        have hm : r.replaced = none →
            (r.store id (.member (changes.applyToMember m))).replaced = none ∧
              (r.store id (.member (changes.applyToMember m))).assigned =
                if id = "__proto__" then (changes.applyToMember m).own else r.assigned :=
          fun hr => ⟨RegistryService.replaced_store hr id _,
            RegistryService.assigned_store_member hr id _⟩
        cases sync <;> exact .member rfl hs hm

/-- Writing the entry of an answer down on both sides. -/
theorem Matches.set (h : Matches r l) {r' : RegistryService} {e : ServiceRegistryEntry}
    (hid : id ≠ "__proto__") (hs : r'.services = r.services.set id e)
    (hk : KeepsPrototype r r') : Matches r' (l.insert id e) := by
  refine ⟨fun j => ?_, hk.1.trans h.assigned, hk.2.trans h.replaced⟩
  rw [hs, PlainObject.get?_set]
  simp only [Bulletin.insert, Table.lookup_insert_if]
  by_cases hj : j = id
  · simp [hj, hid]
  · simpa [hj] using h.entries j

theorem Matches.delete (h : Matches r l) {r' : RegistryService}
    (hs : r'.services = r.services.delete id) (hk : KeepsPrototype r r') :
    Matches r' (l.erase id) := by
  refine ⟨fun j => ?_, hk.1.trans h.assigned, hk.2.trans h.replaced⟩
  rw [hs, PlainObject.get?_delete]
  simp only [Bulletin.erase, Table.lookup_erase_if]
  by_cases hj : j = id
  · simp [hj]
  · simpa [hj] using h.entries j

theorem Matches.rolledBack (h : Matches r l) (hid : id ≠ "__proto__")
    (e : ServiceRegistryEntry) {r' : RegistryService}
    (hs : r'.services = (r.services.set id e).delete id) (hk : KeepsPrototype r r') :
    Matches r' (l.erase id) := by
  have hset : Matches { r with services := r.services.set id e } (l.insert id e) :=
    h.set hid rfl ⟨rfl, rfl⟩
  have hdel : Matches r' ((l.insert id e).erase id) := hset.delete hs hk
  rwa [Bulletin.erase, Bulletin.insert, Table.erase_insert] at hdel

theorem Matches.of_services (h : Matches r l) {r' : RegistryService}
    (hs : r'.services = r.services) (hk : KeepsPrototype r r') : Matches r' l := by
  refine ⟨fun j => ?_, hk.1.trans h.assigned, hk.2.trans h.replaced⟩
  rw [hs]
  exact h.entries j

/-- The entry an answer shows, entered under its id. -/
def entered (l : Bulletin) (id : String) (data : Found → RegistryData) :
    Except Thrown Found → Bulletin
  | .ok found => l.enter id (data found)
  | .error _ => l

theorem Matches.entered (h : Matches r l) {out : Outcome Found} (ha : Amended r id out)
    {data : Found → RegistryData} (hentry : ∀ e, l.enter id (data (.entry e)) = l.insert id e)
    (hmember : ∀ m, l.enter id (data (.member m)) = l.amend id m) :
    Matches out.registry (entered l id data out.result) := by
  cases ha with
  | refused ho =>
    subst ho
    exact h
  | @stored e e' hg hr hs hk =>
    have hl : RegistryAnswers.entered l id data out.result = l.insert id e' := by
      rw [hr]
      exact hentry e'
    rw [hl]
    exact h.set (PlainObject.ne_proto_of_get? hg) hs hk
  | @member m hr hs hm =>
    have hl : RegistryAnswers.entered l id data out.result = l.amend id m := by
      rw [hr]
      exact hmember m
    obtain ⟨hreplaced, hassigned⟩ := hm h.replaced
    rw [hl]
    unfold Bulletin.amend
    split
    · rename_i hid
      exact ⟨fun j => hs ▸ h.entries j, by rw [hassigned, if_pos hid], hreplaced⟩
    · rename_i hid
      exact ⟨fun j => hs ▸ h.entries j, by rw [hassigned, if_neg hid, h.assigned], hreplaced⟩

/-- What is noted of a lifecycle route is what its answer shows. -/
theorem answered_amended {out : Outcome Found} (reply : Found → RegistryReply)
    {route : RegistryRoute (ServiceManifestDto v) (DeprecateServiceDto v)}
    (hok : ∀ answer, l.answered (.ok answer) route = l.enter id answer.data)
    (herror : ∀ e, l.answered (.error e) route = l) :
    l.answered ((out.map reply).result.mapError Thrown.exception) route =
      entered l id (fun found => (reply found).data) out.result := by
  unfold Outcome.map
  cases out.result with
  | ok found => exact hok (reply found)
  | error e => exact herror e.exception

theorem versionGovernance_http {existing : Option Found} {m : ServiceManifest} {e : Thrown}
    (h : versionGovernance existing m = .error e) : e.status ≠ none := by
  unfold versionGovernance at h
  split at h
  · rename_i current next hcurrent hnext
    unfold validateVersionUpgrade at h
    split at h
    · split at h <;> cases h
      simp [Thrown.status]
    · cases h
  · cases h

/-- The checks of a registration throw an `AppError` only. -/
theorem registerChecks_http {existing : Option Found} {m : ServiceManifest} {e : Thrown}
    (h : registerChecks existing m = .error e) : e.status ≠ none := by
  unfold registerChecks at h
  cases hv : versionGovernance existing m with
  | error e' =>
    obtain rfl : e' = e := by simpa [hv] using h
    exact versionGovernance_http hv
  | ok previousVersion =>
    simp only [hv] at h
    split at h <;> cases h
    simp [Thrown.status]

/-- A write that fails is thrown as an error of the runtime. -/
theorem register_failed {m : ServiceManifest} {write : Write} (now : String)
    (h : registerChecks (r.find m.serviceId) m = .ok previousVersion) (hr : r.redis = true)
    (hw : write = .failed message) :
    ∃ text, (r.register m now write).result = .error (.error text) := by
  rw [register_admitted _ _ h]
  simp [PendingRegister.resume, hr, hw]

/-- Whatever a route does to the registry, its answer says. -/
theorem handle_matches (h : Matches r l) (write : Write) (ctx : HandlerContext)
    (route : RegistryRoute (ServiceManifestDto v) (DeprecateServiceDto v)) :
    Matches (route.handle r write ctx).registry
      (l.answered ((route.handle r write ctx).result.mapError Thrown.exception) route) := by
  cases route with
  | listServices | getService | getConsumers => exact h
  | register dto =>
    change Matches (r.register dto.toManifest ctx.now write).registry _
    have hsame := register_inherits r dto.toManifest ctx.now write
    have hk : KeepsPrototype r (r.register dto.toManifest ctx.now write).registry :=
      ⟨RegistryService.assigned_congr hsame.1, hsame.2⟩
    simp only [RegistryRoute.handle, RegistryController.register, Outcome.map]
    cases ha : registerChecks (r.find dto.toManifest.serviceId) dto.toManifest with
    | error e =>
      rw [register_refused _ _ ha]
      clear hk hsame
      have hhttp := registerChecks_http ha
      cases e with
      | typeError | error => simp [Thrown.status] at hhttp
      | _ => exact h
    | ok previousVersion =>
      rcases write_cases r write with hw | ⟨hr, message, hw⟩
      · obtain ⟨hs, -, hresult⟩ := register_stored ctx.now write ha hw
        rw [hresult]
        exact h.set dto.serviceId_ne_proto hs hk
      · obtain ⟨hreg, -, -⟩ := register_rolledBack ctx.now ha hr hw
        obtain ⟨text, hresult⟩ := register_failed ctx.now ha hr hw
        rw [hresult]
        exact h.rolledBack dto.serviceId_ne_proto _ (congrArg RegistryService.services hreg) hk
  | deregister serviceId =>
    change Matches (r.deregister serviceId ctx.now).registry _
    simp only [RegistryRoute.handle, RegistryController.deregister, Outcome.map,
      RegistryService.deregister, RegistryService.beginDeregister]
    cases hf : r.find serviceId with
    | none => exact h
    | some found => exact h.delete rfl ⟨rfl, rfl⟩
  | deprecateService serviceId dto =>
    change Matches (r.deprecateService serviceId dto.sunsetDate dto.replacementService
      ctx.now).registry _
    simp only [RegistryRoute.handle, RegistryController.deprecateService]
    rw [answered_amended _ (fun _ => rfl) (fun _ => rfl)]
    exact h.entered (amended _ _ _ _ _) (fun _ => rfl) (fun _ => rfl)
  | retire serviceId =>
    change Matches (r.retire serviceId ctx.now).registry _
    simp only [RegistryRoute.handle, RegistryController.retire]
    rw [answered_amended _ (fun _ => rfl) (fun _ => rfl)]
    exact h.entered (amended _ _ _ _ _) (fun _ => rfl) (fun _ => rfl)
  | activate serviceId =>
    change Matches (r.activate serviceId ctx.now).registry _
    simp only [RegistryRoute.handle, RegistryController.activate]
    rw [answered_amended _ (fun _ => rfl) (fun _ => rfl)]
    exact h.entered (amended _ _ _ _ _) (fun _ => rfl) (fun _ => rfl)

/-- The guard throws an `UnauthorizedError` only. -/
theorem guard_unauthorized {api : RegistryApi v} {req : AdminRequest} {e : Thrown}
    (h : api.guard req = .error e) : e.status = some 401 := by
  unfold RegistryApi.guard ScopedAdminGuard.canActivate at h
  split at h
  · cases h
  · split at h
    · cases h
      rfl
    · split at h
      · cases h
        rfl
      · split at h
        · cases h
          rfl
        · split at h <;> cases h
          rfl

/-- An `HttpException` leaves the bulletin as it is, whatever it answers. -/
theorem answered_http {e : Exception} (h : e.getStatus ≠ none) (l : Bulletin)
    (route : RegistryRoute (ServiceManifestDto v) (DeprecateServiceDto v)) :
    l.answered (.error e) route = l := by
  cases e with
  | unexpected message stack => exact absurd rfl h
  | httpException status response message code => cases route <;> rfl

/-- What turned a request away before the controller's guard, if anything did, is an
`HttpException`. -/
def TurnedAwayByHttp (req : AdminRequest) : Prop :=
  ∀ e, req.refusal = some e → e.getStatus ≠ none

/-- A request whose body the pipe accepts comes to its handler, unless an `HttpException` comes
first. -/
theorem admit_error {api : RegistryApi v} {req : AdminRequest} {e : Exception}
    (hr : TurnedAwayByHttp req) (ht : api.pipe.transform req.route = .ok route)
    (h : api.admitted req = .error e) : e.getStatus ≠ none := by
  unfold RegistryApi.admitted at h
  split at h
  · rename_i e' hrefusal
    cases h
    exact hr e hrefusal
  · split at h
    · rename_i t hg
      cases h
      rw [Thrown.getStatus_exception, guard_unauthorized hg]
      simp
    · cases h.symm.trans ht

theorem serve_matches (h : Matches r l) (api : RegistryApi v) {req : AdminRequest}
    (hr : TurnedAwayByHttp req) :
    Matches (api.serve r req).registry (l.note api.pipe req.route (api.serve r req).reply) := by
  unfold RegistryApi.serve Bulletin.note
  cases ha : api.admitted req with
  | error e =>
    cases ht : api.pipe.transform req.route with
    | error e' => exact h
    | ok route =>
      simp only
      rw [answered_http (admit_error hr ht ha)]
      exact h
  | ok route =>
    simp only [(RegistryApi.admitted_ok ha).2.2]
    exact handle_matches h req.write req.ctx route

theorem endHealthCheck_unprobed (h : Matches r l) (hid : id ≠ "__proto__")
    (response : HealthResponse) (now : String) :
    Matches (r.endHealthCheck id response now).registry l := by
  have hmembers := endHealthCheck_members r id response now
  have hk : KeepsPrototype r (r.endHealthCheck id response now).registry :=
    ⟨hmembers.assigned_ne hid, hmembers.replaced_ne hid⟩
  cases he : r.services.get? id with
  | none => exact h.of_services (endHealthCheck_missing he response now) hk
  | some e =>
    refine ⟨fun j => ?_, hk.1.trans h.assigned, hk.2.trans h.replaced⟩
    rw [endHealthCheck_stored he,
      PlainObject.map_get?_set_of_some (·.unprobed) he]
    · exact h.entries j
    · split <;> rfl

/-- Every entry is stored under its own id, which the DTO accepts, and is as the bulletin has it. -/
structure Consistent (s : Observed) : Prop where
  keyed : Keyed s.registry.services
  matched : Matches s.registry s.bulletin

theorem handle_keyed (h : Keyed r.services) (write : Write) (ctx : HandlerContext)
    (route : RegistryRoute (ServiceManifestDto v) (DeprecateServiceDto v)) :
    Keyed (route.handle r write ctx).registry.services := by
  cases route with
  | listServices | getService | getConsumers => exact h
  | register dto => exact (call_keyed h (.register dto) ctx.now write).1
  | deregister id => exact (call_keyed h (.deregister (v := v) id) ctx.now write).1
  | deprecateService id dto =>
    exact (call_keyed h (.lifecycle (v := v)
      (.deprecateService id dto.sunsetDate dto.replacementService)) ctx.now write).1
  | retire id => exact (call_keyed h (.lifecycle (v := v) (.retire id)) ctx.now write).1
  | activate id => exact (call_keyed h (.lifecycle (v := v) (.activate id)) ctx.now write).1

theorem serve_keyed (h : Keyed r.services) (api : RegistryApi v) (req : AdminRequest) :
    Keyed (api.serve r req).registry.services := by
  unfold RegistryApi.serve
  cases api.admitted req with
  | error e => exact h
  | ok route => exact handle_keyed h req.write req.ctx route

theorem step_consistent (api : RegistryApi v) (s : Observed) (a : ApiAction) (h : Consistent s)
    (hr : ∀ req, a = .request req → TurnedAwayByHttp req) : Consistent (s.step api a) := by
  cases a with
  | request req =>
    exact ⟨serve_keyed h.keyed api req, serve_matches h.matched api (hr req rfl)⟩
  | handleHealthChecks answers =>
    constructor
    · exact RegistryService.sweep_induction (I := fun r => Keyed r.services)
        (fun _ id response now hr => endHealthCheck_keyed hr id response now) h.keyed answers
    · exact RegistryService.sweep_induction_listed (I := fun r => Matches r s.bulletin)
        (fun _ id response now hid hr => endHealthCheck_unprobed hr hid response now)
        (fun _ hsvc => h.keyed.serviceId_ne_proto hsvc) h.matched answers

theorem Matches.stored (h : Matches r l) {e : ServiceRegistryEntry}
    (he : l.services.lookup id = some e) :
    ∃ e', r.services.get? id = some e' ∧ e'.unprobed = e.unprobed := by
  have hid := h.entries id
  rw [he, Option.map_some, Option.map_eq_some_iff] at hid
  exact hid

theorem Matches.noted (h : Matches r l) {e : ServiceRegistryEntry}
    (he : r.services.get? id = some e) :
    ∃ e', l.services.lookup id = some e' ∧ e'.unprobed = e.unprobed := by
  have hid := h.entries id
  rw [he, Option.map_some] at hid
  exact Option.map_eq_some_iff.mp hid.symm

theorem Matches.find_none (h : Matches r l) (hl : l.services.lookup id = none)
    (hp : id ∉ objectPrototype) (ha : l.assigned.property id = none) : r.find id = none := by
  have hid := h.entries id
  rw [hl, Option.map_none, Option.map_eq_none_iff] at hid
  refine (r.find_none_iff id).mpr ⟨hid, ?_⟩
  rw [RegistryService.inheritedMember_eq_none_iff h.replaced, h.assigned]
  exact ⟨hp, ha⟩

/-- Health checks write to none of the consumers. -/
theorem consumes_of_unprobed {e e' : ServiceRegistryEntry} (h : e.unprobed = e'.unprobed) :
    e.consumes = e'.consumes := by
  have hconsumes := congrArg (fun e => e.consumes) h
  exact hconsumes

theorem Consistent.mem_consumers {s : Observed} (h : Consistent s) (source id : String) :
    source ∈ s.registry.getConsumers id ↔
      ∃ e, s.bulletin.services.lookup source = some e ∧ id ∈ e.consumes := by
  rw [mem_getConsumers h.keyed]
  constructor
  · intro hex
    obtain ⟨e, he, hid⟩ := hex
    obtain ⟨e', he', hu⟩ := h.matched.noted he
    exact ⟨e', he', consumes_of_unprobed hu ▸ hid⟩
  · intro hex
    obtain ⟨e, he, hid⟩ := hex
    obtain ⟨e', he', hu⟩ := h.matched.stored he
    exact ⟨e', he', consumes_of_unprobed hu ▸ hid⟩

theorem Consistent.mem_entries {s : Observed} (h : Consistent s) (e : ServiceRegistryEntry) :
    e ∈ s.registry.services.values.map (·.unprobed) ↔
      ∃ id e', s.bulletin.services.lookup id = some e' ∧ e'.unprobed = e := by
  simp only [List.mem_map, PlainObject.mem_values_iff]
  constructor
  · intro hex
    obtain ⟨stored, ⟨id, hs⟩, hu⟩ := hex
    obtain ⟨e', he', hu'⟩ := h.matched.noted hs
    exact ⟨id, e', he', hu'.trans hu⟩
  · intro hex
    obtain ⟨id, e', he', hu⟩ := hex
    obtain ⟨stored, hs, hu'⟩ := h.matched.stored he'
    exact ⟨stored, ⟨id, hs⟩, hu'.trans hu⟩

theorem Consistent.reads {s : Observed} (h : Consistent s) (api : RegistryApi v)
    (req : AdminRequest) (hr : req.refusal = none) (hadmin : api.guard req = .ok claims) :
    ReadsAs s.bulletin req (api.serve s.registry req).reply := by
  have hadmit := RegistryApi.admitted_granted hr hadmin
  constructor
  · intro id e hroute he
    obtain ⟨e', hs, hu⟩ := h.matched.stored he
    refine ⟨e', ?_, hu⟩
    simp only [RegistryApi.serve, hadmit, hroute, ValidationPipe.transform, RegistryRoute.handle,
      RegistryController.getService, RegistryService.get, RegistryService.find_of_get? hs]
    rfl
  · intro id hroute hl hp hassigned
    have hf := h.matched.find_none hl hp hassigned
    rcases hroute with hroute | hroute <;>
      simp only [RegistryApi.serve, hadmit, hroute, ValidationPipe.transform,
        RegistryRoute.handle, RegistryController.getService, RegistryController.getConsumers,
        RegistryService.get, hf] <;>
      rfl
  · intro hroute
    refine ⟨s.registry.services.values, ?_, serviceIds_nodup h.keyed, h.mem_entries⟩
    simp only [RegistryApi.serve, hadmit, hroute, ValidationPipe.transform, RegistryRoute.handle,
      RegistryController.listServices, RegistryService.count, PlainObject.length_values]
    rfl
  · intro id e hroute he
    obtain ⟨e', hs, hu⟩ := h.matched.stored he
    refine ⟨s.registry.getConsumers id, ?_, getConsumers_nodup h.keyed id,
      fun source => h.mem_consumers source id⟩
    simp only [RegistryApi.serve, hadmit, hroute, ValidationPipe.transform, RegistryRoute.handle,
      RegistryController.getConsumers, RegistryService.get, RegistryService.find_of_get? hs]
    rfl

end

/-- After every run of requests and health checks, what an administrator reads is what the answers
to the requests before have said. -/
theorem reads_match_answers (api : RegistryApi v) (redis : Bool) (as : List ApiAction)
    (hhttp : ∀ req, .request req ∈ as → TurnedAwayByHttp req) (req : AdminRequest)
    (hr : req.refusal = none) (hadmin : api.guard req = .ok claims) :
    ReadsAs (Runs.final (Observed.step api) { registry := { redis := redis } } as).bulletin req
      (api.serve (Runs.final (Observed.step api) { registry := { redis := redis } } as).registry
        req).reply := by
  have hstart : Consistent { registry := { redis := redis } } := by
    constructor
    · intro id e he
      rw [PlainObject.get?_empty] at he
      cases he
    · exact ⟨fun id => by rw [PlainObject.get?_empty]; rfl, rfl, rfl⟩
  have hturned : Runs.Always (Observed.step api)
      (fun _ a => ∀ req, a = .request req → TurnedAwayByHttp req)
      { registry := { redis := redis } } as := by
    refine Runs.always_of_forall _ fun a ha req heq => ?_
    subst heq
    exact hhttp req ha
  have hfinal := Runs.invariant_final (fun s a h hg => step_consistent api s a h hg) hstart hturned
  exact hfinal.reads api req hr hadmin

def secret : RegistryApi Versions.anything where
  platformAdminSecret := .value "s3cret"
  validateToken _ := .error (.error "no such key")
  pipe := { manifest := fun _ => .ok Versions.two, deprecation := fun _ => .ok ⟨{}, by decide⟩ }

def ctx (now : String) : HandlerContext := { correlationId := none, now, timestamp := now }

/-- The body of `Versions.two`. -/
def ordersJson : Json :=
  .object [("serviceId", .string "orders"), ("name", .string "orders"),
    ("baseUrl", .string "http://orders"), ("requiredScopes", .array [.string "orders:read"]),
    ("exposes", .array [.string "/orders"]), ("version", .string "2.0.0")]

/-- `ThrottlerException` -/
def tooManyRequests : Exception :=
  .httpException 429 (.text "ThrottlerException: Too Many Requests")
    "ThrottlerException: Too Many Requests" none

/-- A registration, two requests to retire it, one without the secret and one too many, and a
deprecation. -/
def requests : List ApiAction :=
  [.request { xPlatformSecret := some "s3cret", route := .register ordersJson, ctx := ctx "t0" },
    .request { route := .retire "orders", ctx := ctx "t1" },
    .request { xPlatformSecret := some "s3cret", route := .retire "orders", ctx := ctx "t1"
               refusal := some tooManyRequests },
    .request { xPlatformSecret := some "s3cret", ctx := ctx "t2"
               route := .deprecateService "orders" (.object []) }]

def getOrders : AdminRequest where
  xPlatformSecret := some "s3cret"
  route := .getService "orders"
  ctx := ctx "t3"

theorem reads_match_answers_orders :
    ReadsAs (Runs.final (Observed.step secret) { registry := { redis := true } } requests).bulletin
        getOrders (secret.serve (Runs.final (Observed.step secret) { registry := { redis := true } }
          requests).registry getOrders).reply ∧
      ((Runs.final (Observed.step secret) { registry := { redis := true } }
        requests).bulletin.services.lookup "orders").map (·.status) = some .deprecated := by
  refine ⟨reads_match_answers secret true requests ?_ getOrders rfl
    (show secret.guard getOrders = .ok none from rfl), by decide⟩
  intro req hmem e he
  simp only [requests, List.mem_cons, ApiAction.request.injEq, List.not_mem_nil, or_false] at hmem
  rcases hmem with rfl | rfl | rfl | rfl <;> cases he
  simp [tooManyRequests, Exception.getStatus]

end Proofs.RegistryAnswers

end ApiCenter
