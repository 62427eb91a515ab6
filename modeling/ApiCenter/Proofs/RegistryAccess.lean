import ApiCenter.Proofs.Authority
import ApiCenter.Proofs.RegistryAnswers

namespace ApiCenter
open Library

/-- The operation on the registry that an action comes to, if it comes to one. -/
def RegistryApi.operation? {v : Validators} (api : RegistryApi v) :
    ApiAction → Option RegistryOperation
  | .handleHealthChecks answers => some (.handleHealthChecks answers)
  | .request req =>
    match api.admitted req with
    | .ok route => route.call?.map fun c => .call c req.ctx.now req.write
    | .error _ => none

/-- The service a lifecycle route is about. -/
def RegistryRoute.lifecycleId? : RegistryRoute β δ → Option String
  | .deprecateService serviceId _ | .retire serviceId | .activate serviceId => some serviceId
  | .register _ | .listServices | .getService _ | .deregister _ | .getConsumers _ => none

namespace Proofs.RegistryAccess
open Calls RegistryAnswers

variable {v : Validators}

/-- The request carries the configured secret, or a token the provider takes whose scopes or
permissions name `platform:admin`. -/
def HasAdminRights (api : RegistryApi v) (req : AdminRequest) : Prop :=
  (∃ secret, secret ≠ "" ∧ api.platformAdminSecret = .value secret ∧
    req.xPlatformSecret = some secret) ∨
  ∃ token claims scopes, token ≠ "" ∧ bearerToken req.authorization = some token ∧
    api.validateToken token = .ok claims ∧ claims.mergeCallerScopes = .ok scopes ∧
    Json.string "platform:admin" ∈ scopes

/-- A registration whose Redis write failed, with its entry gone. -/
def RegistrationFailed (api : RegistryApi v) (r : RegistryService) (req : AdminRequest)
    (served : Served) : Prop :=
  ∃ body dto message, req.route = .register body ∧ api.pipe.manifest body = .ok dto ∧
    r.redis = true ∧ req.write = .failed message ∧
    served.registry.services = r.services.delete dto.serviceId

/-- A lifecycle route on the name of a text that `services` inherit, with nothing done. -/
def AssignedToText (r : RegistryService) (req : AdminRequest) (served : Served) : Prop :=
  (∃ id m type text, req.route.lifecycleId? = some id ∧ r.find id = some (.member m) ∧
    m.kind = .primitive type text) ∧
  served.registry = r ∧ served.command = none ∧ served.notified = none

/-- A request that is turned away on its way to the controller does nothing there. Of the others,
one that changes anything has admin rights, one that is refused changes nothing, and one that fails
otherwise is a registration the Redis write of which failed, or came upon an inherited text. -/
structure Accountable (api : RegistryApi v) (r : RegistryService) (req : AdminRequest)
    (served : Served) : Prop where
  turnedAway : ∀ e, req.refusal = some e → served = { registry := r, reply := .error e }
  unauthorised : req.refusal = none → ¬ HasAdminRights api req → served.status req = 401
  refused : (∃ e, served.reply = .error e) → served.status req ≠ 500 →
    served.registry = r ∧ served.command = none ∧ served.notified = none
  failed : req.refusal = none → served.status req = 500 →
    RegistrationFailed api r req served ∨ AssignedToText r req served

section

variable {api : RegistryApi v} {r : RegistryService} {req : AdminRequest}

/-- The secret is compared as it is; an empty header or an unset secret never matches. -/
theorem secret_matches_iff (platformAdminSecret : Optional String) (header : Option String) :
    (header.any (· ≠ "") = true ∧ platformAdminSecret.text? = header) ↔
      ∃ secret, secret ≠ "" ∧ platformAdminSecret = .value secret ∧ header = some secret := by
  constructor
  · intro h
    obtain ⟨hany, htext⟩ := h
    cases header with
    | none => cases hany
    | some secret =>
      obtain ⟨hvalue, hne⟩ := Optional.text?_eq_some.mp htext
      exact ⟨secret, hne, hvalue, rfl⟩
  · intro h
    obtain ⟨secret, hne, hvalue, rfl⟩ := h
    exact ⟨by simp [hne], Optional.text?_eq_some.mpr ⟨hvalue, hne⟩⟩

theorem guard_ok (h : api.guard req = .ok claims) : HasAdminRights api req := by
  unfold RegistryApi.guard ScopedAdminGuard.canActivate at h
  split at h
  · rename_i hsecret
    exact .inl ((secret_matches_iff _ _).mp hsecret)
  · split at h
    · cases h
    · rename_i token htoken
      obtain ⟨hbearer, hne⟩ := Option.filter_eq_some_iff.mp htoken
      split at h
      · cases h
      · rename_i payload hvalid
        split at h
        · cases h
        · rename_i scopes hscopes
          split at h
          · rename_i hadmin
            exact .inr ⟨token, payload, scopes, by simpa using hne, hbearer, hvalid, hscopes,
              KeycloakProvider.includes_iff.mp hadmin⟩
          · cases h

theorem guard_ok_iff : (∃ claims, api.guard req = .ok claims) ↔ HasAdminRights api req := by
  constructor
  · intro h
    obtain ⟨claims, h⟩ := h
    exact guard_ok h
  · intro h
    rcases h with hsecret | ⟨token, claims, scopes, hne, hbearer, hvalid, hscopes, hadmin⟩
    · unfold RegistryApi.guard ScopedAdminGuard.canActivate
      exact ⟨none, if_pos ((secret_matches_iff _ _).mpr hsecret)⟩
    · exact KeycloakProvider.admin_merged hscopes hadmin _ _ hbearer hne hvalid

/-- What a handler leaves behind is what its call on the registry does. -/
theorem handle_call {route : RegistryRoute (ServiceManifestDto v) (DeprecateServiceDto v)}
    {c : ClientCall} (h : route.call? = some c) (write : Write) (ctx : HandlerContext) :
    (route.handle r write ctx).registry = (r.call c.call ctx.now write).registry ∧
      (route.handle r write ctx).command = (r.call c.call ctx.now write).command ∧
      (route.handle r write ctx).notified = (r.call c.call ctx.now write).notified := by
  cases route <;> cases h <;> exact ⟨rfl, rfl, rfl⟩

theorem handle_reading {route : RegistryRoute (ServiceManifestDto v) (DeprecateServiceDto v)}
    (h : route.call? = none) (write : Write) (ctx : HandlerContext) :
    (route.handle r write ctx).registry = r ∧ (route.handle r write ctx).command = none ∧
      (route.handle r write ctx).notified = none := by
  cases route <;> cases h <;> exact ⟨rfl, rfl, rfl⟩

theorem step_operation (api : RegistryApi v) (r : RegistryService) (a : ApiAction)
    {op : RegistryOperation} (h : api.operation? a = some op) : api.step r a = r.operate op := by
  cases a with
  | handleHealthChecks answers =>
    cases h
    rfl
  | request req =>
    simp only [RegistryApi.operation?] at h
    simp only [RegistryApi.step, RegistryApi.serve]
    cases ha : api.admitted req with
    | error e => simp [ha] at h
    | ok route =>
      simp only [ha, Option.map_eq_some_iff] at h
      obtain ⟨c, hc, rfl⟩ := h
      exact (handle_call hc req.write req.ctx).1

theorem step_idle (api : RegistryApi v) (r : RegistryService) (a : ApiAction)
    (h : api.operation? a = none) : api.step r a = r := by
  cases a with
  | handleHealthChecks answers => cases h
  | request req =>
    simp only [RegistryApi.operation?] at h
    simp only [RegistryApi.step, RegistryApi.serve]
    cases ha : api.admitted req with
    | error e => rfl
    | ok route =>
      simp only [ha, Option.map_eq_none_iff] at h
      exact (handle_reading h req.write req.ctx).1

/-- How a handler throws: with nothing done, refused or on an inherited text, or with the entry of a
failed registration gone. -/
inductive Throws (r : RegistryService) (write : Write)
    (route : RegistryRoute (ServiceManifestDto v) (DeprecateServiceDto v))
    (out : Outcome RegistryReply) (e : Thrown) : Prop
  | refused (ho : out = { registry := r, result := .error e }) (hs : e.status ≠ none)
  | text {id : String} (ho : out = { registry := r, result := .error e })
      (hid : route.lifecycleId? = some id)
      (hf : r.find id = some (.member m)) (hk : m.kind = .primitive type text)
      (he : e.status = none)
  | failed (hroute : route = .register dto) (hr : r.redis = true) (hw : write = .failed message)
      (hs : out.registry.services = r.services.delete dto.serviceId) (he : e.status = none)

/-- Only the assignment to an inherited text throws what is no `AppError`. -/
theorem assign_throws {found : Found} {changes : Changes} {e : Thrown}
    (h : found.assign changes = .error e) :
    e.status = none ∧ ∃ m type text, found = .member m ∧ m.kind = .primitive type text := by
  unfold Found.assign at h
  split at h
  · cases h
  · rename_i m
    split at h
    · cases h
    · cases h
    · rename_i type text hk
      cases h
      exact ⟨rfl, m, type, text, rfl, hk⟩

/-- What a lifecycle call refuses with is an `AppError`. -/
theorem amend_throws {id : String} {choose : Found → Except Thrown Changes} {sync : Bool}
    {events : Found → List KafkaMessage} {e : Thrown}
    (hchoose : ∀ found e, choose found = .error e → e.status ≠ none)
    (h : (r.amend id choose sync events).result = .error e) :
    r.amend id choose sync events = { registry := r, result := .error e } ∧
      (e.status ≠ none ∨ e.status = none ∧ ∃ m type text, r.find id = some (.member m) ∧
        m.kind = .primitive type text) := by
  unfold RegistryService.amend at h ⊢
  cases hf : r.find id with
  | none =>
    simp only [hf] at h
    cases h
    exact ⟨rfl, .inl (by simp [Thrown.status])⟩
  | some found =>
    simp only [hf] at h
    cases hc : choose found >>= found.assign with
    | ok assigned => simp [hc] at h
    | error e' =>
      simp only [hc, Except.error.injEq] at h
      subst h
      refine ⟨by simp only [hc], ?_⟩
      cases hchosen : choose found with
      | error e =>
        rw [hchosen] at hc
        cases hc
        exact .inl (hchoose found _ hchosen)
      | ok changes =>
        rw [hchosen] at hc
        obtain ⟨hstatus, m, type, text, rfl, hk⟩ := assign_throws hc
        exact .inr ⟨hstatus, m, type, text, rfl, hk⟩

/-- An error is handed on as it is. -/
theorem map_error {out : Outcome α} {f : α → β} {e : Thrown} (h : (out.map f).result = .error e) :
    out.result = .error e := by
  unfold Outcome.map at h
  cases hr : out.result with
  | ok a => simp [hr, Except.map] at h
  | error e' =>
    rw [hr] at h
    cases h
    rfl

theorem amend_handler_throws (id : String) {choose : Found → Except Thrown Changes} {sync : Bool}
    {events : Found → List KafkaMessage} {f : Found → RegistryReply} {e : Thrown} {write : Write}
    {route : RegistryRoute (ServiceManifestDto v) (DeprecateServiceDto v)}
    (hid : route.lifecycleId? = some id)
    (hchoose : ∀ found e, choose found = .error e → e.status ≠ none)
    (h : ((r.amend id choose sync events).map f).result = .error e) :
    Throws r write route ((r.amend id choose sync events).map f) e := by
  obtain ⟨ho, hs⟩ := amend_throws hchoose (map_error h)
  rw [ho]
  rcases hs with hs | ⟨hs, m, type, text, hf, hk⟩
  · exact .refused rfl hs
  · exact .text rfl hid hf hk hs

theorem register_throws {dto : ServiceManifestDto v} {write : Write} {ctx : HandlerContext}
    {e : Thrown} (h : (RegistryController.register r dto write ctx).result = .error e) :
    Throws r write (.register dto) (RegistryController.register r dto write ctx) e := by
  have hresult := map_error h
  cases ha : registerChecks (r.find dto.toManifest.serviceId) dto.toManifest with
  | error t =>
    rw [register_refused _ _ ha] at hresult
    cases hresult
    refine .refused ?_ (registerChecks_http ha)
    unfold RegistryController.register
    rw [register_refused _ _ ha]
    rfl
  | ok previousVersion =>
    rcases write_cases r write with hw | ⟨hr, message, hw⟩
    · cases (register_stored ctx.now write ha hw).2.2.symm.trans hresult
    · obtain ⟨hreg, -, -⟩ := register_rolledBack ctx.now ha hr hw
      obtain ⟨text, hfailed⟩ := register_failed ctx.now ha hr hw
      cases hfailed.symm.trans hresult
      refine .failed rfl hr hw ?_ rfl
      change (r.register dto.toManifest ctx.now write).registry.services = _
      rw [hreg]
      exact PlainObject.delete_set _ _ _

theorem handle_throws {write : Write} {ctx : HandlerContext} {e : Thrown}
    {route : RegistryRoute (ServiceManifestDto v) (DeprecateServiceDto v)}
    (h : (route.handle r write ctx).result = .error e) :
    Throws r write route (route.handle r write ctx) e := by
  cases route with
  | listServices => cases h
  | getService id | getConsumers id =>
    simp only [RegistryRoute.handle, RegistryController.getService,
      RegistryController.getConsumers, RegistryController.reading] at h ⊢
    cases hf : r.get id with
    | some found => simp [hf] at h
    | none =>
      simp only [hf, Except.error.injEq] at h
      subst h
      exact .refused rfl (by simp [Thrown.status])
  | register dto => exact register_throws h
  | deregister id =>
    simp only [RegistryRoute.handle, RegistryController.deregister, RegistryService.deregister,
      RegistryService.beginDeregister, Outcome.map] at h ⊢
    cases hf : r.find id with
    | some found => simp [hf, Except.map] at h
    | none =>
      simp only [hf, Except.map, Except.error.injEq] at h
      subst h
      exact .refused rfl (by simp [Thrown.status])
  | deprecateService id dto =>
    refine amend_handler_throws id rfl (fun found e' hc => ?_) h
    split at hc <;> cases hc
    simp [Thrown.status]
  | retire id =>
    refine amend_handler_throws id rfl (fun found e' hc => ?_) h
    cases hc
  | activate id =>
    refine amend_handler_throws id rfl (fun found e' hc => ?_) h
    split at hc <;> cases hc
    simp [Thrown.status]

theorem status_ne_500 (e : Thrown) : e.status ≠ some 500 := by
  cases e <;> simp [Thrown.status]

/-- What the pipe refuses is a 400. -/
theorem transform_error {pipe : ValidationPipe v} {route : RegistryRoute Json Json} {e : Exception}
    (h : pipe.transform route = .error e) : e.getStatus = some 400 := by
  cases route with
  | register body =>
    cases hm : pipe.manifest body with
    | ok dto => simp [ValidationPipe.transform, hm, Except.map, Except.mapError] at h
    | error messages =>
      simp only [ValidationPipe.transform, hm, Except.map, Except.mapError,
        Except.error.injEq] at h
      subst h
      rfl
  | deprecateService id body =>
    cases hm : pipe.deprecation body with
    | ok dto => simp [ValidationPipe.transform, hm, Except.map, Except.mapError] at h
    | error messages =>
      simp only [ValidationPipe.transform, hm, Except.map, Except.mapError,
        Except.error.injEq] at h
      subst h
      rfl
  | _ => cases h

/-- The places a request can end in. -/
inductive Ends (api : RegistryApi v) (r : RegistryService) (req : AdminRequest) : Served → Prop
  | turnedAway (hr : req.refusal = some e) : Ends api r req { registry := r, reply := .error e }
  | guarded (hr : req.refusal = none) (hg : ¬ HasAdminRights api req)
      (he : e.getStatus = some 401) : Ends api r req { registry := r, reply := .error e }
  | piped (hr : req.refusal = none) (hg : HasAdminRights api req) (he : e.getStatus = some 400) :
      Ends api r req { registry := r, reply := .error e }
  | handled (hr : req.refusal = none) (hg : HasAdminRights api req)
      (ht : api.pipe.transform req.route = .ok route) :
      Ends api r req
        { registry := (route.handle r req.write req.ctx).registry
          command := (route.handle r req.write req.ctx).command
          notified := (route.handle r req.write req.ctx).notified
          reply := (route.handle r req.write req.ctx).result.mapError Thrown.exception }

theorem serve_ends (api : RegistryApi v) (r : RegistryService) (req : AdminRequest) :
    Ends api r req (api.serve r req) := by
  cases hr : req.refusal with
  | some e =>
    simp only [RegistryApi.serve, RegistryApi.admitted, hr]
    exact .turnedAway hr
  | none =>
    cases hg : api.guard req with
    | error e =>
      simp only [RegistryApi.serve, RegistryApi.admitted, hr, hg]
      refine .guarded hr ?_ ?_
      · intro hrights
        obtain ⟨claims, hok⟩ := guard_ok_iff.mpr hrights
        cases hg.symm.trans hok
      · rw [Thrown.getStatus_exception]
        exact guard_unauthorized hg
    | ok claims =>
      simp only [RegistryApi.serve, RegistryApi.admitted_granted hr hg]
      cases ht : api.pipe.transform req.route with
      | error e => exact .piped hr (guard_ok hg) (transform_error ht)
      | ok route => exact .handled hr (guard_ok hg) ht

theorem status_success (route : RegistryRoute Json Json) :
    route.status = 200 ∨ route.status = 201 := by
  cases route <;> simp [RegistryRoute.status]

/-- A registration that reaches its handler was sent with a body the pipe accepts. -/
theorem transform_register {pipe : ValidationPipe v} {route : RegistryRoute Json Json}
    (h : pipe.transform route = .ok (.register dto)) :
    ∃ body, route = .register body ∧ pipe.manifest body = .ok dto := by
  cases route with
  | register body =>
    refine ⟨body, rfl, ?_⟩
    cases hm : pipe.manifest body with
    | ok dto' =>
      simp only [ValidationPipe.transform, hm, Except.map, Except.mapError, Except.ok.injEq,
        RegistryRoute.register.injEq] at h
      rw [h]
    | error messages => simp [ValidationPipe.transform, hm, Except.map, Except.mapError] at h
  | deprecateService id body =>
    cases hm : pipe.deprecation body <;>
      simp [ValidationPipe.transform, hm, Except.map, Except.mapError] at h
  | _ => cases h

/-- The pipe changes nothing about which service a lifecycle route is about. -/
theorem transform_lifecycleId {pipe : ValidationPipe v} {route : RegistryRoute Json Json}
    (h : pipe.transform route = .ok route') : route.lifecycleId? = route'.lifecycleId? := by
  cases route with
  | register body =>
    cases hm : pipe.manifest body with
    | ok dto =>
      simp only [ValidationPipe.transform, hm, Except.map, Except.mapError] at h
      cases h
      rfl
    | error messages => simp [ValidationPipe.transform, hm, Except.map, Except.mapError] at h
  | deprecateService id body =>
    cases hm : pipe.deprecation body with
    | ok dto =>
      simp only [ValidationPipe.transform, hm, Except.map, Except.mapError] at h
      cases h
      rfl
    | error messages => simp [ValidationPipe.transform, hm, Except.map, Except.mapError] at h
  | listServices | getService | deregister | retire | activate | getConsumers =>
    cases h
    rfl

theorem handled_accountable {route : RegistryRoute (ServiceManifestDto v) (DeprecateServiceDto v)}
    (hr : req.refusal = none) (hg : HasAdminRights api req)
    (ht : api.pipe.transform req.route = .ok route)
    (hroute : served = { registry := (route.handle r req.write req.ctx).registry
                         command := (route.handle r req.write req.ctx).command
                         notified := (route.handle r req.write req.ctx).notified
                         reply := (route.handle r req.write req.ctx).result.mapError
                           Thrown.exception }) : Accountable api r req served := by
  subst hroute
  cases hresult : (route.handle r req.write req.ctx).result with
  | ok reply =>
    rcases status_success req.route with hs | hs <;>
      constructor <;> simp [Served.status, Except.mapError, hr, hg, hs]
  | error e =>
    have hstatus : ∀ registry command notified, Served.status req
        { registry, command, notified, reply := (Except.error e).mapError Thrown.exception } =
          e.status.getD 500 := by
      intro registry command notified
      simp [Served.status, Except.mapError]
    have hthrows := handle_throws hresult
    cases hthrows with
    | refused ho hs =>
      refine ⟨by simp [hr], fun _ h => absurd hg h,
        fun _ _ => by rw [ho]; exact ⟨rfl, rfl, rfl⟩, fun _ h500 => ?_⟩
      rw [hstatus] at h500
      obtain ⟨status, hsome⟩ := Option.ne_none_iff_exists'.mp hs
      rw [hsome] at h500
      exact absurd (hsome.trans (congrArg some h500)) (status_ne_500 e)
    | @text m type text id ho hid hf hk he =>
      have hnothing : (route.handle r req.write req.ctx).registry = r ∧
          (route.handle r req.write req.ctx).command = none ∧
          (route.handle r req.write req.ctx).notified = none := by
        rw [ho]
        exact ⟨rfl, rfl, rfl⟩
      refine ⟨by simp [hr], fun _ h => absurd hg h, fun _ _ => hnothing, fun _ _ => .inr ?_⟩
      exact ⟨⟨id, m, type, text, (transform_lifecycleId ht).trans hid, hf, hk⟩, hnothing⟩
    | @failed dto message hr' hred hw hs he =>
      subst hr'
      obtain ⟨body, hbody, hpipe⟩ := transform_register ht
      refine ⟨by simp [hr], fun _ h => absurd hg h, fun _ hne => absurd ?_ hne,
        fun _ _ => .inl ?_⟩
      · rw [hstatus, he]
        rfl
      · exact ⟨body, dto, message, hbody, hpipe, hred, hw, hs⟩

theorem accountable (api : RegistryApi v) (r : RegistryService) (req : AdminRequest) :
    Accountable api r req (api.serve r req) := by
  have hends := serve_ends api r req
  generalize hserved : api.serve r req = served at hends
  cases hends with
  | @turnedAway e hr => constructor <;> simp [hr]
  | guarded hr hg he => constructor <;> simp [Served.status, he, hr]
  | piped hr hg he => constructor <;> simp [Served.status, he, hr, hg]
  | handled hr hg ht => exact handled_accountable hr hg ht rfl

end

/-- A run of requests is the run of the operations that requests with admin rights come to, and
every one of its requests answers for what it does. -/
theorem requests_accounted (api : RegistryApi v) (r : RegistryService) (as : List ApiAction) :
    Runs.final api.step r as = Runs.final RegistryService.operate r (as.filterMap api.operation?) ∧
      Runs.Always api.step
        (fun r a => ∀ req, a = .request req → Accountable api r req (api.serve r req)) r as := by
  constructor
  · exact Runs.final_filterMap (fun r a op => step_operation api r a) (step_idle api) r as
  · refine Runs.Always.mono (P := fun _ _ => True) ?_ (Runs.always_of_forall r fun _ _ => trivial)
    intro r a _ req _
    exact accountable api r req

end Proofs.RegistryAccess

end ApiCenter
