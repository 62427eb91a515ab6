import ApiCenter.Library.Histories
import ApiCenter.Model.ExternalMonitor
import ApiCenter.Proofs.ExternalCalls

namespace ApiCenter

open Library ApiCenter.Library.Runs ApiCenter.Library.Histories

/-- The state a gauge stands for. An API without a gauge counts as closed. -/
def gaugeState : Option Nat → CircuitState
  | some 1 => .OPEN
  | some 2 => .HALF_OPEN
  | _ => .CLOSED

theorem gaugeState_value (state : CircuitState) :
    gaugeState (some (circuitBreakerStateValue state)) = state := by
  cases state <;> rfl

/-- What an event says about an API: whether its breaker has opened, or has closed. -/
def BreakerEvent.tells (apiName : String) : BreakerEvent → Option Bool
  | .circuit_breaker_opened name _ => if name = apiName then some true else none
  | .circuit_breaker_closed name _ => if name = apiName then some false else none

/-- Whether the last event about an API says that its breaker has opened. -/
def lastOpened (apiName : String) (published : List BreakerEvent) : Bool :=
  ((published.filterMap (BreakerEvent.tells apiName)).getLast?).getD false

namespace CircuitBreaker

variable {b : CircuitBreaker} {a : BreakerAction}

theorem step_name (b : CircuitBreaker) (a : BreakerAction) : (b.step a).name = b.name := by
  cases a with
  | tryAcquire now =>
    simp only [step, tryAcquire]
    split_ifs <;> rfl
  | execute now =>
    simp only [step, beginExecute]
    split_ifs <;> rfl
  | recordSuccess =>
    simp only [step, recordSuccess]
    split_ifs <;> rfl
  | recordFailure now =>
    simp only [step, recordFailure]
    split_ifs <;> rfl
  | reset => rfl

/-- An action that reports nothing leaves the state as it is, and one that reports a change leaves
the state it names last. -/
theorem stateChanges_cases (b : CircuitBreaker) (a : BreakerAction) :
    (b.stateChanges a = [] ∧ (b.step a).state = b.state) ∨
      b.stateChanges a = [(b.state, (b.step a).state)] := by
  cases a with
  | tryAcquire now =>
    by_cases ho : b.state = .OPEN <;> cases hc : b.coolingDown now <;>
      simp [stateChanges, step, tryAcquire, ho, hc]
  | execute now =>
    by_cases ho : b.state = .OPEN <;> cases hc : b.coolingDown now <;>
      simp [stateChanges, step, beginExecute, ho, hc]
  | recordSuccess =>
    by_cases hh : b.state = .HALF_OPEN <;>
      by_cases hs : b.successThreshold ≤ b.successCount + 1 <;>
      simp [stateChanges, step, recordSuccess, hh, hs]
  | recordFailure now =>
    by_cases hh : b.state = .HALF_OPEN <;>
      by_cases ht : b.failureThreshold ≤ b.failureCount + 1 <;>
      simp [stateChanges, step, recordFailure, hh, ht]
  | reset => by_cases hc : b.state = .CLOSED <;> simp [stateChanges, step, reset, hc]

/-- A breaker is half-open only after it has been open. -/
theorem halfOpen_step (h : (b.step a).state = .HALF_OPEN) : b.state ≠ .CLOSED := by
  intro hc
  cases a with
  | tryAcquire now => simp [step, tryAcquire, hc] at h
  | execute now => simp [step, beginExecute, hc] at h
  | recordSuccess => simp [step, recordSuccess, hc] at h
  | recordFailure now =>
    simp only [step, recordFailure, hc, reduceCtorEq, if_false] at h
    split_ifs at h
  | reset => cases h

end CircuitBreaker

namespace ExternalService

variable {s : ExternalService} {name : String}

theorem initClient_breaker (s : ExternalService) (id : String) (cfg : ExternalApiConfig) :
    (s.initClient id cfg).breakers.lookup name =
      if name = id then some (newBreaker name) else s.breakers.lookup name := by
  rw [initClient, Table.lookup_insert_if]
  by_cases h : name = id
  · rw [if_pos h, if_pos h, h]
  · rw [if_neg h, if_neg h]

/-- The breakers a service starts with are new ones under the names of its APIs. -/
theorem breaker_foldl_initClient (es : List (Sigma fun _ : String => ExternalApiConfig)) :
    ∀ s : ExternalService, (∀ b, s.breakers.lookup name = some b → b = newBreaker name) →
      ∀ b, (es.foldl (fun s field => s.initClient field.1 field.2) s).breakers.lookup name =
        some b → b = newBreaker name := by
  induction es with
  | nil =>
    intro s h
    exact h
  | cons e es ih =>
    intro s h
    refine ih _ ?_
    intro b hb
    rw [initClient_breaker] at hb
    split_ifs at hb
    · exact (Option.some.inj hb).symm
    · exact h b hb

theorem onModuleInit_breaker {config : ExternalConfig} {b : CircuitBreaker}
    (hb : (onModuleInit config).breakers.lookup name = some b) : b = newBreaker name := by
  refine breaker_foldl_initClient _ _ ?_ b hb
  intro b' hb'
  simp at hb'

theorem onModuleInit_apis (config : ExternalConfig) :
    (onModuleInit config).apis = buildExternalApis config :=
  (foldl_initClient (buildExternalApis config).own.entries
    { apis := buildExternalApis config } "").1

theorem beginCall_apis (apiName : String) (options : ExternalCallOptions) (now : Nat) :
    (s.beginCall apiName options now).1.apis = s.apis := by
  unfold beginCall
  split_ifs
  · rfl
  · cases s.clients.lookup apiName with
    | none => rfl
    | some client => cases s.breakers.lookup apiName <;> rfl

theorem endCall_apis (apiName : String) (cfg : AxiosRequestConfig) (start : Nat)
    (answer : Except String UpstreamResponse) (now : Nat) :
    (s.endCall apiName cfg start answer now).1.apis = s.apis := by
  unfold endCall
  cases answer <;> cases s.breakers.lookup apiName <;> rfl

theorem resetBreaker_apis (apiName : String) : (s.resetBreaker apiName).1.apis = s.apis := by
  unfold resetBreaker
  cases s.breakers.lookup apiName <;> rfl

/-- What writing back a breaker does to the one under `name`. -/
theorem lookup_write {s : ExternalService} {id : String} {b : CircuitBreaker}
    (hb : s.breakers.lookup id = some b) (act : BreakerAction) :
    (s.breakers.insert id (b.step act)).lookup name =
      if id = name then (s.breakers.lookup name).map (·.step act)
      else s.breakers.lookup name := by
  rw [Table.lookup_insert_if]
  by_cases h : id = name
  · rw [if_pos h.symm, if_pos h, ← h, hb]
    rfl
  · rw [if_neg (Ne.symm h), if_neg h]

end ExternalService

namespace ExternalCalls

variable {s : ExternalCalls} {name : String}

/-- What an action does to the breaker of one API. -/
def ownActions (name : String) (s : ExternalCalls) (a : ExternalAction) : List BreakerAction :=
  match s.breakerAction a with
  | some (id, action) => if id = name then [action] else []
  | none => []

theorem lookup_call (apiName : String) (options : ExternalCallOptions) (now : Nat) :
    (s.step (.call apiName options now)).service.breakers.lookup name =
      match s.breakerAction (.call apiName options now) with
      | some (id, action) =>
        if id = name then (s.service.breakers.lookup name).map (·.step action)
        else s.service.breakers.lookup name
      | none => s.service.breakers.lookup name := by
  simp only [step, ExternalService.beginCall, breakerAction]
  by_cases hapi : (s.service.apis.get? apiName).isNone = true ∧ apiName ∉ objectPrototype
  · rw [if_pos hapi, if_pos hapi]
  · rw [if_neg hapi, if_neg hapi]
    cases hc : s.service.clients.lookup apiName with
    | none => rfl
    | some client =>
      cases hb : s.service.breakers.lookup apiName with
      | none =>
        by_cases h : apiName = name
        · rw [← h]
          simp [hb]
        · simp [h]
      | some b => exact ExternalService.lookup_write hb (.execute now)

theorem lookup_answer (i : Nat) (answer : Except String UpstreamResponse) (now : Nat) :
    (s.step (.answer i answer now)).service.breakers.lookup name =
      match s.breakerAction (.answer i answer now) with
      | some (id, action) =>
        if id = name then (s.service.breakers.lookup name).map (·.step action)
        else s.service.breakers.lookup name
      | none => s.service.breakers.lookup name := by
  simp only [step, breakerAction]
  cases hp : s.pending[i]? with
  | none => rfl
  | some p =>
    simp only [ExternalService.endCall, Option.map_some]
    cases hb : s.service.breakers.lookup p.apiName with
    | none =>
      by_cases h : p.apiName = name
      · rw [← h]
        cases answer <;> simp [hb]
      · cases answer <;> simp [h]
    | some b =>
      cases answer with
      | ok resp => exact ExternalService.lookup_write hb .recordSuccess
      | error message => exact ExternalService.lookup_write hb (.recordFailure now)

theorem lookup_reset (apiName : String) :
    (s.step (.resetBreaker apiName)).service.breakers.lookup name =
      if apiName = name then (s.service.breakers.lookup name).map (·.step .reset)
      else s.service.breakers.lookup name := by
  simp only [step, ExternalService.resetBreaker]
  cases hb : s.service.breakers.lookup apiName with
  | none =>
    by_cases h : apiName = name
    · rw [← h]
      simp [hb]
    · simp [h]
  | some b => exact ExternalService.lookup_write hb .reset

/-- The breaker of an API changes by the actions on it and by no others. -/
theorem lookup_step (s : ExternalCalls) (a : ExternalAction) :
    (s.step a).service.breakers.lookup name =
      (s.service.breakers.lookup name).map fun b =>
        final CircuitBreaker.step b (ownActions name s a) := by
  have hcases : (s.step a).service.breakers.lookup name =
      match s.breakerAction a with
      | some (id, action) =>
        if id = name then (s.service.breakers.lookup name).map (·.step action)
        else s.service.breakers.lookup name
      | none => s.service.breakers.lookup name := by
    cases a with
    | call apiName options now => exact lookup_call apiName options now
    | answer i answer now => exact lookup_answer i answer now
    | resetBreaker apiName => exact lookup_reset apiName
  rw [hcases, ownActions]
  cases s.breakerAction a with
  | none => simp
  | some action =>
    obtain ⟨id, action⟩ := action
    by_cases h : id = name <;> simp [h]

theorem step_apis (s : ExternalCalls) (a : ExternalAction) :
    (s.step a).service.apis = s.service.apis := by
  cases a with
  | call apiName options now => exact ExternalService.beginCall_apis apiName options now
  | answer i answer now =>
    simp only [step]
    split
    · rfl
    · exact ExternalService.endCall_apis _ _ _ _ _
  | resetBreaker apiName => exact ExternalService.resetBreaker_apis apiName

end ExternalCalls

namespace MonitoredCalls

variable {m : MonitoredCalls} {name : String} {b : CircuitBreaker}

/-- The state Prometheus shows for an API. -/
def shown (m : MonitoredCalls) (name : String) : CircuitState :=
  gaugeState (m.circuitBreakerState.lookup name)

theorem calls_foldl_report (changes : List (String × CircuitState × CircuitState)) :
    ∀ m : MonitoredCalls, (changes.foldl report m).calls = m.calls := by
  induction changes with
  | nil => exact fun _ => rfl
  | cons change changes ih => exact fun m => ih (m.report change)

theorem step_calls (m : MonitoredCalls) (a : ExternalAction) :
    (m.step a).calls = m.calls.step a :=
  calls_foldl_report (m.calls.stateChanges a) { m with calls := m.calls.step a }

theorem shown_report (m : MonitoredCalls) (id : String) (change : CircuitState × CircuitState) :
    (m.report (id, change)).shown name = if name = id then change.2 else m.shown name := by
  rw [shown, report, Table.lookup_insert_if]
  split_ifs
  · exact gaugeState_value change.2
  · rfl

theorem lastOpened_report (m : MonitoredCalls) (id : String)
    (change : CircuitState × CircuitState) :
    lastOpened name (m.report (id, change)).published =
      if id = name ∧ change.2 ≠ .HALF_OPEN then decide (change.2 ≠ .CLOSED)
      else lastOpened name m.published := by
  obtain ⟨previous, next⟩ := change
  simp only [lastOpened, report, ExternalService.onStateChange, List.filterMap_append]
  by_cases h : id = name
  · cases next <;> simp [BreakerEvent.tells, h]
  · cases next <;> simp [BreakerEvent.tells, h]

/-- What is told about an API is what its breaker is. -/
structure Told (m : MonitoredCalls) (name : String) (b : CircuitBreaker) : Prop where
  named : b.name = name
  shown : m.shown name = b.state
  announced : lastOpened name m.published = decide (b.state ≠ .CLOSED)

/-- Every breaker is reported as it is. -/
def Reported (m : MonitoredCalls) : Prop :=
  ∀ name b, m.calls.service.breakers.lookup name = some b → m.Told name b

theorem Told.own (h : m.Told name b) (action : BreakerAction) :
    (((b.stateChanges action).map fun change => (b.name, change)).foldl report m).Told name
      (b.step action) := by
  have hname : (b.step action).name = name := (b.step_name action).trans h.named
  rcases b.stateChanges_cases action with ⟨hnone, hsame⟩ | hone
  · rw [hnone]
    refine ⟨hname, ?_, ?_⟩
    · rw [hsame]
      exact h.shown
    · rw [hsame]
      exact h.announced
  · rw [hone]
    refine ⟨hname, ?_, ?_⟩
    · rw [List.map_cons, List.map_nil, List.foldl_cons, List.foldl_nil, shown_report, h.named,
        if_pos rfl]
    · rw [List.map_cons, List.map_nil, List.foldl_cons, List.foldl_nil, lastOpened_report, h.named]
      by_cases hhalf : (b.step action).state = .HALF_OPEN
      · rw [if_neg (by simp [hhalf]), h.announced, hhalf]
        simp [CircuitBreaker.halfOpen_step hhalf]
      · rw [if_pos ⟨rfl, hhalf⟩]

theorem Told.other (h : m.Told name b) {changes : List (String × CircuitState × CircuitState)}
    (hc : ∀ change ∈ changes, change.1 ≠ name) : (changes.foldl report m).Told name b := by
  induction changes generalizing m with
  | nil => exact h
  | cons change changes ih =>
    obtain ⟨hne, hrest⟩ := List.forall_mem_cons.mp hc
    refine ih ⟨h.named, ?_, ?_⟩ hrest
    · rw [shown_report m change.1 change.2, if_neg (Ne.symm hne)]
      exact h.shown
    · rw [lastOpened_report m change.1 change.2, if_neg fun hp => hne hp.1]
      exact h.announced

theorem Told.calls (h : m.Told name b) (calls : ExternalCalls) :
    { m with calls := calls }.Told name b := ⟨h.named, h.shown, h.announced⟩

theorem Reported.step (h : m.Reported) (a : ExternalAction) : (m.step a).Reported := by
  intro name b' hb'
  rw [step_calls, ExternalCalls.lookup_step] at hb'
  obtain ⟨b, hb, rfl⟩ := Option.map_eq_some_iff.mp hb'
  have hm := (h name b hb).calls (m.calls.step a)
  simp only [MonitoredCalls.step, ExternalCalls.stateChanges, ExternalCalls.ownActions]
  cases m.calls.breakerAction a with
  | none => exact hm
  | some action =>
    obtain ⟨id, action⟩ := action
    by_cases hid : id = name
    · subst hid
      simp only [hb, if_true, final_cons, final_nil]
      exact hm.own action
    · simp only [if_neg hid, final_nil]
      cases hother : m.calls.service.breakers.lookup id with
      | none => exact hm
      | some other =>
        refine hm.other ?_
        intro change hchange
        obtain ⟨-, -, rfl⟩ := List.mem_map.mp hchange
        rw [(h id other hother).named]
        exact hid

theorem reported_start (config : ExternalConfig) : (start config).Reported := by
  intro name b hb
  obtain rfl := ExternalService.onModuleInit_breaker hb
  exact ⟨rfl, rfl, rfl⟩

theorem run_calls (m : MonitoredCalls) (run : List ExternalAction) :
    (final step m run).calls = final ExternalCalls.step m.calls run := by
  induction run generalizing m with
  | nil => rfl
  | cons a run ih => rw [final_cons, final_cons, ih, step_calls]

end MonitoredCalls

/-- What the gateway shows of its external APIs. -/
structure StatusAgrees (config : ExternalConfig) (run : List ExternalAction)
    (m : MonitoredCalls) : Prop where
  /-- The breaker of an API is the one that sees the actions on this API alone. -/
  isolated : ∀ name ∈ (buildExternalApis config).keys,
    m.calls.service.getBreaker name =
      some (final CircuitBreaker.step (ExternalService.newBreaker name)
        (emitted ExternalCalls.step (ExternalCalls.ownActions name) (.start config) run))
  /-- The catalogue, the statistics, the readiness probe and the last event published about an API
  tell the state that its gauge shows. -/
  listed : (m.calls.service.listApis.map fun api => (api.name, api.circuitBreakerState)) =
    (buildExternalApis config).keys.map fun name => (name, some (m.shown name))
  counted : (m.calls.service.getAllBreakerStats.map fun s => (s.name, s.state)).Perm
    ((buildExternalApis config).keys.map fun name => (name, m.shown name))
  ready : (HealthController.circuitBreakerCheck m.calls.service).up = true ↔
    ∀ name ∈ (buildExternalApis config).keys, m.shown name ≠ .OPEN
  announced : ∀ name ∈ (buildExternalApis config).keys,
    lastOpened name m.published = decide (m.shown name ≠ .CLOSED)
  reset : ∀ name, (AdminCircuitBreakerController.resetBreaker m.calls.service name).2 =
    if name ∈ (buildExternalApis config).keys then .ok (m.shown name, .CLOSED)
    else .error (.notFoundError s!"Circuit breaker for '{name}' not found")

namespace Proofs.ExternalStatus

open MonitoredCalls

theorem run_apis (config : ExternalConfig) (run : List ExternalAction) :
    (final ExternalCalls.step (.start config) run).service.apis = buildExternalApis config :=
  (final_eq_of_step (f := fun s : ExternalCalls => s.service.apis) ExternalCalls.step_apis _
    run).trans (ExternalService.onModuleInit_apis config)

theorem run_breaker (config : ExternalConfig) (run : List ExternalAction) {name : String}
    (hname : name ∈ (buildExternalApis config).keys) :
    (final ExternalCalls.step (.start config) run).service.breakers.lookup name =
      some (final CircuitBreaker.step (ExternalService.newBreaker name)
        (emitted ExternalCalls.step (ExternalCalls.ownActions name) (.start config) run)) := by
  have hstart : (ExternalCalls.start config).service.breakers.lookup name =
      some (ExternalService.newBreaker name) := by
    have hconnected := (ExternalService.connected_onModuleInit config).breakers name
    rw [ExternalService.onModuleInit_apis, (PlainObject.mem_keys_iff _ _).mp hname] at hconnected
    obtain ⟨b, hb⟩ := Option.isSome_iff_exists.mp hconnected
    rw [← ExternalService.onModuleInit_breaker hb]
    exact hb
  have hstep : ∀ (s : ExternalCalls) (b : CircuitBreaker) (a : ExternalAction),
      s.service.breakers.lookup name = some b → (s.step a).service.breakers.lookup name =
        some (final CircuitBreaker.step b (ExternalCalls.ownActions name s a)) := by
    intro s b a hb
    rw [ExternalCalls.lookup_step, hb]
    rfl
  exact final_emitted hstep hstart run

/-- The breakers are those of the APIs, each under its own name. -/
theorem breakers_perm {m : MonitoredCalls} (hconnected : m.calls.service.Connected) :
    m.calls.service.breakers.keys.Perm m.calls.service.apis.keys := by
  refine (List.perm_ext_iff_of_nodup (AList.keys_nodup _) (AList.keys_nodup _)).mpr ?_
  intro name
  have h := hconnected.breakers name
  change name ∈ m.calls.service.breakers ↔ name ∈ m.calls.service.apis.keys
  rw [← AList.lookup_isSome, h, PlainObject.mem_keys_iff]

theorem stats_shown {m : MonitoredCalls} (h : m.Reported) :
    (m.calls.service.getAllBreakerStats.map fun s => (s.name, s.state)) =
      m.calls.service.breakers.keys.map fun name => (name, m.shown name) := by
  simp only [ExternalService.getAllBreakerStats, AList.keys, List.keys, List.map_map]
  refine List.map_congr_left ?_
  intro field hfield
  have hb : m.calls.service.breakers.lookup field.1 = some field.2 :=
    List.mem_dlookup m.calls.service.breakers.nodupKeys hfield
  have htold := h field.1 field.2 hb
  exact Prod.ext htold.named htold.shown.symm

theorem listing_shown {m : MonitoredCalls} (h : m.Reported)
    (hconnected : m.calls.service.Connected) :
    (m.calls.service.listApis.map fun api => (api.name, api.circuitBreakerState)) =
      m.calls.service.apis.keys.map fun name => (name, some (m.shown name)) := by
  simp only [ExternalService.listApis, PlainObject.keys, AList.keys, List.keys, List.map_map]
  refine List.map_congr_left ?_
  intro field hfield
  have hapi : m.calls.service.apis.get? field.1 = some field.2 :=
    List.mem_dlookup m.calls.service.apis.own.nodupKeys hfield
  have hsome := hconnected.breakers field.1
  rw [hapi] at hsome
  obtain ⟨b, hb⟩ := Option.isSome_iff_exists.mp hsome
  simp [hb, (h field.1 b hb).shown]

theorem check_up_iff (s : ExternalService) :
    (HealthController.circuitBreakerCheck s).up = true ↔
      ∀ p ∈ s.getAllBreakerStats.map (fun stats => (stats.name, stats.state)), p.2 ≠ .OPEN := by
  simp [HealthController.circuitBreakerCheck, List.filter_eq_nil_iff]

theorem resetBreaker_shown {m : MonitoredCalls} (h : m.Reported) (name : String) :
    (AdminCircuitBreakerController.resetBreaker m.calls.service name).2 =
      if (m.calls.service.breakers.lookup name).isSome then .ok (m.shown name, .CLOSED)
      else .error (.notFoundError s!"Circuit breaker for '{name}' not found") := by
  simp only [AdminCircuitBreakerController.resetBreaker, ExternalService.getBreaker]
  cases hb : m.calls.service.breakers.lookup name with
  | none => rfl
  | some b =>
    rw [(h name b hb).shown]
    rfl

/-- Whatever the order and the outcomes of the calls to external APIs and of the resets, all that
the gateway shows of an API tells one state, that of a breaker which sees nothing but this API. -/
theorem external_status_agrees (config : ExternalConfig) (run : List ExternalAction) :
    StatusAgrees config run (final MonitoredCalls.step (.start config) run) := by
  have hreported : (final MonitoredCalls.step (.start config) run).Reported :=
    invariant_reached (fun _ a h => h.step a) (reported_start config) run
  have hcalls := run_calls (.start config) run
  generalize final MonitoredCalls.step (.start config) run = m at hreported hcalls
  have hconnected : m.calls.service.Connected := by
    rw [hcalls]
    exact ExternalCalls.reachable_connected config run
  have hapis : m.calls.service.apis = buildExternalApis config := by
    rw [hcalls]
    exact run_apis config run
  have hcounted : (m.calls.service.getAllBreakerStats.map fun s => (s.name, s.state)).Perm
      ((buildExternalApis config).keys.map fun name => (name, m.shown name)) := by
    rw [stats_shown hreported, ← hapis]
    exact (breakers_perm hconnected).map _
  have hbreakers : ∀ name, (m.calls.service.breakers.lookup name).isSome =
      decide (name ∈ (buildExternalApis config).keys) := by
    intro name
    rw [hconnected.breakers name, hapis, Bool.eq_iff_iff, decide_eq_true_iff]
    exact (PlainObject.mem_keys_iff _ _).symm
  refine ⟨?_, ?_, hcounted, ?_, ?_, ?_⟩
  · intro name hname
    rw [hcalls]
    exact run_breaker config run hname
  · rw [listing_shown hreported hconnected, hapis]
  · rw [check_up_iff]
    constructor
    · intro h name hname
      exact h _ (hcounted.mem_iff.mpr (List.mem_map.mpr ⟨name, hname, rfl⟩))
    · intro h p hp
      obtain ⟨name, hname, rfl⟩ := List.mem_map.mp (hcounted.mem_iff.mp hp)
      exact h name hname
  · intro name hname
    obtain ⟨b, hb⟩ := Option.isSome_iff_exists.mp ((hbreakers name).trans (decide_eq_true hname))
    have htold := hreported name b hb
    rw [htold.announced, htold.shown]
  · intro name
    rw [resetBreaker_shown hreported, hbreakers name]
    simp only [decide_eq_true_eq]

end Proofs.ExternalStatus

end ApiCenter
