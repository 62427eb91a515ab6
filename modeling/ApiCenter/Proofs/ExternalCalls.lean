import ApiCenter.Library.Runs
import ApiCenter.Model.External

namespace ApiCenter
open Library ApiCenter.Library.Runs

namespace ExternalService

/-- Each API that is configured has a client and a breaker, and no other has. -/
structure Connected (s : ExternalService) : Prop where
  clients : ∀ name, (s.clients.lookup name).isSome = (s.apis.get? name).isSome
  breakers : ∀ name, (s.breakers.lookup name).isSome = (s.apis.get? name).isSome

/-- The breaker of an API is open and its cooldown has not elapsed. -/
def CoolingDown (s : ExternalService) (apiName : String) (now : Nat) : Prop :=
  ∃ b, s.breakers.lookup apiName = some b ∧ b.state = .OPEN ∧ b.coolingDown now = true

/-- What a call does to the breakers: it puts back the one it finds. -/
theorem Connected.replace {s : ExternalService} (h : s.Connected) {name : String}
    {b : CircuitBreaker} (hb : s.breakers.lookup name = some b) (b' : CircuitBreaker) :
    { s with breakers := s.breakers.insert name b' }.Connected where
  clients := h.clients
  breakers j := by
    rw [Table.isSome_lookup_insert _ _ (by rw [hb]; rfl)]
    exact h.breakers j

/-- What becomes of a call to a service whose APIs are connected. -/
inductive Begins (s : ExternalService) (apiName : String) (options : ExternalCallOptions)
    (now : Nat) : ExternalService × Except Thrown AxiosRequestConfig → Prop
  | unknown (h : ¬ s.CoolingDown apiName now) (t : Thrown)
      (ht : t.status = some 404 ∨ t.status = some 503) : Begins s apiName options now (s, .error t)
  | coolingDown (h : s.CoolingDown apiName now) (s' : ExternalService) (hs : s'.Connected)
      (message : String) : Begins s apiName options now (s', .error (.error message))
  | sent (h : ¬ s.CoolingDown apiName now) (s' : ExternalService) (hs : s'.Connected) :
      Begins s apiName options now (s', .ok (axiosCfg (s.apis.get? apiName) options))

theorem coolingDown_iff {s : ExternalService} {apiName : String} {b : CircuitBreaker}
    (hb : s.breakers.lookup apiName = some b) (now : Nat) :
    s.CoolingDown apiName now ↔ b.state = .OPEN ∧ b.coolingDown now = true := by
  unfold CoolingDown
  rw [hb]
  simp

theorem beginCall_begins {s : ExternalService} (hs : s.Connected) (apiName : String)
    (options : ExternalCallOptions) (now : Nat) :
    Begins s apiName options now (s.beginCall apiName options now) := by
  have hclients := hs.clients apiName
  have hbreakers := hs.breakers apiName
  unfold beginCall
  cases hb : s.breakers.lookup apiName with
  | none =>
    rw [hb, ← hclients] at hbreakers
    have hc : s.clients.lookup apiName = none := by simpa using hbreakers.symm
    have hnot : ¬ s.CoolingDown apiName now := by
      unfold CoolingDown
      rw [hb]
      simp
    rw [hc]
    split
    · exact .unknown hnot _ (.inl rfl)
    · exact .unknown hnot _ (.inr rfl)
  | some b =>
    rw [hb] at hbreakers
    obtain ⟨client, hc⟩ := Option.isSome_iff_exists.mp (hclients.trans hbreakers.symm)
    have hconfigured : (s.apis.get? apiName).isNone = false := by
      rw [← Option.not_isSome, ← hbreakers]
      rfl
    rw [if_neg (by simp [hconfigured]), hc]
    by_cases hcool : b.state = .OPEN ∧ b.coolingDown now = true
    · simp only [CircuitBreaker.beginExecute_rejected hcool.1 hcool.2]
      exact .coolingDown ((coolingDown_iff hb now).mpr hcool) _ (hs.replace hb _) _
    · simp only [CircuitBreaker.beginExecute_admitted hcool]
      exact .sent (fun h => hcool ((coolingDown_iff hb now).mp h)) _ (hs.replace hb _)

/-- A call that is sent has its options for the request, as they came. -/
theorem beginCall_sent {s : ExternalService} (hs : s.Connected) {apiName : String}
    {options : ExternalCallOptions} {now : Nat} {cfg : AxiosRequestConfig}
    (h : (s.beginCall apiName options now).2 = .ok cfg) :
    cfg = axiosCfg (s.apis.get? apiName) options := by
  have hbegins := beginCall_begins hs apiName options now
  generalize s.beginCall apiName options now = out at h hbegins
  cases hbegins with
  | unknown hc t ht => cases h
  | coolingDown hc s' hs' message => cases h
  | sent hc s' hs' => exact (Except.ok.inj h).symm

/-- A request is sent by the client of its API. -/
theorem beginCall_client {s : ExternalService} {apiName : String} {options : ExternalCallOptions}
    {now : Nat} {cfg : AxiosRequestConfig} (h : (s.beginCall apiName options now).2 = .ok cfg) :
    ∃ client, s.clients.lookup apiName = some client := by
  unfold beginCall at h
  split at h
  · cases h
  · split at h
    · cases h
    · rename_i client hclient
      exact ⟨client, hclient⟩

theorem endCall_connected {s : ExternalService} (h : s.Connected) (apiName : String)
    (cfg : AxiosRequestConfig) (start : Nat) (answer : Except String UpstreamResponse)
    (now : Nat) : (s.endCall apiName cfg start answer now).1.Connected := by
  unfold endCall
  cases hb : s.breakers.lookup apiName with
  | none => cases answer <;> exact h
  | some b =>
    cases answer with
    | ok resp => exact h.replace hb _
    | error message => exact h.replace hb _

theorem resetBreaker_connected {s : ExternalService} (h : s.Connected) (apiName : String) :
    (s.resetBreaker apiName).1.Connected := by
  unfold resetBreaker
  cases hb : s.breakers.lookup apiName with
  | none => exact h
  | some b => exact h.replace hb _

theorem beginCall_connected {s : ExternalService} (h : s.Connected) (apiName : String)
    (options : ExternalCallOptions) (now : Nat) :
    (s.beginCall apiName options now).1.Connected := by
  have hbegins := beginCall_begins h apiName options now
  generalize s.beginCall apiName options now = out at hbegins ⊢
  cases hbegins with
  | unknown hb t ht => exact h
  | coolingDown hc s' hs' message => exact hs'
  | sent hc s' hs' => exact hs'

theorem foldl_initClient (es : List (Sigma fun _ : String => ExternalApiConfig))
    (s : ExternalService) (name : String) :
    let s' := es.foldl (fun s field => s.initClient field.1 field.2) s
    s'.apis = s.apis ∧
      (s'.clients.lookup name).isSome = ((s.clients.lookup name).isSome || name ∈ es.keys) ∧
      (s'.breakers.lookup name).isSome = ((s.breakers.lookup name).isSome || name ∈ es.keys) := by
  induction es generalizing s with
  | nil => simp
  | cons e es ih =>
    obtain ⟨hapis, hclients, hbreakers⟩ := ih (s.initClient e.1 e.2)
    refine ⟨hapis, ?_, ?_⟩
    · rw [List.foldl_cons, hclients, initClient, Table.lookup_insert_if]
      by_cases hname : name = e.1 <;> simp [hname]
    · rw [List.foldl_cons, hbreakers, initClient, Table.lookup_insert_if]
      by_cases hname : name = e.1 <;> simp [hname]

theorem connected_onModuleInit (config : ExternalConfig) :
    (onModuleInit config).Connected := by
  have hfold := foldl_initClient (buildExternalApis config).own.entries
    { apis := buildExternalApis config }
  have hkeys : ∀ name, decide (name ∈ (buildExternalApis config).own.entries.keys) =
      ((buildExternalApis config).get? name).isSome := by
    intro name
    rw [Bool.eq_iff_iff, decide_eq_true_iff]
    exact (buildExternalApis config).mem_keys_iff name
  constructor
  · intro name
    obtain ⟨hapis, hclients, -⟩ := hfold name
    rw [onModuleInit, hclients, hapis, hkeys]
    simp
  · intro name
    obtain ⟨hapis, -, hbreakers⟩ := hfold name
    rw [onModuleInit, hbreakers, hapis, hkeys]
    simp

end ExternalService

namespace ExternalCalls

theorem step_connected (s : ExternalCalls) (a : ExternalAction) (h : s.service.Connected) :
    (s.step a).service.Connected := by
  cases a with
  | call apiName options now => exact ExternalService.beginCall_connected h apiName options now
  | answer i answer now =>
    simp only [step]
    split
    · exact h
    · exact ExternalService.endCall_connected h _ _ _ _ _
  | resetBreaker apiName => exact ExternalService.resetBreaker_connected h apiName

/-- In every state a process comes to, the APIs configured are connected. -/
theorem reachable_connected (config : ExternalConfig) (as : List ExternalAction) :
    (final step (start config) as).service.Connected :=
  invariant_reached (I := fun s : ExternalCalls => s.service.Connected) step_connected
    (ExternalService.connected_onModuleInit config) as

end ExternalCalls

end ApiCenter
