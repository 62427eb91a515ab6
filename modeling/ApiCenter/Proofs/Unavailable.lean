import ApiCenter.Model.ExternalController
import ApiCenter.Model.TribeClient
import ApiCenter.Proofs.ExternalCalls
import ApiCenter.Proofs.Mediation

namespace ApiCenter
open Library

/-- What the SDK has in hand when a request is answered with `reply`. -/
def AxiosError.Carries (err : AxiosError) (reply : HttpReply) : Prop :=
  ∃ response, err.response = some response ∧ response.status = reply.status ∧
    response.data = reply.body

/-- Thrown by a handler, it comes to the client as a 503 that is worth another attempt. -/
structure Thrown.Unavailable (t : Thrown) (f : AllExceptionsFilter)
    (correlationId : Option String) (now : String) : Prop where
  status : (f.catch correlationId now t.exception).status = 503
  retryable : ∀ err : AxiosError, err.Carries (f.catch correlationId now t.exception) →
    isRetryable err = true
  wrapped : ∀ err : AxiosError, err.Carries (f.catch correlationId now t.exception) →
    ∃ message, wrapAxiosError err = .serviceUnavailableError message

namespace ExternalCalls

/-- The action is a call whose breaker is open and cooling down. -/
def FailsFast (s : ExternalCalls) : ExternalAction → Prop
  | .call apiName _ now => s.service.CoolingDown apiName now
  | .answer .. | .resetBreaker _ => False

/-- A call that fails fast is answered with a 503, and whatever a call is rejected with is an
`AppError` of one of three statuses. -/
structure Answers (f : AllExceptionsFilter) (s : ExternalCalls) (a : ExternalAction) : Prop where
  failFast : s.FailsFast a → ∃ t, s.rejection a = some t ∧
    ∀ correlationId now, t.Unavailable f correlationId now
  rejected : ∀ t, s.rejection a = some t →
    t.status = some 404 ∨ t.status = some 502 ∨ t.status = some 503

end ExternalCalls

namespace Proofs.Unavailable
open ApiCenter.Library.Runs Mediation

/-- Both routes through a breaker turn a request away with a 503, and the calls to third-party
APIs fail in no other way than they should. -/
structure FailFast (f : AllExceptionsFilter) (config : ExternalConfig)
    (as : List ExternalAction) : Prop where
  external : Always ExternalCalls.step (ExternalCalls.Answers f) (.start config) as
  proxied : ∀ (h : ProxyHandler) (r : RegistryService) (target : String)
    (req : AuthenticatedRequest) (now : Nat) (throws : Bool),
    Passes h r target req → ¬ BreakerAdmits h target now →
    (h.proxyRequest r target req now throws).forwarded = none ∧
      ∃ t, (h.proxyRequest r target req now throws).result = .error t ∧
        ∀ correlationId time, t.Unavailable f correlationId time

variable {f : AllExceptionsFilter}

theorem unavailable_serviceUnavailableError (message : String) (f : AllExceptionsFilter)
    (correlationId : Option String) (now : String) :
    (Thrown.serviceUnavailableError message).Unavailable f correlationId now where
  status := rfl
  retryable err h := by
    obtain ⟨response, hr, hs, -⟩ := h
    have hstatus : response.status = 503 := hs
    simp [isRetryable, hr, hstatus, retryableStatusCodes]
  wrapped err h := by
    obtain ⟨response, hr, hs, -⟩ := h
    have hstatus : response.status = 503 := hs
    exact ⟨err.detail, by simp [wrapAxiosError, hr, hstatus]⟩

theorem rejection_call {s : ExternalCalls} {apiName : String} {options : ExternalCallOptions}
    {now : Nat} (hout : s.service.beginCall apiName options now = out) (t : Thrown) :
    s.rejection (.call apiName options now) = some t ↔ out.2 = .error t := by
  simp only [ExternalCalls.rejection, hout]
  cases out.2 with
  | ok cfg => simp
  | error t' => simp

theorem call_answers_iff {s : ExternalCalls} (hs : s.service.Connected) (apiName : String)
    (options : ExternalCallOptions) (now : Nat) :
    s.Answers f (.call apiName options now) ↔ ¬ s.service.CoolingDown apiName now := by
  have hbegins := ExternalService.beginCall_begins hs apiName options now
  generalize hout : s.service.beginCall apiName options now = out at hbegins
  have hrejection := rejection_call hout
  cases hbegins with
  | unknown hnot t ht =>
    refine iff_of_true ⟨fun h => absurd h hnot, ?_⟩ hnot
    intro t' ht'
    cases (hrejection t').mp ht'
    rcases ht with h404 | h503
    · exact .inl h404
    · exact .inr (.inr h503)
  | coolingDown hc s' hs' message =>
    refine iff_of_false ?_ (not_not_intro hc)
    intro h
    have hstatus := h.rejected _ ((hrejection _).mpr rfl)
    simp [Thrown.status] at hstatus
  | sent hnot s' hs' =>
    refine iff_of_true ⟨fun h => absurd h hnot, ?_⟩ hnot
    intro t ht
    cases (hrejection t).mp ht

/-- What a call that was sent is rejected with is a 502. -/
theorem rejection_answer {s : ExternalCalls} {i : Nat} {answer : Except String UpstreamResponse}
    {now : Nat} (h : s.rejection (.answer i answer now) = some t) : t.status = some 502 := by
  obtain ⟨p, -, hp⟩ := Option.bind_eq_some_iff.mp h
  cases answer with
  | ok resp => cases hp
  | error message =>
    cases hp
    rfl

/-- An action is answered as it should be unless it is a call its breaker turns away. -/
theorem answers_iff {s : ExternalCalls} (hs : s.service.Connected) (a : ExternalAction) :
    s.Answers f a ↔ ¬ s.FailsFast a := by
  cases a with
  | call apiName options now => exact call_answers_iff hs apiName options now
  | answer i answer now =>
    exact iff_of_true ⟨nofun, fun t ht => .inr (.inl (rejection_answer ht))⟩ nofun
  | resetBreaker apiName => exact iff_of_true ⟨nofun, nofun⟩ nofun

theorem proxied_unavailable (f : AllExceptionsFilter) {h : ProxyHandler} {r : RegistryService}
    {target : String} {req : AuthenticatedRequest} {now : Nat} (throws : Bool)
    (hp : Passes h r target req) (hb : ¬ BreakerAdmits h target now) :
    (h.proxyRequest r target req now throws).forwarded = none ∧
      ∃ t, (h.proxyRequest r target req now throws).result = .error t ∧
        ∀ correlationId time, t.Unavailable f correlationId time := by
  obtain ⟨e, headers, -, hout⟩ := proxyRequest_passes hp
  rw [hout now throws]
  refine ⟨forward_rejected e.baseUrl headers throws hb, _, ?_,
    unavailable_serviceUnavailableError
      s!"Upstream '{target}' is temporarily unavailable (circuit breaker open)" f⟩
  unfold BreakerAdmits at hb
  simp [ProxyHandler.forward, hb]

/-- Failing fast is a 503 on both routes exactly when no call to a third-party API fails fast. -/
theorem failFast_iff (f : AllExceptionsFilter) (config : ExternalConfig)
    (as : List ExternalAction) :
    FailFast f config as ↔
      Always ExternalCalls.step (fun s a => ¬ s.FailsFast a) (.start config) as := by
  have hruns : Always ExternalCalls.step (ExternalCalls.Answers f) (.start config) as ↔
      Always ExternalCalls.step (fun s a => ¬ s.FailsFast a) (.start config) as :=
    always_iff_of_kept (I := fun s => s.service.Connected) (fun s a hs => answers_iff hs a)
      (fun s a hs _ => s.step_connected a hs) (ExternalService.connected_onModuleInit config) as
  constructor
  · exact fun h => hruns.mp h.external
  · exact fun h => ⟨hruns.mpr h, fun _ _ _ _ _ throws hp hb => proxied_unavailable f throws hp hb⟩

/-- Five requests that time out, and a sixth within thirty seconds. -/
def sixthCall : List ExternalAction :=
  (List.range 5).flatMap (fun i => [.call "geolocation" {} i, .answer 0 (.error "timeout") i]) ++
    [.call "geolocation" {} 5]

theorem open_breaker_answers_500 :
    ¬ ∀ (f : AllExceptionsFilter) (config : ExternalConfig) (as : List ExternalAction),
      FailFast f config as := by
  intro h
  have hall := (h ⟨true⟩ {} sixthCall).external
  have hlast := ((always_append _ _ _).mp hall).2.1
  have hrejected := hlast.rejected
    (.error "Circuit breaker [geolocation] is OPEN — request rejected") (by decide)
  simp [Thrown.status] at hrejected

end Proofs.Unavailable

end ApiCenter
