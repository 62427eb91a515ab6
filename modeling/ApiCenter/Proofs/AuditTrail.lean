import ApiCenter.Model.Interceptors

namespace ApiCenter

/-- Both records of a request have the status its client gets. -/
structure Handled.Agrees (h : Handled) : Prop where
  audit : h.audit.statusCode = h.reply.status
  metric : h.metric.statusCode = h.reply.status

namespace Proofs.AuditTrail

variable (f : AllExceptionsFilter) (xCorrelationId : Option String) (uuid : String)
  (req : HandledRequest) (statusCode start now : Nat) (timestamp : String)

/-- An exception is recorded with the status the response had when it was thrown. -/
theorem handle_error_recorded (e : Exception) (h : statusCode ≠ 0) :
    let handled := handle f xCorrelationId uuid req (.error e) statusCode start now timestamp
    handled.audit.statusCode = statusCode ∧ handled.metric.statusCode = statusCode ∧
      handled.reply.status = e.getStatus.getD 500 := by
  refine ⟨rfl, ?_, AllExceptionsFilter.catch_status _ _ _ e⟩
  simp [handle, MetricsInterceptor.error, MetricsInterceptor.record, h]

theorem agrees_iff_getStatus (e : Exception) (h : statusCode = 200 ∨ statusCode = 201) :
    (handle f xCorrelationId uuid req (.error e) statusCode start now timestamp).Agrees ↔
      e.getStatus = some statusCode := by
  have hne : statusCode ≠ 0 ∧ statusCode ≠ 500 := by omega
  obtain ⟨haudit, hmetric, hreply⟩ :=
    handle_error_recorded f xCorrelationId uuid req statusCode start now timestamp e hne.1
  constructor
  · intro hagrees
    have hstatus := haudit.symm.trans (hagrees.audit.trans hreply)
    cases hget : e.getStatus with
    | none =>
      rw [hget] at hstatus
      exact absurd hstatus hne.2
    | some status =>
      rw [hget] at hstatus
      exact congrArg some hstatus.symm
  · intro hget
    rw [hget] at hreply
    exact ⟨haudit.trans hreply.symm, hmetric.trans hreply.symm⟩

/-- No error of the code has the status of a success. -/
theorem status_ne_success (t : Thrown) (h : statusCode = 200 ∨ statusCode = 201) :
    t.status ≠ some statusCode := by
  rcases h with rfl | rfl
  · cases t <;> simp [Thrown.status]
  · cases t <;> simp [Thrown.status]

/-- Of a request whose handler throws, the records agree with the answer exactly when the exception
is an `HttpException` made with the very status the response has anyway, so for no error of the
code. -/
theorem error_agrees_iff (h : statusCode = 200 ∨ statusCode = 201) :
    (∀ e : Exception,
      (handle f xCorrelationId uuid req (.error e) statusCode start now timestamp).Agrees ↔
        e.getStatus = some statusCode) ∧
    ∀ t : Thrown, ¬ (handle f xCorrelationId uuid req (.error t.exception) statusCode start now
      timestamp).Agrees := by
  have hiff := fun e =>
    agrees_iff_getStatus f xCorrelationId uuid req statusCode start now timestamp e h
  refine ⟨hiff, fun t => ?_⟩
  rw [hiff, Thrown.getStatus_exception]
  exact status_ne_success statusCode t h

/-- A request for a tribe's service. -/
def getOrders : HandledRequest where
  method := "GET"
  path := "/api/v1/tribes/orders/list"
  authorization := some "Bearer t"
  xTribeId := none
  ip := some "10.0.0.1"
  remoteAddress := none
  tribeId := .value "billing"
  originalUrl := "/api/v1/tribes/orders/list"
  route := some "/api/v1/tribes/:target/*"

theorem error_agrees_iff_getOrders :
    ¬ (handle ⟨true⟩ none "u" getOrders (.error (Thrown.notFoundError "no").exception) 200 0 7
      "t0").Agrees :=
  (error_agrees_iff ⟨true⟩ none "u" getOrders 200 0 7 "t0" (.inl rfl)).2 (.notFoundError "no")

theorem not_found_is_recorded_as_success :
    ¬ ∀ (f : AllExceptionsFilter) (xCorrelationId : Option String) (uuid : String)
      (req : HandledRequest) (e : Exception) (statusCode start now : Nat) (timestamp : String),
      statusCode = 200 ∨ statusCode = 201 →
      (handle f xCorrelationId uuid req (.error e) statusCode start now timestamp).Agrees := by
  intro h
  have haudit := (h ⟨true⟩ none "u" getOrders (Thrown.notFoundError "no").exception 200 0 7 "t0"
    (.inl rfl)).audit
  revert haudit
  decide

end Proofs.AuditTrail

end ApiCenter
