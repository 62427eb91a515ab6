namespace ApiCenter

/-- What a handler throws: a class of `errors.ts`, `GoneError` of the proxy, or
an error of the runtime. -/
inductive Thrown where
  | validationError (message : String)
  | unauthorizedError (message : String)
  | forbiddenError (message : String)
  | notFoundError (message : String)
  | goneError (message : String)
  | conflictError (message : String)
  | badGatewayError (message : String)
  | serviceUnavailableError (message : String)
  | typeError (message : String)
  | error (message : String)
  deriving DecidableEq, Repr

/-- The HTTP status of an `AppError`; other errors carry none. -/
def Thrown.status : Thrown → Option Nat
  | .validationError _ => some 400
  | .unauthorizedError _ => some 401
  | .forbiddenError _ => some 403
  | .notFoundError _ => some 404
  | .goneError _ => some 410
  | .conflictError _ => some 409
  | .badGatewayError _ => some 502
  | .serviceUnavailableError _ => some 503
  | .typeError _ => none
  | .error _ => none

/-- A sequence that does not throw has come through both of its parts. -/
theorem bind_ok {x : Except Thrown α} {f : α → Except Thrown β} {b : β}
    (h : (do let a ← x; f a) = .ok b) : ∃ a, x = .ok a ∧ f a = .ok b := by
  cases x with
  | error t => cases h
  | ok a => exact ⟨a, rfl, h⟩

theorem map_ok {x : Except Thrown α} {f : α → β} {b : β} (h : x.map f = .ok b) :
    ∃ a, x = .ok a ∧ f a = b := by
  cases x with
  | error t => cases h
  | ok a =>
    cases h
    exact ⟨a, rfl, rfl⟩

end ApiCenter
