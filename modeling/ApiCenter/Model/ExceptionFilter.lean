import ApiCenter.Model.Json

namespace ApiCenter

/-- What `getResponse` of an `HttpException` returns. -/
inductive ExceptionResponse where
  | text (s : String)
  | object (fields : JsonObject)
  deriving Repr

/-- What a handler can throw: an `HttpException`, with the `code` an `AppError` has besides, or
anything else, with its `message` and `stack` as far as it has them. -/
inductive Exception where
  | httpException (status : Nat) (response : ExceptionResponse) (message : String)
      (code : Option String)
  | unexpected (message stack : Option String)
  deriving Repr

namespace Exception

/-- The constructor of `AppError`. -/
def appError (message : String) (statusCode : Nat) (code : String) : Exception :=
  .httpException statusCode (.object [("message", .string message), ("code", .string code)])
    message (some code)

/-- `getStatus`, for an `HttpException`. -/
def getStatus : Exception → Option Nat
  | .httpException status .. => some status
  | .unexpected .. => none

end Exception

/-- What the filter is handed for an error of the code; a stack is not modelled there. -/
def Thrown.exception : Thrown → Exception
  | .validationError message => .appError message 400 "VALIDATION_ERROR"
  | .unauthorizedError message => .appError message 401 "UNAUTHORIZED"
  | .forbiddenError message => .appError message 403 "FORBIDDEN"
  | .notFoundError message => .appError message 404 "NOT_FOUND"
  -- a `NotFoundError` whose `status` is redefined
  | .goneError message => .appError message 410 "NOT_FOUND"
  | .conflictError message => .appError message 409 "CONFLICT"
  | .badGatewayError message => .appError message 502 "BAD_GATEWAY"
  | .serviceUnavailableError message => .appError message 503 "SERVICE_UNAVAILABLE"
  | .typeError message => .unexpected (some message) none
  | .error message => .unexpected (some message) none

@[simp] theorem Thrown.getStatus_exception (t : Thrown) : t.exception.getStatus = t.status := by
  cases t <;> rfl

/-- A status with its JSON body. -/
structure HttpReply where
  status : Nat
  body : Json
  deriving Repr

structure AllExceptionsFilter where
  isProduction : Bool

namespace AllExceptionsFilter

/-- `{ success: false, error, meta }`; a `correlationId` that is `undefined` is not sent. -/
def errorBody (error : JsonObject) (correlationId : Option String) (now : String) : Json :=
  .object [("success", .bool false), ("error", .object error),
    ("meta", .object (("timestamp", .string now) ::
      (correlationId.toList.map fun id => ("correlationId", .string id))))]

/-- The `error` of the body for a response object that has a `message`. -/
def describe (code : Option String) (fields : JsonObject) (message : Json) : JsonObject :=
  let messages := match message with
    | .array items => items
    | single => [single]
  let code := match code with
    | some code => .string code
    | none => ((fields.lookup "error").filter Json.truthy).getD (.string "HTTP_ERROR")
  ("code", code) ::
    ("message", match messages with
      | [single] => single
      | _ => .string "Validation failed") ::
    (if messages.length > 1 then [("details", .array messages)] else [])

/-- `err?.message || 'Internal server error'`, and its stack, outside production. -/
def internalError (f : AllExceptionsFilter) (message stack : Option String) : JsonObject :=
  if f.isProduction then
    [("code", .string "INTERNAL_ERROR"), ("message", .string "An unexpected error occurred")]
  else
    ("code", .string "INTERNAL_ERROR") ::
      ("message", .string ((message.filter (· ≠ "")).getD "Internal server error")) ::
      (stack.toList.map fun s => ("stack", .string s))

def «catch» (f : AllExceptionsFilter) (correlationId : Option String) (now : String) :
    Exception → HttpReply
  | .httpException status response message code =>
    let error := match response with
      | .object fields =>
        match fields.lookup "message" with
        | some value => describe code fields value
        | none => [("code", .string "HTTP_ERROR"), ("message", .string message)]
      | .text _ => [("code", .string "HTTP_ERROR"), ("message", .string message)]
    { status, body := errorBody error correlationId now }
  | .unexpected message stack =>
    { status := 500, body := errorBody (f.internalError message stack) correlationId now }

/-- The status sent is the one the exception was made with, and 500 for all others. -/
theorem catch_status (f : AllExceptionsFilter) (correlationId : Option String) (now : String)
    (e : Exception) : (f.catch correlationId now e).status = e.getStatus.getD 500 := by
  cases e <;> rfl

end AllExceptionsFilter

end ApiCenter
