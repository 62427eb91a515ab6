import Mathlib.Data.Rat.Floor
import ApiCenter.Library.Retries
import ApiCenter.Model.Json

namespace ApiCenter
open Library

/-- The errors the SDK throws. -/
inductive TribeClientError where
  | tribeClientError (message code : String) (statusCode : Option Nat)
  | authenticationError (message : String)
  | authorizationError (message : String)
  | serviceNotFoundError
  | rateLimitError (retryAfterMs : Option Rat)
  | gatewayTimeoutError (message : String)
  | badGatewayError (message : String)
  | serviceUnavailableError (message : String)
  | networkError (message : String)
  deriving DecidableEq, Repr

namespace TribeClientError

def message : TribeClientError → String
  | .tribeClientError message .. => message
  | .authenticationError message => message
  | .authorizationError message => message
  | .serviceNotFoundError => "Resource not found"
  | .rateLimitError _ => "Rate limit exceeded — slow down and retry"
  | .gatewayTimeoutError message => message
  | .badGatewayError message => message
  | .serviceUnavailableError message => message
  | .networkError message => message

def code : TribeClientError → String
  | .tribeClientError _ code _ => code
  | .authenticationError _ => "AUTHENTICATION_ERROR"
  | .authorizationError _ => "AUTHORIZATION_ERROR"
  | .serviceNotFoundError => "SERVICE_NOT_FOUND"
  | .rateLimitError _ => "RATE_LIMIT_EXCEEDED"
  | .gatewayTimeoutError _ => "GATEWAY_TIMEOUT"
  | .badGatewayError _ => "BAD_GATEWAY"
  | .serviceUnavailableError _ => "SERVICE_UNAVAILABLE"
  | .networkError _ => "NETWORK_ERROR"

def statusCode : TribeClientError → Option Nat
  | .tribeClientError _ _ statusCode => statusCode
  | .authenticationError _ => some 401
  | .authorizationError _ => some 403
  | .serviceNotFoundError => some 404
  | .rateLimitError _ => some 429
  | .gatewayTimeoutError _ => some 504
  | .badGatewayError _ => some 502
  | .serviceUnavailableError _ => some 503
  | .networkError _ => none

end TribeClientError

/-- What a client reads of a response; `retryAfter` is the number in its `retry-after` header. -/
structure AxiosResponse where
  status : Nat
  data : Json := .null
  retryAfter : Option Rat := none
  deriving Repr

structure AxiosError where
  message : String
  code : Option String := none
  response : Option AxiosResponse := none
  deriving Repr

def retryableStatusCodes : List Nat := [502, 503, 504]

def retryableErrorCodes : List String :=
  ["ECONNABORTED", "ETIMEDOUT", "ECONNRESET", "ECONNREFUSED", "ENETUNREACH", "ERR_NETWORK"]

def isRetryable (error : AxiosError) : Bool :=
  error.response.any (fun response => retryableStatusCodes.contains response.status) ||
    error.code.any fun code => retryableErrorCodes.contains code

namespace AxiosError

/-- `body?.error?.message ?? body?.message ?? err.message` -/
def detail (err : AxiosError) : String :=
  let body := err.response.map (·.data)
  let nested := (body.bind (·.get? "error")).bind (·.get? "message")
  let message := (nested.bind Json.present).or ((body.bind (·.get? "message")).bind Json.present)
  (message.map Json.toText).getD err.message

end AxiosError

def wrapAxiosError (err : AxiosError) : TribeClientError :=
  match err.response with
  | none =>
    if err.code = some "ECONNABORTED" ∨ err.code = some "ETIMEDOUT" then
      .gatewayTimeoutError err.detail
    else .networkError err.detail
  | some response =>
    match response.status with
    | 401 => .authenticationError err.detail
    | 403 => .authorizationError err.detail
    | 404 => .serviceNotFoundError
    | 429 =>
      .rateLimitError ((response.retryAfter.filter (· ≠ 0)).map (· * 1000))
    | 502 => .badGatewayError err.detail
    | 503 => .serviceUnavailableError err.detail
    | 504 => .gatewayTimeoutError err.detail
    | status => .tribeClientError err.detail "GATEWAY_ERROR" (some status)

/-- How one `http.request` ends. -/
inductive AttemptOutcome where
  | success (data : Json)
  | axiosError (err : AxiosError)
  | otherError (message : String)

/-- How a promise of the SDK is settled. -/
inductive Settled where
  | resolved (data : Json)
  | rejected (error : TribeClientError)
  | rethrown (message : String)

/-- The retry settings of a client. -/
structure TribeClient where
  maxRetries : Nat := 3
  retryBaseDelayMs : Rat := 500

namespace TribeClient
open Retries

/-- `Math.round`: to the nearest integer, and up from the middle. -/
def round (x : Rat) : Int := ⌊x + 1 / 2⌋

/-- `random` is what `Math.random()` returns. Without a value the delay is `Infinity` or `NaN`. -/
def delay (c : TribeClient) (attempt : Nat) (random : Rat) : Option Int :=
  -- from there on `Math.pow(2, attempt)` is `Infinity`
  if 1024 ≤ attempt then none
  else
    let base := c.retryBaseDelayMs * 2 ^ attempt
    let jitter := base * 0.25 * (random * 2 - 1)
    some (max 0 (round (base + jitter)))

/-- The milliseconds for which a call sleeps. The timer takes what is not a number from 1 to
2^31 - 1 for 1. -/
def sleep (ms : Option Int) : Int :=
  match ms with
  | some ms => if 1 ≤ ms ∧ ms ≤ 2147483647 then ms else 1
  | none => 1

/-- The requests and sleeps of a call, and how it ends. -/
structure Exchange where
  steps : List (Step Int)
  settled : Settled

/-- The loop of `requestWithRetry` from `attempt` on. -/
def requestLoop (c : TribeClient) (outcome : Nat → AttemptOutcome) (random : Nat → Rat)
    (attempt : Nat) (lastError : Option AxiosError) : Exchange :=
  if attempt ≤ c.maxRetries then
    match outcome attempt with
    | .success data => { steps := [.attempt], settled := .resolved data }
    | .otherError message => { steps := [.attempt], settled := .rethrown message }
    | .axiosError err =>
      if !isRetryable err || attempt = c.maxRetries then
        { steps := [.attempt], settled := .rejected (wrapAxiosError err) }
      else
        let rest := requestLoop c outcome random (attempt + 1) (some err)
        { rest with steps := .attempt :: .pause (sleep (c.delay attempt (random attempt))) ::
            rest.steps }
  else
    { steps := []
      settled := .rejected (match lastError with
        | some err => wrapAxiosError err
        | none => .networkError "Network error — could not reach the gateway") }
termination_by c.maxRetries + 1 - attempt

/-- `outcome` says how each attempt would end, and `random` what `Math.random()` returns then. -/
def requestWithRetry (c : TribeClient) (outcome : Nat → AttemptOutcome) (random : Nat → Rat) :
    Exchange :=
  requestLoop c outcome random 0 none

end TribeClient

end ApiCenter
