import ApiCenter.Model.ExceptionFilter
import ApiCenter.Model.Types

namespace ApiCenter

/-- The `AUDIT_LOG` event, and the key it is published under. -/
structure AuditLogEvent where
  tribeId : String
  method : String
  path : String
  statusCode : Nat
  durationMs : Nat
  ip : String
  correlationId : Option String
  targetServiceId : Option String
  key : Optional String
  deriving DecidableEq, Repr

/-- One observation of `http_requests_total` and, in seconds, `http_request_duration_seconds`. -/
structure HttpMetric where
  method : String
  route : String
  statusCode : Nat
  durationMs : Nat
  deriving DecidableEq, Repr

/-- `a || b`, for a text. -/
def orElse (a : Option String) (b : String) : String := (a.filter (· ≠ "")).getD b

/-- Use the header of the client, or else a new UUID. -/
def CorrelationIdInterceptor.intercept (xCorrelationId : Option String) (uuid : String)
    (req : HandledRequest) : HandledRequest :=
  { req with correlationId := some (orElse xCorrelationId uuid) }

namespace AuditLogInterceptor

/-- What follows the first `tribes` among the parts of the URL. -/
def targetServiceId (originalUrl : String) : Option String :=
  let pathParts := originalUrl.toList.splitOn '/'
  let tribesIdx := pathParts.idxOf "tribes".toList
  (pathParts[tribesIdx + 1]?.map String.ofList).filter (· ≠ "")

/-- `publishAudit`; `statusCode` is that of the response at the time. -/
def publishAudit (req : HandledRequest) (statusCode start now : Nat) : AuditLogEvent where
  tribeId := req.tribeId.text?.getD "anonymous"
  method := req.method
  path := req.originalUrl
  statusCode := statusCode
  durationMs := now - start
  ip := orElse req.ip "unknown"
  correlationId := req.correlationId
  targetServiceId := targetServiceId req.originalUrl
  key := req.tribeId

end AuditLogInterceptor

namespace MetricsInterceptor

def record (req : HandledRequest) (statusCode start now : Nat) : HttpMetric where
  method := req.method
  route := orElse req.route (orElse (some req.path) "unknown")
  statusCode := statusCode
  durationMs := now - start

/-- The `next` callback. -/
def next (req : HandledRequest) (statusCode start now : Nat) : HttpMetric :=
  record req statusCode start now

/-- The `error` callback. -/
def error (req : HandledRequest) (statusCode start now : Nat) : HttpMetric :=
  record req (if statusCode = 0 then 500 else statusCode) start now

end MetricsInterceptor

/-- What a request that comes to its handler leaves behind, with what it is answered. -/
structure Handled where
  metric : HttpMetric
  audit : AuditLogEvent
  reply : HttpReply

/-- The global interceptors around a handler. `statusCode` is that of the response when the handler
is done, which is also what a value it returns is sent with. -/
def handle (f : AllExceptionsFilter) (xCorrelationId : Option String) (uuid : String)
    (received : HandledRequest) (outcome : Except Exception Json) (statusCode start now : Nat)
    (timestamp : String) : Handled :=
  let req := CorrelationIdInterceptor.intercept xCorrelationId uuid received
  match outcome with
  | .ok data =>
    { metric := MetricsInterceptor.next req statusCode start now
      audit := AuditLogInterceptor.publishAudit req statusCode start now
      reply := { status := statusCode, body := data } }
  | .error e =>
    -- the callbacks come before the filter, which is the first to set a status
    { metric := MetricsInterceptor.error req statusCode start now
      audit := AuditLogInterceptor.publishAudit req statusCode start now
      reply := f.catch req.correlationId timestamp e }

end ApiCenter
