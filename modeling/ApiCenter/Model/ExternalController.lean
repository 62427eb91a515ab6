import ApiCenter.Model.ExceptionFilter
import ApiCenter.Model.External

namespace ApiCenter

/-- The characters that mean something else in a regular expression. -/
def patternCharacters : List Char := "\\^$.*+?()[]\x7b\x7d|".toList

/-- A name that stands for itself in a regular expression. -/
structure PlainName where
  text : String
  plain : ∀ c ∈ text.toList, c ∉ patternCharacters

namespace ExternalController

/-- What is left of the URL when `^/api/v1/external/${apiName}/?` is cut off. -/
def downstreamPath (apiName : PlainName) (fullPath : String) : String :=
  let pre := s!"/api/v1/external/{apiName.text}".toList
  if pre.isPrefixOf fullPath.toList then
    match fullPath.toList.drop pre.length with
    | '/' :: rest => "/" ++ String.ofList rest
    | rest => "/" ++ String.ofList rest
  else "/" ++ fullPath

/-- What `proxyCall` passes to `call`. -/
def callOptions (apiName : PlainName) (req : HandledRequest) : ExternalCallOptions where
  method := req.method
  path := downstreamPath apiName req.originalUrl
  query := req.query
  body := req.body
  headers := [("X-Correlation-ID", req.correlationId.getD ""),
    ("X-Tribe-Id", req.tribeId.text?.getD "")]

/-- `proxyCall` up to the request of the client. -/
def proxyCall (s : ExternalService) (apiName : PlainName) (req : HandledRequest) (now : Nat) :
    ExternalService × Except Thrown AxiosRequestConfig :=
  s.beginCall apiName.text (callOptions apiName req) now

/-- The answer of `proxyCall`. -/
def reply (apiName : PlainName) (req : HandledRequest) (result : ExternalResult) (now : String) :
    HttpReply where
  status := result.status
  body := .object [("success", .bool true), ("data", result.data),
    ("meta", .object ([("api", .string apiName.text),
      ("duration", .number (toString result.duration)), ("timestamp", .string now)] ++
      (req.correlationId.toList.map fun id => ("correlationId", .string id))))]

end ExternalController

namespace TribeClient

/-- The request of `callExternal`, without options of the caller. -/
def callExternal (accessToken apiName path : String) : AxiosRequestConfig where
  method := "GET"
  url := s!"/api/v1/external/{apiName}{path}"
  headers := [("Authorization", s!"Bearer {accessToken}")]

end TribeClient

end ApiCenter
