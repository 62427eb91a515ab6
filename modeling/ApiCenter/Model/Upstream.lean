import ApiCenter.Model.Config
import ApiCenter.Model.ExternalController
import ApiCenter.Model.Interceptors
import ApiCenter.Model.Platform

namespace ApiCenter
open Library

/-- A request that goes out to an upstream. Node keeps the names of headers in lower case. -/
structure UpstreamRequest where
  target : String
  path : String
  headers : Table String String

/-- A request that comes in, with headers as HTTP has them. `answered` is what the body parser, the
CORS handler or the global throttler has answered it with, if one of them has: they come before the
guard of a proxied route. -/
structure Incoming where
  received : Request
  originalUrl : String
  headers : Table String String
  valid : ∀ name value, headers.lookup name = some value → ProxyHandler.fitsHeader value = true
  answered : Option HttpReply := none

/-- The libraries a proxied request passes: the router, which reads the parameter of a route off a
URL, and the proxy middleware, which is given its callback for the request that goes out. -/
structure ProxyLibraries where
  param : String → String → Option String
  send : Middleware → (Table String String → Option (Table String String)) → String →
    Table String String → Option UpstreamRequest

/-- The request the handler is called with, once the guard has let it through. -/
def Incoming.handled (a : Incoming) (req : AuthenticatedRequest) (uuid : String) : HandledRequest :=
  CorrelationIdInterceptor.intercept (a.headers.lookup "x-correlation-id") uuid
    { req with originalUrl := a.originalUrl }

/-- The route a call of the SDK is made to be proxied by, and the path it is to have there. -/
def SdkCall.target? : SdkCall → Option (ServiceType × String × String)
  | .callService serviceId path => some (.tribe, serviceId, path)
  | .callSharedService serviceId path => some (.shared, serviceId, path)
  | .callExternal _ _ | .listServices | .listSharedServices => none

end ApiCenter
