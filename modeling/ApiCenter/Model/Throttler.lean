import ApiCenter.Model.Auth

namespace ApiCenter
namespace TribeThrottlerGuard

/-- The bucket a request is counted in; `null` and `undefined` addresses fall through. -/
def getTracker (req : AuthenticatedRequest) : String :=
  match req.xTribeId.filter (· ≠ "") with
  | some headerTribeId => headerTribeId
  | none =>
    match req.user.bind (·.tribeId.text?) with
    | some tribeId => tribeId
    | none => (req.ip.orElse fun _ => req.remoteAddress).getD "unknown"

end TribeThrottlerGuard

/-- The guards of a proxied route, in the order they run: the `APP_GUARD` sees
the request before `JwtAuthGuard` has attached anything to it. -/
def runGuards (validateToken : String → Except Thrown JwtClaims) (request : Request) :
    String × Except Thrown AuthenticatedRequest :=
  (TribeThrottlerGuard.getTracker { request with },
    JwtAuthGuard.canActivate validateToken request)

end ApiCenter
