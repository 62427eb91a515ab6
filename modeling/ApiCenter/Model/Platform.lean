import ApiCenter.Model.Gateway
import ApiCenter.Model.TokenExchange

namespace ApiCenter
open Library

/-- The action is a request to be proxied. -/
def GatewayAction.isRequest : GatewayAction → Bool
  | .proxyRequest .. => true
  | .call .. | .loadFromRedis _ | .reconcile .. | .proxyRes .. | .proxyError .. | .finish .. =>
    false

/-- A gateway process with its token endpoints. `signed` holds the tokens handed out so far. -/
structure Platform where
  gateway : Gateway
  signed : List String := []

/-- A client posts to a token endpoint, a client sends a request to be proxied, or the gateway goes
on by itself. -/
inductive PlatformAction where
  | token (post : TokenPost) (now : Nat)
  | request (ns : ServiceType) (target : String) (received : Request) (now : Nat) (throws : Bool)
  | background (a : { a : GatewayAction // a.isRequest = false })

/-- The token a client shows. -/
def PlatformAction.shown : PlatformAction → Option String
  | .token (.refresh refreshToken) _ => some refreshToken
  | .request _ _ received _ _ => bearerToken received.authorization
  | .token (.token _ _) _ | .background _ => none

namespace Platform

variable (p : DevJwtProvider) (validateSecret : String → String → Bool)

/-- A process that has just come up. -/
def start (redis : Bool) : Platform := { gateway := { registry := { redis := redis } } }

/-- The guard of the proxied routes, at `now` milliseconds. -/
def guard (received : Request) (now : Nat) : Except Thrown AuthenticatedRequest :=
  JwtAuthGuard.canActivate (p.provider now).validateToken received

def step (s : Platform) : PlatformAction → Platform
  | .token post now =>
    match post.serve p s.gateway.registry validateSecret now with
    | .ok answer =>
      { s with signed := s.signed ++ answer.accessToken :: answer.refreshToken.toList }
    | .error _ => s
  | .request ns target received now throws =>
    match guard p received now with
    | .ok req => { s with gateway := s.gateway.step (.proxyRequest ns target req now throws) }
    | .error _ => s
  | .background a => { s with gateway := s.gateway.step a.val }

/-- The `finish` listener of a request that is forwarded. -/
def forwarded (s : Platform) : PlatformAction → List FinishListener
  | .request ns target received now throws =>
    match guard p received now with
    | .ok req => (s.gateway.proxied ns target req now throws).onFinish.toList
    | .error _ => []
  | .token .. | .background _ => []

end Platform

end ApiCenter
