import ApiCenter.Model.Auth

namespace ApiCenter

/-- The payload of a JWT, with the claims the providers read or set. -/
structure JwtPayload where
  sub : Optional String := .undefined
  iss : Optional String := .undefined
  iat : Optional Nat := .undefined
  exp : Optional Nat := .undefined
  tribeId : Optional String := .undefined
  permissions : Optional (List String) := .undefined
  scopes : Optional (List String) := .undefined
  type : Optional String := .undefined
  deriving DecidableEq, Repr

/-- What `jose` offers: tokens signed with a key, and the payload of a token
whose signature verifies under the key. -/
structure Jose where
  Key : Type
  sign : Key → JwtPayload → String
  payloadOf : Key → String → Option JwtPayload
  payloadOf_sign : ∀ key payload, payloadOf key (sign key payload) = some payload

/-- `jwtVerify` with an expected issuer, at `now` seconds. -/
def Jose.jwtVerify (jose : Jose) (key : jose.Key) (issuer : String) (now : Nat) (token : String) :
    Except Thrown JwtPayload :=
  match jose.payloadOf key token with
  | none => .error (.error "signature verification failed")
  | some payload =>
    if payload.iss ≠ .value issuer then .error (.error "unexpected \"iss\" claim value")
    else
      match payload.exp with
      | .undefined => .ok payload
      | .null => .error (.error "\"exp\" claim must be a number")
      | .value exp =>
        if exp ≤ now then .error (.error "\"exp\" claim timestamp check failed") else .ok payload

structure IssuedToken where
  accessToken : String
  refreshToken : String
  expiresIn : Nat
  deriving DecidableEq, Repr

/-- The provider after `onModuleInit`, with the configuration it reads. -/
structure DevJwtProvider where
  jose : Jose
  key : jose.Key
  issuer : String
  tokenTtlSeconds : Optional Nat := .value 3600
  refreshTtlMultiplier : Nat := 24

namespace DevJwtProvider

def ttl (p : DevJwtProvider) : Nat := p.tokenTtlSeconds.getD 3600

def verify (p : DevJwtProvider) (now : Nat) (token : String) : Except Thrown JwtPayload :=
  p.jose.jwtVerify p.key p.issuer now token

def validateToken (p : DevJwtProvider) (token : String) (now : Nat) : Except Thrown JwtClaims :=
  (p.verify now token).map fun payload =>
    { sub := payload.sub.spreadOver (.value (payload.sub.getD ""))
      tribeId := payload.tribeId.spreadOver payload.tribeId
      permissions := payload.permissions.spreadOver (.value (payload.permissions.getD []))
      scopes := payload.scopes.spreadOver (.value (payload.scopes.getD []))
      exp := payload.exp.spreadOver payload.exp
      iss := payload.iss
      iat := payload.iat
      type := payload.type }

def accessPayload (p : DevJwtProvider) (serviceId : String) (permissions scopes : List String)
    (now : Nat) : JwtPayload where
  tribeId := .value serviceId
  permissions := .value permissions
  scopes := .value scopes
  sub := .value serviceId
  iss := .value p.issuer
  iat := .value now
  exp := .value (now + p.ttl)

def refreshPayload (p : DevJwtProvider) (serviceId : String) (now : Nat) : JwtPayload where
  tribeId := .value serviceId
  type := .value "refresh"
  sub := .value serviceId
  iss := .value p.issuer
  iat := .value now
  exp := .value (now + p.ttl * p.refreshTtlMultiplier)

def issueToken (p : DevJwtProvider) (serviceId : String) (permissions scopes : List String)
    (now : Nat) : IssuedToken where
  accessToken := p.jose.sign p.key (p.accessPayload serviceId permissions scopes now)
  refreshToken := p.jose.sign p.key (p.refreshPayload serviceId now)
  expiresIn := p.ttl

def refreshToken (p : DevJwtProvider) (token : String) (now : Nat) : Except Thrown IssuedToken :=
  match p.verify now token with
  | .error e => .error e
  | .ok payload =>
    if payload.type ≠ .value "refresh" then
      .error (.error "Provided token is not a refresh token")
    else
      .ok (p.issueToken (payload.sub.getD "") (payload.permissions.getD [])
        (payload.scopes.getD []) now)

end DevJwtProvider

end ApiCenter
