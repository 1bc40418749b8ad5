/-
Privy access tokens, and the identity that the middleware puts on a request.

`PrivyPlatform` stands for what lies outside of the process: the library of web tokens,
Privy's signing keys, the revocations in Redis and the identifiers of the database.
A claim of another type than the one expected counts as missing.
-/
import AudioBlock.Auth.Tokens
import AudioBlock.Foundation.Answers
import AudioBlock.Foundation.Text
import AudioBlock.Songs.Song

namespace AudioBlock.Auth

open AudioBlock.Foundation AudioBlock.Songs

/-- A well-formed token, before any check; times are in seconds. -/
structure PrivyJwt where
  alg : String
  kid : Option String
  typ : Option String
  sub : Option String
  sid : Option String
  iss : Option String
  aud : Option String
  iat : Option Nat
  nbf : Option Nat
  exp : Option Nat

structure LinkedAccount where
  type : String
  walletClient : Option String
  connectorType : Option String
  address : Option String
  email : Option String
  verifiedEmail : Bool
  username : Option String
  subject : Option String
  id : Option String
  name : Option String
  profilePictureUrl : Option String
  verified : Bool

/-- The fields of an identity token that a login reads. -/
structure IdTokenPayload where
  sub : Option String
  id : Option String
  email : Option String
  emailVerified : Bool
  wallet_address : Option String
  walletAddress : Option String
  linkedAccounts : List LinkedAccount

/-- What decoding and parsing the second part of an identity token gives. -/
inductive DecodedPayload
  | unreadable
  | notObject
  | object (payload : IdTokenPayload)

/-- The error classes of the Privy integration, with their messages. -/
inductive PrivyFailure
  | malformedToken (message : String)
  | unknownKey (message : String)
  | invalidToken (message : String)
  | sessionRevoked (sessionId : String)
  | keyUnavailable (message : String)
  deriving DecidableEq

structure PrivyPlatform where
  isPrivyEnabled : Bool
  appId : Option String
  decode : String → Option PrivyJwt
  getKey : String → Except PrivyFailure String
  signedBy : (token key : String) → Bool
  isSessionRevoked : (sessionId userId : String) → (issuedAt : Nat) → Bool
  readPayload : String → DecodedPayload
  /-- The identifier that the database reads in a text, if it is one. -/
  uuid : String → Option String

structure VerifiedPrivyToken where
  userId : String
  sessionId : String
  issuer : String
  appId : String
  issuedAt : Nat
  expiresAt : Nat
  deriving DecidableEq

def privyTokenAlgorithm : String := "ES256"

def privyTokenIssuer : String := "privy.io"

def requireString (value : Option String) (field : String) : Except PrivyFailure String :=
  match truthy value with
  | some text => .ok text
  | none => .error (.invalidToken ("Privy token is missing the \"" ++ field ++ "\" claim"))

def requireNumber (value : Option Nat) (field : String) : Except PrivyFailure Nat :=
  match value with
  | some number => .ok number
  | none => .error (.invalidToken ("Privy token has a malformed \"" ++ field ++ "\" claim"))

def readJwtHeader (platform : PrivyPlatform) (token : String) : Except PrivyFailure PrivyJwt :=
  if token = "" then .error (.malformedToken "Token is empty")
  else
    match platform.decode token with
    | none => .error (.malformedToken "Token is not a well-formed JWT")
    | some decoded => .ok decoded

/-- `jwt.verify` with the pinned algorithm, the issuer and the audience. -/
def verifyPrivySignature (platform : PrivyPlatform) (appId : String) (now : Nat)
    (token key : String) (decoded : PrivyJwt) : Except PrivyFailure Unit :=
  if platform.signedBy token key = false then
    .error (.invalidToken "Privy access token is invalid")
  else if decoded.nbf.any fun start => decide (jwtSeconds now < start) then
    .error (.invalidToken "Privy access token is invalid")
  else if decoded.exp.any fun expiry => decide (expiry ≤ jwtSeconds now) then
    .error (.invalidToken "Privy access token has expired")
  else if decoded.aud ≠ some appId ∨ decoded.iss ≠ some privyTokenIssuer then
    .error (.invalidToken "Privy access token is invalid")
  else .ok ()

def normalisedClaims (decoded : PrivyJwt) : Except PrivyFailure VerifiedPrivyToken := do
  let userId ← requireString decoded.sub "sub"
  let sessionId ← requireString decoded.sid "sid"
  let issuer ← requireString decoded.iss "iss"
  let appId ← requireString decoded.aud "aud"
  let issuedAt ← requireNumber decoded.iat "iat"
  let expiresAt ← requireNumber decoded.exp "exp"
  return { userId, sessionId, issuer, appId, issuedAt, expiresAt }

def checkHeader (header : PrivyJwt) : Except PrivyFailure String :=
  if header.alg ≠ privyTokenAlgorithm then
    .error (.invalidToken
      ("Privy tokens must be signed with ES256, got \"" ++ header.alg ++ "\""))
  else
    match truthy header.kid with
    | none => .error (.malformedToken "Privy token is missing a key id (kid) header")
    | some kid =>
        match truthy header.typ with
        | none => .ok kid
        | some typ =>
            if typ = "JWT" then .ok kid
            else .error (.invalidToken ("Unexpected token type \"" ++ typ ++ "\""))

def verifyPrivyAccessToken (platform : PrivyPlatform) (appId : String) (now : Nat)
    (token : String) : Except PrivyFailure VerifiedPrivyToken := do
  let header ← readJwtHeader platform token
  let kid ← checkHeader header
  let key ← platform.getKey kid
  verifyPrivySignature platform appId now token key header
  let result ← normalisedClaims header
  if platform.isSessionRevoked result.sessionId result.userId result.issuedAt then
    .error (.sessionRevoked result.sessionId)
  else .ok result

/-! ### Requests -/

def ServiceError.validation (message : String) : ServiceError := ⟨message, some 400⟩

def privyUnavailableError (reason : String) : ServiceError :=
  ⟨"Authentication service temporarily unavailable: " ++ reason, some 503⟩

/-- `privyUser` and `user` are the fields that middlewares set; `refused` is what the
limiter answers if it refuses. -/
structure PrivyRequest where
  authorization : Option String
  refreshToken : Option Bearer
  refused : Option ServiceError
  privyUser : Option String
  user : Option String

/-- No global middleware sets a user. -/
def received (authorization : Option String) (refreshToken : Option Bearer)
    (refused : Option ServiceError) : PrivyRequest :=
  { authorization, refreshToken, refused, privyUser := none, user := none }

def authRateLimiter (request : PrivyRequest) : Except ServiceError PrivyRequest :=
  match request.refused with
  | some failure => .error failure
  | none => .ok request

def bearerPrefix : String := "Bearer "

def rejectedToken : PrivyFailure → ServiceError
  | .keyUnavailable reason => privyUnavailableError reason
  | _ => .authentication "Invalid Privy token"

/-- The identity that an `Authorization` header proves. -/
def privyIdentity (platform : PrivyPlatform) (now : Nat) (authorization : Option String) :
    Except ServiceError String :=
  if platform.isPrivyEnabled = false then
    .error (.authentication "Privy authentication is not enabled")
  else
    let header := (authorization.getD "").toList
    if bearerPrefix.toList.isPrefixOf header = false then
      .error (.authentication "Privy token required")
    else
      let token := String.ofList (trim (header.drop bearerPrefix.length))
      match platform.appId with
      | none =>
          .error (.authentication "Privy authentication is misconfigured (no PRIVY_APP_ID)")
      | some appId =>
          match verifyPrivyAccessToken platform appId now token with
          | .ok verified => .ok verified.userId
          | .error failure => .error (rejectedToken failure)

def requirePrivyAuth (platform : PrivyPlatform) (now : Nat) (request : PrivyRequest) :
    Except ServiceError PrivyRequest :=
  (privyIdentity platform now request.authorization).map fun identity =>
    { request with privyUser := some identity }

/-! ### What an accepted token shows -/

theorem requireString_ok {value : Option String} {field text : String}
    (present : requireString value field = .ok text) : value = some text ∧ text ≠ "" := by
  unfold requireString at present
  split at present
  · rename_i written found
    cases present
    obtain ⟨same, filled⟩ := Option.filter_eq_some_iff.mp found
    exact ⟨same, of_decide_eq_true filled⟩
  · cases present

theorem normalisedClaims_userId {decoded : PrivyJwt} {result : VerifiedPrivyToken}
    (normalised : normalisedClaims decoded = .ok result) :
    decoded.sub = some result.userId ∧ result.userId ≠ "" := by
  obtain ⟨userId, present, rest⟩ := ok_of_bind normalised
  obtain ⟨_, _, rest⟩ := ok_of_bind rest
  obtain ⟨_, _, rest⟩ := ok_of_bind rest
  obtain ⟨_, _, rest⟩ := ok_of_bind rest
  obtain ⟨_, _, rest⟩ := ok_of_bind rest
  obtain ⟨_, _, rest⟩ := ok_of_bind rest
  cases rest
  exact requireString_ok present

end AudioBlock.Auth
