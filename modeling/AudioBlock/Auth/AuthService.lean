/-
The authentication operations, each taken as one step.

`Platform` stands for the library calls: `bcrypt.compare`, otplib's `verifySync`
(a thrown error is a refusal), `toUpperCase`, and the verifier of Privy access
tokens with the lookup of its account.  Values drawn at random (identifiers,
password and recovery-code hashes, secrets) are arguments of the operations.

An operation returns the state and what the caller gets.  The state carries
history beside the tables: which tokens were signed in which login, which tokens
were accepted, which recovery codes were spent.  Audit records, the mail of a
registration, metrics and logs are left out; whether the nonce of a wallet login
was accepted is an argument.
-/
import AudioBlock.Auth.Tokens

namespace AudioBlock.Auth

structure Platform where
  bcryptCompare : String → String → Bool
  verifySync : (token secret : String) → (now : Nat) → Bool
  toUpperCase : String → String
  privyUser : String → Except ServiceError User

inductive SecondFactor
  | totp (code : String)
  | recoveryCode (code : String)
  deriving DecidableEq

/-- A login: the row it read, when, and what was presented beside the password.
`consumed` lists the recovery-code hashes spent by then. -/
structure Login where
  user : User
  time : Nat
  byPassword : Bool
  factor : Option SecondFactor
  consumed : List (String × String)
  deriving DecidableEq

inductive TokenKind
  | accessToken
  | refreshToken
  | partialToken
  deriving DecidableEq

structure Mint where
  token : SignedToken
  kind : TokenKind
  login : Login
  deriving DecidableEq

structure IssuedRefreshToken where
  row : RefreshToken
  login : Login
  deriving DecidableEq

inductive Acceptor
  | authenticateRequest
  | introspectToken
  deriving DecidableEq

structure Acceptance where
  bearer : Bearer
  acceptor : Acceptor
  deriving DecidableEq

structure AuthState where
  now : Nat
  issued : Nat
  users : List User
  refreshTokens : List IssuedRefreshToken
  minted : List Mint
  consumed : List (String × String)
  accepted : List Acceptance
  deriving DecidableEq

namespace AuthState

def signed (state : AuthState) : List SignedToken :=
  state.minted.map Mint.token

def findByEmail (state : AuthState) (email : String) : Option User :=
  state.users.find? fun user => decide (user.profile.email = some email)

def findById (state : AuthState) (id : String) : Option User :=
  state.users.find? fun user => decide (user.id = id)

def saveUser (state : AuthState) (saved : User) : AuthState :=
  { state with users := state.users.map fun user => if user.id = saved.id then saved else user }

def mint (state : AuthState) (token : SignedToken) (kind : TokenKind) (login : Login) :
    AuthState :=
  { state with minted := state.minted ++ [{ token, kind, login }] }

def storeRefreshToken (state : AuthState) (userId : String) (token : SignedToken)
    (familyId : Option Nat) (login : Login) : AuthState :=
  { state with
    issued := state.issued + 1
    refreshTokens := state.refreshTokens ++
      [{ row := newRefreshToken state.now state.issued userId token familyId, login }] }

def revokeWhere (state : AuthState) (chosen : RefreshToken → Bool) : AuthState :=
  { state with
    refreshTokens := state.refreshTokens.map fun stored =>
      if chosen stored.row then { stored with row := { stored.row with revoked := true } }
      else stored }

def accept (state : AuthState) (bearer : Bearer) (acceptor : Acceptor) : AuthState :=
  { state with accepted := state.accepted ++ [{ bearer, acceptor }] }

def login (state : AuthState) (user : User) (byPassword : Bool) (factor : Option SecondFactor) :
    Login :=
  { user, time := state.now, byPassword, factor, consumed := state.consumed }

end AuthState

structure Session where
  token : SignedToken
  refreshToken : SignedToken
  deriving DecidableEq

/-- `signToken`, `signRefreshToken` and `storeRefreshToken` in a row, as the
logins and the rotation do. -/
def issueSession (env : AuthEnv) (state : AuthState) (user : User) (familyId : Option Nat)
    (login : Login) : AuthState × Except ServiceError Session :=
  match signToken env state.now user with
  | .error failure => (state, .error failure)
  | .ok token =>
      let refreshToken := signRefreshToken env state.now state.issued user
      ((((state.mint token .accessToken login).mint refreshToken .refreshToken
        login).storeRefreshToken user.id refreshToken familyId login),
        .ok { token, refreshToken })

/-! ### Second factors -/

/-- What `\s` matches and `trim` removes. -/
def isWhitespace (char : Char) : Bool :=
  let code := char.toNat
  (9 ≤ code && code ≤ 13) || code == 32 || code == 0xa0 || code == 0x1680 ||
    (0x2000 ≤ code && code ≤ 0x200a) || code == 0x2028 || code == 0x2029 || code == 0x202f ||
    code == 0x205f || code == 0x3000 || code == 0xfeff

/-- `replace(/\s/g, '')`; a `trim` before it changes nothing. -/
def stripWhitespace (text : String) : String :=
  String.ofList (text.toList.filter fun char => !isWhitespace char)

def normalizeRecoveryCode (platform : Platform) (code : String) : String :=
  platform.toUpperCase (stripWhitespace code)

def verifyTotpCode (platform : Platform) (now : Nat) (user : User) (code : String) : Bool :=
  match user.twoFactorSecret with
  | none => false
  | some secret =>
      if secret = "" then false else platform.verifySync (stripWhitespace code) secret now

def User.recoveryCodeHashes (user : User) : List String :=
  user.twoFactorRecoveryCodeHashes.getD []

/-- The first stored hash that matches, provided that removing it removes one
entry. -/
def matchRecoveryCode (platform : Platform) (user : User) (recoveryCode : String) :
    Option String :=
  match user.recoveryCodeHashes.find?
      (platform.bcryptCompare (normalizeRecoveryCode platform recoveryCode)) with
  | none => none
  | some hash =>
      if (user.recoveryCodeHashes.filter fun stored => stored != hash).length + 1 =
          user.recoveryCodeHashes.length then
        some hash
      else none

def User.withoutRecoveryCode (user : User) (hash : String) : User :=
  { user with
    twoFactorRecoveryCodeHashes :=
      some (user.recoveryCodeHashes.filter fun stored => stored != hash) }

def AuthState.consume (state : AuthState) (user : User) (hash : String) : AuthState :=
  { state.saveUser (user.withoutRecoveryCode hash) with
    consumed := state.consumed ++ [(user.id, hash)] }

/-- The state after the save and the row as the save leaves it, or `none` for a
refusal. -/
def verifyAndConsumeRecoveryCode (platform : Platform) (state : AuthState) (user : User)
    (recoveryCode : String) : AuthState × Option User :=
  match matchRecoveryCode platform user recoveryCode with
  | none => (state, none)
  | some hash => (state.consume user hash, some (user.withoutRecoveryCode hash))

def enableTwoFactor (state : AuthState) (userId secret : String)
    (recoveryCodeHashes : List String) : AuthState × Except ServiceError String :=
  match state.findById userId with
  | none => (state, .error (.plain "User not found"))
  | some user =>
      if user.passwordHash.getD "" = "" then
        (state, .error (.plain
          "Two-factor authentication is only available for email/password accounts"))
      else
        (state.saveUser
          { user with
            twoFactorEnabled := true
            twoFactorSecret := some secret
            twoFactorRecoveryCodeHashes := some recoveryCodeHashes }, .ok secret)

def verifyTwoFactor (platform : Platform) (state : AuthState) (userId code : String) :
    AuthState × Except ServiceError Unit :=
  match state.findById userId with
  | none => (state, .error (.notFound "User not found"))
  | some user =>
      if user.twoFactorSecret.getD "" = "" then
        (state, .error (.businessLogic "Two-factor authentication not enrolled"))
      else if verifyTotpCode platform state.now user code then (state, .ok ())
      else (state, .error (.authentication "Invalid two-factor code"))

/-- Saving a row leaves the columns of undefined properties alone, so only the
flag changes. -/
def disableTwoFactor (platform : Platform) (state : AuthState) (userId code : String) :
    AuthState × Except ServiceError Unit :=
  match state.findById userId with
  | none => (state, .error (.notFound "User not found"))
  | some user =>
      if user.twoFactorEnabled = false then
        (state, .error (.businessLogic "Two-factor authentication is not enabled"))
      else if verifyTotpCode platform state.now user code then
        (state.saveUser { user with twoFactorEnabled := false }, .ok ())
      else (state, .error (.authentication "Invalid two-factor code"))

/-! ### Logins -/

/-- `create` and `save` of a new account, after the check that the address is
free. -/
def registerWithEmail (env : AuthEnv) (state : AuthState) (id passwordHash email : String)
    (role : UserRole) (username name : Option String) :
    AuthState × Except ServiceError Session :=
  match state.findByEmail email with
  | some _ => (state, .error (.conflict "User already exists"))
  | none =>
      let user : User :=
        { id
          profile :=
            { dynamixUserId := none
              email := some email
              walletAddress := none
              stellarPublicKey := none
              role, username
              profileImage := none
              name
              emailVerified := false }
          passwordHash := some passwordHash
          twoFactorEnabled := false
          twoFactorSecret := none
          twoFactorRecoveryCodeHashes := none }
      issueSession env { state with users := state.users ++ [user] } user none
        (state.login user true none)

structure LoginWithEmailDTO where
  email : String
  password : String
  twoFactorCode : String
  recoveryCode : String

inductive LoginWithEmailResult
  | authenticated (user : User) (token : SignedToken)
  | twoFactorRequired (partialToken : SignedToken)
  deriving DecidableEq

/-- The end of a password login that has passed its checks. -/
def grantAccess (env : AuthEnv) (state : AuthState) (user : User) (login : Login) :
    AuthState × Except ServiceError LoginWithEmailResult :=
  match signToken env state.now user with
  | .error failure => (state, .error failure)
  | .ok token => (state.mint token .accessToken login, .ok (.authenticated user token))

def requireSecondFactor (env : AuthEnv) (state : AuthState) (user : User) :
    AuthState × Except ServiceError LoginWithEmailResult :=
  match generatePartialToken env state.now user.id with
  | .error failure => (state, .error failure)
  | .ok token =>
      (state.mint token .partialToken (state.login user true none), .ok (.twoFactorRequired token))

def loginWithSecondFactor (platform : Platform) (env : AuthEnv) (state : AuthState) (user : User)
    (dto : LoginWithEmailDTO) : AuthState × Except ServiceError LoginWithEmailResult :=
  if dto.twoFactorCode = "" then
    match verifyAndConsumeRecoveryCode platform state user dto.recoveryCode with
    | (after, none) => (after, .error (.authentication "Invalid two-factor code"))
    | (after, some saved) =>
        grantAccess env after saved (state.login user true (some (.recoveryCode dto.recoveryCode)))
  else if verifyTotpCode platform state.now user dto.twoFactorCode then
    grantAccess env state user (state.login user true (some (.totp dto.twoFactorCode)))
  else (state, .error (.authentication "Invalid two-factor code"))

def loginWithEmail (platform : Platform) (env : AuthEnv) (state : AuthState)
    (dto : LoginWithEmailDTO) : AuthState × Except ServiceError LoginWithEmailResult :=
  match state.findByEmail dto.email with
  | none => (state, .error (.authentication "Invalid email or password"))
  | some user =>
      if user.passwordHash.getD "" = "" ||
          !platform.bcryptCompare dto.password (user.passwordHash.getD "") then
        (state, .error (.authentication "Invalid email or password"))
      else if user.twoFactorEnabled then
        if dto.twoFactorCode = "" && dto.recoveryCode = "" then
          requireSecondFactor env state user
        else loginWithSecondFactor platform env state user dto
      else grantAccess env state user (state.login user true none)

def login (env : AuthEnv) (state : AuthState) (email : String) (nonceAccepted : Bool) :
    AuthState × Except ServiceError Session :=
  if nonceAccepted then
    match state.findByEmail email with
    | none => (state, .error (.plain "User not found"))
    | some user => issueSession env state user none (state.login user false none)
  else (state, .error (.plain "Invalid or expired nonce"))

def completeTwoFactorLogin (platform : Platform) (env : AuthEnv) (state : AuthState)
    (partialToken : Bearer) (code : String) : AuthState × Except ServiceError Session :=
  if env.jwtSecret = "" then
    (state, .error (.businessLogic "JWT_SECRET not set in environment variables"))
  else
    match jwtVerify state.signed env.jwtSecret state.now partialToken with
    | .error _ => (state, .error (.authentication "Invalid or expired partial token"))
    | .ok payload =>
        if payload.type = some partialTokenType then
          match state.findById payload.id with
          | none => (state, .error (.notFound "User not found"))
          | some user =>
              if user.twoFactorEnabled = false then
                (state, .error (.businessLogic
                  "Two-factor authentication is not enabled for this user"))
              else if verifyTotpCode platform state.now user code then
                issueSession env state user none (state.login user true (some (.totp code)))
              else (state, .error (.authentication "Invalid two-factor code"))
        else (state, .error (.authentication "Invalid token type"))

/-! ### Refresh and logout -/

def refreshToken (env : AuthEnv) (state : AuthState) (token : Bearer) :
    AuthState × Except ServiceError Session :=
  match jwtVerify state.signed env.refreshSecret state.now token with
  | .error _ => (state, .error (.authentication "Invalid refresh token"))
  | .ok payload =>
      if payload.id = "" then (state, .error (.authentication "Invalid refresh token"))
      else
        match state.refreshTokens.find? fun stored => decide (.hs256 stored.row.token = token) with
        | none => (state, .error (.authentication "Invalid refresh token"))
        | some stored =>
            if stored.row.revoked then
              (match stored.row.familyId with
                | none => state
                | some family => state.revokeWhere fun row => decide (row.familyId = some family),
                .error (.authentication "Refresh token reuse detected"))
            else if stored.row.expiresAt < state.now then
              (state, .error (.authentication "Refresh token expired"))
            else
              match state.findById payload.id with
              | none => (state, .error (.authentication "Invalid refresh token"))
              | some user =>
                  issueSession env
                    (state.revokeWhere fun row => decide (row.token = stored.row.token)) user
                    stored.row.familyId stored.login

def logout (env : AuthEnv) (state : AuthState) (token : Bearer) :
    AuthState × Except ServiceError Unit :=
  match jwtVerify state.signed env.refreshSecret state.now token with
  | .error _ => (state, .error (.authentication "Invalid refresh token"))
  | .ok payload =>
      if payload.id = "" then (state, .ok ())
      else (state.revokeWhere fun row => decide (row.userId = payload.id), .ok ())

/-! ### The acceptors -/

inductive AuthMethod
  | legacy
  | privy
  deriving DecidableEq

/-- What a request carries after authentication. -/
structure JwtPayload where
  id : String
  profile : Option Profile
  authMethod : AuthMethod
  deriving DecidableEq

def authenticateLegacyToken (env : AuthEnv) (state : AuthState) (token : Bearer) :
    Except ServiceError JwtPayload :=
  if env.jwtSecret = "" then .error (.businessLogic "JWT_SECRET is not configured")
  else
    match jwtVerify state.signed env.jwtSecret state.now token with
    | .error .tokenExpiredError => .error (.authentication "Unauthorized: Token expired")
    | .error .jsonWebTokenError => .error (.authentication "Unauthorized: Invalid token")
    | .ok decoded =>
        if decoded.id = "" then .error (.authentication "Unauthorized: Invalid token")
        else .ok { id := decoded.id, profile := decoded.profile, authMethod := .legacy }

def authenticatePrivyToken (platform : Platform) (text : String) :
    Except ServiceError JwtPayload :=
  match platform.privyUser text with
  | .error failure => .error failure
  | .ok user => .ok { id := user.id, profile := some user.profile, authMethod := .privy }

/-- The verifier that the token's algorithm selects. -/
def authenticateBearer (platform : Platform) (env : AuthEnv) (state : AuthState) :
    Bearer → Except ServiceError JwtPayload
  | .es256 text =>
      if env.isPrivyAuthEnabled then authenticatePrivyToken platform text
      else .error (.authentication "Unauthorized: Privy authentication is not enabled")
  | token =>
      if env.isLegacyAuthEnabled then authenticateLegacyToken env state token
      else .error (.authentication "Unauthorized: Legacy authentication is not enabled")

/-- `degraded` is what the circuit breaker of the key cache says. -/
def authenticateRequest (platform : Platform) (env : AuthEnv) (state : AuthState)
    (degraded : Bool) (bearer : Option Bearer) : AuthState × Except ServiceError JwtPayload :=
  match bearer with
  | none => (state, .error (.authentication "Unauthorized: No token provided"))
  | some token =>
      if !env.legacyFallback && degraded then
        (state, .error ⟨"Authentication service temporarily unavailable: " ++
          "Privy is degraded and legacy fallback is disabled", some 503⟩)
      else
        match authenticateBearer platform env state token with
        | .error failure => (state, .error failure)
        | .ok user => (state.accept token .authenticateRequest, .ok user)

inductive TokenIntrospectionResponse
  | inactive
  | active (user : User) (exp iat : Nat)
  deriving DecidableEq

def introspectToken (env : AuthEnv) (state : AuthState) (token : Bearer) :
    AuthState × TokenIntrospectionResponse :=
  match jwtVerify state.signed env.introspectionSecret state.now token with
  | .error _ => (state, .inactive)
  | .ok decoded =>
      if decoded.id = "" then (state, .inactive)
      else
        match state.findById decoded.id with
        | none => (state, .inactive)
        | some user => (state.accept token .introspectToken, .active user decoded.exp decoded.iat)

end AudioBlock.Auth
