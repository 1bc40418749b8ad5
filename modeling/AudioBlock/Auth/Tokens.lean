/-
Accounts and the tokens signed for them.

A JSON web token is a term: its claims and the secret that signs them, so two
tokens are equal exactly when their texts are.  `SignedToken.verify` accepts a
token under its own secret before its expiry second.  A request may carry any
text at all; `Bearer` sorts texts by what the verifiers see in them.  Random
identifiers (`randomUUID`) are drawn from a counter.  Columns of an account that
neither a token nor a login reads are left out, and so are the reward points, a
float that the claims only copy.
-/

namespace AudioBlock.Auth

inductive UserRole
  | listener
  | artist
  | moderator
  | admin
  | superAdmin
  deriving DecidableEq

/-- The columns of an account that `signToken` copies into its claims. -/
structure Profile where
  dynamixUserId : Option String
  email : Option String
  walletAddress : Option String
  stellarPublicKey : Option String
  role : UserRole
  username : Option String
  profileImage : Option String
  name : Option String
  emailVerified : Bool
  deriving DecidableEq

structure User where
  id : String
  profile : Profile
  passwordHash : Option String
  twoFactorEnabled : Bool
  twoFactorSecret : Option String
  twoFactorRecoveryCodeHashes : Option (List String)
  deriving DecidableEq

/-- A thrown error; a plain `Error` carries no status. -/
structure ServiceError where
  message : String
  statusCode : Option Nat
  deriving DecidableEq

namespace ServiceError

def plain (message : String) : ServiceError := ⟨message, none⟩
def authentication (message : String) : ServiceError := ⟨message, some 401⟩
def notFound (message : String) : ServiceError := ⟨message, some 404⟩
def conflict (message : String) : ServiceError := ⟨message, some 409⟩
def businessLogic (message : String) : ServiceError := ⟨message, some 400⟩

end ServiceError

inductive AuthMode
  | legacy
  | privy
  | both
  deriving DecidableEq

/-- The environment variables the token code reads; an unset one is empty. -/
structure AuthEnv where
  jwtSecret : String
  refreshTokenSecret : String
  authMode : AuthMode
  legacyFallback : Bool

def AuthEnv.isPrivyAuthEnabled (env : AuthEnv) : Bool := env.authMode != .legacy

def AuthEnv.isLegacyAuthEnabled (env : AuthEnv) : Bool := env.authMode != .privy

/-- `REFRESH_TOKEN_SECRET || JWT_SECRET || 'secret'`. -/
def AuthEnv.refreshSecret (env : AuthEnv) : String :=
  if env.refreshTokenSecret = "" then
    if env.jwtSecret = "" then "secret" else env.jwtSecret
  else env.refreshTokenSecret

/-- `JWT_SECRET || 'secret'`. -/
def AuthEnv.introspectionSecret (env : AuthEnv) : String :=
  if env.jwtSecret = "" then "secret" else env.jwtSecret

structure Claims where
  id : String
  type : Option String
  jti : Option Nat
  profile : Option Profile
  iat : Nat
  exp : Nat
  deriving DecidableEq

structure SignedToken where
  claims : Claims
  secret : String
  deriving DecidableEq

inductive JwtError
  | tokenExpiredError
  | jsonWebTokenError
  deriving DecidableEq

/-- Clocks read milliseconds; claims count seconds. -/
def jwtSeconds (now : Nat) : Nat := now / 1000

def SignedToken.verify (token : SignedToken) (secret : String) (now : Nat) :
    Except JwtError Claims :=
  if token.secret = secret then
    if token.claims.exp ≤ jwtSeconds now then .error .tokenExpiredError else .ok token.claims
  else .error .jsonWebTokenError

theorem SignedToken.verify_ok {token : SignedToken} {secret : String} {now : Nat}
    {claims : Claims} (accepted : token.verify secret now = .ok claims) :
    token.secret = secret ∧ jwtSeconds now < token.claims.exp ∧ claims = token.claims := by
  unfold SignedToken.verify at accepted
  split at accepted
  · rename_i same
    split at accepted
    · cases accepted
    · rename_i unexpired
      cases accepted
      exact ⟨same, Nat.lt_of_not_le unexpired, rfl⟩
  · cases accepted

inductive Bearer
  | hs256 (token : SignedToken)
  | es256 (text : String)
  | other (text : String)
  deriving DecidableEq

/-- `jwt.verify` with a shared secret.  Nobody else knows the secrets, so a text
verifies only if it is among the tokens that were signed. -/
def jwtVerify (signed : List SignedToken) (secret : String) (now : Nat) :
    Bearer → Except JwtError Claims
  | .hs256 token =>
      if token ∈ signed then token.verify secret now else .error .jsonWebTokenError
  | _ => .error .jsonWebTokenError

theorem jwtVerify_ok {signed : List SignedToken} {secret : String} {now : Nat} {bearer : Bearer}
    {claims : Claims} (accepted : jwtVerify signed secret now bearer = .ok claims) :
    ∃ token, bearer = .hs256 token ∧ token ∈ signed ∧
      token.verify secret now = .ok token.claims ∧ claims = token.claims := by
  cases bearer with
  | hs256 token =>
      simp only [jwtVerify] at accepted
      split at accepted
      · rename_i member
        obtain ⟨_, _, rfl⟩ := SignedToken.verify_ok accepted
        exact ⟨token, rfl, member, accepted, rfl⟩
      · cases accepted
  | es256 text => cases accepted
  | other text => cases accepted

/-! ### The three kinds of token -/

/-- `expiresIn: '15m'`. -/
def accessTokenExpirySeconds : Nat := 15 * 60

def refreshTokenExpirySeconds : Nat := 7 * 24 * 60 * 60

def partialTokenExpirySeconds : Nat := 300

def partialTokenType : String := "2fa_partial"

def signToken (env : AuthEnv) (now : Nat) (user : User) : Except ServiceError SignedToken :=
  if env.jwtSecret = "" then .error (.plain "JWT_SECRET not set in environment variables")
  else
    .ok
      { claims :=
          { id := user.id
            type := none
            jti := none
            profile := some user.profile
            iat := jwtSeconds now
            exp := jwtSeconds now + accessTokenExpirySeconds }
        secret := env.jwtSecret }

def signRefreshToken (env : AuthEnv) (now jti : Nat) (user : User) : SignedToken :=
  { claims :=
      { id := user.id
        type := none
        jti := some jti
        profile := none
        iat := jwtSeconds now
        exp := jwtSeconds now + refreshTokenExpirySeconds }
    secret := env.refreshSecret }

def generatePartialToken (env : AuthEnv) (now : Nat) (userId : String) :
    Except ServiceError SignedToken :=
  if env.jwtSecret = "" then .error (.businessLogic "JWT_SECRET not set in environment variables")
  else
    .ok
      { claims :=
          { id := userId
            type := some partialTokenType
            jti := none
            profile := none
            iat := jwtSeconds now
            exp := jwtSeconds now + partialTokenExpirySeconds }
        secret := env.jwtSecret }

/-- A row of `refresh_tokens`.  Its key is the unique token column. -/
structure RefreshToken where
  token : SignedToken
  userId : String
  expiresAt : Nat
  revoked : Bool
  familyId : Option Nat
  deriving DecidableEq

/-- The row that `storeRefreshToken` saves; `fresh` is the identifier of a new
family. -/
def newRefreshToken (now fresh : Nat) (userId : String) (token : SignedToken)
    (familyId : Option Nat) : RefreshToken :=
  { token, userId
    expiresAt := now + refreshTokenExpirySeconds * 1000
    revoked := false
    familyId := some (familyId.getD fresh) }

/-! ### Revoking some of the rows -/

section Revoked

variable {rows : List RefreshToken} {row : RefreshToken}

theorem revokedRow_before {chosen : RefreshToken → Bool}
    (member : row ∈ rows.map fun row => if chosen row then { row with revoked := true } else row) :
    ∃ before ∈ rows, row.token = before.token ∧ row.familyId = before.familyId ∧
      row.userId = before.userId ∧ (before.revoked = true ∨ chosen before = true →
        row.revoked = true) := by
  obtain ⟨before, present, rfl⟩ := List.mem_map.mp member
  refine ⟨before, present, ?_⟩
  by_cases isChosen : chosen before = true
  · rw [if_pos isChosen]
    exact ⟨rfl, rfl, rfl, fun _ => rfl⟩
  · rw [if_neg isChosen]
    exact ⟨rfl, rfl, rfl, fun cases => cases.resolve_right isChosen⟩

theorem revokedRow_after (chosen : RefreshToken → Bool) (member : row ∈ rows) :
    ∃ after ∈ rows.map fun row => if chosen row then { row with revoked := true } else row,
      after.token = row.token ∧ after.familyId = row.familyId ∧ after.userId = row.userId := by
  refine ⟨_, List.mem_map_of_mem member, ?_⟩
  split
  · exact ⟨rfl, rfl, rfl⟩
  · exact ⟨rfl, rfl, rfl⟩

end Revoked

end AudioBlock.Auth
