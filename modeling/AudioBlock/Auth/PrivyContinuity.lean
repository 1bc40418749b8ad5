/-
The Privy routes: login, rotation of a refresh token, and logout.

Requests are served one after another.  `sessions` remembers the token pairs that
logins have issued, with the identity that logged in; no route reads it.
-/
import AudioBlock.Auth.AuthService
import AudioBlock.Auth.PrivyLogin
import AudioBlock.Foundation.Machine

namespace AudioBlock.Auth

open AudioBlock.Foundation

/-- A token pair that a login has issued. -/
structure PrivySession where
  privyUserId : String
  userId : String
  accessToken : SignedToken
  refreshToken : SignedToken
  deriving DecidableEq

structure PrivyState where
  now : Nat
  issued : Nat
  accounts : List PrivyAccount
  refreshTokens : List RefreshToken
  sessions : List PrivySession

namespace PrivyState

def revokeWhere (state : PrivyState) (chosen : RefreshToken → Bool) : PrivyState :=
  { state with
    refreshTokens := state.refreshTokens.map fun row =>
      if chosen row then { row with revoked := true } else row }

/-- Tokens are stored by their texts; only signed ones are. -/
def findToken (state : PrivyState) : Bearer → Option RefreshToken
  | .hs256 token => findRow RefreshToken.token token state.refreshTokens
  | _ => none

def storeRefreshToken (state : PrivyState) (userId : String) (token : SignedToken)
    (familyId : Option Nat) : PrivyState :=
  { state with
    issued := state.issued + 2
    refreshTokens := state.refreshTokens ++
      [newRefreshToken state.now (state.issued + 1) userId token familyId] }

end PrivyState

/-- A query with a text that is no identifier throws. -/
def readUuid (platform : PrivyPlatform) (text : String) : Except ServiceError String :=
  match platform.uuid text with
  | some id => .ok id
  | none => .error (.plain ("invalid input syntax for type uuid: \"" ++ text ++ "\""))

def findUserById (platform : PrivyPlatform) (accounts : List PrivyAccount) (userId : String) :
    Except ServiceError (Option PrivyAccount) :=
  (readUuid platform userId).map fun id => findRow PrivyAccount.id id accounts

/-! ### `AuthService` -/

/-- A new pair for an account, and the row of its refresh token. -/
def issueTokens (env : AuthEnv) (state : PrivyState) (user : User) (familyId : Option Nat) :
    PrivyState × Except ServiceError Session :=
  match signToken env state.now user with
  | .error failure => (state, .error failure)
  | .ok token =>
      let refreshToken := signRefreshToken env state.now state.issued user
      (state.storeRefreshToken user.id refreshToken familyId, .ok { token, refreshToken })

def PrivyState.remember (state : PrivyState) (privyUserId userId : String) (session : Session) :
    PrivyState :=
  { state with
    sessions := state.sessions ++
      [{ privyUserId, userId
         accessToken := session.token
         refreshToken := session.refreshToken }] }

def privyLogin (platform : PrivyPlatform) (env : AuthEnv) (state : PrivyState)
    (drawn idToken : String) : PrivyState × Except ServiceError Session :=
  match readIdToken platform idToken with
  | .error failure => (state, .error failure)
  | .ok (payload, privyUserId) =>
      match loginAccount state.accounts drawn privyUserId payload with
      | (accounts, .error failure) => ({ state with accounts := accounts }, .error failure)
      | (accounts, .ok account) =>
          match issueTokens env { state with accounts := accounts } account.user none with
          | (after, .error failure) => (after, .error failure)
          | (after, .ok session) => (after.remember privyUserId account.id session, .ok session)

def privyRefreshToken (platform : PrivyPlatform) (env : AuthEnv) (state : PrivyState)
    (userId : String) (refreshToken : Bearer) : PrivyState × Except ServiceError Session :=
  if userId = "" then (state, .error (.validation "User ID and refresh token required"))
  else
    match findUserById platform state.accounts userId with
    | .error failure => (state, .error failure)
    | .ok none => (state, .error (.notFound "User not found"))
    | .ok (some account) =>
        match state.findToken refreshToken with
        | none => (state, .error (.authentication "Invalid refresh token"))
        | some found =>
            if found.userId ≠ userId then
              (state.revokeWhere fun row => decide (row.userId = account.id),
                .error (.authentication "Invalid refresh token"))
            else if found.revoked then
              (match found.familyId with
                | none => state
                | some familyId => state.revokeWhere fun row => decide (row.familyId = some familyId),
                .error (.authentication "Refresh token reuse detected"))
            else if found.expiresAt < state.now then
              (state, .error (.authentication "Refresh token expired"))
            else
              issueTokens env (state.revokeWhere fun row => decide (row.token = found.token))
                account.user found.familyId

def privyLogout (platform : PrivyPlatform) (state : PrivyState) (userId : String) :
    PrivyState × Except ServiceError Unit :=
  if userId = "" then (state, .error (.plain "User ID required"))
  else
    match readUuid platform userId with
    | .error failure => (state, .error failure)
    | .ok id => (state.revokeWhere fun row => decide (row.userId = id), .ok ())

/-! ### `AuthController` and the routes -/

/-- `!refreshToken`, where an empty text is missing. -/
def presented (refreshToken : Option Bearer) : Option Bearer :=
  refreshToken.filter fun bearer => decide (bearer ≠ .other "")

namespace AuthController

def privyLogin (platform : PrivyPlatform) (env : AuthEnv) (state : PrivyState) (drawn : String)
    (idToken : Option String) : PrivyState × Except ServiceError Session :=
  match Songs.truthy idToken with
  | none => (state, .error (.validation "Privy ID token is required"))
  | some text => Auth.privyLogin platform env state drawn text

def privyRefreshToken (platform : PrivyPlatform) (env : AuthEnv) (state : PrivyState)
    (request : PrivyRequest) : PrivyState × Except ServiceError Session :=
  match Songs.truthy request.privyUser, presented request.refreshToken with
  | some userId, some refreshToken =>
      Auth.privyRefreshToken platform env state userId refreshToken
  | _, _ => (state, .error (.authentication "User ID and refresh token required"))

/-- The handler reads `user`, not `privyUser`. -/
def privyLogout (platform : PrivyPlatform) (state : PrivyState) (request : PrivyRequest) :
    PrivyState × Except ServiceError Unit :=
  match Songs.truthy request.user with
  | none => (state, .error (.authentication "User ID required"))
  | some userId => Auth.privyLogout platform state userId

end AuthController

def privyRoute {Answer : Type} (platform : PrivyPlatform) (state : PrivyState)
    (handler : PrivyRequest → PrivyState × Except ServiceError Answer) (request : PrivyRequest) :
    PrivyState × Except ServiceError Answer :=
  match authRateLimiter request >>= requirePrivyAuth platform state.now with
  | .error failure => (state, .error failure)
  | .ok authenticated => handler authenticated

def refreshTokenRoute (platform : PrivyPlatform) (env : AuthEnv) (state : PrivyState) :
    PrivyRequest → PrivyState × Except ServiceError Session :=
  privyRoute platform state (AuthController.privyRefreshToken platform env state)

def logoutRoute (platform : PrivyPlatform) (state : PrivyState) :
    PrivyRequest → PrivyState × Except ServiceError Unit :=
  privyRoute platform state (AuthController.privyLogout platform state)

/-! ### The machine -/

inductive PrivyLabel
  | elapse (milliseconds : Nat)
  | login (drawn : String) (idToken : Option String)
  | refreshToken (authorization : Option String) (refreshToken : Option Bearer)
      (refused : Option ServiceError)
  | logout (authorization : Option String) (refused : Option ServiceError)

/-- A drawn identifier is a new one. -/
def privyStep (platform : PrivyPlatform) (env : AuthEnv) (state : PrivyState) :
    PrivyLabel → Option PrivyState
  | .elapse milliseconds => some { state with now := state.now + milliseconds }
  | .login drawn idToken =>
      if drawn ∈ state.accounts.map PrivyAccount.id then none
      else some (AuthController.privyLogin platform env state drawn idToken).1
  | .refreshToken authorization refreshToken refused =>
      some (refreshTokenRoute platform env state (received authorization refreshToken refused)).1
  | .logout authorization refused =>
      some (logoutRoute platform state (received authorization none refused)).1

/-- The accounts of the other logins are there already. -/
def privyMachine (platform : PrivyPlatform) (env : AuthEnv) : Machine PrivyState PrivyLabel where
  initial state :=
    DistinctAccounts state.accounts ∧ state.refreshTokens = [] ∧ state.sessions = []
  step := privyStep platform env

/-!
### Going on with a session

Whether a Privy user can go on with, and end, the session that a Privy login has issued.

The middleware puts the Privy identity on the request; the rotation looks it up as the
identifier of an account, and the logout reads another field.
-/

/-- Someone who presents a valid Privy access token. -/
structure PrivyCaller (platform : PrivyPlatform) (now : Nat) where
  authorization : Option String
  identity : String
  proved : privyIdentity platform now authorization = .ok identity

/-- A request that the limiter lets pass. -/
def PrivyCaller.request {platform : PrivyPlatform} {now : Nat} (caller : PrivyCaller platform now)
    (refreshToken : Option Bearer) : PrivyRequest :=
  received caller.authorization refreshToken none

section Property

variable (platform : PrivyPlatform) (env : AuthEnv) (state : PrivyState) (session : PrivySession)
  (caller : PrivyCaller platform state.now)

def Live : Prop :=
  ∃ row ∈ state.refreshTokens, row.token = session.refreshToken ∧ row.revoked = false ∧
    state.now ≤ row.expiresAt

instance : Decidable (Live state session) :=
  inferInstanceAs (Decidable (∃ row ∈ state.refreshTokens, _))

def Rotates : Prop :=
  ∃ after pair, refreshTokenRoute platform env state
    (caller.request (some (.hs256 session.refreshToken))) = (after, .ok pair)

def EndsSession : Prop :=
  ∃ after, logoutRoute platform state (caller.request none) = (after, .ok ()) ∧
    ∀ row ∈ after.refreshTokens, row.userId = session.userId → row.revoked = true

structure SessionContinuous : Prop where
  rotated : ∀ caller : PrivyCaller platform state.now, caller.identity = session.privyUserId →
    Live state session → Rotates platform env state session caller
  ended : ∀ caller : PrivyCaller platform state.now, caller.identity = session.privyUserId →
    EndsSession platform state session caller
  exclusive : ∀ caller : PrivyCaller platform state.now, caller.identity ≠ session.privyUserId →
    ¬Rotates platform env state session caller ∧
      (Live state session → ¬EndsSession platform state session caller)

end Property

section Routes

variable {platform : PrivyPlatform} {env : AuthEnv} {state : PrivyState}

theorem requirePrivyAuth_user {now : Nat} {request authenticated : PrivyRequest}
    (passed : (authRateLimiter request >>= requirePrivyAuth platform now) = .ok authenticated) :
    authenticated.user = request.user := by
  obtain ⟨admitted, limited, identified⟩ := ok_of_bind passed
  have same : request = admitted := by
    unfold authRateLimiter at limited
    split at limited
    · cases limited
    · exact Except.ok.inj limited
  subst same
  unfold requirePrivyAuth at identified
  cases proved : privyIdentity platform now request.authorization with
  | error failure =>
      rw [proved] at identified
      cases identified
  | ok identity =>
      rw [proved] at identified
      cases identified
      rfl

theorem logoutRoute_refused (platform : PrivyPlatform) (state : PrivyState)
    (authorization : Option String) (refreshToken : Option Bearer) (refused : Option ServiceError) :
    ∃ failure, logoutRoute platform state (received authorization refreshToken refused) =
      (state, .error failure) := by
  unfold logoutRoute privyRoute
  cases passed : authRateLimiter (received authorization refreshToken refused) >>=
      requirePrivyAuth platform state.now with
  | error failure => exact ⟨failure, rfl⟩
  | ok authenticated =>
      have anonymous : authenticated.user = none := requirePrivyAuth_user passed
      refine ⟨.authentication "User ID required", ?_⟩
      change AuthController.privyLogout platform state authenticated = _
      unfold AuthController.privyLogout
      rw [anonymous]
      rfl

theorem not_endsSession (session : PrivySession) (caller : PrivyCaller platform state.now) :
    ¬EndsSession platform state session caller := by
  rintro ⟨after, answered, _⟩
  obtain ⟨failure, refused⟩ := logoutRoute_refused platform state caller.authorization none none
  have impossible := refused.symm.trans answered
  cases impossible

end Routes

/-! ### What a run knows of the sessions -/

section Runs

variable {platform : PrivyPlatform} {env : AuthEnv} {state : PrivyState}

theorem issueTokens_ok (secret : env.jwtSecret ≠ "") (user : User) (familyId : Option Nat) :
    ∃ after pair, issueTokens env state user familyId = (after, .ok pair) := by
  unfold issueTokens signToken
  rw [if_neg secret]
  exact ⟨_, _, rfl⟩

end Runs

/-- Whenever the Privy user of a session presents a valid access token, the session is not
continuous. -/
theorem sessionContinuous_never {platform : PrivyPlatform} {env : AuthEnv} {state : PrivyState}
    {session : PrivySession} (caller : PrivyCaller platform state.now)
    (own : caller.identity = session.privyUserId) :
    ¬SessionContinuous platform env state session := by
  intro continuous
  exact not_endsSession session caller (continuous.ended caller own)

/-! A listener logs in, and comes back with an access token of the same Privy user. -/

def listenerDid : String := "did:privy:listener"

def listenerId : String := "8f14e45f-ceea-467f-a8f2-1c3b5d7e9a10"

def accessJwt : PrivyJwt :=
  { alg := "ES256", kid := some "k1", typ := some "JWT", sub := some listenerDid
    sid := some "session", iss := some "privy.io", aud := some "app", iat := some 0, nbf := none
    exp := some 3600 }

def identityPayload : IdTokenPayload :=
  { sub := some listenerDid, id := none, email := some "listener@example.org"
    emailVerified := true, wallet_address := none, walletAddress := none, linkedAccounts := [] }

def onePrivyUser : PrivyPlatform where
  isPrivyEnabled := true
  appId := some "app"
  decode token := if token = "access" then some accessJwt else none
  getKey _ := .ok "key"
  signedBy _ _ := true
  isSessionRevoked _ _ _ := false
  readPayload _ := .object identityPayload
  uuid text := if text = listenerId then some text else none

def privyEnv : AuthEnv := ⟨"access secret", "refresh secret", .both, false⟩

def noAccounts : PrivyState := ⟨0, 0, [], [], []⟩

def loggedIn : PrivyState :=
  (AuthController.privyLogin onePrivyUser privyEnv noAccounts listenerId (some "header.body.sig")).1

theorem noAccounts_initial : (privyMachine onePrivyUser privyEnv).initial noAccounts :=
  ⟨⟨List.nodup_nil, fun _ member => (nomatch member)⟩, rfl, rfl⟩

theorem loggedIn_reached :
    (privyMachine onePrivyUser privyEnv).Reachable (fun _ _ => True) loggedIn := by
  have moved : (privyMachine onePrivyUser privyEnv).step noAccounts
      (.login listenerId (some "header.body.sig")) = some loggedIn := rfl
  exact .next (.start noAccounts_initial) trivial moved

def privyListener : PrivyCaller onePrivyUser 0 where
  authorization := some "Bearer access"
  identity := listenerDid
  proved := by decide +kernel

theorem sessionContinuous_never_listener :
    ∃ session ∈ loggedIn.sessions, ¬SessionContinuous onePrivyUser privyEnv loggedIn session := by
  have issued : loggedIn.sessions.any (fun session => decide (listenerDid = session.privyUserId)) =
      true := by decide +kernel
  obtain ⟨session, member, own⟩ := List.any_eq_true.mp issued
  exact ⟨session, member, sessionContinuous_never privyListener (of_decide_eq_true own)⟩

def RefusedTwice (session : PrivySession) : Prop :=
  privyListener.identity = session.privyUserId ∧ Live loggedIn session ∧
    (refreshTokenRoute onePrivyUser privyEnv loggedIn
      (privyListener.request (some (.hs256 session.refreshToken)))).2 =
        .error ⟨"invalid input syntax for type uuid: \"did:privy:listener\"", none⟩ ∧
    (logoutRoute onePrivyUser loggedIn (privyListener.request none)).2 =
      .error ⟨"User ID required", some 401⟩

instance (session : PrivySession) : Decidable (RefusedTwice session) :=
  inferInstanceAs (Decidable (_ ∧ _))

theorem loggedIn_discontinuous :
    (privyMachine onePrivyUser privyEnv).Reachable (fun _ _ => True) loggedIn ∧
      ∃ session ∈ loggedIn.sessions, RefusedTwice session ∧
        ¬SessionContinuous onePrivyUser privyEnv loggedIn session := by
  refine ⟨loggedIn_reached, ?_⟩
  have refused : loggedIn.sessions.any (fun session => decide (RefusedTwice session)) = true := by
    decide +kernel
  obtain ⟨session, member, twice⟩ := List.any_eq_true.mp refused
  have both : RefusedTwice session := of_decide_eq_true twice
  refine ⟨session, member, both, ?_⟩
  intro continuous
  have ends := continuous.ended privyListener both.1
  exact not_endsSession session _ ends

end AudioBlock.Auth
