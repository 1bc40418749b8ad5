/-
Second factors in every run of the authentication operations.

A token may stand for a login in three ways.  `Login.Cleared` says of a login by
password into an account with two factors that a TOTP code or an unspent recovery
code was verified for it.  The access and refresh tokens of every run belong to
cleared logins; a `2fa_partial` token is signed before the second factor.  The
acceptors check neither the kind of a token nor its claims beyond the identifier,
so what they accept depends on which tokens verify under their secret.
-/
import AudioBlock.Auth.AuthService
import AudioBlock.Foundation.Machine

namespace AudioBlock.Auth

open AudioBlock.Foundation

inductive AuthLabel
  | elapse (milliseconds : Nat)
  | registerWithEmail (id passwordHash email : String) (role : UserRole)
      (username name : Option String)
  | loginWithEmail (dto : LoginWithEmailDTO)
  | login (email : String) (nonceAccepted : Bool)
  | enableTwoFactor (userId secret : String) (recoveryCodeHashes : List String)
  | verifyTwoFactor (userId code : String)
  | disableTwoFactor (userId code : String)
  | completeTwoFactorLogin (partialToken : Bearer) (code : String)
  | refreshToken (token : Bearer)
  | logout (token : Bearer)
  | authenticateRequest (degraded : Bool) (bearer : Option Bearer)
  | introspectToken (token : Bearer)

/-- Salted hashes of fresh random codes differ from the hashes spent before. -/
def authStep (platform : Platform) (env : AuthEnv) (state : AuthState) :
    AuthLabel → Option AuthState
  | .elapse milliseconds => some { state with now := state.now + milliseconds }
  | .registerWithEmail id passwordHash email role username name =>
      some (registerWithEmail env state id passwordHash email role username name).1
  | .loginWithEmail dto => some (loginWithEmail platform env state dto).1
  | .login email nonceAccepted => some (login env state email nonceAccepted).1
  | .enableTwoFactor userId secret recoveryCodeHashes =>
      if ∀ hash ∈ recoveryCodeHashes, (userId, hash) ∉ state.consumed then
        some (enableTwoFactor state userId secret recoveryCodeHashes).1
      else none
  | .verifyTwoFactor userId code => some (verifyTwoFactor platform state userId code).1
  | .disableTwoFactor userId code => some (disableTwoFactor platform state userId code).1
  | .completeTwoFactorLogin partialToken code =>
      some (completeTwoFactorLogin platform env state partialToken code).1
  | .refreshToken token => some (refreshToken env state token).1
  | .logout token => some (logout env state token).1
  | .authenticateRequest degraded bearer =>
      some (authenticateRequest platform env state degraded bearer).1
  | .introspectToken token => some (introspectToken env state token).1

/-- Runs begin with any accounts and no token signed yet. -/
def authMachine (platform : Platform) (env : AuthEnv) : Machine AuthState AuthLabel where
  initial state :=
    state.refreshTokens = [] ∧ state.minted = [] ∧ state.consumed = [] ∧ state.accepted = []
  step := authStep platform env

/-! ### Logins and kinds -/

def Login.SecondFactorVerified (platform : Platform) (login : Login) : Prop :=
  match login.factor with
  | none => False
  | some (.totp code) => verifyTotpCode platform login.time login.user code = true
  | some (.recoveryCode code) =>
      ∃ hash ∈ login.user.recoveryCodeHashes,
        platform.bcryptCompare (normalizeRecoveryCode platform code) hash = true ∧
          (login.user.id, hash) ∉ login.consumed

def Login.Cleared (platform : Platform) (login : Login) : Prop :=
  login.byPassword = true → login.user.twoFactorEnabled = true →
    login.SecondFactorVerified platform

def Claims.kind (claims : Claims) : TokenKind :=
  if claims.type = some partialTokenType then .partialToken
  else if claims.jti = none then .accessToken
  else .refreshToken

def Mint.Sound (platform : Platform) (mint : Mint) : Prop :=
  mint.token.claims.kind = mint.kind ∧
    (mint.kind ≠ .partialToken → mint.login.Cleared platform)

def Acceptance.Proper (platform : Platform) (state : AuthState) (acceptance : Acceptance) :
    Prop :=
  match acceptance.bearer with
  | .hs256 token =>
      token ∈ state.signed ∧
        ∀ mint ∈ state.minted, mint.token = token →
          mint.kind = .accessToken ∧ mint.login.Cleared platform
  | .es256 text =>
      acceptance.acceptor = .authenticateRequest ∧ ∃ user, platform.privyUser text = .ok user
  | .other _ => False

def Acceptance.ShowsAccessToken (platform : Platform) (state : AuthState)
    (acceptance : Acceptance) : Prop :=
  match acceptance.bearer with
  | .hs256 token => token ∈ state.signed ∧ token.claims.kind = .accessToken
  | .es256 text =>
      acceptance.acceptor = .authenticateRequest ∧ ∃ user, platform.privyUser text = .ok user
  | .other _ => False

/-- The request reaches the legacy verifier with a token that verifies there. -/
def LegacyAccepts (env : AuthEnv) (state : AuthState) (degraded : Bool) (token : SignedToken) :
    Prop :=
  env.isLegacyAuthEnabled = true ∧ (env.legacyFallback = true ∨ degraded = false) ∧
    env.jwtSecret ≠ "" ∧ token ∈ state.signed ∧ token.secret = env.jwtSecret ∧
      jwtSeconds state.now < token.claims.exp ∧ token.claims.id ≠ ""

/-- Introspection reaches a token that verifies and an account that exists. -/
def IntrospectionAccepts (env : AuthEnv) (state : AuthState) (token : SignedToken) : Prop :=
  token ∈ state.signed ∧ token.secret = env.introspectionSecret ∧
    jwtSeconds state.now < token.claims.exp ∧ token.claims.id ≠ "" ∧
      state.findById token.claims.id ≠ none

def PresentsAccessToken (env : AuthEnv) (state : AuthState) : AuthLabel → Prop
  | .authenticateRequest degraded (some (.hs256 token)) =>
      LegacyAccepts env state degraded token → token.claims.kind = .accessToken
  | .introspectToken (.hs256 token) =>
      IntrospectionAccepts env state token → token.claims.kind = .accessToken
  | _ => True

instance (env : AuthEnv) (state : AuthState) (degraded : Bool) (token : SignedToken) :
    Decidable (LegacyAccepts env state degraded token) :=
  inferInstanceAs (Decidable (_ ∧ _))

instance (env : AuthEnv) (state : AuthState) (token : SignedToken) :
    Decidable (IntrospectionAccepts env state token) :=
  inferInstanceAs (Decidable (_ ∧ _))

instance (env : AuthEnv) (state : AuthState) :
    (label : AuthLabel) → Decidable (PresentsAccessToken env state label)
  | .authenticateRequest degraded (some (.hs256 token)) =>
      inferInstanceAs (Decidable (LegacyAccepts env state degraded token → _ = _))
  | .introspectToken (.hs256 token) =>
      inferInstanceAs (Decidable (IntrospectionAccepts env state token → _ = _))
  | .authenticateRequest _ none | .authenticateRequest _ (some (.es256 _))
  | .authenticateRequest _ (some (.other _)) => isTrue trivial
  | .introspectToken (.es256 _) | .introspectToken (.other _) => isTrue trivial
  | .elapse _ | .registerWithEmail .. | .loginWithEmail _ | .login .. | .enableTwoFactor ..
  | .verifyTwoFactor .. | .disableTwoFactor .. | .completeTwoFactorLogin .. | .refreshToken _
  | .logout _ => isTrue trivial

theorem signToken_kind {env : AuthEnv} {now : Nat} {user : User} {token : SignedToken}
    (signs : signToken env now user = .ok token) : token.claims.kind = .accessToken := by
  unfold signToken at signs
  split at signs
  · cases signs
  · cases signs
    rfl

variable (platform : Platform) (env : AuthEnv) (state : AuthState)

theorem signRefreshToken_kind (now jti : Nat) (user : User) :
    (signRefreshToken env now jti user).claims.kind = .refreshToken := rfl

theorem generatePartialToken_kind {env : AuthEnv} {now : Nat} {userId : String}
    {token : SignedToken} (signs : generatePartialToken env now userId = .ok token) :
    token.claims.kind = .partialToken := by
  unfold generatePartialToken at signs
  split at signs
  · cases signs
  · cases signs
    rfl

theorem matchRecoveryCode_some {platform : Platform} {user : User} {code hash : String}
    (found : matchRecoveryCode platform user code = some hash) :
    hash ∈ user.recoveryCodeHashes ∧
      platform.bcryptCompare (normalizeRecoveryCode platform code) hash = true := by
  unfold matchRecoveryCode at found
  split at found
  · cases found
  · rename_i stored first
    split at found
    · cases found
      exact ⟨List.mem_of_find?_eq_some first, List.find?_some first⟩
    · cases found

/-! ### The invariant and the parts of the operations -/

structure AuthSound (platform : Platform) (state : AuthState) : Prop where
  mints : ∀ mint ∈ state.minted, mint.Sound platform
  rows : ∀ stored ∈ state.refreshTokens, stored.login.Cleared platform
  unspent : ∀ user ∈ state.users, ∀ hash ∈ user.recoveryCodeHashes,
    (user.id, hash) ∉ state.consumed
  accepted : ∀ acceptance ∈ state.accepted, acceptance.ShowsAccessToken platform state

section Parts

variable {platform : Platform} {env : AuthEnv} {state : AuthState}

section

variable (sound : AuthSound platform state)
include sound

theorem AuthSound.mint {token : SignedToken} {kind : TokenKind} {login : Login}
    (shown : token.claims.kind = kind) (cleared : kind ≠ .partialToken → login.Cleared platform) :
    AuthSound platform (state.mint token kind login) where
  mints mint member := by
    rcases List.mem_append.mp member with old | new
    · exact sound.mints mint old
    · rw [List.mem_singleton.mp new]
      exact ⟨shown, cleared⟩
  rows := sound.rows
  unspent := sound.unspent
  accepted acceptance member := by
    have before := sound.accepted acceptance member
    unfold Acceptance.ShowsAccessToken at before ⊢
    cases seen : acceptance.bearer with
    | hs256 accepted =>
        rw [seen] at before
        refine ⟨?_, before.2⟩
        obtain ⟨mint, minted, same⟩ := List.mem_map.mp before.1
        exact List.mem_map.mpr ⟨mint, List.mem_append_left _ minted, same⟩
    | es256 text =>
        rw [seen] at before
        exact before
    | other text =>
        rw [seen] at before
        exact before

theorem AuthSound.storeRefreshToken (userId : String) (token : SignedToken)
    (familyId : Option Nat) {login : Login} (cleared : login.Cleared platform) :
    AuthSound platform (state.storeRefreshToken userId token familyId login) where
  mints := sound.mints
  rows stored member := by
    rcases List.mem_append.mp member with old | new
    · exact sound.rows stored old
    · rw [List.mem_singleton.mp new]
      exact cleared
  unspent := sound.unspent
  accepted := sound.accepted

theorem AuthSound.revokeWhere (chosen : RefreshToken → Bool) :
    AuthSound platform (state.revokeWhere chosen) where
  mints := sound.mints
  rows stored member := by
    obtain ⟨before, present, rfl⟩ := List.mem_map.mp member
    have cleared := sound.rows before present
    split
    · exact cleared
    · exact cleared
  unspent := sound.unspent
  accepted := sound.accepted

theorem AuthSound.saveUser {saved : User}
    (unspent : ∀ hash ∈ saved.recoveryCodeHashes, (saved.id, hash) ∉ state.consumed) :
    AuthSound platform (state.saveUser saved) where
  mints := sound.mints
  rows := sound.rows
  unspent user member := by
    obtain ⟨before, present, rfl⟩ := List.mem_map.mp member
    split
    · exact unspent
    · exact sound.unspent before present
  accepted := sound.accepted

end

variable {user : User} {bearer : Bearer}

section

variable (sound : AuthSound platform state)
include sound

theorem AuthSound.consume {hash : String} (member : user ∈ state.users) :
    AuthSound platform (state.consume user hash) where
  mints := sound.mints
  rows := sound.rows
  unspent row present := by
    obtain ⟨before, old, rfl⟩ := List.mem_map.mp present
    intro stored kept spent
    by_cases same : before.id = (user.withoutRecoveryCode hash).id
    · rw [if_pos same] at kept spent
      obtain ⟨held, different⟩ := List.mem_filter.mp kept
      rcases List.mem_append.mp spent with earlier | now
      · exact sound.unspent user member stored held earlier
      · rw [(Prod.mk.inj (List.mem_singleton.mp now)).2] at different
        simp at different
    · rw [if_neg same] at kept spent
      rcases List.mem_append.mp spent with earlier | now
      · exact sound.unspent before old stored kept earlier
      · exact same (Prod.mk.inj (List.mem_singleton.mp now)).1
  accepted := sound.accepted

theorem AuthSound.accept {acceptor : Acceptor}
    (shown : Acceptance.ShowsAccessToken platform state { bearer, acceptor }) :
    AuthSound platform (state.accept bearer acceptor) where
  mints := sound.mints
  rows := sound.rows
  unspent := sound.unspent
  accepted acceptance member := by
    rcases List.mem_append.mp member with old | new
    · exact sound.accepted acceptance old
    · rw [List.mem_singleton.mp new]
      exact shown

theorem AuthSound.issueSession (user : User) (familyId : Option Nat) {login : Login}
    (cleared : login.Cleared platform) :
    AuthSound platform (issueSession env state user familyId login).1 := by
  unfold Auth.issueSession
  split
  · exact sound
  · rename_i token signs
    exact ((sound.mint (signToken_kind signs) fun _ => cleared).mint
      (signRefreshToken_kind env state.now state.issued user)
      fun _ => cleared).storeRefreshToken _ _ _ cleared

theorem AuthSound.grantAccess (user : User) {login : Login} (cleared : login.Cleared platform) :
    AuthSound platform (grantAccess env state user login).1 := by
  unfold Auth.grantAccess
  split
  · exact sound
  · rename_i token signs
    exact sound.mint (signToken_kind signs) fun _ => cleared

end

theorem AuthState.findByEmail_mem {email : String} (found : state.findByEmail email = some user) :
    user ∈ state.users :=
  List.mem_of_find?_eq_some found

theorem AuthState.findById_mem {id : String} (found : state.findById id = some user) :
    user ∈ state.users ∧ user.id = id := by
  have named := List.find?_some found
  exact ⟨List.mem_of_find?_eq_some found, of_decide_eq_true named⟩

theorem AuthState.login_factorless {byPassword : Bool}
    (oneFactor : byPassword = true → user.twoFactorEnabled = false) :
    (state.login user byPassword none).Cleared platform := by
  intro password twoFactors
  have single := oneFactor password
  change user.twoFactorEnabled = true at twoFactors
  rw [single] at twoFactors
  cases twoFactors

theorem AuthState.login_totp {code : String}
    (verified : verifyTotpCode platform state.now user code = true) :
    (state.login user true (some (.totp code))).Cleared platform :=
  fun _ _ => verified

section

variable (sound : AuthSound platform state)
include sound

theorem AuthSound.login_recoveryCode {code hash : String} (member : user ∈ state.users)
    (found : matchRecoveryCode platform user code = some hash) :
    (state.login user true (some (.recoveryCode code))).Cleared platform := by
  obtain ⟨stored, equal⟩ := matchRecoveryCode_some found
  exact fun _ _ => ⟨hash, stored, equal, sound.unspent user member hash stored⟩

/-! ### The operations -/

theorem AuthSound.registerWithEmail (id passwordHash email : String) (role : UserRole)
    (username name : Option String) :
    AuthSound platform
      (registerWithEmail env state id passwordHash email role username name).1 := by
  unfold Auth.registerWithEmail
  split
  · exact sound
  · apply AuthSound.issueSession
    · refine ⟨sound.mints, sound.rows, ?_, sound.accepted⟩
      intro user member
      rcases List.mem_append.mp member with old | new
      · exact sound.unspent user old
      · rw [List.mem_singleton.mp new]
        intro hash absent
        cases absent
    · exact AuthState.login_factorless fun _ => rfl

theorem AuthSound.loginWithEmail (dto : LoginWithEmailDTO) :
    AuthSound platform (loginWithEmail platform env state dto).1 := by
  unfold Auth.loginWithEmail
  split
  · exact sound
  · rename_i user found
    have member := AuthState.findByEmail_mem found
    split
    · exact sound
    · split
      · split
        · unfold requireSecondFactor
          split
          · exact sound
          · rename_i token signs
            exact sound.mint (generatePartialToken_kind signs) fun other => absurd rfl other
        · unfold loginWithSecondFactor verifyAndConsumeRecoveryCode
          split
          · cases matched : matchRecoveryCode platform user dto.recoveryCode with
            | none => exact sound
            | some hash =>
                exact (sound.consume member).grantAccess _ (sound.login_recoveryCode member matched)
          · split
            · rename_i verified
              exact sound.grantAccess _ (AuthState.login_totp verified)
            · exact sound
      · rename_i oneFactor
        exact sound.grantAccess _
          (AuthState.login_factorless fun _ => eq_false_of_ne_true oneFactor)

theorem AuthSound.login (email : String) (nonceAccepted : Bool) :
    AuthSound platform (login env state email nonceAccepted).1 := by
  unfold Auth.login
  split
  · split
    · exact sound
    · exact sound.issueSession _ none (AuthState.login_factorless fun password => by cases password)
  · exact sound

theorem AuthSound.enableTwoFactor (userId secret : String) (recoveryCodeHashes : List String)
    (fresh : ∀ hash ∈ recoveryCodeHashes, (userId, hash) ∉ state.consumed) :
    AuthSound platform (enableTwoFactor state userId secret recoveryCodeHashes).1 := by
  unfold Auth.enableTwoFactor
  split
  · exact sound
  · rename_i user found
    split
    · exact sound
    · apply sound.saveUser
      rw [(AuthState.findById_mem found).2]
      exact fresh

theorem AuthSound.disableTwoFactor (userId code : String) :
    AuthSound platform (disableTwoFactor platform state userId code).1 := by
  unfold Auth.disableTwoFactor
  split
  · exact sound
  · rename_i user found
    split
    · exact sound
    · split
      · exact sound.saveUser (sound.unspent user (AuthState.findById_mem found).1)
      · exact sound

end

theorem verifyTwoFactor_state (userId code : String) :
    (verifyTwoFactor platform state userId code).1 = state := by
  unfold verifyTwoFactor
  split
  · rfl
  · split
    · rfl
    · split
      · rfl
      · rfl

theorem AuthSound.completeTwoFactorLogin (sound : AuthSound platform state)
    (partialToken : Bearer) (code : String) :
    AuthSound platform (completeTwoFactorLogin platform env state partialToken code).1 := by
  unfold Auth.completeTwoFactorLogin
  split
  · exact sound
  · split
    · exact sound
    · split
      · split
        · exact sound
        · split
          · exact sound
          · split
            · rename_i verified
              exact sound.issueSession _ none (AuthState.login_totp verified)
            · exact sound
      · exact sound

theorem AuthSound.refreshToken (sound : AuthSound platform state) (token : Bearer) :
    AuthSound platform (refreshToken env state token).1 := by
  unfold Auth.refreshToken
  split
  · exact sound
  · split
    · exact sound
    · split
      · exact sound
      · rename_i stored found
        have member := List.mem_of_find?_eq_some found
        split
        · cases stored.row.familyId with
          | none => exact sound
          | some family =>
              dsimp only
              exact sound.revokeWhere _
        · split
          · exact sound
          · split
            · exact sound
            · exact (sound.revokeWhere _).issueSession _ _ (sound.rows stored member)

theorem AuthSound.logout (sound : AuthSound platform state) (token : Bearer) :
    AuthSound platform (logout env state token).1 := by
  unfold Auth.logout
  split
  · exact sound
  · split
    · exact sound
    · dsimp only
      exact sound.revokeWhere _

/-! ### The acceptors -/

theorem jwtVerify_signed {signed : List SignedToken} {secret : String} {now : Nat}
    {claims : Claims} (accepted : jwtVerify signed secret now bearer = .ok claims) :
    ∃ token, bearer = .hs256 token ∧ claims = token.claims ∧ token ∈ signed ∧
      token.secret = secret ∧ jwtSeconds now < token.claims.exp := by
  obtain ⟨token, seen, member, verified, same⟩ := jwtVerify_ok accepted
  obtain ⟨signedWith, unexpired, _⟩ := SignedToken.verify_ok verified
  exact ⟨token, seen, same, member, signedWith, unexpired⟩

theorem authenticateLegacyToken_ok {payload : JwtPayload}
    (accepted : authenticateLegacyToken env state bearer = .ok payload) :
    ∃ token, bearer = .hs256 token ∧ env.jwtSecret ≠ "" ∧ token ∈ state.signed ∧
      token.secret = env.jwtSecret ∧ jwtSeconds state.now < token.claims.exp ∧
        token.claims.id ≠ "" := by
  unfold authenticateLegacyToken at accepted
  split at accepted
  · cases accepted
  · rename_i configured
    split at accepted
    · cases accepted
    · cases accepted
    · rename_i decoded verified
      split at accepted
      · cases accepted
      · rename_i named
        obtain ⟨token, seen, same, member, signedWith, unexpired⟩ := jwtVerify_signed verified
        rw [same] at named
        exact ⟨token, seen, configured, member, signedWith, unexpired, named⟩

theorem authenticateRequest_cases (degraded : Bool) (bearer : Option Bearer) :
    (authenticateRequest platform env state degraded bearer).1 = state ∨
      (∃ token, bearer = some (.hs256 token) ∧ LegacyAccepts env state degraded token ∧
        (authenticateRequest platform env state degraded bearer).1 =
          state.accept (.hs256 token) .authenticateRequest) ∨
      ∃ text, bearer = some (.es256 text) ∧ (∃ user, platform.privyUser text = .ok user) ∧
        (authenticateRequest platform env state degraded bearer).1 =
          state.accept (.es256 text) .authenticateRequest := by
  cases bearer with
  | none => exact Or.inl rfl
  | some seen =>
      unfold authenticateRequest
      dsimp only
      split
      · exact Or.inl rfl
      · rename_i available
        split
        · exact Or.inl rfl
        · rename_i payload authenticated
          right
          have reachable : env.legacyFallback = true ∨ degraded = false := by
            cases fallback : env.legacyFallback with
            | true => exact Or.inl rfl
            | false =>
                rw [fallback] at available
                exact Or.inr (eq_false_of_ne_true available)
          cases seen with
          | es256 text =>
              right
              simp only [authenticateBearer] at authenticated
              split at authenticated
              · unfold authenticatePrivyToken at authenticated
                split at authenticated
                · cases authenticated
                · rename_i user resolved
                  exact ⟨text, rfl, ⟨user, resolved⟩, rfl⟩
              · cases authenticated
          | hs256 token =>
              left
              simp only [authenticateBearer] at authenticated
              split at authenticated
              · rename_i enabled
                obtain ⟨presented, seen, rest⟩ := authenticateLegacyToken_ok authenticated
                cases seen
                exact ⟨token, rfl, ⟨enabled, reachable, rest⟩, rfl⟩
              · cases authenticated
          | other text =>
              simp only [authenticateBearer] at authenticated
              split at authenticated
              · obtain ⟨_, seen, _⟩ := authenticateLegacyToken_ok authenticated
                cases seen
              · cases authenticated

theorem introspectToken_cases (bearer : Bearer) :
    (introspectToken env state bearer).1 = state ∨
      ∃ token, bearer = .hs256 token ∧ IntrospectionAccepts env state token ∧
        (introspectToken env state bearer).1 = state.accept (.hs256 token) .introspectToken := by
  unfold introspectToken
  split
  · exact Or.inl rfl
  · rename_i decoded verified
    obtain ⟨token, rfl, rfl, member, signedWith, unexpired⟩ := jwtVerify_signed verified
    split
    · exact Or.inl rfl
    · rename_i named
      split
      · exact Or.inl rfl
      · rename_i user found
        refine Or.inr ⟨token, rfl, ⟨member, signedWith, unexpired, named, ?_⟩, rfl⟩
        rw [found]
        exact Option.some_ne_none user

theorem AuthSound.authenticateRequest (sound : AuthSound platform state) (degraded : Bool)
    (bearer : Option Bearer)
    (permitted : PresentsAccessToken env state (.authenticateRequest degraded bearer)) :
    AuthSound platform (authenticateRequest platform env state degraded bearer).1 := by
  rcases authenticateRequest_cases degraded bearer with same | ⟨token, rfl, accepts, moved⟩ | ⟨text, rfl, resolved, moved⟩
  · rw [same]
    exact sound
  · rw [moved]
    exact sound.accept ⟨accepts.2.2.2.1, permitted accepts⟩
  · rw [moved]
    exact sound.accept ⟨rfl, resolved⟩

theorem AuthSound.introspectToken (sound : AuthSound platform state) (bearer : Bearer)
    (permitted : PresentsAccessToken env state (.introspectToken bearer)) :
    AuthSound platform (introspectToken env state bearer).1 := by
  rcases introspectToken_cases bearer with
    same | ⟨token, rfl, accepts, moved⟩
  · rw [same]
    exact sound
  · rw [moved]
    exact sound.accept ⟨accepts.1, permitted accepts⟩

end Parts

/-! ### Runs -/

theorem authSound_step (after : AuthState) (label : AuthLabel) (sound : AuthSound platform state)
    (permitted : PresentsAccessToken env state label)
    (moved : authStep platform env state label = some after) : AuthSound platform after := by
  cases label with
  | elapse milliseconds =>
      cases moved
      exact ⟨sound.mints, sound.rows, sound.unspent, sound.accepted⟩
  | registerWithEmail id passwordHash email role username name =>
      cases moved
      exact sound.registerWithEmail id passwordHash email role username name
  | loginWithEmail dto =>
      cases moved
      exact sound.loginWithEmail dto
  | login email nonceAccepted =>
      cases moved
      exact sound.login email nonceAccepted
  | enableTwoFactor userId secret recoveryCodeHashes =>
      simp only [authStep] at moved
      split at moved
      · rename_i fresh
        cases moved
        exact sound.enableTwoFactor userId secret recoveryCodeHashes fresh
      · cases moved
  | verifyTwoFactor userId code =>
      cases moved
      rw [verifyTwoFactor_state]
      exact sound
  | disableTwoFactor userId code =>
      cases moved
      exact sound.disableTwoFactor userId code
  | completeTwoFactorLogin partialToken code =>
      cases moved
      exact sound.completeTwoFactorLogin partialToken code
  | refreshToken token =>
      cases moved
      exact sound.refreshToken token
  | logout token =>
      cases moved
      exact sound.logout token
  | authenticateRequest degraded bearer =>
      cases moved
      exact sound.authenticateRequest degraded bearer permitted
  | introspectToken token =>
      cases moved
      exact sound.introspectToken token permitted

theorem authSound_initial (begins : (authMachine platform env).initial state) :
    AuthSound platform state := by
  obtain ⟨rows, minted, consumed, accepted⟩ := begins
  refine ⟨?_, ?_, ?_, ?_⟩
  · rw [minted]
    intro mint absent
    cases absent
  · rw [rows]
    intro stored absent
    cases absent
  · rw [consumed]
    intro user _ hash _ absent
    cases absent
  · rw [accepted]
    intro acceptance absent
    cases absent

theorem authMachine_sound
    (reached : (authMachine platform env).Reachable (PresentsAccessToken env) state) :
    AuthSound platform state :=
  reached.invariant (AuthSound platform) (authSound_initial platform env)
    fun before label after earlier permitted moved =>
      authSound_step platform env before after label earlier permitted moved

/-- Every accepted token is an access token, and each login that signed it
verified a second factor if it was a password login with two factors. -/
theorem authMachine_accepts_cleared_logins (platform : Platform) (env : AuthEnv)
    (state : AuthState)
    (reached : (authMachine platform env).Reachable (PresentsAccessToken env) state) :
    ∀ acceptance ∈ state.accepted, acceptance.Proper platform state := by
  intro acceptance member
  have sound := authMachine_sound platform env state reached
  have shown := sound.accepted acceptance member
  unfold Acceptance.ShowsAccessToken at shown
  unfold Acceptance.Proper
  cases seen : acceptance.bearer with
  | hs256 token =>
      rw [seen] at shown
      refine ⟨shown.1, ?_⟩
      rintro mint minted rfl
      obtain ⟨kind, cleared⟩ := sound.mints mint minted
      have access : mint.kind = .accessToken := kind.symm.trans shown.2
      refine ⟨access, cleared ?_⟩
      rw [access]
      exact fun other => by cases other
  | es256 text =>
      rw [seen] at shown
      exact shown
  | other text =>
      rw [seen] at shown
      exact shown

/-! ### An account with two factors -/

def plainPlatform : Platform where
  bcryptCompare text hash := decide (text = hash)
  verifySync token secret _ := decide (token = secret)
  toUpperCase text := text
  privyUser _ := .error (.authentication "Unauthorized: Invalid or expired Privy token")

def oneSecretEnv : AuthEnv :=
  { jwtSecret := "jwt", refreshTokenSecret := "", authMode := .legacy, legacyFallback := true }

def twoFactorUser : User :=
  { id := "u1"
    profile :=
      { dynamixUserId := none
        email := some "a@b.com"
        walletAddress := none
        stellarPublicKey := none
        role := .artist
        username := none
        profileImage := none
        name := none
        emailVerified := true }
    passwordHash := some "password123"
    twoFactorEnabled := true
    twoFactorSecret := some "123456"
    twoFactorRecoveryCodeHashes := some [] }

def oneAccount : AuthState :=
  { now := 0
    issued := 0
    users := [twoFactorUser]
    refreshTokens := []
    minted := []
    consumed := []
    accepted := [] }

def passwordOnly : LoginWithEmailDTO :=
  { email := "a@b.com", password := "password123", twoFactorCode := "", recoveryCode := "" }

def unverifiedToken : SignedToken :=
  { claims :=
      { id := "u1", type := some "2fa_partial", jti := none, profile := none, iat := 0, exp := 300 }
    secret := "jwt" }

def verifiedToken : SignedToken :=
  { claims :=
      { id := "u1"
        type := none
        jti := none
        profile := some twoFactorUser.profile
        iat := 0
        exp := 900 }
    secret := "jwt" }

/-- The password alone gives a token that authenticates requests. -/
theorem authMachine_accepts_password_alone :
    ∃ state, (authMachine plainPlatform oneSecretEnv).Reachable (fun _ _ => True) state ∧
      ∃ acceptance ∈ state.accepted, ∃ mint ∈ state.minted,
        acceptance = ⟨.hs256 mint.token, .authenticateRequest⟩ ∧ mint.kind = .partialToken ∧
          mint.login.byPassword = true ∧ mint.login.user.twoFactorEnabled = true ∧
            ¬mint.login.SecondFactorVerified plainPlatform := by
  have executed : ∃ state, (authMachine plainPlatform oneSecretEnv).run oneAccount
        [.loginWithEmail passwordOnly,
          .authenticateRequest false (some (.hs256 unverifiedToken))] = some state ∧
      state.accepted = [⟨.hs256 unverifiedToken, .authenticateRequest⟩] ∧
        state.minted = [⟨unverifiedToken, .partialToken, oneAccount.login twoFactorUser true none⟩] :=
    ⟨_, rfl, rfl, rfl⟩
  obtain ⟨state, ran, accepted, minted⟩ := executed
  refine ⟨state, Machine.Reachable.of_run _ (.start ⟨rfl, rfl, rfl, rfl⟩)
    (Machine.permits_always _ _ _) ran, ⟨.hs256 unverifiedToken, .authenticateRequest⟩, ?_,
    ⟨unverifiedToken, .partialToken, oneAccount.login twoFactorUser true none⟩, ?_, rfl, rfl, rfl,
    rfl, id⟩
  · rw [accepted]
    exact List.mem_singleton.mpr rfl
  · rw [minted]
    exact List.mem_singleton.mpr rfl

theorem authMachine_accepts_verified_login :
    ∃ state, (authMachine plainPlatform oneSecretEnv).run oneAccount
        [.loginWithEmail { passwordOnly with twoFactorCode := "123456" },
          .authenticateRequest false (some (.hs256 verifiedToken))] = some state ∧
      state.accepted = [⟨.hs256 verifiedToken, .authenticateRequest⟩] ∧
        ∀ acceptance ∈ state.accepted, acceptance.Proper plainPlatform state := by
  have permitted : (authMachine plainPlatform oneSecretEnv).Permits
      (PresentsAccessToken oneSecretEnv) oneAccount
        [.loginWithEmail { passwordOnly with twoFactorCode := "123456" },
          .authenticateRequest false (some (.hs256 verifiedToken))] := by
    decide +kernel
  exact ⟨_, rfl, rfl, authMachine_accepts_cleared_logins plainPlatform oneSecretEnv _
    (Machine.Reachable.of_run _ (.start ⟨rfl, rfl, rfl, rfl⟩) permitted rfl)⟩

end AudioBlock.Auth
