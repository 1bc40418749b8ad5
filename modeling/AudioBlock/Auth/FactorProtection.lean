/-
Who may replace the second factor of an account.

Three operations write the columns of the second factor.  `disableTwoFactor`
asks for a TOTP code and a recovery code removes its own hash, but
`enableTwoFactor` does not look at what is enrolled.  Where it is called for
accounts without a second factor only, an enrolled secret stays until a code of
that secret confirms the removal.
-/
import AudioBlock.Auth.SecondFactor
import AudioBlock.Foundation.Rows

namespace AudioBlock.Auth

open AudioBlock.Foundation

/-- What a step can do to the rows of the accounts. -/
inductive Rewrites (platform : Platform) (state : AuthState) : AuthLabel → List User → Prop
  | nothing (label : AuthLabel) : Rewrites platform state label state.users
  | register (id passwordHash email : String) (role : UserRole) (username name : Option String)
      (user : User) (drawn : user.id = id) :
      Rewrites platform state (.registerWithEmail id passwordHash email role username name)
        (state.users ++ [user])
  | enable (userId secret : String) (hashes : List String) (user : User)
      (found : state.findById userId = some user) (password : user.passwordHash.getD "" ≠ "") :
      Rewrites platform state (.enableTwoFactor userId secret hashes)
        (state.saveUser
          { user with
            twoFactorEnabled := true
            twoFactorSecret := some secret
            twoFactorRecoveryCodeHashes := some hashes }).users
  | disable (userId code : String) (user : User) (found : state.findById userId = some user)
      (verified : verifyTotpCode platform state.now user code = true) :
      Rewrites platform state (.disableTwoFactor userId code)
        (state.saveUser { user with twoFactorEnabled := false }).users
  | spend (dto : LoginWithEmailDTO) (user : User) (hash : String)
      (found : state.findByEmail dto.email = some user)
      (matched : matchRecoveryCode platform user dto.recoveryCode = some hash) :
      Rewrites platform state (.loginWithEmail dto)
        (state.saveUser (user.withoutRecoveryCode hash)).users

section Operations

variable {platform : Platform} {env : AuthEnv} {state : AuthState}

variable (token : Bearer) (user : User)

theorem issueSession_users (familyId : Option Nat) (login : Login) :
    (issueSession env state user familyId login).1.users = state.users := by
  unfold issueSession
  split
  · rfl
  · rfl

theorem grantAccess_users (login : Login) :
    (grantAccess env state user login).1.users = state.users := by
  unfold grantAccess
  split
  · rfl
  · rfl

theorem requireSecondFactor_users :
    (requireSecondFactor env state user).1.users = state.users := by
  unfold requireSecondFactor
  split
  · rfl
  · rfl

theorem registerWithEmail_rewrites (id passwordHash email : String) (role : UserRole)
    (username name : Option String) :
    Rewrites platform state (.registerWithEmail id passwordHash email role username name)
      (registerWithEmail env state id passwordHash email role username name).1.users := by
  unfold registerWithEmail
  split
  · exact .nothing _
  · dsimp only
    rw [issueSession_users]
    exact .register id passwordHash email role username name _ rfl

theorem loginWithEmail_rewrites (dto : LoginWithEmailDTO) :
    Rewrites platform state (.loginWithEmail dto) (loginWithEmail platform env state dto).1.users := by
  unfold loginWithEmail
  split
  · exact .nothing _
  · rename_i user found
    split
    · exact .nothing _
    · split
      · split
        · rw [requireSecondFactor_users]
          exact .nothing _
        · unfold loginWithSecondFactor
          split
          · unfold verifyAndConsumeRecoveryCode
            cases matched : matchRecoveryCode platform user dto.recoveryCode with
            | none => exact .nothing _
            | some hash =>
                dsimp only
                rw [grantAccess_users]
                exact .spend dto user hash found matched
          · split
            · rw [grantAccess_users]
              exact .nothing _
            · exact .nothing _
      · rw [grantAccess_users]
        exact .nothing _

theorem login_users (email : String) (nonceAccepted : Bool) :
    (login env state email nonceAccepted).1.users = state.users := by
  unfold login
  split
  · split
    · rfl
    · exact issueSession_users _ _ _
  · rfl

theorem enableTwoFactor_rewrites (userId secret : String) (hashes : List String) :
    Rewrites platform state (.enableTwoFactor userId secret hashes)
      (enableTwoFactor state userId secret hashes).1.users := by
  unfold enableTwoFactor
  split
  · exact .nothing _
  · rename_i user found
    split
    · exact .nothing _
    · rename_i password
      exact .enable userId secret hashes user found password

theorem disableTwoFactor_rewrites (userId code : String) :
    Rewrites platform state (.disableTwoFactor userId code)
      (disableTwoFactor platform state userId code).1.users := by
  unfold disableTwoFactor
  split
  · exact .nothing _
  · rename_i user found
    split
    · exact .nothing _
    · split
      · rename_i verified
        exact .disable userId code user found verified
      · exact .nothing _

theorem completeTwoFactorLogin_users (code : String) :
    (completeTwoFactorLogin platform env state token code).1.users = state.users := by
  unfold completeTwoFactorLogin
  split
  · rfl
  · split
    · rfl
    · split
      · split
        · rfl
        · split
          · rfl
          · split
            · exact issueSession_users _ _ _
            · rfl
      · rfl

theorem refreshToken_users :
    (refreshToken env state token).1.users = state.users := by
  unfold refreshToken
  split
  · rfl
  · split
    · rfl
    · split
      · rfl
      · split
        · split
          · rfl
          · rfl
        · split
          · rfl
          · split
            · rfl
            · exact issueSession_users _ _ _

theorem logout_users : (logout env state token).1.users = state.users := by
  unfold logout
  split
  · rfl
  · split
    · rfl
    · rfl

theorem authStep_rewrites {after : AuthState} {label : AuthLabel}
    (moved : authStep platform env state label = some after) :
    Rewrites platform state label after.users := by
  cases label with
  | elapse milliseconds =>
      cases moved
      exact .nothing _
  | registerWithEmail id passwordHash email role username name =>
      cases moved
      exact registerWithEmail_rewrites id passwordHash email role username name
  | loginWithEmail dto =>
      cases moved
      exact loginWithEmail_rewrites dto
  | login email nonceAccepted =>
      cases moved
      rw [login_users]
      exact .nothing _
  | enableTwoFactor userId secret recoveryCodeHashes =>
      simp only [authStep] at moved
      split at moved
      · cases moved
        exact enableTwoFactor_rewrites userId secret recoveryCodeHashes
      · cases moved
  | verifyTwoFactor userId code =>
      cases moved
      rw [verifyTwoFactor_state]
      exact .nothing _
  | disableTwoFactor userId code =>
      cases moved
      exact disableTwoFactor_rewrites userId code
  | completeTwoFactorLogin partialToken code =>
      cases moved
      rw [completeTwoFactorLogin_users]
      exact .nothing _
  | refreshToken token =>
      cases moved
      rw [refreshToken_users]
      exact .nothing _
  | logout token =>
      cases moved
      rw [logout_users]
      exact .nothing _
  | authenticateRequest degraded bearer =>
      cases moved
      have unchanged : (authenticateRequest platform env state degraded bearer).1.users =
          state.users := by
        rcases authenticateRequest_cases degraded bearer with
          same | ⟨token, _, _, same⟩ | ⟨text, _, _, same⟩
        · rw [same]
        · rw [same]
          rfl
        · rw [same]
          rfl
      rw [unchanged]
      exact .nothing _
  | introspectToken token =>
      cases moved
      rcases introspectToken_cases token with same | ⟨accepted, _, _, same⟩
      · rw [same]
        exact .nothing _
      · rw [same]
        exact .nothing _

end Operations

/-! ### What a run keeps -/

/-- The condition on a step: the account is not enrolled anew while it is enrolled,
and a registration draws a new primary key. -/
def GuardsEnrolment (userId : String) (state : AuthState) : AuthLabel → Prop
  | .enableTwoFactor id _ _ =>
      id = userId → ∀ user ∈ state.findById userId,
        user.passwordHash.getD "" = "" ∨ user.twoFactorEnabled = false
  | .registerWithEmail id .. => state.findById id = none
  | _ => True

def ConfirmsRemoval (platform : Platform) (userId : String) (state : AuthState) :
    AuthLabel → Prop
  | .disableTwoFactor id code =>
      id = userId ∧ ∃ user ∈ state.findById userId,
        verifyTotpCode platform state.now user code = true
  | _ => False

instance (userId : String) (state : AuthState) :
    (label : AuthLabel) → Decidable (GuardsEnrolment userId state label)
  | .enableTwoFactor .. => inferInstanceAs (Decidable (_ → _))
  | .registerWithEmail .. => inferInstanceAs (Decidable (_ = _))
  | .elapse _ | .loginWithEmail _ | .login .. | .verifyTwoFactor .. | .disableTwoFactor ..
  | .completeTwoFactorLogin .. | .refreshToken _ | .logout _ | .authenticateRequest ..
  | .introspectToken _ => isTrue trivial

instance (platform : Platform) (userId : String) (state : AuthState) :
    (label : AuthLabel) → Decidable (ConfirmsRemoval platform userId state label)
  | .disableTwoFactor .. => inferInstanceAs (Decidable (_ ∧ _))
  | .elapse _ | .registerWithEmail .. | .loginWithEmail _ | .login .. | .enableTwoFactor ..
  | .verifyTwoFactor .. | .completeTwoFactorLogin .. | .refreshToken _ | .logout _
  | .authenticateRequest .. | .introspectToken _ => isFalse id

def matchedCode (platform : Platform) (userId : String) (state : AuthState) :
    AuthLabel → List String
  | .loginWithEmail dto =>
      match state.findByEmail dto.email with
      | none => []
      | some user =>
          if user.id = userId then (matchRecoveryCode platform user dto.recoveryCode).toList else []
  | _ => []

/-- The second factor of an account after some of its recovery codes were used. -/
structure Keeps (used : List String) (user kept : User) : Prop where
  enabled : kept.twoFactorEnabled = true
  secret : kept.twoFactorSecret = user.twoFactorSecret
  remaining : kept.recoveryCodeHashes.Sublist user.recoveryCodeHashes
  spent : ∀ hash ∈ user.recoveryCodeHashes, hash ∉ kept.recoveryCodeHashes → hash ∈ used

theorem Keeps.refl {user : User} (enabled : user.twoFactorEnabled = true) (used : List String) :
    Keeps used user user :=
  ⟨enabled, rfl, List.Sublist.refl _, fun _ member missing => absurd member missing⟩

theorem Keeps.trans {first second : List String} {user middle kept : User}
    (before : Keeps first user middle) (after : Keeps second middle kept) :
    Keeps (first ++ second) user kept := by
  refine ⟨after.enabled, after.secret.trans before.secret,
    after.remaining.trans before.remaining, ?_⟩
  intro hash member missing
  by_cases still : hash ∈ middle.recoveryCodeHashes
  · exact List.mem_append.mpr (Or.inr (after.spent hash still missing))
  · exact List.mem_append.mpr (Or.inl (before.spent hash member still))

section Rows

variable {state : AuthState} {userId : String}

theorem AuthState.findById_unique (distinct : (state.users.map User.id).Nodup) {user found : User}
    (member : user ∈ state.users) (sought : state.findById user.id = some found) :
    user = found :=
  Option.some.inj ((findRow_of_mem distinct member).symm.trans sought)

theorem AuthState.saveUser_found {user : User} (found : state.findById userId = some user)
    (saved : User) :
    (state.saveUser saved).findById userId =
      some (if userId = saved.id then saved else user) :=
  findRow_saveRow_found found saved

theorem AuthState.saveUser_distinct (distinct : (state.users.map User.id).Nodup) (saved : User) :
    ((state.saveUser saved).users.map User.id).Nodup := by
  have same : (state.saveUser saved).users.map User.id = state.users.map User.id :=
    saveRow_keys saved state.users
  exact same.symm ▸ distinct

end Rows

/-! ### Runs -/

section Runs

variable {platform : Platform} {env : AuthEnv} {state after : AuthState} {userId : String}

theorem withoutRecoveryCode_keeps {user : User} (enabled : user.twoFactorEnabled = true)
    (hash : String) : Keeps [hash] user (user.withoutRecoveryCode hash) := by
  refine ⟨enabled, rfl, List.filter_sublist, ?_⟩
  intro other member missing
  rw [List.mem_singleton]
  by_contra different
  exact missing (List.mem_filter.mpr ⟨member, bne_iff_ne.mpr different⟩)

theorem authStep_keeps {label : AuthLabel} {user : User}
    (distinct : (state.users.map User.id).Nodup) (found : state.findById userId = some user)
    (enabled : user.twoFactorEnabled = true) (guarded : GuardsEnrolment userId state label)
    (unconfirmed : ¬ConfirmsRemoval platform userId state label)
    (moved : authStep platform env state label = some after) :
    (after.users.map User.id).Nodup ∧ ∃ kept, after.findById userId = some kept ∧
      Keeps (matchedCode platform userId state label) user kept := by
  have rewrites := authStep_rewrites moved
  have named := (AuthState.findById_mem found).2
  generalize rows : after.users = users at rewrites
  have sought : after.findById userId = users.find? fun row => decide (row.id = userId) := by
    unfold AuthState.findById
    rw [rows]
  rw [sought]
  cases rewrites with
  | nothing => exact ⟨distinct, user, found, .refl enabled _⟩
  | register id passwordHash email role username name added drawn =>
      refine ⟨?_, user, ?_, .refl enabled _⟩
      · have absent : id ∉ state.users.map User.id := findRow_eq_none guarded
        rw [List.map_append, List.nodup_append]
        refine ⟨distinct, List.nodup_singleton _, ?_⟩
        intro old present new single same
        rw [List.mem_singleton.mp single, drawn] at same
        exact absent (same ▸ present)
      · rw [List.find?_append]
        exact congrArg (fun first : Option User => first.or _) found
  | enable other secret hashes enrolled present password =>
      have apart : userId ≠ other := by
        rintro rfl
        rcases guarded rfl enrolled present with none | off
        · exact password none
        · rw [Option.some.inj (found.symm.trans present), off] at enabled
          cases enabled
      refine ⟨AuthState.saveUser_distinct distinct _, user, ?_, .refl enabled _⟩
      have saved := AuthState.saveUser_found found
        { enrolled with
          twoFactorEnabled := true
          twoFactorSecret := some secret
          twoFactorRecoveryCodeHashes := some hashes }
      rw [if_neg (by rw [(AuthState.findById_mem present).2]; exact apart)] at saved
      exact saved
  | disable other code holder present verified =>
      have apart : userId ≠ other := by
        rintro rfl
        exact unconfirmed ⟨rfl, holder, present, verified⟩
      refine ⟨AuthState.saveUser_distinct distinct _, user, ?_, .refl enabled _⟩
      have saved := AuthState.saveUser_found found { holder with twoFactorEnabled := false }
      rw [if_neg (by rw [(AuthState.findById_mem present).2]; exact apart)] at saved
      exact saved
  | spend dto holder hash present matched =>
      have saved : (state.saveUser (holder.withoutRecoveryCode hash)).findById userId =
          some (if userId = holder.id then holder.withoutRecoveryCode hash else user) :=
        AuthState.saveUser_found found _
      by_cases same : holder.id = userId
      · have member := AuthState.findByEmail_mem present
        have own : holder = user :=
          AuthState.findById_unique distinct member (same.symm ▸ found)
        subst own
        rw [if_pos named.symm] at saved
        refine ⟨AuthState.saveUser_distinct distinct _, _, saved, ?_⟩
        simp only [matchedCode, present, if_pos same, matched]
        exact withoutRecoveryCode_keeps enabled hash
      · rw [if_neg fun equal => same equal.symm] at saved
        exact ⟨AuthState.saveUser_distinct distinct _, user, saved, .refl enabled _⟩

/-- Until a code of the current secret confirms the removal, an enrolled account
keeps its secret, and of its recovery codes it loses those presented in a login. -/
theorem authMachine_keeps_second_factor (platform : Platform) (env : AuthEnv)
    {state after : AuthState} {userId : String} {user : User}
    (distinct : (state.users.map User.id).Nodup) (found : state.findById userId = some user)
    (enabled : user.twoFactorEnabled = true) (labels : List AuthLabel)
    (guarded : (authMachine platform env).Permits (GuardsEnrolment userId) state labels)
    (unconfirmed : (authMachine platform env).Permits
      (fun earlier label => ¬ConfirmsRemoval platform userId earlier label) state labels)
    (ran : (authMachine platform env).run state labels = some after) :
    ∃ kept, after.findById userId = some kept ∧
      Keeps ((authMachine platform env).collect (matchedCode platform userId) state labels)
        user kept := by
  induction labels generalizing state user with
  | nil =>
      cases ran
      exact ⟨user, found, .refl enabled _⟩
  | cons label rest ih =>
      obtain ⟨guardedNow, guardedLater⟩ := guarded
      obtain ⟨unconfirmedNow, unconfirmedLater⟩ := unconfirmed
      simp only [Machine.run] at ran
      cases moved : (authMachine platform env).step state label with
      | none =>
          rw [moved] at ran
          cases ran
      | some middle =>
          rw [moved] at ran guardedLater unconfirmedLater
          obtain ⟨still, kept, present, keeps⟩ :=
            authStep_keeps distinct found enabled guardedNow unconfirmedNow moved
          obtain ⟨last, later, remains⟩ :=
            ih still present keeps.enabled guardedLater unconfirmedLater ran
          refine ⟨last, later, ?_⟩
          simp only [Machine.collect, moved]
          exact keeps.trans remains

end Runs

/-! An account with two recovery codes, one of which is used. -/

def recoverableUser : User :=
  { twoFactorUser with twoFactorRecoveryCodeHashes := some ["A1", "B2"] }

def recoverableAccount : AuthState :=
  { oneAccount with users := [recoverableUser] }

def recoveryLogins : List AuthLabel :=
  [.loginWithEmail { passwordOnly with recoveryCode := "A1" }, .disableTwoFactor "u1" "000000",
    .verifyTwoFactor "u1" "123456"]

theorem authMachine_keeps_remaining_code :
    ∃ after kept, (authMachine plainPlatform oneSecretEnv).run recoverableAccount
        recoveryLogins = some after ∧ after.findById "u1" = some kept ∧
      Keeps ((authMachine plainPlatform oneSecretEnv).collect (matchedCode plainPlatform "u1")
        recoverableAccount recoveryLogins) recoverableUser kept := by
  have executed : ∃ after, (authMachine plainPlatform oneSecretEnv).run recoverableAccount
      recoveryLogins = some after := ⟨_, rfl⟩
  obtain ⟨after, ran⟩ := executed
  have found : recoverableAccount.findById "u1" = some recoverableUser := rfl
  obtain ⟨kept, present, keeps⟩ :=
    authMachine_keeps_second_factor plainPlatform oneSecretEnv (by decide) found rfl recoveryLogins
      (by decide +kernel) (by decide +kernel) ran
  exact ⟨after, kept, ran, present, keeps⟩

/-- A session alone replaces the secret and the recovery codes. -/
theorem authMachine_replaces_second_factor :
    ∃ after kept, (authMachine plainPlatform oneSecretEnv).run recoverableAccount
        [.enableTwoFactor "u1" "654321" ["C3"]] = some after ∧
      (authMachine plainPlatform oneSecretEnv).Permits
        (fun earlier label => ¬ConfirmsRemoval plainPlatform "u1" earlier label)
          recoverableAccount [.enableTwoFactor "u1" "654321" ["C3"]] ∧
        after.findById "u1" = some kept ∧ kept.twoFactorSecret ≠ recoverableUser.twoFactorSecret ∧
          ¬kept.recoveryCodeHashes.Sublist recoverableUser.recoveryCodeHashes :=
  ⟨_, _, rfl, by decide +kernel, rfl, by decide, by decide +kernel⟩

end AudioBlock.Auth
