/-
What the Privy login knows of the token that is presented to it.

The login decodes the payload of the token and reads it.  For every text: on which
databases a session is opened, or an account linked by its email, without a signature
of Privy or against what the token asserts.
-/
import AudioBlock.Auth.PrivyContinuity

namespace AudioBlock.Auth

open AudioBlock.Foundation AudioBlock.Songs

/-! ### The law -/

/-- The token of a request, as the login reads it. -/
def tokenText (idToken : String) : String := String.ofList (trim idToken.toList)

def signedByPrivy (platform : PrivyPlatform) (token : String) : Bool :=
  match platform.decode token with
  | none => false
  | some header =>
      match truthy header.kid with
      | none => false
      | some kid =>
          match platform.getKey kid with
          | .error _ => false
          | .ok key => platform.signedBy token key

/-- An account that no identity had found, and that the stored email finds, has the identity. -/
def LinkedByEmail (before after : List PrivyAccount) (email : Option String)
    (privyUserId : String) : Prop :=
  ∃ account, findByPrivyUserId before privyUserId = none ∧
    findMergeable before email none = some account ∧ LinkedTo after account.id privyUserId

structure LoginVerified (platform : PrivyPlatform) (before : PrivyState) (idToken : String)
    (outcome : PrivyState × Except ServiceError Session) : Prop where
  session : ∀ session, outcome.2 = .ok session → signedByPrivy platform (tokenText idToken) = true ∧
    ∃ payload privyUserId, readIdToken platform idToken = .ok (payload, privyUserId) ∧
      LinkedTo outcome.1.accounts session.token.claims.id privyUserId
  linked : ∀ payload privyUserId, readIdToken platform idToken = .ok (payload, privyUserId) →
    LinkedByEmail before.accounts outcome.1.accounts payload.email privyUserId →
    signedByPrivy platform (tokenText idToken) = true ∧ payload.emailVerified = true

/-- The law on every database. -/
def VerifiedEverywhere (platform : PrivyPlatform) (idToken : String) : Prop :=
  ∀ env state drawn, DistinctAccounts state.accounts →
    drawn ∉ state.accounts.map PrivyAccount.id →
    LoginVerified platform state idToken (privyLogin platform env state drawn idToken)

def AssertsIdentity (platform : PrivyPlatform) (idToken : String) : Prop :=
  ∀ payload privyUserId, readIdToken platform idToken = .ok (payload, privyUserId) →
    signedByPrivy platform (tokenText idToken) = true ∧
      (truthy payload.email = none ∨ payload.emailVerified = true)

/-! ### What a login leaves -/

section Login

variable {platform : PrivyPlatform} {env : AuthEnv} {state : PrivyState} {drawn idToken : String}
  {payload : IdTokenPayload} {privyUserId : String}

theorem issueTokens_accounts (user : User) (familyId : Option Nat) :
    (issueTokens env state user familyId).1.accounts = state.accounts := by
  unfold issueTokens
  split
  · rfl
  · rfl

theorem privyLogin_accounts (read : readIdToken platform idToken = .ok (payload, privyUserId)) :
    (privyLogin platform env state drawn idToken).1.accounts =
      (loginAccount state.accounts drawn privyUserId payload).1 := by
  unfold privyLogin
  rw [read]
  dsimp only
  cases logged : loginAccount state.accounts drawn privyUserId payload with
  | mk accounts answer =>
      cases answer with
      | error failure => rfl
      | ok account =>
          have kept := @issueTokens_accounts env { state with accounts := accounts } account.user none
          dsimp only
          cases served : issueTokens env { state with accounts := accounts } account.user none with
          | mk after pair =>
              rw [served] at kept
              cases pair with
              | error failure => exact kept
              | ok session => exact kept

theorem issueTokens_owner {user : User} {familyId : Option Nat} {after : PrivyState}
    {session : Session}
    (served : issueTokens env state user familyId = (after, .ok session)) :
    session.token.claims.id = user.id := by
  unfold issueTokens signToken at served
  split at served
  · cases served
  · rename_i token signed
    split at signed
    · cases signed
    · cases signed
      cases served
      rfl

theorem privyLogin_session {after : PrivyState} {session : Session}
    (opened : privyLogin platform env state drawn idToken = (after, .ok session)) :
    ∃ payload privyUserId accounts account,
      readIdToken platform idToken = .ok (payload, privyUserId) ∧
      loginAccount state.accounts drawn privyUserId payload = (accounts, .ok account) ∧
      session.token.claims.id = account.id := by
  unfold privyLogin at opened
  split at opened
  · cases opened
  rename_i payload privyUserId read
  split at opened
  · cases opened
  rename_i accounts account logged
  split at opened
  · cases opened
  rename_i final pair served
  cases opened
  exact ⟨payload, privyUserId, accounts, account, read, logged, issueTokens_owner served⟩

theorem loginAccount_linked {accounts merged : List PrivyAccount} {account : PrivyAccount}
    (merging : autoMergeDuringLogin accounts privyUserId payload.email payload.wallet =
      .ok (merged, some account)) (member : account ∈ merged)
    (identity : account.privyUserId = some privyUserId) :
    LinkedTo (loginAccount accounts drawn privyUserId payload).1 account.id privyUserId := by
  have same := LoginDraft.update_identity { account, updated := false } payload
  cases logged : loginAccount accounts drawn privyUserId payload with
  | mk after answer =>
      unfold loginAccount at logged
      rw [merging] at logged
      dsimp only at logged
      rw [Option.some_or, Option.getD_some, Option.isNone_some, Bool.or_false] at logged
      split at logged
      · split at logged
        · cases logged
          exact ⟨account, member, rfl, identity⟩
        · rename_i saved done
          cases logged
          exact ⟨_, saveAccount_mem done, same.1, same.2.trans identity⟩
      · cases logged
        exact ⟨account, member, rfl, identity⟩

theorem findMergeable_email {accounts : List PrivyAccount} {email : Option String}
    (missing : truthy email = none) : findMergeable accounts email none = none := by
  unfold findMergeable
  rw [missing]
  rfl

end Login

/-! ### The law on the two kinds of token -/

section Tokens

variable {platform : PrivyPlatform} {idToken : String}

theorem AssertsIdentity.loginVerified (asserts : AssertsIdentity platform idToken) :
    VerifiedEverywhere platform idToken := by
  intro env state drawn distinct fresh
  constructor
  · intro session opened
    obtain ⟨payload, privyUserId, accounts, account, read, logged, named⟩ :=
      privyLogin_session (Prod.ext rfl opened)
    have own := (loginAccount_keeps distinct fresh logged).2 account rfl
    refine ⟨(asserts payload privyUserId read).1, payload, privyUserId, read, ?_⟩
    rw [privyLogin_accounts read, logged, named]
    exact own
  · intro payload privyUserId read linked
    obtain ⟨signed, asserted⟩ := asserts payload privyUserId read
    refine ⟨signed, ?_⟩
    cases asserted with
    | inr verified => exact verified
    | inl missing =>
        obtain ⟨account, _, found, _⟩ := linked
        rw [findMergeable_email missing] at found
        cases found

theorem noAccounts_session {payload : IdTokenPayload} {privyUserId : String}
    (read : readIdToken platform idToken = .ok (payload, privyUserId)) :
    ∃ session, (privyLogin platform privyEnv noAccounts listenerId idToken).2 = .ok session := by
  have merged : autoMergeDuringLogin [] privyUserId payload.email payload.wallet =
      .ok ([], none) := by
    have missing : findMergeable [] payload.email payload.wallet = none := by
      cases found : findMergeable [] payload.email payload.wallet with
      | none => rfl
      | some account => exact absurd (findMergeable_some found).1 List.not_mem_nil
    unfold autoMergeDuringLogin
    rw [missing]
    rfl
  have logged : ∃ account accounts,
      loginAccount noAccounts.accounts listenerId privyUserId payload = (accounts, .ok account) := by
    unfold loginAccount
    rw [show noAccounts.accounts = [] from rfl, merged]
    dsimp only
    rw [show Option.none.or (findByPrivyUserId [] privyUserId) = none from rfl,
      Option.isNone_none, Bool.or_true, if_pos rfl]
    exact ⟨_, _, rfl⟩
  obtain ⟨account, accounts, logged⟩ := logged
  obtain ⟨after, session, served⟩ :=
    @issueTokens_ok privyEnv { noAccounts with accounts := accounts } (by decide) account.user none
  refine ⟨session, ?_⟩
  unfold privyLogin
  rw [read]
  dsimp only
  rw [logged]
  dsimp only
  rw [served]

def emailAccount (email : String) : PrivyAccount :=
  { createdAccount listenerId "" identityPayload with
    user :=
      { (createdAccount listenerId "" identityPayload).user with
        profile :=
          { (createdAccount listenerId "" identityPayload).user.profile with
            email := some email
            emailVerified := true } }
    privyUserId := none }

def emailOnly (email : String) : PrivyState := ⟨0, 0, [emailAccount email], [], []⟩

theorem emailOnly_distinct (email : String) : DistinctAccounts (emailOnly email).accounts := by
  constructor
  · exact List.nodup_singleton _
  · intro one member other present privyUserId _ _
    cases List.mem_singleton.mp member
    cases List.mem_singleton.mp present
    rfl

theorem emailOnly_linked {payload : IdTokenPayload} {privyUserId email drawn : String}
    (read : readIdToken platform idToken = .ok (payload, privyUserId))
    (carried : truthy payload.email = some email) :
    LinkedByEmail (emailOnly email).accounts
      (privyLogin platform privyEnv (emailOnly email) drawn idToken).1.accounts payload.email
      privyUserId := by
  have filled := readIdToken_filled read
  have unlinked : findByPrivyUserId [emailAccount email] privyUserId = none := rfl
  have byEmail : ∀ wallet, findMergeable [emailAccount email] payload.email wallet =
      some (emailAccount email) := by
    intro wallet
    have matched : [emailAccount email].find? (fun account =>
        decide (account.user.profile.email = some email) && account.user.profile.emailVerified) =
          some (emailAccount email) :=
      List.find?_cons_of_pos (Bool.and_eq_true_iff.mpr ⟨decide_eq_true rfl, rfl⟩)
    unfold findMergeable
    rw [carried]
    dsimp only [Option.bind_some]
    rw [matched]
    rfl
  let linked : PrivyAccount := { emailAccount email with privyUserId := some privyUserId }
  have merging : autoMergeDuringLogin (emailOnly email).accounts privyUserId payload.email
      payload.wallet = .ok ([linked], some linked) := by
    unfold autoMergeDuringLogin
    rw [show (emailOnly email).accounts = [emailAccount email] from rfl, unlinked, byEmail]
    rfl
  have kept := @loginAccount_linked drawn _ _ _ _ _ merging (List.mem_singleton_self linked) rfl
  refine ⟨emailAccount email, unlinked, byEmail none, ?_⟩
  rw [privyLogin_accounts read]
  exact kept

/-- The law holds on every database exactly for the texts that assert their identity. -/
theorem verifiedEverywhere_iff (platform : PrivyPlatform) (idToken : String) :
    VerifiedEverywhere platform idToken ↔ AssertsIdentity platform idToken := by
  refine ⟨?_, AssertsIdentity.loginVerified⟩
  intro everywhere payload privyUserId read
  constructor
  · obtain ⟨session, opened⟩ := noAccounts_session read
    have verified := everywhere privyEnv noAccounts listenerId noAccounts_initial.1 List.not_mem_nil
    exact (verified.session session opened).1
  · cases carried : truthy payload.email with
    | none => exact Or.inl rfl
    | some email =>
        right
        have fresh : "" ∉ (emailOnly email).accounts.map PrivyAccount.id := by
          intro member
          have same : "" = listenerId := List.mem_singleton.mp member
          exact absurd same (by decide)
        have verified := everywhere privyEnv (emailOnly email) "" (emailOnly_distinct email) fresh
        exact (verified.linked payload privyUserId read (emailOnly_linked read carried)).2

end Tokens

/-! A text that nobody has signed names the identity of a listener. -/

def nothingSigned : PrivyPlatform := { onePrivyUser with signedBy := fun _ _ => false }

theorem loggedIn_forged :
    ¬LoginVerified nothingSigned loggedIn "header.body."
      (privyLogin nothingSigned privyEnv loggedIn "drawn" "header.body.") := by
  intro verified
  have unsigned : signedByPrivy nothingSigned (tokenText "header.body.") = false := by
    decide +kernel
  have opens : (privyLogin nothingSigned privyEnv loggedIn "drawn" "header.body.").2.toOption.isSome =
      true := by decide +kernel
  cases answered : (privyLogin nothingSigned privyEnv loggedIn "drawn" "header.body.").2 with
  | error failure =>
      rw [answered] at opens
      cases opens
  | ok session =>
      have signed := (verified.session session answered).1
      rw [unsigned] at signed
      cases signed

end AudioBlock.Auth
