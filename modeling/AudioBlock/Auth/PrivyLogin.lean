/-
Logging in with a Privy identity token.

The account of a Privy identity is found by `privyUserId`, linked to it by a verified
email or by a wallet, or created.  Audit records and the social logins' log lines are
left out; `drawn` is the identifier that the database gives a new account.
-/
import AudioBlock.Auth.PrivyMiddleware
import AudioBlock.Foundation.Rows

namespace AudioBlock.Auth

open AudioBlock.Foundation AudioBlock.Songs

structure TwitterProfile where
  twitterId : Option String
  twitterUsername : Option String
  twitterDisplayName : Option String
  twitterProfileImage : Option String
  twitterVerified : Bool
  twitterConnected : Bool
  deriving DecidableEq

/-- The columns of a user that a Privy login reads or writes. -/
structure PrivyAccount where
  user : User
  privyUserId : Option String
  deletedAt : Option Nat
  twitter : TwitterProfile
  deriving DecidableEq

def PrivyAccount.id (account : PrivyAccount) : String := account.user.id

def PrivyAccount.withProfile (account : PrivyAccount) (profile : Profile) : PrivyAccount :=
  { account with user := { account.user with profile := profile } }

/-! ### The identity token -/

def malformedIdToken : ServiceError := .authentication "Invalid or malformed Privy ID token"

/-- The payload of an identity token and the identity that it names; nothing is verified. -/
def readIdToken (platform : PrivyPlatform) (idToken : String) :
    Except ServiceError (IdTokenPayload × String) :=
  let text := trim idToken.toList
  if text = [] then .error (.validation "Privy ID token is required")
  else
    match text.splitOn '.' with
    | [_, body, _] =>
        match platform.readPayload (String.ofList body) with
        | .unreadable | .notObject => .error malformedIdToken
        | .object payload =>
            match (truthy payload.sub).or (truthy payload.id) with
            | none => .error (.authentication "Privy user ID (sub) is required in token")
            | some privyUserId => .ok (payload, privyUserId)
    | _ => .error malformedIdToken

def IdTokenPayload.wallet (payload : IdTokenPayload) : Option String :=
  (truthy payload.wallet_address).or (truthy payload.walletAddress)

def IdTokenPayload.linkedAccount (payload : IdTokenPayload) (type : String) :
    Option LinkedAccount :=
  payload.linkedAccounts.find? fun linked => decide (linked.type = type)

def LinkedAccount.isExternalWallet (linked : LinkedAccount) : Bool :=
  linked.type = "wallet" ∧
    (linked.walletClient = some "metamask" ∨ linked.walletClient = some "walletconnect" ∨
      linked.connectorType = some "injected" ∨ linked.connectorType = some "wallet_connect")

def IdTokenPayload.externalWallets (payload : IdTokenPayload) : List LinkedAccount :=
  payload.linkedAccounts.filter LinkedAccount.isExternalWallet

/-! ### The accounts -/

/-- A value of a unique column that another row has as well. -/
def clashes (one other : Option String) : Bool := one.isSome ∧ one = other

/-- Of the unique columns a login writes the identity and the email. -/
def uniquelyHeld (accounts : List PrivyAccount) (account : PrivyAccount) : Bool :=
  accounts.all fun other =>
    decide (other.id = account.id) ||
      (!clashes other.privyUserId account.privyUserId &&
        !clashes other.user.profile.email account.user.profile.email)

def saveAccount (accounts : List PrivyAccount) (account : PrivyAccount) :
    Except ServiceError (List PrivyAccount) :=
  if uniquelyHeld accounts account then .ok (storeRow PrivyAccount.id account accounts)
  else .error (.plain "duplicate key value violates unique constraint")

def findByPrivyUserId (accounts : List PrivyAccount) (privyUserId : String) :
    Option PrivyAccount :=
  findRow PrivyAccount.privyUserId (some privyUserId) accounts

/-- The account that a verified email or a wallet finds, unless it is linked or deleted. -/
def linkable (found : Option PrivyAccount) : Option PrivyAccount :=
  found.filter fun account =>
    decide (truthy account.privyUserId = none) && decide (account.deletedAt = none)

def findMergeable (accounts : List PrivyAccount) (email walletAddress : Option String) :
    Option PrivyAccount :=
  let byEmail := (truthy email).bind fun text =>
    linkable (accounts.find? fun account =>
      decide (account.user.profile.email = some text) && account.user.profile.emailVerified)
  let byWallet := (truthy walletAddress).bind fun text =>
    linkable (accounts.find? fun account =>
      decide (account.user.profile.walletAddress = some text))
  byEmail.or byWallet

def autoMergeDuringLogin (accounts : List PrivyAccount) (privyUserId : String)
    (email walletAddress : Option String) :
    Except ServiceError (List PrivyAccount × Option PrivyAccount) :=
  match findByPrivyUserId accounts privyUserId with
  | some account => .ok (accounts, some account)
  | none =>
      match findMergeable accounts email walletAddress with
      | none => .ok (accounts, none)
      | some account =>
          let linked := { account with privyUserId := some privyUserId }
          (saveAccount accounts linked).map fun saved => (saved, some linked)

/-! ### What a login writes -/

/-- An account as the login has it in memory; `updated` asks for a save. -/
structure LoginDraft where
  account : PrivyAccount
  updated : Bool

def LoginDraft.change (draft : LoginDraft) (profile : Profile) : LoginDraft :=
  { account := draft.account.withProfile profile, updated := true }

def LoginDraft.profile (draft : LoginDraft) : Profile := draft.account.user.profile

def createdAccount (drawn privyUserId : String) (payload : IdTokenPayload) : PrivyAccount :=
  { user :=
      { id := drawn
        profile :=
          { dynamixUserId := none
            email := truthy payload.email
            walletAddress :=
              payload.wallet.or
                (payload.externalWallets.head?.bind fun linked => truthy linked.address)
            stellarPublicKey := none
            role := .listener
            username := none
            profileImage := none
            name := none
            emailVerified := payload.emailVerified || (truthy payload.email).isSome }
        passwordHash := none
        twoFactorEnabled := false
        twoFactorSecret := none
        twoFactorRecoveryCodeHashes := none }
    privyUserId := some privyUserId
    deletedAt := none
    twitter := ⟨none, none, none, none, false, false⟩ }

def LoginDraft.updateEmail (draft : LoginDraft) (payload : IdTokenPayload) : LoginDraft :=
  match truthy payload.email with
  | none => draft
  | some email =>
      if some email ≠ draft.profile.email ∧ payload.emailVerified = true then
        draft.change { draft.profile with email := some email, emailVerified := true }
      else draft

/-- An address that is not given leaves the column. -/
def LoginDraft.updateWallet (draft : LoginDraft) (payload : IdTokenPayload) : LoginDraft :=
  if truthy draft.profile.walletAddress ≠ none then draft
  else
    match payload.externalWallets with
    | wallet :: _ =>
        draft.change { draft.profile with
          walletAddress := wallet.address.or draft.profile.walletAddress }
    | [] =>
        match payload.wallet with
        | none => draft
        | some address => draft.change { draft.profile with walletAddress := some address }

def LoginDraft.updateGoogle (draft : LoginDraft) (payload : IdTokenPayload) : LoginDraft :=
  match payload.linkedAccount "google" with
  | none => draft
  | some google =>
      match truthy draft.profile.email, truthy google.email with
      | none, some email =>
          draft.change { draft.profile with
            email := some email
            emailVerified := google.verifiedEmail }
      | _, _ => draft

def LoginDraft.updateTwitter (draft : LoginDraft) (payload : IdTokenPayload) : LoginDraft :=
  match payload.linkedAccount "twitter" with
  | none => draft
  | some twitter =>
      match truthy twitter.username, truthy draft.account.twitter.twitterUsername with
      | some username, none =>
          { account :=
              { draft.account with
                twitter :=
                  { twitterId := (truthy twitter.subject).or twitter.id
                    twitterUsername := some username
                    twitterDisplayName := twitter.name
                    twitterProfileImage := twitter.profilePictureUrl
                    twitterVerified := twitter.verified
                    twitterConnected := true } }
            updated := true }
      | _, _ => draft

def LoginDraft.update (draft : LoginDraft) (payload : IdTokenPayload) : LoginDraft :=
  (((draft.updateEmail payload).updateWallet payload).updateGoogle payload).updateTwitter payload

def loginAccount (accounts : List PrivyAccount) (drawn privyUserId : String)
    (payload : IdTokenPayload) : List PrivyAccount × Except ServiceError PrivyAccount :=
  match autoMergeDuringLogin accounts privyUserId payload.email payload.wallet with
  | .error failure => (accounts, .error failure)
  | .ok (merged, found) =>
      let existing := found.or (findByPrivyUserId merged privyUserId)
      let draft : LoginDraft :=
        { account := existing.getD (createdAccount drawn privyUserId payload), updated := false }
      let final := draft.update payload
      if final.updated || existing.isNone then
        match saveAccount merged final.account with
        | .error failure => (merged, .error failure)
        | .ok saved => (saved, .ok final.account)
      else (merged, .ok final.account)

/-! ### What a login keeps -/

theorem truthy_filled {text : Option String} {written : String}
    (present : truthy text = some written) : written ≠ "" :=
  of_decide_eq_true (Option.filter_eq_some_iff.mp present).2

theorem readIdToken_filled {platform : PrivyPlatform} {idToken privyUserId : String}
    {payload : IdTokenPayload} (read : readIdToken platform idToken = .ok (payload, privyUserId)) :
    privyUserId ≠ "" := by
  unfold readIdToken at read
  dsimp only at read
  split at read
  · cases read
  split at read
  · split at read
    · cases read
    · cases read
    · split at read
      · cases read
      · rename_i named
        cases read
        rcases Option.or_eq_some_iff.mp named with subject | ⟨_, id⟩
        · exact truthy_filled subject
        · exact truthy_filled id
  · cases read

section Draft

variable (draft : LoginDraft) (payload : IdTokenPayload)

def SameIdentity (one other : PrivyAccount) : Prop :=
  one.id = other.id ∧ one.privyUserId = other.privyUserId

theorem LoginDraft.change_identity (profile : Profile) :
    SameIdentity (draft.change profile).account draft.account := ⟨rfl, rfl⟩

theorem LoginDraft.updateEmail_identity :
    SameIdentity (draft.updateEmail payload).account draft.account := by
  unfold LoginDraft.updateEmail
  split
  · exact ⟨rfl, rfl⟩
  · split
    · exact draft.change_identity _
    · exact ⟨rfl, rfl⟩

theorem LoginDraft.updateWallet_identity :
    SameIdentity (draft.updateWallet payload).account draft.account := by
  unfold LoginDraft.updateWallet
  split
  · exact ⟨rfl, rfl⟩
  · split
    · exact draft.change_identity _
    · split
      · exact ⟨rfl, rfl⟩
      · exact draft.change_identity _

theorem LoginDraft.updateGoogle_identity :
    SameIdentity (draft.updateGoogle payload).account draft.account := by
  unfold LoginDraft.updateGoogle
  split
  · exact ⟨rfl, rfl⟩
  · split
    · exact draft.change_identity _
    · exact ⟨rfl, rfl⟩

theorem LoginDraft.updateTwitter_identity :
    SameIdentity (draft.updateTwitter payload).account draft.account := by
  unfold LoginDraft.updateTwitter
  split
  · exact ⟨rfl, rfl⟩
  · split
    · exact ⟨rfl, rfl⟩
    · exact ⟨rfl, rfl⟩

theorem SameIdentity.trans {one other third : PrivyAccount} (first : SameIdentity one other)
    (second : SameIdentity other third) : SameIdentity one third :=
  ⟨first.1.trans second.1, first.2.trans second.2⟩

theorem LoginDraft.update_identity :
    SameIdentity (draft.update payload).account draft.account := by
  have email := draft.updateEmail_identity payload
  have wallet := (draft.updateEmail payload).updateWallet_identity payload
  have google := ((draft.updateEmail payload).updateWallet payload).updateGoogle_identity payload
  exact ((((draft.updateEmail payload).updateWallet payload).updateGoogle
    payload).updateTwitter_identity payload).trans (google.trans (wallet.trans email))

end Draft

structure DistinctAccounts (accounts : List PrivyAccount) : Prop where
  ids : (accounts.map PrivyAccount.id).Nodup
  identities : ∀ one ∈ accounts, ∀ other ∈ accounts, ∀ privyUserId,
    one.privyUserId = some privyUserId → other.privyUserId = some privyUserId → one.id = other.id

def LinkedTo (accounts : List PrivyAccount) (userId privyUserId : String) : Prop :=
  ∃ account ∈ accounts, account.id = userId ∧ account.privyUserId = some privyUserId

section Saved

variable {accounts saved : List PrivyAccount} {account : PrivyAccount}

theorem saveAccount_ok (done : saveAccount accounts account = .ok saved) :
    uniquelyHeld accounts account = true ∧ saved = storeRow PrivyAccount.id account accounts := by
  unfold saveAccount at done
  split at done
  · rename_i unique
    cases done
    exact ⟨unique, rfl⟩
  · cases done

theorem saveAccount_mem (done : saveAccount accounts account = .ok saved) : account ∈ saved := by
  obtain ⟨_, rfl⟩ := saveAccount_ok done
  exact (findRow_mem (findRow_storeRow account accounts)).1

theorem uniquelyHeld_identity (unique : uniquelyHeld accounts account = true)
    {other : PrivyAccount} (member : other ∈ accounts) {privyUserId : String}
    (own : account.privyUserId = some privyUserId) (same : other.privyUserId = some privyUserId) :
    other.id = account.id := by
  have held := List.all_eq_true.mp unique other member
  rcases (Bool.or_eq_true _ _).mp held with named | apart
  · exact of_decide_eq_true named
  · have clashing : clashes other.privyUserId account.privyUserId = true := by
      rw [own, same]
      exact decide_eq_true ⟨rfl, rfl⟩
    rw [clashing] at apart
    cases apart

section

variable (distinct : DistinctAccounts accounts) (done : saveAccount accounts account = .ok saved)
include distinct done

theorem saveAccount_distinct : DistinctAccounts saved := by
  obtain ⟨unique, rfl⟩ := saveAccount_ok done
  constructor
  · exact storeRow_nodup distinct.ids
  · intro one present other member privyUserId first second
    rcases mem_storeRow present with rfl | before
    · rcases mem_storeRow member with rfl | stored
      · rfl
      · exact (uniquelyHeld_identity unique stored first second).symm
    · rcases mem_storeRow member with rfl | stored
      · exact uniquelyHeld_identity unique before second first
      · exact distinct.identities one before other stored privyUserId first second

theorem saveAccount_linked {userId privyUserId : String}
    (linked : LinkedTo accounts userId privyUserId)
    (keeps : ∀ row ∈ accounts, row.id = account.id → row.privyUserId = some privyUserId →
      account.privyUserId = some privyUserId) : LinkedTo saved userId privyUserId := by
  obtain ⟨row, member, rfl, identity⟩ := linked
  have all := saveAccount_mem done
  obtain ⟨_, rfl⟩ := saveAccount_ok done
  by_cases own : row.id = account.id
  · exact ⟨account, all, own.symm, keeps row member own identity⟩
  · have found : findRow PrivyAccount.id row.id (storeRow PrivyAccount.id account accounts) =
        some row :=
      (findRow_storeRow_other accounts own).trans (findRow_of_mem distinct.ids member)
    exact ⟨row, (findRow_mem found).1, rfl, identity⟩

end

end Saved

structure KeepsLinks (before after : List PrivyAccount) : Prop where
  distinct : DistinctAccounts after
  linked : ∀ userId privyUserId, privyUserId ≠ "" → LinkedTo before userId privyUserId →
    LinkedTo after userId privyUserId

theorem KeepsLinks.refl {accounts : List PrivyAccount} (distinct : DistinctAccounts accounts) :
    KeepsLinks accounts accounts := ⟨distinct, fun _ _ _ linked => linked⟩

theorem KeepsLinks.trans {first second third : List PrivyAccount} (one : KeepsLinks first second)
    (other : KeepsLinks second third) : KeepsLinks first third :=
  ⟨other.distinct, fun userId privyUserId filled linked =>
    other.linked userId privyUserId filled (one.linked userId privyUserId filled linked)⟩

section Login

variable {accounts after : List PrivyAccount} {privyUserId : String}

theorem linkable_some {found : Option PrivyAccount} {account : PrivyAccount}
    (chosen : linkable found = some account) :
    found = some account ∧ truthy account.privyUserId = none := by
  obtain ⟨same, free⟩ := Option.filter_eq_some_iff.mp chosen
  exact ⟨same, of_decide_eq_true ((Bool.and_eq_true _ _).mp free).1⟩

theorem findMergeable_some {email walletAddress : Option String} {account : PrivyAccount}
    (found : findMergeable accounts email walletAddress = some account) :
    account ∈ accounts ∧ truthy account.privyUserId = none := by
  unfold findMergeable at found
  dsimp only at found
  rcases Option.or_eq_some_iff.mp found with byEmail | ⟨_, byWallet⟩
  · obtain ⟨_, _, chosen⟩ := Option.bind_eq_some_iff.mp byEmail
    obtain ⟨same, free⟩ := linkable_some chosen
    exact ⟨List.mem_of_find?_eq_some same, free⟩
  · obtain ⟨_, _, chosen⟩ := Option.bind_eq_some_iff.mp byWallet
    obtain ⟨same, free⟩ := linkable_some chosen
    exact ⟨List.mem_of_find?_eq_some same, free⟩

theorem truthy_none {text : Option String} (unfilled : truthy text = none) {written : String}
    (present : text = some written) : written = "" := by
  by_contra filled
  rw [present] at unfilled
  have kept : truthy (some written) = some written := if_pos (decide_eq_true filled)
  rw [kept] at unfilled
  cases unfilled

theorem autoMergeDuringLogin_ok (distinct : DistinctAccounts accounts)
    {email walletAddress : Option String} {found : Option PrivyAccount}
    (merged : autoMergeDuringLogin accounts privyUserId email walletAddress = .ok (after, found)) :
    KeepsLinks accounts after ∧ (found = none → after = accounts) ∧
      ∀ account ∈ found, account ∈ after ∧ account.privyUserId = some privyUserId := by
  unfold autoMergeDuringLogin at merged
  split at merged
  · rename_i account own
    cases merged
    refine ⟨.refl distinct, fun missing => (nomatch missing), ?_⟩
    intro _ present
    cases Option.mem_some_iff.mp present
    exact findRow_mem own
  · split at merged
    · cases merged
      exact ⟨.refl distinct, fun _ => rfl, fun account none => absurd none (Option.not_mem_none account)⟩
    · rename_i account mergeable
      obtain ⟨member, free⟩ := findMergeable_some mergeable
      cases done : saveAccount accounts { account with privyUserId := some privyUserId } with
      | error failure =>
          dsimp only at merged
          rw [done] at merged
          cases merged
      | ok saved =>
          dsimp only at merged
          rw [done] at merged
          cases merged
          refine ⟨⟨saveAccount_distinct distinct done, ?_⟩, fun missing => (nomatch missing), ?_⟩
          · intro userId other filled linked
            refine saveAccount_linked distinct done linked ?_
            intro row present same identity
            have replaced : row = account := List.inj_on_of_nodup_map distinct.ids present member same
            exact absurd (truthy_none free (replaced ▸ identity)) filled
          · intro _ present
            cases Option.mem_some_iff.mp present
            exact ⟨saveAccount_mem done, rfl⟩

theorem loginAccount_keeps (distinct : DistinctAccounts accounts) {drawn : String}
    (fresh : drawn ∉ accounts.map PrivyAccount.id) {payload : IdTokenPayload}
    {answer : Except ServiceError PrivyAccount}
    (logged : loginAccount accounts drawn privyUserId payload = (after, answer)) :
    KeepsLinks accounts after ∧
      ∀ account, answer = .ok account → LinkedTo after account.id privyUserId := by
  unfold loginAccount at logged
  split at logged
  · cases logged
    exact ⟨.refl distinct, fun account impossible => nomatch impossible⟩
  rename_i merged found merging
  obtain ⟨kept, unchanged, own⟩ := autoMergeDuringLogin_ok distinct merging
  dsimp only at logged
  cases existing : found.or (findByPrivyUserId merged privyUserId) with
  | none =>
      have same : merged = accounts := unchanged (Option.or_eq_none_iff.mp existing).1
      subst same
      have identity := LoginDraft.update_identity
        { account := createdAccount drawn privyUserId payload, updated := false } payload
      rw [existing, Option.getD_none, Option.isNone_none, Bool.or_true, if_pos rfl] at logged
      split at logged
      · cases logged
        exact ⟨kept, fun account impossible => nomatch impossible⟩
      · rename_i saved done
        cases logged
        refine ⟨⟨saveAccount_distinct distinct done, ?_⟩, ?_⟩
        · intro userId other _ linked
          refine saveAccount_linked distinct done linked ?_
          intro row present named _
          have own : row.id = drawn := named.trans identity.1
          exact absurd (own ▸ List.mem_map_of_mem present) fresh
        · rintro _ ⟨⟩
          exact ⟨_, saveAccount_mem done, rfl, identity.2⟩
  | some account =>
      have linked : account ∈ merged ∧ account.privyUserId = some privyUserId := by
        rcases Option.or_eq_some_iff.mp existing with first | ⟨_, second⟩
        · exact own account first
        · exact findRow_mem second
      have identity := LoginDraft.update_identity { account, updated := false } payload
      rw [existing, Option.getD_some] at logged
      split at logged
      · split at logged
        · cases logged
          exact ⟨kept, fun account impossible => nomatch impossible⟩
        · rename_i saved done
          cases logged
          refine ⟨kept.trans ⟨saveAccount_distinct kept.distinct done, ?_⟩, ?_⟩
          · intro userId other _ link
            refine saveAccount_linked kept.distinct done link ?_
            intro row present named other
            have replaced : row = account :=
              List.inj_on_of_nodup_map kept.distinct.ids present linked.1 (named.trans identity.1)
            exact identity.2.trans (replaced ▸ other)
          · rintro _ ⟨⟩
            exact ⟨_, saveAccount_mem done, rfl, identity.2.trans linked.2⟩
      · cases logged
        refine ⟨kept, ?_⟩
        rintro _ ⟨⟩
        exact ⟨account, linked.1, identity.1.symm, linked.2⟩

end Login

end AudioBlock.Auth
