/-
Merging two accounts into one.

The transaction loads both rows, moves to the primary account what it lacks, adds the
reward points, marks the secondary account for deletion, and saves the two rows one after
the other; a save that a unique column refuses rolls everything back.  The audit record is
left out.  The unique triple of wallet, email and username refuses nothing that the unique
email does not.
-/
import AudioBlock.Auth.PrivyLogin
import AudioBlock.Foundation.Binary64
import AudioBlock.Foundation.Machine

namespace AudioBlock.Accounts

open AudioBlock.Foundation AudioBlock.Auth AudioBlock.Songs

structure FacebookProfile where
  facebookId : Option String
  facebookName : Option String
  facebookEmail : Option String
  facebookProfileImage : Option String
  facebookConnected : Bool

/-- The columns of a user that a merge reads or writes. -/
structure Account extends PrivyAccount where
  stellarArtistId : Option String
  stellarArtistTokenId : Option String
  facebook : FacebookProfile
  rewardPoints : Float
  deletionRequestedAt : Option Nat
  deletionScheduledFor : Option Nat
  deletionReason : Option String

namespace Account

def key (account : Account) : String := account.user.id

def profile (account : Account) : Profile := account.user.profile

def withProfile (account : Account) (profile : Profile) : Account :=
  { account with user := { account.user with profile := profile } }

end Account

/-! ### The unique columns -/

inductive UniqueColumn
  | dynamixUserId
  | privyUserId
  | stellarPublicKey
  | username
  | name
  | email
  deriving DecidableEq

def UniqueColumn.all : List UniqueColumn :=
  [.dynamixUserId, .privyUserId, .stellarPublicKey, .username, .name, .email]

def UniqueColumn.value (account : Account) : UniqueColumn → Option String
  | .dynamixUserId => account.profile.dynamixUserId
  | .privyUserId => account.privyUserId
  | .stellarPublicKey => account.profile.stellarPublicKey
  | .username => account.profile.username
  | .name => account.profile.name
  | .email => account.profile.email

def isUnique (accounts : List Account) (account : Account) : Bool :=
  accounts.all fun other =>
    decide (other.key = account.key) ||
      UniqueColumn.all.all fun column => !clashes (column.value other) (column.value account)

def save (accounts : List Account) (account : Account) : Except ServiceError (List Account) :=
  if isUnique accounts account then .ok (storeRow Account.key account accounts)
  else .error (.plain "duplicate key value violates unique constraint")

/-! ### What the primary account takes over -/

/-- One of the `if`s of a merge: the field that it reports, when it applies, what it copies. -/
structure Takeover where
  field : String
  wanted : (primary secondary : Account) → Bool
  copy : (primary secondary : Account) → Account

def lacks (primary secondary : Option String) : Bool :=
  (truthy primary).isNone && (truthy secondary).isSome

namespace Takeover

def privyUserId : Takeover where
  field := "privyUserId"
  wanted primary secondary := lacks primary.privyUserId secondary.privyUserId
  copy primary secondary := { primary with privyUserId := secondary.privyUserId }

def walletAddress : Takeover where
  field := "walletAddress"
  wanted primary secondary := lacks primary.profile.walletAddress secondary.profile.walletAddress
  copy primary secondary :=
    primary.withProfile
      { primary.profile with walletAddress := secondary.profile.walletAddress }

def email : Takeover where
  field := "email"
  wanted primary secondary :=
    lacks primary.profile.email secondary.profile.email && secondary.profile.emailVerified
  copy primary secondary :=
    primary.withProfile
      { primary.profile with
        email := secondary.profile.email
        emailVerified := true }

def stellarPublicKey : Takeover where
  field := "stellarPublicKey"
  wanted primary secondary :=
    lacks primary.profile.stellarPublicKey secondary.profile.stellarPublicKey
  copy primary secondary :=
    { primary.withProfile
        { primary.profile with stellarPublicKey := secondary.profile.stellarPublicKey } with
      stellarArtistId := secondary.stellarArtistId
      stellarArtistTokenId := secondary.stellarArtistTokenId }

def twitter : Takeover where
  field := "twitter"
  wanted primary secondary :=
    !primary.twitter.twitterConnected && secondary.twitter.twitterConnected
  copy primary secondary :=
    { primary with twitter := { secondary.twitter with twitterConnected := true } }

def facebook : Takeover where
  field := "facebook"
  wanted primary secondary :=
    !primary.facebook.facebookConnected && secondary.facebook.facebookConnected
  copy primary secondary :=
    { primary with facebook := { secondary.facebook with facebookConnected := true } }

/-- The `if`s of a merge, in their order. -/
def all : List Takeover :=
  [privyUserId, walletAddress, email, stellarPublicKey, twitter, facebook]

def apply (secondary : Account) (merging : Account × List String) (takeover : Takeover) :
    Account × List String :=
  if takeover.wanted merging.1 secondary then
    (takeover.copy merging.1 secondary, merging.2 ++ [takeover.field])
  else merging

end Takeover

def takeOver (primary secondary : Account) : Account × List String :=
  Takeover.all.foldl (Takeover.apply secondary) (primary, [])

/-! ### `mergeAccounts` -/

structure MergeResult where
  primaryUserId : String
  mergedUserId : String
  mergedFields : List String
  deriving DecidableEq

def mergedPrimary (primary secondary : Account) : Account :=
  let merged := (takeOver primary secondary).1
  { merged with rewardPoints := merged.rewardPoints + secondary.rewardPoints }

def mergedSecondary (now : Nat) (primaryUserId : String) (secondary : Account) : Account :=
  { secondary with
    deletionRequestedAt := some now
    deletionScheduledFor := some now
    deletionReason := some ("Merged into account " ++ primaryUserId) }

def mergeCandidates (accounts : List Account) (primaryUserId secondaryUserId : String) :
    Except ServiceError (Account × Account) :=
  if primaryUserId = secondaryUserId then
    .error (.validation "Cannot merge an account with itself")
  else
    match findRow Account.key primaryUserId accounts, findRow Account.key secondaryUserId accounts with
    | none, _ => .error (.notFound "Primary user not found")
    | some _, none => .error (.notFound "Secondary user not found")
    | some primary, some secondary =>
        if secondary.deletedAt.isSome then .error (.validation "Cannot merge a deleted account")
        else .ok (primary, secondary)

/-- The two saves of the transaction. -/
def saveBoth (accounts : List Account) (primary secondary : Account) :
    Except ServiceError (List Account) :=
  match save accounts primary with
  | .error failure => .error failure
  | .ok saved => save saved secondary

/-- The table after the transaction, which a failure rolls back. -/
def mergeAccounts (accounts : List Account) (now : Nat) (primaryUserId secondaryUserId : String) :
    List Account × Except ServiceError MergeResult :=
  match mergeCandidates accounts primaryUserId secondaryUserId with
  | .error failure => (accounts, .error failure)
  | .ok (primary, secondary) =>
      match saveBoth accounts (mergedPrimary primary secondary)
        (mergedSecondary now primaryUserId secondary) with
      | .error failure => (accounts, .error failure)
      | .ok committed =>
          (committed, .ok
            { primaryUserId
              mergedUserId := secondaryUserId
              mergedFields := (takeOver primary secondary).2 })

/-! ### The machine -/

/-- `mergedAway` remembers the secondary accounts of committed merges. -/
structure MergeState where
  accounts : List Account
  mergedAway : List String

structure MergeLabel where
  now : Nat
  primaryUserId : String
  secondaryUserId : String

def mergeOutcome (state : MergeState) (label : MergeLabel) :
    List Account × Except ServiceError MergeResult :=
  mergeAccounts state.accounts label.now label.primaryUserId label.secondaryUserId

def mergeStep (state : MergeState) (label : MergeLabel) : MergeState :=
  match mergeOutcome state label with
  | (accounts, .error _) => { state with accounts := accounts }
  | (accounts, .ok result) =>
      { accounts, mergedAway := state.mergedAway ++ [result.mergedUserId] }

/-- All reward points, if every row has a finite number of them. -/
def totalPoints : List Account → Option ℚ
  | [] => some 0
  | account :: rest =>
      (exactValue account.rewardPoints).bind fun own => (totalPoints rest).map fun total => own + total

/-- What the database keeps of its rows. -/
structure SoundTable (accounts : List Account) : Prop where
  keys : (accounts.map Account.key).Nodup
  unique : ∀ account ∈ accounts, isUnique accounts account = true
  points : ∃ total, totalPoints accounts = some total

def mergeMachine : Machine MergeState MergeLabel where
  initial state := SoundTable state.accounts ∧ state.mergedAway = []
  step state label := some (mergeStep state label)

end AudioBlock.Accounts
