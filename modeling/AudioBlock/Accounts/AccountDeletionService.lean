/-
Deleting an account: the request, its cancellation, and the erasure.

A row of `users` is a value for each column.  Which statements of an erasure the server
refuses is a choice of the environment, and so is whether Privy is reached.  Left out: the
refresh tokens that a request revokes, the caches, and the rows that a driver reports.  A
boolean that is stored in a text column stays a boolean here.
-/
import AudioBlock.Foundation.Rows
import AudioBlock.Foundation.Transactions
import Mathlib.Data.List.MinMax

namespace AudioBlock.Accounts

open AudioBlock.Foundation

/-! ### The rows -/

inductive SqlValue
  | null
  | text (value : String)
  | boolean (value : Bool)
  | timestamp (milliseconds : Nat)
  deriving DecidableEq

/-- The columns of `users` that a deletion reads or writes. -/
inductive UserColumn
  | id
  | email
  | username
  | name
  | bio
  | profileImage
  | avatarIpfsHash
  | pageCover
  | website
  | walletAddress
  | stellarPublicKey
  | stellarArtistId
  | stellarArtistTokenId
  | passwordHash
  | twoFactorSecret
  | twoFactorRecoveryCodeHashes
  | emailVerificationToken
  | emailVerificationTokenExpiry
  | passwordResetToken
  | passwordResetTokenExpiry
  | twitterId
  | twitterUsername
  | twitterDisplayName
  | twitterProfileImage
  | twitterConnected
  | facebookId
  | facebookName
  | facebookEmail
  | facebookProfileImage
  | facebookConnected
  | dynamixUserId
  | privyUserId
  | role
  | isProfilePublic
  | deletedAt
  | deletionRequestedAt
  | deletionScheduledFor
  | deletionReason
  deriving DecidableEq

abbrev UserRow := UserColumn → SqlValue

def UserRow.key (row : UserRow) : SqlValue := row .id

/-- A date column, if it is set. -/
def UserRow.time (row : UserRow) (column : UserColumn) : Option Nat :=
  match row column with
  | .timestamp milliseconds => some milliseconds
  | _ => none

inductive AccountDeletionStatus
  | requested
  | cancelled
  | completed
  | failed
  deriving DecidableEq

inductive PrivyDeletion
  | succeeded
  | failed
  | skipped
  deriving DecidableEq

/-- A row of `account_deletion_requests`. -/
structure AccountDeletionRequest where
  userId : String
  status : AccountDeletionStatus
  referenceId : String
  requestedAt : Nat
  gracePeriodEndsAt : Nat
  processedAt : Option Nat
  dataExported : Bool
  privyDeletionStatus : Option PrivyDeletion
  notes : Option String
  deriving DecidableEq

/-- The identifiers that a row of another table has in its columns. -/
abbrev OwnedRow := String → Option String

structure Database where
  users : List UserRow
  requests : List AccountDeletionRequest
  tables : String → List OwnedRow

namespace Database

def findUser (database : Database) (userId : String) : Option UserRow :=
  findRow UserRow.key (.text userId) database.users

def updateUser (database : Database) (userId : String) (change : UserRow → UserRow) : Database :=
  { database with
    users := database.users.map fun row => if row.key = .text userId then change row else row }

def updateRequests (database : Database) (chosen : AccountDeletionRequest → Bool)
    (change : AccountDeletionRequest → AccountDeletionRequest) : Database :=
  { database with
    requests := database.requests.map fun row => if chosen row then change row else row }

/-- `DELETE FROM table WHERE column = $1`. -/
def deleteOwned (database : Database) (table column userId : String) : Database :=
  { database with
    tables := fun name =>
      if name = table then
        (database.tables name).filter fun row => decide (row column ≠ some userId)
      else database.tables name }

end Database

def isOpen (userId : String) (row : AccountDeletionRequest) : Bool :=
  decide (row.userId = userId) && decide (row.status = .requested)

/-! ### Failures -/

inductive DeletionFailure
  | userNotFound
  | alreadyDeleted
  | cannotRestore
  | nothingToCancel
  | noPendingRequest
  | graceNotElapsed (scheduledFor : Nat)
  | statement (message : String)
  deriving DecidableEq

def DeletionFailure.message (toISOString : Nat → String) : DeletionFailure → String
  | .userNotFound => "User not found"
  | .alreadyDeleted => "Account has already been deleted"
  | .cannotRestore => "Account has already been deleted and cannot be restored"
  | .nothingToCancel => "No pending deletion request to cancel"
  | .noPendingRequest => "No pending deletion request for this account"
  | .graceNotElapsed scheduledFor =>
      "Deletion is scheduled for " ++ toISOString scheduledFor ++
        "; the grace period has not elapsed"
  | .statement message => message

/-! ### Requests and cancellations -/

def defaultGracePeriodDays : Nat := 30

/-- The configured number, where it is positive. -/
def gracePeriodDays (configured : Option Int) : Nat :=
  match configured with
  | none => defaultGracePeriodDays
  | some days => if 0 < days then days.toNat else defaultGracePeriodDays

structure DeletionRequestResult where
  referenceId : String
  requestedAt : Nat
  scheduledFor : Nat
  gracePeriodDays : Nat
  deriving DecidableEq

def findRequested (database : Database) (userId : String) : Option AccountDeletionRequest :=
  (database.requests.filter (isOpen userId)).argmax AccountDeletionRequest.requestedAt

def newRequest (userId referenceId : String) (now scheduledFor : Nat) : AccountDeletionRequest :=
  { userId
    status := .requested
    referenceId
    requestedAt := now
    gracePeriodEndsAt := scheduledFor
    processedAt := none
    dataExported := false
    privyDeletionStatus := none
    notes := none }

def nullable (text : Option String) : SqlValue :=
  match text with
  | none => .null
  | some value => .text value

def UserRow.schedule (row : UserRow) (now scheduledFor : Nat) (reason : Option String) : UserRow :=
  fun column =>
    match column with
    | .deletionRequestedAt => .timestamp now
    | .deletionScheduledFor => .timestamp scheduledFor
    | .deletionReason => nullable reason
    | other => row other

def UserRow.unschedule (row : UserRow) : UserRow := fun column =>
  match column with
  | .deletionRequestedAt | .deletionScheduledFor | .deletionReason => .null
  | other => row other

def Database.addRequest (database : Database) (request : AccountDeletionRequest) : Database :=
  { database with requests := database.requests ++ [request] }

def requestDeletion (database : Database) (now days : Nat) (userId : String)
    (reason : Option String) (referenceId : String) :
    Database × Except DeletionFailure DeletionRequestResult :=
  match database.findUser userId with
  | none => (database, .error .userNotFound)
  | some user =>
      if (user.time .deletedAt).isSome then (database, .error .alreadyDeleted)
      else
        match findRequested database userId with
        | some existing =>
            (database, .ok
              ⟨existing.referenceId, existing.requestedAt, existing.gracePeriodEndsAt, days⟩)
        | none =>
            let scheduledFor := now + days * 24 * 60 * 60 * 1000
            ((database.updateUser userId fun row =>
                row.schedule now scheduledFor reason).addRequest
                (newRequest userId referenceId now scheduledFor),
              .ok ⟨referenceId, now, scheduledFor, days⟩)

def AccountDeletionRequest.cancel (row : AccountDeletionRequest) : AccountDeletionRequest :=
  { row with status := .cancelled }

def cancelDeletion (database : Database) (userId : String) :
    Database × Except DeletionFailure Unit :=
  match database.findUser userId with
  | none => (database, .error .userNotFound)
  | some user =>
      if (user.time .deletedAt).isSome then (database, .error .cannotRestore)
      else if (user.time .deletionRequestedAt).isNone then (database, .error .nothingToCancel)
      else
        ((database.updateUser userId UserRow.unschedule).updateRequests (isOpen userId)
          AccountDeletionRequest.cancel, .ok ())

/-! ### The erasure -/

structure PurgeTable where
  table : String
  columns : List String

def PURGE_TABLES : List PurgeTable :=
  [⟨"refresh_tokens", ["userId"]⟩,
    ⟨"api_keys", ["userId"]⟩,
    ⟨"webhook_subscriptions", ["userId"]⟩,
    ⟨"notifications", ["userId"]⟩,
    ⟨"song_saves", ["userId"]⟩,
    ⟨"user_saves", ["userId"]⟩,
    ⟨"user_follows", ["followerId"]⟩,
    ⟨"user_follows", ["followingId"]⟩,
    ⟨"playlist_follows", ["userId"]⟩,
    ⟨"playlist_collaborators", ["userId"]⟩,
    ⟨"ai_generation_records", ["userId"]⟩,
    ⟨"tweet_drafts", ["userId"]⟩,
    ⟨"activity_feeds", ["userId"]⟩,
    ⟨"fan_perks", ["artistId"]⟩,
    ⟨"subscriptions", ["userId"]⟩,
    ⟨"gift_subscriptions", ["senderId"]⟩,
    ⟨"gift_subscriptions", ["recipientId"]⟩,
    ⟨"song_play_events", ["listenerId"]⟩,
    ⟨"song_collaborators", ["userId"]⟩,
    ⟨"artist_verifications", ["userId"]⟩]

def purgeEntries : List (String × String) :=
  PURGE_TABLES.flatMap fun entry => entry.columns.map fun column => (entry.table, column)

def ANONYMISED_FIELDS : List UserColumn :=
  [.email, .username, .name, .bio, .profileImage, .avatarIpfsHash, .pageCover, .website,
    .walletAddress, .stellarPublicKey, .stellarArtistId, .stellarArtistTokenId, .passwordHash,
    .twoFactorSecret, .twoFactorRecoveryCodeHashes, .emailVerificationToken,
    .emailVerificationTokenExpiry, .passwordResetToken, .passwordResetTokenExpiry, .twitterId,
    .twitterUsername, .twitterDisplayName, .twitterProfileImage, .twitterConnected, .facebookId,
    .facebookName, .facebookEmail, .facebookProfileImage, .facebookConnected, .dynamixUserId,
    .privyUserId]

/-- The parameters before the identifier. -/
def purgeParams (now : Nat) (user : UserRow) : List SqlValue :=
  [.timestamp now, user .role, .boolean false] ++ ANONYMISED_FIELDS.map fun _ => .null

/-- The fields are numbered by `index + 2`, the identifier by the number of parameters. -/
def purgeUpdate (now : Nat) (user : UserRow) : Update UserColumn where
  assignments :=
    [(.deletedAt, 1), (.role, 2), (.isProfilePublic, 3)] ++ ANONYMISED_FIELDS.zipIdx 2
  keyColumn := .id
  keyPosition := (purgeParams now user).length + 1

def anonymise (now : Nat) (user : UserRow) (userId : String) (database : Database) : Database :=
  { database with
    users :=
      (purgeUpdate now user).execute (purgeParams now user ++ [.text userId]) database.users }

def AccountDeletionRequest.complete (now : Nat) (row : AccountDeletionRequest) :
    AccountDeletionRequest :=
  { row with status := .completed, processedAt := some now }

inductive PurgeStatement
  | delete (table column : String)
  | anonymise
  | complete
  deriving DecidableEq

structure PurgeFaults where
  refused : PurgeStatement → Option String
  privy : Option String

def PurgeFaults.statement (faults : PurgeFaults) (statement : PurgeStatement)
    (effect : Database → Database) (database : Database) : Except String Database :=
  match faults.refused statement with
  | none => .ok (effect database)
  | some message => .error message

/-- The deletions, each of which may fail, and the warnings. -/
def deleteRows (faults : PurgeFaults) (userId : String) :
    List (String × String) → Transaction Database → Transaction Database × List String
  | [], transaction => (transaction, [])
  | (table, column) :: rest, transaction =>
      match transaction.execute (faults.statement (.delete table column) fun database =>
        database.deleteOwned table column userId) with
      | (after, .ok ()) => deleteRows faults userId rest after
      | (after, .error message) =>
          let later := deleteRows faults userId rest after
          (later.1, ("Could not purge " ++ table ++ "." ++ column ++ ": " ++ message) :: later.2)

def purgeTransaction (now : Nat) (faults : PurgeFaults) (user : UserRow) (userId : String)
    (transaction : Transaction Database) :
    Transaction Database × Except DeletionFailure (List String) :=
  let (swept, warnings) := deleteRows faults userId purgeEntries transaction
  match swept.execute (faults.statement .anonymise (anonymise now user userId)) with
  | (failed, .error message) => (failed, .error (.statement message))
  | (anonymised, .ok ()) =>
      match anonymised.execute (faults.statement .complete fun database =>
        database.updateRequests (isOpen userId) (AccountDeletionRequest.complete now)) with
      | (failed, .error message) => (failed, .error (.statement message))
      | (completed, .ok ()) => (completed, .ok warnings)

structure PurgeResult where
  userId : String
  privyDeletion : PrivyDeletion
  warnings : List String
  deriving DecidableEq

/-- What refuses an erasure before it begins. -/
def purgeRefusal (user : UserRow) (now : Nat) (force : Bool) : Option DeletionFailure :=
  if (user.time .deletionRequestedAt).isNone && !force then some .noPendingRequest
  else
    match user.time .deletionScheduledFor with
    | none => none
    | some scheduledFor =>
        if !force && decide (now < scheduledFor) then some (.graceNotElapsed scheduledFor) else none

def isLinked (user : UserRow) : Bool :=
  match user .privyUserId with
  | .text privyUserId => decide (privyUserId ≠ "")
  | _ => false

/-- The call to Privy, and the warning that it adds. -/
def deletePrivyIdentity (faults : PurgeFaults) (user : UserRow) : PrivyDeletion × List String :=
  if isLinked user then
    match faults.privy with
    | none => (.succeeded, [])
    | some message => (.failed, ["Privy identity deletion failed: " ++ message])
  else (.skipped, [])

def recordPrivy (userId : String) (outcome : PrivyDeletion) (database : Database) : Database :=
  database.updateRequests (fun row => decide (row.userId = userId)) fun row =>
    { row with privyDeletionStatus := some outcome }

def purgeUser (database : Database) (now : Nat) (faults : PurgeFaults) (userId : String)
    (force : Bool) : Database × Except DeletionFailure PurgeResult :=
  match database.findUser userId with
  | none => (database, .error .userNotFound)
  | some user =>
      if (user.time .deletedAt).isSome then
        (database, .ok ⟨userId, .skipped, ["Account was already deleted; purge is a no-op"]⟩)
      else
        match purgeRefusal user now force with
        | some failure => (database, .error failure)
        | none =>
            match Transaction.transact database (purgeTransaction now faults user userId) with
            | (after, .error failure) => (after, .error failure)
            | (after, .ok warnings) =>
                let (outcome, more) := deletePrivyIdentity faults user
                (recordPrivy userId outcome after, .ok ⟨userId, outcome, warnings ++ more⟩)

/-! ### The scheduled job -/

/-- The accounts whose grace period has elapsed. -/
def isDue (now : Nat) (row : UserRow) : Bool :=
  (row.time .deletedAt).isNone && (row.time .deletionRequestedAt).isSome &&
    (row.time .deletionScheduledFor).any fun scheduledFor => decide (scheduledFor ≤ now)

def scheduledBefore (one other : UserRow) : Bool :=
  decide ((one.time .deletionScheduledFor).getD 0 ≤ (other.time .deletionScheduledFor).getD 0)

def dueAccounts (database : Database) (now limit : Nat) : List UserRow :=
  ((database.users.filter (isDue now)).mergeSort scheduledBefore).take limit

def AccountDeletionRequest.fail (message : String) (row : AccountDeletionRequest) :
    AccountDeletionRequest :=
  { row with status := .failed, notes := some message }

def purgeDue (toISOString : Nat → String) (now : Nat) (faults : PurgeFaults) (userId : String)
    (database : Database) : Database × Except String PurgeResult :=
  match purgeUser database now faults userId false with
  | (after, .ok result) => (after, .ok result)
  | (after, .error failure) =>
      let message := failure.message toISOString
      (after.updateRequests (isOpen userId) (AccountDeletionRequest.fail message), .error message)

/-- The identifier that the job selects. -/
def UserRow.accountId (row : UserRow) : Option String :=
  match row .id with
  | .text userId => some userId
  | _ => none

def dueIds (database : Database) (now limit : Nat) : List String :=
  (dueAccounts database now limit).filterMap UserRow.accountId

/-- The loop over the selected accounts, with the outcome of each. -/
def purgeEach (toISOString : Nat → String) (now : Nat) (faults : String → PurgeFaults) :
    List String → Database → Database × List (String × Except String PurgeResult)
  | [], database => (database, [])
  | userId :: rest, database =>
      let (after, outcome) := purgeDue toISOString now (faults userId) userId database
      let (last, outcomes) := purgeEach toISOString now faults rest after
      (last, (userId, outcome) :: outcomes)

/-- The accounts are selected once, before the first erasure. -/
def processDueDeletions (toISOString : Nat → String) (now : Nat) (faults : String → PurgeFaults)
    (limit : Nat) (database : Database) : Database × List (String × Except String PurgeResult) :=
  purgeEach toISOString now faults (dueIds database now limit) database

end AudioBlock.Accounts
