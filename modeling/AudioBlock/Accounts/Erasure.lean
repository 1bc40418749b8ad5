/-
What an erasure leaves in the row of the account, and what it leaves when a table fails.

The fields are numbered two places before the parameters that are meant for them, so the
first two take the role and the flag of the profile.  The deletions run in the transaction
of the update: the first that fails has everything else refused.
-/
import AudioBlock.Accounts.AccountDeletionService

namespace AudioBlock.Accounts

open AudioBlock.Foundation

/-! ### The update -/

section Update

variable (now : Nat) (user row : UserRow) (userId : String)

/-- The parameters of the statement, with the identifier last. -/
def boundParams : List SqlValue := purgeParams now user ++ [.text userId]

def anonymisedRow : UserRow := (purgeUpdate now user).assign (boundParams now user userId) row

/-- Two parameters are bound that no placeholder names. -/
example : (purgeUpdate now user).assigned .privyUserId = some 32 ∧
    (purgeUpdate now user).keyPosition = 35 := ⟨rfl, rfl⟩

theorem ANONYMISED_FIELDS_nodup : ANONYMISED_FIELDS.Nodup := by decide

theorem anonymisedRow_field (index : Nat) (inside : index < ANONYMISED_FIELDS.length) :
    anonymisedRow now user row userId ANONYMISED_FIELDS[index] =
      (parameter (boundParams now user userId) (2 + index)).getD (row ANONYMISED_FIELDS[index]) := by
  apply Update.assign_numbered rfl ANONYMISED_FIELDS_nodup
  have apart : ∀ field ∈ ANONYMISED_FIELDS, ∀ assignment ∈
      [(UserColumn.deletedAt, 1), (.role, 2), (.isProfilePublic, 3)], assignment.1 ≠ field := by
    decide
  exact apart _ (List.getElem_mem inside)

theorem boundParams_null (index : Nat) (later : 2 ≤ index)
    (inside : index < ANONYMISED_FIELDS.length) :
    parameter (boundParams now user userId) (2 + index) = some .null := by
  have fields : index + 1 - 3 < ANONYMISED_FIELDS.length := by omega
  have position : 2 + index - 1 = index + 1 := by omega
  unfold parameter boundParams purgeParams
  rw [if_neg (by omega), position, List.append_assoc,
    List.getElem?_append_right (by simp only [List.length_cons, List.length_nil]; omega),
    List.getElem?_append_left (by simpa using fields), List.getElem?_map]
  simp only [List.length_cons, List.length_nil, List.getElem?_eq_getElem fields, Option.map_some]

theorem anonymisedRow_null {field : UserColumn} (listed : field ∈ ANONYMISED_FIELDS)
    (notEmail : field ≠ .email) (notUsername : field ≠ .username) :
    anonymisedRow now user row userId field = .null := by
  obtain ⟨index, inside, rfl⟩ := List.getElem_of_mem listed
  have later : 2 ≤ index := by
    match index with
    | 0 => exact absurd rfl notEmail
    | 1 => exact absurd rfl notUsername
    | _ + 2 => exact Nat.le_add_left 2 _
  rw [anonymisedRow_field now user row userId index inside,
    boundParams_null now user userId index later inside]
  rfl

theorem anonymisedRow_shifted :
    anonymisedRow now user row userId .email = user .role ∧
      anonymisedRow now user row userId .username = .boolean false := ⟨rfl, rfl⟩

theorem anonymisedRow_fixed :
    anonymisedRow now user row userId .deletedAt = .timestamp now ∧
      anonymisedRow now user row userId .role = user .role ∧
      anonymisedRow now user row userId .isProfilePublic = .boolean false := ⟨rfl, rfl, rfl⟩

theorem anonymisedRow_key : (anonymisedRow now user row userId).key = row.key := rfl

theorem purgeUpdate_selects :
    (purgeUpdate now user).selects (boundParams now user userId) row =
      decide (row.key = .text userId) := by
  unfold Update.selects
  have last : parameter (boundParams now user userId) (purgeUpdate now user).keyPosition =
      some (.text userId) := rfl
  rw [last]
  apply decide_eq_decide.mpr
  rw [Option.some_inj]
  exact eq_comm

end Update

/-! ### The transaction -/

section Transaction

variable {faults : PurgeFaults} {userId : String} {now : Nat} {user : UserRow}
  {database : Database}

/-- All deletions, none of which fails. -/
def sweep (userId : String) (entries : List (String × String)) (database : Database) : Database :=
  entries.foldl (fun left entry => left.deleteOwned entry.1 entry.2 userId) database

theorem deleteRows_aborted (entries : List (String × String)) :
    (deleteRows faults userId entries .aborted).1 = .aborted := by
  induction entries with
  | nil => rfl
  | cons entry rest ih => exact ih

theorem deleteRows_done (entries : List (String × String))
    (accepted : ∀ entry ∈ entries, faults.refused (.delete entry.1 entry.2) = none) :
    deleteRows faults userId entries (.running database) =
      (.running (sweep userId entries database), []) := by
  induction entries generalizing database with
  | nil => rfl
  | cons entry rest ih =>
      have executed := @Transaction.execute_ok _ (faults.statement (.delete entry.1 entry.2) fun left =>
          left.deleteOwned entry.1 entry.2 userId) database _
        (by unfold PurgeFaults.statement; rw [accepted entry List.mem_cons_self])
      unfold deleteRows
      rw [executed]
      exact ih fun other member => accepted other (List.mem_cons_of_mem _ member)

theorem deleteRows_failed {entries : List (String × String)} {entry : String × String}
    (listed : entry ∈ entries) (failed : faults.refused (.delete entry.1 entry.2) ≠ none) :
    (deleteRows faults userId entries (.running database)).1 = .aborted := by
  induction entries generalizing database with
  | nil => exact absurd listed List.not_mem_nil
  | cons first rest ih =>
      unfold deleteRows
      cases answer : faults.refused (.delete first.1 first.2) with
      | some message =>
          have executed := @Transaction.execute_error _ (faults.statement (.delete first.1 first.2) fun left =>
              left.deleteOwned first.1 first.2 userId) database _
            (by unfold PurgeFaults.statement; rw [answer])
          rw [executed]
          exact deleteRows_aborted rest
      | none =>
          have executed := @Transaction.execute_ok _ (faults.statement (.delete first.1 first.2) fun left =>
              left.deleteOwned first.1 first.2 userId) database _
            (by unfold PurgeFaults.statement; rw [answer])
          rw [executed]
          cases List.mem_cons.mp listed with
          | inl same => exact absurd (same ▸ answer) failed
          | inr later => exact ih later

/-- Every statement of the erasure is accepted. -/
structure Undisturbed (faults : PurgeFaults) : Prop where
  deletions : ∀ entry ∈ purgeEntries, faults.refused (.delete entry.1 entry.2) = none
  anonymise : faults.refused .anonymise = none
  complete : faults.refused .complete = none

def purged (now : Nat) (user : UserRow) (userId : String) (database : Database) : Database :=
  (anonymise now user userId (sweep userId purgeEntries database)).updateRequests (isOpen userId)
    (AccountDeletionRequest.complete now)

theorem purgeTransaction_done (undisturbed : Undisturbed faults) :
    purgeTransaction now faults user userId (.running database) =
      (.running (purged now user userId database), .ok []) := by
  have anonymised := @Transaction.execute_ok _
    (faults.statement .anonymise (anonymise now user userId)) (sweep userId purgeEntries database) _
    (by unfold PurgeFaults.statement; rw [undisturbed.anonymise])
  have completed := @Transaction.execute_ok _ (faults.statement .complete fun left =>
      left.updateRequests (isOpen userId) (AccountDeletionRequest.complete now))
    (anonymise now user userId (sweep userId purgeEntries database)) _
    (by unfold PurgeFaults.statement; rw [undisturbed.complete])
  unfold purgeTransaction
  rw [deleteRows_done purgeEntries undisturbed.deletions]
  dsimp only
  rw [anonymised]
  dsimp only
  rw [completed]
  rfl

theorem purgeTransaction_failed (disturbed : ¬Undisturbed faults) :
    ∃ transaction failure,
      purgeTransaction now faults user userId (.running database) = (transaction, .error failure) := by
  unfold purgeTransaction
  by_cases deletions : ∀ entry ∈ purgeEntries, faults.refused (.delete entry.1 entry.2) = none
  · rw [deleteRows_done purgeEntries deletions]
    dsimp only
    cases anonymised : faults.refused .anonymise with
    | some message =>
        rw [Transaction.execute_error (by unfold PurgeFaults.statement; rw [anonymised])]
        exact ⟨_, _, rfl⟩
    | none =>
        rw [Transaction.execute_ok (by unfold PurgeFaults.statement; rw [anonymised])]
        dsimp only
        cases completed : faults.refused .complete with
        | some message =>
            rw [Transaction.execute_error (by unfold PurgeFaults.statement; rw [completed])]
            exact ⟨_, _, rfl⟩
        | none => exact absurd ⟨deletions, anonymised, completed⟩ disturbed
  · simp only [not_forall] at deletions
    obtain ⟨entry, listed, failed⟩ := deletions
    have aborted := @deleteRows_failed _ userId database _ _ listed failed
    cases swept : deleteRows faults userId purgeEntries (.running database) with
    | mk transaction warnings =>
        rw [swept] at aborted
        dsimp only at aborted
        subst aborted
        exact ⟨_, _, rfl⟩

end Transaction

/-! ### One erasure -/

/-- The account is there, and nothing refuses its erasure. -/
structure PurgeStarts (database : Database) (now : Nat) (userId : String) (force : Bool)
    (user : UserRow) : Prop where
  found : database.findUser userId = some user
  alive : user.time .deletedAt = none
  admitted : purgeRefusal user now force = none

section Purge

variable {database : Database} {now : Nat} {faults : PurgeFaults} {userId : String} {force : Bool}
  {user : UserRow}

theorem purgeUser_unstarted (stays : ∀ user, ¬PurgeStarts database now userId force user) :
    (purgeUser database now faults userId force).1 = database := by
  unfold purgeUser
  cases found : database.findUser userId with
  | none => rfl
  | some user =>
      dsimp only
      split
      · rfl
      rename_i alive
      cases refused : purgeRefusal user now force with
      | some failure => rfl
      | none =>
          have missing : user.time .deletedAt = none := by
            simpa only [Bool.not_eq_true, Option.isSome_eq_false_iff, Option.isNone_iff_eq_none]
              using alive
          exact absurd ⟨found, missing, refused⟩ (stays user)

section

variable (starts : PurgeStarts database now userId force user)
include starts

theorem purgeUser_started :
    purgeUser database now faults userId force =
      match Transaction.transact database (purgeTransaction now faults user userId) with
      | (after, .error failure) => (after, .error failure)
      | (after, .ok warnings) =>
          (recordPrivy userId (deletePrivyIdentity faults user).1 after,
            .ok ⟨userId, (deletePrivyIdentity faults user).1,
              warnings ++ (deletePrivyIdentity faults user).2⟩) := by
  unfold purgeUser
  rw [starts.found]
  dsimp only
  rw [starts.alive, starts.admitted]
  exact if_neg Bool.false_ne_true

def erased (now : Nat) (faults : PurgeFaults) (user : UserRow) (userId : String)
    (database : Database) : Database :=
  recordPrivy userId (deletePrivyIdentity faults user).1 (purged now user userId database)

theorem purgeUser_done (undisturbed : Undisturbed faults) :
    ∃ result, purgeUser database now faults userId force =
      (erased now faults user userId database, .ok result) := by
  rw [purgeUser_started starts, Transaction.transact_ok (purgeTransaction_done undisturbed)]
  exact ⟨_, rfl⟩

theorem purgeUser_failed (disturbed : ¬Undisturbed faults) :
    ∃ failure, purgeUser database now faults userId force = (database, .error failure) := by
  obtain ⟨transaction, failure, left⟩ :=
    @purgeTransaction_failed _ userId now user database disturbed
  rw [purgeUser_started starts, Transaction.transact_error left]
  exact ⟨failure, rfl⟩

end

theorem erased_users : (erased now faults user userId database).users =
    database.users.map fun row =>
      if row.key = .text userId then anonymisedRow now user row userId else row := by
  have kept : (sweep userId purgeEntries database).users = database.users := by
    unfold sweep
    generalize purgeEntries = entries
    induction entries generalizing database with
    | nil => rfl
    | cons entry rest ih => exact ih
  change ((purgeUpdate now user).execute (boundParams now user userId)
    (sweep userId purgeEntries database).users) = _
  unfold Update.execute
  rw [kept]
  apply List.map_congr_left
  intro row _
  rw [purgeUpdate_selects]
  simp only [decide_eq_true_eq]
  rfl

theorem purgeStarts_of_ok {after : Database} {result : PurgeResult}
    (found : database.findUser userId = some user) (alive : user.time .deletedAt = none)
    (done : purgeUser database now faults userId force = (after, .ok result)) :
    PurgeStarts database now userId force user := by
  refine ⟨found, alive, ?_⟩
  unfold purgeUser at done
  rw [found] at done
  dsimp only at done
  rw [alive, Option.isSome_none, if_neg Bool.false_ne_true] at done
  cases refused : purgeRefusal user now force with
  | none => rfl
  | some failure =>
      rw [refused] at done
      cases done

/-- The columns of an account after its erasure, and of the account itself. -/
structure ErasureComplete (now : Nat) (before after : UserRow) : Prop where
  nulled : ∀ field ∈ ANONYMISED_FIELDS, after field = .null
  role : after .role = before .role
  hidden : after .isProfilePublic = .boolean false
  deleted : after .deletedAt = .timestamp now

end Purge

/-! A listener whose grace period is over. -/

def listenerRow : UserRow := fun column =>
  match column with
  | .id => .text "u1"
  | .email => .text "listener@example.org"
  | .username => .text "listener"
  | .role => .text "listener"
  | .isProfilePublic => .boolean true
  | .deletionRequestedAt | .deletionScheduledFor => .timestamp 0
  | _ => .null

def oneListener : Database := ⟨[listenerRow], [], fun _ => []⟩

def noFaults : PurgeFaults := ⟨fun _ => none, none⟩

theorem noFaults_undisturbed : Undisturbed noFaults := ⟨fun _ _ => rfl, rfl, rfl⟩

theorem oneListener_starts : PurgeStarts oneListener 1 "u1" false listenerRow := by
  have keys : (oneListener.users.map UserRow.key).Nodup := List.nodup_singleton _
  exact ⟨findRow_of_mem keys (List.mem_singleton_self listenerRow), rfl, rfl⟩

def OwnsNone (database : Database) (userId : String) (entry : String × String) : Prop :=
  ∀ row ∈ database.tables entry.1, row entry.2 ≠ some userId

def PurgeFaults.fails (faults : PurgeFaults) (entry : String × String) : Prop :=
  faults.refused (.delete entry.1 entry.2) ≠ none

structure Gone (after : Database) (userId : String) : Prop where
  rows : ∀ entry ∈ purgeEntries, OwnsNone after userId entry
  personal : ∀ row ∈ after.users, row.key = .text userId → (row.time .deletedAt).isSome = true ∧
    ∀ field ∈ ANONYMISED_FIELDS, row field ∈ [.null, row .role, row .isProfilePublic]
  requests : ∀ request ∈ after.requests, request.userId = userId →
    request.status ≠ .requested ∧ request.status ≠ .failed

/-- An erasure is all or nothing, and a table that fails leaves the others to be emptied. -/
structure PurgeAtomic (before : Database) (now : Nat) (faults : PurgeFaults) (userId : String)
    (force : Bool) : Prop where
  either : (∃ result, (purgeUser before now faults userId force).2 = .ok result ∧
      Gone (purgeUser before now faults userId force).1 userId) ∨
    (purgeUser before now faults userId force).1 = before
  unstranded : ∀ user, PurgeStarts before now userId force user →
    (∃ entry ∈ purgeEntries, faults.fails entry) →
      ∀ entry ∈ purgeEntries, ¬faults.fails entry →
        OwnsNone (purgeUser before now faults userId force).1 userId entry

/-- An erasure that starts has a table fail only where the others have nothing of the account,
and is done only for an account without a failed request. -/
def FailsAlone (before : Database) (now : Nat) (faults : PurgeFaults) (userId : String)
    (force : Bool) : Prop :=
  ∀ user, PurgeStarts before now userId force user →
    ((∃ entry ∈ purgeEntries, faults.fails entry) →
      ∀ entry ∈ purgeEntries, ¬faults.fails entry → OwnsNone before userId entry) ∧
    (Undisturbed faults → ∀ request ∈ before.requests, request.userId = userId →
      request.status ≠ .failed)

section Atomic

variable {database : Database} {now : Nat} {faults : PurgeFaults} {userId : String} {force : Bool}
  {user : UserRow}

theorem deleteOwned_mem {table column name : String} {row : OwnedRow}
    (member : row ∈ (database.deleteOwned table column userId).tables name) :
    row ∈ database.tables name ∧ (name = table → row column ≠ some userId) := by
  unfold Database.deleteOwned at member
  dsimp only at member
  split at member
  · obtain ⟨present, chosen⟩ := List.mem_filter.mp member
    exact ⟨present, fun _ => of_decide_eq_true chosen⟩
  · rename_i other
    exact ⟨member, fun same => absurd same other⟩

theorem sweep_mem {entries : List (String × String)} {name : String} {row : OwnedRow}
    (member : row ∈ (sweep userId entries database).tables name) :
    row ∈ database.tables name ∧
      ∀ entry ∈ entries, name = entry.1 → row entry.2 ≠ some userId := by
  induction entries generalizing database with
  | nil => exact ⟨member, fun entry listed => absurd listed List.not_mem_nil⟩
  | cons first rest ih =>
      obtain ⟨present, later⟩ := ih member
      obtain ⟨before, own⟩ := deleteOwned_mem present
      exact ⟨before, List.forall_mem_cons.mpr ⟨own, later⟩⟩

theorem erased_owns_none {entry : String × String} (listed : entry ∈ purgeEntries) :
    OwnsNone (erased now faults user userId database) userId entry := by
  intro row member
  exact (@sweep_mem _ _ purgeEntries _ _ member).2 entry listed rfl

theorem anonymisedRow_personal (row : UserRow) {field : UserColumn}
    (listed : field ∈ ANONYMISED_FIELDS) :
    anonymisedRow now user row userId field ∈
      [.null, anonymisedRow now user row userId .role,
        anonymisedRow now user row userId .isProfilePublic] := by
  by_cases email : field = .email
  · subst email
    exact List.mem_cons_of_mem _ List.mem_cons_self
  by_cases username : field = .username
  · subst username
    exact List.mem_cons_of_mem _ (List.mem_cons_of_mem _ List.mem_cons_self)
  · rw [anonymisedRow_null now user row userId listed email username]
    exact List.mem_cons_self

def settled (now : Nat) (userId : String) (outcome : PrivyDeletion)
    (request : AccountDeletionRequest) : AccountDeletionRequest :=
  { (if isOpen userId request then request.complete now else request) with
    privyDeletionStatus := some outcome }

theorem settled_status (outcome : PrivyDeletion) (request : AccountDeletionRequest) :
    (settled now userId outcome request).status =
      if isOpen userId request then .completed else request.status := by
  unfold settled
  split
  · rfl
  · rfl

theorem settled_userId (outcome : PrivyDeletion) (request : AccountDeletionRequest) :
    (settled now userId outcome request).userId = request.userId := by
  unfold settled
  split
  · rfl
  · rfl

theorem isOpen_iff {request : AccountDeletionRequest} :
    isOpen userId request = true ↔ request.userId = userId ∧ request.status = .requested := by
  unfold isOpen
  rw [Bool.and_eq_true, decide_eq_true_eq, decide_eq_true_eq]

theorem erased_requests : (erased now faults user userId database).requests =
    database.requests.map fun request =>
      if request.userId = userId then
        settled now userId (deletePrivyIdentity faults user).1 request
      else request := by
  have kept : (sweep userId purgeEntries database).requests = database.requests := by
    unfold sweep
    generalize purgeEntries = entries
    induction entries generalizing database with
    | nil => rfl
    | cons entry rest ih => exact ih
  unfold erased recordPrivy purged Database.updateRequests anonymise
  dsimp only
  rw [kept, List.map_map]
  apply List.map_congr_left
  intro request _
  simp only [Function.comp_apply, decide_eq_true_eq]
  by_cases own : request.userId = userId
  · have same : (if isOpen userId request then request.complete now else request).userId =
        userId := by
      split
      · exact own
      · exact own
    rw [if_pos own, if_pos same]
    rfl
  · have closed : ¬isOpen userId request = true := fun is => own (isOpen_iff.mp is).1
    rw [if_neg closed, if_neg own, if_neg own]

theorem erased_gone_iff :
    Gone (erased now faults user userId database) userId ↔
      ∀ request ∈ database.requests, request.userId = userId → request.status ≠ .failed := by
  constructor
  · intro gone request member own
    have stored : _ ∈ (erased now faults user userId database).requests :=
      erased_requests ▸ List.mem_map_of_mem member
    rw [if_pos own] at stored
    intro failed
    have status := (gone.requests _ stored ((settled_userId _ _).trans own)).2
    rw [settled_status] at status
    split at status
    · rename_i requested
      rw [(isOpen_iff.mp requested).2] at failed
      cases failed
    · exact status failed
  · intro unfailed
    refine ⟨fun entry listed => erased_owns_none listed, ?_, ?_⟩
    · intro row member named
      rw [erased_users] at member
      obtain ⟨before, _, same⟩ := List.mem_map.mp member
      split at same
      · subst same
        exact ⟨rfl, fun field listed => anonymisedRow_personal before listed⟩
      · rename_i other
        exact absurd (same ▸ named) other
    · intro request member own
      rw [erased_requests] at member
      obtain ⟨before, present, same⟩ := List.mem_map.mp member
      split at same
      · rename_i named
        have status := unfailed before present named
        rw [← same, settled_status]
        split
        · constructor
          · exact AccountDeletionStatus.noConfusion
          · exact AccountDeletionStatus.noConfusion
        · rename_i closed
          exact ⟨fun requested => closed (isOpen_iff.mpr ⟨named, requested⟩), status⟩
      · rename_i other
        exact absurd (same ▸ own) other

theorem erased_ne (starts : PurgeStarts database now userId force user) :
    erased now faults user userId database ≠ database := by
  intro same
  obtain ⟨member, named⟩ := findRow_mem starts.found
  have users := congrArg Database.users same
  rw [erased_users] at users
  have present : user ∈ database.users.map fun row =>
      if row.key = .text userId then anonymisedRow now user row userId else row := by
    rw [users]
    exact member
  obtain ⟨before, _, equal⟩ := List.mem_map.mp present
  have alive := starts.alive
  split at equal
  · rw [← equal] at alive
    cases alive
  · rename_i other
    exact other (equal ▸ named)

theorem purgeAtomic_iff (database : Database) (now : Nat) (faults : PurgeFaults) (userId : String)
    (force : Bool) :
    PurgeAtomic database now faults userId force ↔ FailsAlone database now faults userId force := by
  constructor
  · intro atomic user starts
    by_cases undisturbed : Undisturbed faults
    · refine ⟨?_, fun _ => ?_⟩
      · intro failing
        obtain ⟨entry, listed, fails⟩ := failing
        exact absurd (undisturbed.deletions entry listed) fails
      · obtain ⟨result, done⟩ := purgeUser_done starts undisturbed
        have either := atomic.either
        rw [done] at either
        cases either with
        | inl gone => exact erased_gone_iff.mp gone.choose_spec.2
        | inr same => exact absurd same (erased_ne starts)
    · refine ⟨?_, fun accepted => absurd accepted undisturbed⟩
      obtain ⟨failure, failed⟩ := purgeUser_failed starts undisturbed
      have unstranded := atomic.unstranded user starts
      rw [failed] at unstranded
      exact unstranded
  · intro alone
    by_cases started : ∃ user, PurgeStarts database now userId force user
    · obtain ⟨user, starts⟩ := started
      obtain ⟨stranded, unfailed⟩ := alone user starts
      by_cases undisturbed : Undisturbed faults
      · obtain ⟨result, done⟩ := purgeUser_done starts undisturbed
        refine ⟨Or.inl ⟨result, ?_, ?_⟩, ?_⟩
        · rw [done]
        · rw [done]
          exact erased_gone_iff.mpr (unfailed undisturbed)
        · rintro _ _ ⟨entry, listed, fails⟩
          exact absurd (undisturbed.deletions entry listed) fails
      · obtain ⟨failure, failed⟩ := purgeUser_failed starts undisturbed
        refine ⟨Or.inr (congrArg Prod.fst failed), ?_⟩
        intro _ _
        rw [failed]
        exact stranded
    · have stays : ∀ user, ¬PurgeStarts database now userId force user :=
        fun user starts => started ⟨user, starts⟩
      refine ⟨Or.inr (purgeUser_unstarted stays), ?_⟩
      exact fun user starts => absurd starts (stays user)

end Atomic

/-! The deletion of the API keys is refused, and a refresh token is left. -/

def listenerWithToken : Database :=
  { oneListener with
    tables := fun name =>
      if name = "refresh_tokens" then
        [fun column => if column = "userId" then some "u1" else none]
      else [] }

def keysRefused : PurgeFaults where
  refused statement :=
    if statement = .delete "api_keys" "userId" then some "permission denied" else none
  privy := none

theorem listenerWithToken_stranded :
    ¬PurgeAtomic listenerWithToken 1 keysRefused "u1" false := by
  intro atomic
  have starts : PurgeStarts listenerWithToken 1 "u1" false listenerRow :=
    ⟨oneListener_starts.found, rfl, rfl⟩
  have listed : ("api_keys", "userId") ∈ purgeEntries := by decide
  have fails : keysRefused.fails ("api_keys", "userId") := by
    unfold PurgeFaults.fails
    decide
  have disturbed : ¬Undisturbed keysRefused := fun undisturbed =>
    fails (undisturbed.deletions _ listed)
  obtain ⟨failure, failed⟩ := purgeUser_failed starts disturbed
  have unstranded := atomic.unstranded listenerRow starts ⟨_, listed, fails⟩
    ("refresh_tokens", "userId") (by decide) (by unfold PurgeFaults.fails; decide)
  rw [failed] at unstranded
  exact unstranded _ List.mem_cons_self rfl

end AudioBlock.Accounts
