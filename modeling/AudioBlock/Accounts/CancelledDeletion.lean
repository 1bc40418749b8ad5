/-
Requests, cancellations and erasures of one account that run at the same time.

Each reads the account, decides, and changes it in a transaction later on; none of the
transactions looks at the account again.  The update of the row of the account holds it until
the transaction ends, so a transaction takes effect as a whole when it commits.
-/
import AudioBlock.Foundation.Machine
import AudioBlock.Accounts.DeletionEffects

namespace AudioBlock.Accounts

open AudioBlock.Foundation

/-! ### Decisions and transactions -/

def cancelRefusal (database : Database) (userId : String) : Option DeletionFailure :=
  match database.findUser userId with
  | none => some .userNotFound
  | some user =>
      if (user.time .deletedAt).isSome then some .cannotRestore
      else if (user.time .deletionRequestedAt).isNone then some .nothingToCancel
      else none

def commitCancellation (database : Database) (userId : String) : Database :=
  (database.updateUser userId UserRow.unschedule).updateRequests (isOpen userId)
    AccountDeletionRequest.cancel

theorem cancelDeletion_eq (database : Database) (userId : String) :
    cancelDeletion database userId =
      match cancelRefusal database userId with
      | some failure => (database, .error failure)
      | none => (commitCancellation database userId, .ok ()) := by
  unfold cancelDeletion cancelRefusal
  cases database.findUser userId with
  | none => rfl
  | some user =>
      dsimp only
      split
      · rfl
      · split
        · rfl
        · rfl

def purgeAdmission (database : Database) (now : Nat) (userId : String) (force : Bool) :
    Except DeletionFailure (Option UserRow) :=
  match database.findUser userId with
  | none => .error .userNotFound
  | some user =>
      if (user.time .deletedAt).isSome then .ok none
      else
        match purgeRefusal user now force with
        | some failure => .error failure
        | none => .ok (some user)

theorem purgeUser_eq (database : Database) (now : Nat) (faults : PurgeFaults) (userId : String)
    (force : Bool) :
    purgeUser database now faults userId force =
      match purgeAdmission database now userId force with
      | .error failure => (database, .error failure)
      | .ok none =>
          (database, .ok ⟨userId, .skipped, ["Account was already deleted; purge is a no-op"]⟩)
      | .ok (some user) =>
          match Transaction.transact database (purgeTransaction now faults user userId) with
          | (after, .error failure) => (after, .error failure)
          | (after, .ok warnings) =>
              (recordPrivy userId (deletePrivyIdentity faults user).1 after,
                .ok ⟨userId, (deletePrivyIdentity faults user).1,
                  warnings ++ (deletePrivyIdentity faults user).2⟩) := by
  unfold purgeUser purgeAdmission
  cases database.findUser userId with
  | none => rfl
  | some user =>
      dsimp only
      split
      · rfl
      · cases purgeRefusal user now force with
        | none => rfl
        | some failure => rfl

def requestAdmission (database : Database) (userId : String) : Bool :=
  match database.findUser userId with
  | none => false
  | some user =>
      (user.time .deletedAt).isNone && (findRequested database userId).isNone

def commitRequest (database : Database) (now scheduledFor : Nat) (userId : String)
    (reason : Option String) (referenceId : String) : Database :=
  (database.updateUser userId fun row => row.schedule now scheduledFor reason).addRequest
    (newRequest userId referenceId now scheduledFor)

theorem requestDeletion_eq (database : Database) (now days : Nat) (userId : String)
    (reason : Option String) (referenceId : String) :
    (requestDeletion database now days userId reason referenceId).1 =
      if requestAdmission database userId then
        commitRequest database now (now + days * 24 * 60 * 60 * 1000) userId reason referenceId
      else database := by
  unfold requestDeletion requestAdmission
  cases database.findUser userId with
  | none => rfl
  | some user =>
      dsimp only
      by_cases deleted : (user.time .deletedAt).isSome = true
      · have refused : ¬((user.time .deletedAt).isNone &&
            (findRequested database userId).isNone) = true := by
          rw [Option.isNone_eq_false_iff.mpr deleted, Bool.false_and]
          exact Bool.false_ne_true
        rw [if_pos deleted, if_neg refused]
      · have alive : (user.time .deletedAt).isNone = true := by
          simpa only [Option.isNone_iff_eq_none, Option.not_isSome_iff_eq_none] using deleted
        rw [if_neg deleted]
        simp only [alive, Bool.true_and]
        cases findRequested database userId with
        | none => rfl
        | some existing => rfl

/-! ### Calls under way -/

inductive DeletionCall
  | requesting (requestedAt scheduledFor : Nat) (reason : Option String) (referenceId : String)
  /-- With the number of erasures at the time of the decision. -/
  | cancelling (erasuresSeen : Nat)
  /-- With the numbers of requests and of cancellations at the time of the decision. -/
  | purging (user : UserRow) (force scheduled : Bool) (request cancellationsSeen : Nat)
  | recording (outcome : PrivyDeletion)
  | failing (message : String)

structure Contest where
  now : Nat
  database : Database
  asked : Nat
  takenBack : Nat
  cancellations : Nat
  erasures : Nat
  calls : Nat → Option DeletionCall

inductive ContestStep
  | elapse (milliseconds : Nat)
  | beginRequest (call : Nat) (reason : Option String) (referenceId : String)
  | commitRequest (call : Nat)
  | beginCancel (call : Nat)
  | commitCancel (call : Nat)
  | beginPurge (call : Nat) (force scheduled : Bool)
  | commitPurge (call : Nat) (faults : PurgeFaults)
  | finishPurge (call : Nat)
  /-- The connection is lost, and with it what is not committed. -/
  | abandon (call : Nat)

namespace Contest

def enter (state : Contest) (call : Nat) (entered : DeletionCall) : Contest :=
  { state with calls := Function.update state.calls call (some entered) }

def leave (state : Contest) (call : Nat) : Contest :=
  { state with calls := Function.update state.calls call none }

def beginPurge (toISOString : Nat → String) (userId : String) (state : Contest) (call : Nat)
    (force scheduled : Bool) : Contest :=
  match purgeAdmission state.database state.now userId force with
  | .ok none => state
  | .ok (some user) =>
      state.enter call (.purging user force scheduled state.asked state.cancellations)
  | .error failure =>
      if scheduled then state.enter call (.failing (failure.message toISOString)) else state

def commitPurge (toISOString : Nat → String) (userId : String) (state : Contest) (call : Nat)
    (user : UserRow) (scheduled : Bool) (faults : PurgeFaults) : Contest :=
  match Transaction.transact state.database (purgeTransaction state.now faults user userId) with
  | (after, .ok _) =>
      { state with database := after, erasures := state.erasures + 1 }.enter call
        (.recording (deletePrivyIdentity faults user).1)
  | (after, .error failure) =>
      if scheduled then
        { state with database := after }.enter call (.failing (failure.message toISOString))
      else { state with database := after }.leave call

/-- A new call has a number of its own; a call that goes on is under way. -/
def step (toISOString : Nat → String) (configured : Option Int) (userId : String)
    (state : Contest) : ContestStep → Option Contest
  | .elapse milliseconds => some { state with now := state.now + milliseconds }
  | .beginRequest call reason referenceId =>
      match state.calls call with
      | some _ => none
      | none =>
          if requestAdmission state.database userId then
            some (state.enter call
              (.requesting state.now
                (state.now + gracePeriodDays configured * 24 * 60 * 60 * 1000) reason referenceId))
          else some state
  | .commitRequest call =>
      match state.calls call with
      | some (.requesting requestedAt scheduledFor reason referenceId) =>
          some ({ state with
            database :=
              Accounts.commitRequest state.database requestedAt scheduledFor userId reason
                referenceId
            asked := state.asked + 1 }.leave call)
      | _ => none
  | .beginCancel call =>
      match state.calls call with
      | some _ => none
      | none =>
          match cancelRefusal state.database userId with
          | some _ => some state
          | none => some (state.enter call (.cancelling state.erasures))
  | .commitCancel call =>
      match state.calls call with
      | some (.cancelling _) =>
          some ({ state with
            database := commitCancellation state.database userId
            takenBack := state.asked
            cancellations := state.cancellations + 1 }.leave call)
      | _ => none
  | .beginPurge call force scheduled =>
      match state.calls call with
      | some _ => none
      | none => some (state.beginPurge toISOString userId call force scheduled)
  | .commitPurge call faults =>
      match state.calls call with
      | some (.purging user _ scheduled _ _) =>
          some (state.commitPurge toISOString userId call user scheduled faults)
      | _ => none
  | .finishPurge call =>
      match state.calls call with
      | some (.recording outcome) =>
          some ({ state with database := recordPrivy userId outcome state.database }.leave call)
      | some (.failing message) =>
          some ({ state with
            database :=
              state.database.updateRequests (isOpen userId)
                (AccountDeletionRequest.fail message) }.leave call)
      | _ => none
  | .abandon call =>
      match state.calls call with
      | none => none
      | some _ => some (state.leave call)

end Contest

structure Undisputed (userId : String) (state : Contest) : Prop where
  counts : state.asked = 0 ∧ state.takenBack = 0 ∧ state.cancellations = 0 ∧ state.erasures = 0
  calls : ∀ call, state.calls call = none
  idle : ∀ row, state.database.findUser userId = some row → row.time .deletionRequestedAt = none

def contestMachine (toISOString : Nat → String) (configured : Option Int) (userId : String) :
    Machine Contest ContestStep where
  initial := Undisputed userId
  step := Contest.step toISOString configured userId

/-! ### What a cancellation promises -/

def CommitsPurge (userId : String) (state : Contest) (user : UserRow) (faults : PurgeFaults) :
    Prop :=
  ∃ warnings, (Transaction.transact state.database
    (purgeTransaction state.now faults user userId)).2 = .ok warnings

/-- An erasure, unless it is forced, commits only if its request has not been taken back, and a
cancellation only if the account has not been erased. -/
def Honoured (userId : String) (state : Contest) : ContestStep → Prop
  | .commitPurge call faults => ∀ user scheduled request seen,
      state.calls call = some (.purging user false scheduled request seen) →
        CommitsPurge userId state user faults → state.takenBack < request
  | .commitCancel call => ∀ seen row, state.calls call = some (.cancelling seen) →
      state.database.findUser userId = some row → row.time .deletedAt = none
  | _ => True

def Uncontested (state : Contest) : ContestStep → Prop
  | .commitPurge call faults => ∀ user scheduled request seen,
      state.calls call = some (.purging user false scheduled request seen) →
        Undisturbed faults → seen = state.cancellations
  | .commitCancel call => ∀ seen, state.calls call = some (.cancelling seen) →
      seen = state.erasures
  | _ => True

/-! ### The invariant -/

section Tracking

variable {userId : String} {state before after : Contest}

def Erased (userId : String) (database : Database) : Prop :=
  ∃ row, database.findUser userId = some row ∧ (row.time .deletedAt).isSome = true

/-- The numbers that a call has seen tell what has happened since. -/
def CallTracked (userId : String) (state : Contest) : DeletionCall → Prop
  | .purging _ force _ request seen =>
      (∃ row, state.database.findUser userId = some row) ∧
        (force = false → request ≤ state.asked ∧ seen ≤ state.cancellations ∧
          (state.takenBack < request ↔ seen = state.cancellations))
  | .cancelling seen =>
      seen ≤ state.erasures ∧ (Erased userId state.database ↔ seen < state.erasures)
  | _ => True

structure Tracked (userId : String) (state : Contest) : Prop where
  bounded : state.takenBack ≤ state.asked
  pending : ∀ row, state.database.findUser userId = some row →
    (row.time .deletionRequestedAt).isSome = true → state.takenBack < state.asked
  calls : ∀ call entered, state.calls call = some entered → CallTracked userId state entered

theorem Tracked.moved (tracked : Tracked userId before) (bounded : after.takenBack ≤ after.asked)
    (pending : ∀ row, after.database.findUser userId = some row →
      (row.time .deletionRequestedAt).isSome = true → after.takenBack < after.asked)
    (kept : ∀ entered, CallTracked userId before entered → CallTracked userId after entered)
    (calls : ∀ call entered, after.calls call = some entered →
      before.calls call = some entered ∨ CallTracked userId after entered) :
    Tracked userId after := by
  refine ⟨bounded, pending, ?_⟩
  intro call entered running
  cases calls call entered running with
  | inl earlier => exact kept entered (tracked.calls call entered earlier)
  | inr new => exact new

theorem leave_calls (call : Nat) {other : Nat} {entered : DeletionCall}
    (running : (state.leave call).calls other = some entered) :
    state.calls other = some entered := by
  unfold Contest.leave at running
  dsimp only at running
  rw [Function.update_apply] at running
  split at running
  · cases running
  · exact running

theorem enter_calls (call : Nat) (new : DeletionCall) {other : Nat} {entered : DeletionCall}
    (running : (state.enter call new).calls other = some entered) :
    state.calls other = some entered ∨ new = entered := by
  unfold Contest.enter at running
  dsimp only at running
  rw [Function.update_apply] at running
  split at running
  · exact Or.inr (Option.some_inj.mp running)
  · exact Or.inl running

theorem tracked_leave (tracked : Tracked userId state) (call : Nat) :
    Tracked userId (state.leave call) :=
  @Tracked.moved _ _ (state.leave call) tracked tracked.bounded tracked.pending
    (fun _ kept => kept) fun _ _ running => Or.inl (leave_calls call running)

theorem tracked_enter (tracked : Tracked userId state) (call : Nat) {new : DeletionCall}
    (starts : CallTracked userId state new) : Tracked userId (state.enter call new) := by
  refine @Tracked.moved _ _ (state.enter call new) tracked tracked.bounded tracked.pending
    (fun _ kept => kept) ?_
  intro other entered running
  cases enter_calls call new running with
  | inl earlier => exact Or.inl earlier
  | inr same =>
      subst same
      exact Or.inr starts

/-! ### Transactions and the row of the account -/

variable {change : UserRow → UserRow} {database changed : Database} {user : UserRow}

theorem findUser_updateUser (database : Database) (keeps : ∀ row, (change row).key = row.key) :
    (database.updateUser userId change).findUser userId =
      (database.findUser userId).map change := by
  unfold Database.updateUser Database.findUser
  have same : ∀ row : UserRow,
      (if row.key = .text userId then change row else row).key = row.key := by
    intro row
    split
    · exact keeps row
    · rfl
  rw [findRow_map _ same]
  cases found : findRow UserRow.key (.text userId) database.users with
  | none => rfl
  | some row => exact congrArg some (if_pos (findRow_mem found).2)

theorem findUser_commitRequest (database : Database) (now scheduledFor : Nat)
    (reason : Option String) (referenceId : String) :
    (commitRequest database now scheduledFor userId reason referenceId).findUser userId =
      (database.findUser userId).map fun row => row.schedule now scheduledFor reason :=
  findUser_updateUser database fun _ => rfl

theorem findUser_commitCancellation (database : Database) :
    (commitCancellation database userId).findUser userId =
      (database.findUser userId).map UserRow.unschedule :=
  findUser_updateUser database fun _ => rfl

theorem findUser_purged (database : Database) (now : Nat) (user : UserRow) :
    (purged now user userId database).findUser userId =
      (database.findUser userId).map fun row => anonymisedRow now user row userId := by
  have users := @erased_users database now ⟨fun _ => none, none⟩ userId user
  change (purged now user userId database).users = _ at users
  unfold Database.findUser
  rw [users]
  exact findUser_updateUser database fun row => anonymisedRow_key now user row userId

theorem erased_map (found : changed.findUser userId = (database.findUser userId).map change)
    (deletes : ∀ row, (change row).time .deletedAt = row.time .deletedAt) :
    Erased userId changed ↔ Erased userId database := by
  unfold Erased
  rw [found]
  cases database.findUser userId with
  | none => simp only [Option.map_none]
  | some row => simp only [Option.map_some, Option.some_inj, exists_eq_left', deletes]

theorem present_map (found : changed.findUser userId = (database.findUser userId).map change)
    (present : ∃ row, database.findUser userId = some row) :
    ∃ row, changed.findUser userId = some row := by
  obtain ⟨row, same⟩ := present
  exact ⟨change row, by rw [found, same]; rfl⟩

/-! ### Each step keeps the invariant -/

section

variable (tracked : Tracked userId state)
include tracked

theorem elapse_tracked (milliseconds : Nat) :
    Tracked userId { state with now := state.now + milliseconds } :=
  ⟨tracked.bounded, tracked.pending, tracked.calls⟩

theorem requests_tracked (same : changed.findUser userId = state.database.findUser userId) :
    Tracked userId { state with database := changed } := by
  refine tracked.moved tracked.bounded ?_ ?_ fun _ _ running => Or.inl running
  · dsimp only
    rw [same]
    exact tracked.pending
  · intro entered kept
    cases entered with
    | requesting requestedAt scheduledFor reason referenceId => trivial
    | recording outcome => trivial
    | failing message => trivial
    | cancelling seen =>
        unfold CallTracked Erased at kept ⊢
        dsimp only
        rw [same]
        exact kept
    | purging user force scheduled request seen =>
        unfold CallTracked at kept ⊢
        dsimp only
        rw [same]
        exact kept

theorem commitRequest_tracked (now scheduledFor : Nat) (reason : Option String)
    (referenceId : String) :
    Tracked userId { state with
      database := commitRequest state.database now scheduledFor userId reason referenceId
      asked := state.asked + 1 } := by
  have found := @findUser_commitRequest userId state.database now scheduledFor reason
    referenceId
  refine tracked.moved ?_ ?_ ?_ fun _ _ running => Or.inl running
  · exact Nat.le_succ_of_le tracked.bounded
  · exact fun _ _ _ => Nat.lt_succ_of_le tracked.bounded
  · intro entered kept
    cases entered with
    | requesting requestedAt scheduledFor reason referenceId => trivial
    | recording outcome => trivial
    | failing message => trivial
    | cancelling seen => exact ⟨kept.1, (erased_map found fun _ => rfl).trans kept.2⟩
    | purging user force scheduled request seen =>
        refine ⟨present_map found kept.1, fun unforced => ?_⟩
        obtain ⟨request, cancellations, iff⟩ := kept.2 unforced
        exact ⟨Nat.le_succ_of_le request, cancellations, iff⟩

theorem commitCancellation_tracked :
    Tracked userId { state with
      database := commitCancellation state.database userId
      takenBack := state.asked
      cancellations := state.cancellations + 1 } := by
  have found := @findUser_commitCancellation userId state.database
  refine tracked.moved (Nat.le_refl state.asked) ?_ ?_ fun _ _ running => Or.inl running
  · intro row same asked
    dsimp only at same
    rw [found] at same
    obtain ⟨earlier, _, equal⟩ := Option.map_eq_some_iff.mp same
    subst equal
    cases asked
  · intro entered kept
    cases entered with
    | requesting requestedAt scheduledFor reason referenceId => trivial
    | recording outcome => trivial
    | failing message => trivial
    | cancelling seen => exact ⟨kept.1, (erased_map found fun _ => rfl).trans kept.2⟩
    | purging user force scheduled request seen =>
        refine ⟨present_map found kept.1, fun unforced => ?_⟩
        obtain ⟨bound, cancellations, _⟩ := kept.2 unforced
        refine ⟨bound, Nat.le_succ_of_le cancellations, ?_⟩
        dsimp only
        omega

theorem purged_tracked (user : UserRow)
    (present : ∃ row, state.database.findUser userId = some row) :
    Tracked userId { state with
      database := purged state.now user userId state.database
      erasures := state.erasures + 1 } := by
  have found := @findUser_purged userId state.database state.now user
  refine tracked.moved tracked.bounded ?_ ?_ fun _ _ running => Or.inl running
  · intro row same asked
    dsimp only at same
    rw [found] at same
    obtain ⟨earlier, stored, equal⟩ := Option.map_eq_some_iff.mp same
    subst equal
    exact tracked.pending earlier stored asked
  · intro entered kept
    cases entered with
    | requesting requestedAt scheduledFor reason referenceId => trivial
    | recording outcome => trivial
    | failing message => trivial
    | cancelling seen =>
        refine ⟨Nat.le_succ_of_le kept.1, ?_⟩
        constructor
        · exact fun _ => Nat.lt_succ_of_le kept.1
        · intro _
          obtain ⟨row, stored⟩ := present
          refine ⟨anonymisedRow state.now user row userId, ?_, rfl⟩
          rw [found, stored]
          rfl
    | purging user force scheduled request seen => exact ⟨present_map found kept.1, kept.2⟩

end

theorem cancelRefusal_none (admitted : cancelRefusal database userId = none) :
    ¬Erased userId database := by
  rintro ⟨row, found, deleted⟩
  unfold cancelRefusal at admitted
  rw [found] at admitted
  dsimp only at admitted
  rw [if_pos deleted] at admitted
  cases admitted

theorem purgeAdmission_some {now : Nat} {force : Bool}
    (admitted : purgeAdmission database now userId force = .ok (some user)) :
    PurgeStarts database now userId force user := by
  unfold purgeAdmission at admitted
  cases found : database.findUser userId with
  | none =>
      rw [found] at admitted
      cases admitted
  | some row =>
      rw [found] at admitted
      dsimp only at admitted
      split at admitted
      · cases admitted
      rename_i alive
      cases refused : purgeRefusal row now force with
      | some failure =>
          rw [refused] at admitted
          cases admitted
      | none =>
          rw [refused] at admitted
          cases admitted
          refine ⟨found, ?_, refused⟩
          simpa only [Option.not_isSome_iff_eq_none] using alive

theorem unforced_pending {now : Nat} (admitted : purgeRefusal user now false = none) :
    (user.time .deletionRequestedAt).isSome = true := by
  unfold purgeRefusal at admitted
  rw [Bool.not_false, Bool.and_true] at admitted
  split at admitted
  · cases admitted
  · rename_i asked
    rw [Option.isNone_iff_eq_none] at asked
    exact Option.isSome_iff_ne_none.mpr asked

variable {toISOString : Nat → String} {configured : Option Int}

theorem beginPurge_tracked (tracked : Tracked userId state) (call : Nat) (force scheduled : Bool) :
    Tracked userId (state.beginPurge toISOString userId call force scheduled) := by
  unfold Contest.beginPurge
  split
  · exact tracked
  · rename_i user admitted
    have starts := purgeAdmission_some admitted
    apply tracked_enter tracked
    refine ⟨⟨user, starts.found⟩, ?_⟩
    intro unforced
    subst unforced
    have pending := tracked.pending user starts.found (unforced_pending starts.admitted)
    exact ⟨Nat.le_refl _, Nat.le_refl _, fun _ => rfl, fun _ => pending⟩
  · split
    · exact tracked_enter tracked call trivial
    · exact tracked

theorem commitPurge_tracked (tracked : Tracked userId state) (call : Nat) (user : UserRow)
    (scheduled : Bool) (faults : PurgeFaults)
    (present : ∃ row, state.database.findUser userId = some row) :
    Tracked userId (state.commitPurge toISOString userId call user scheduled faults) := by
  unfold Contest.commitPurge
  by_cases undisturbed : Undisturbed faults
  · rw [Transaction.transact_ok (purgeTransaction_done undisturbed)]
    exact tracked_enter (purged_tracked tracked user present) call trivial
  · obtain ⟨transaction, failure, left⟩ := @purgeTransaction_failed _ userId state.now user
      state.database undisturbed
    rw [Transaction.transact_error left]
    dsimp only
    split
    · exact tracked_enter tracked call trivial
    · exact tracked_leave tracked call

theorem step_tracked (tracked : Tracked userId before) {label : ContestStep}
    (moved : Contest.step toISOString configured userId before label = some after) :
    Tracked userId after := by
  cases label with
  | elapse milliseconds =>
      cases moved
      exact elapse_tracked tracked milliseconds
  | beginRequest call reason referenceId =>
      unfold Contest.step at moved
      dsimp only at moved
      split at moved
      · cases moved
      · split at moved
        · cases moved
          exact tracked_enter tracked call trivial
        · cases moved
          exact tracked
  | commitRequest call =>
      unfold Contest.step at moved
      dsimp only at moved
      split at moved
      · cases moved
        exact tracked_leave (commitRequest_tracked tracked _ _ _ _) call
      · cases moved
  | beginCancel call =>
      unfold Contest.step at moved
      dsimp only at moved
      split at moved
      · cases moved
      · split at moved
        · cases moved
          exact tracked
        · rename_i admitted
          cases moved
          apply tracked_enter tracked
          refine ⟨Nat.le_refl _, ?_⟩
          constructor
          · exact fun erased => absurd erased (cancelRefusal_none admitted)
          · exact fun fewer => absurd fewer (Nat.lt_irrefl _)
  | commitCancel call =>
      unfold Contest.step at moved
      dsimp only at moved
      split at moved
      · cases moved
        exact tracked_leave (commitCancellation_tracked tracked) call
      · cases moved
  | beginPurge call force scheduled =>
      unfold Contest.step at moved
      dsimp only at moved
      split at moved
      · cases moved
      · cases moved
        exact beginPurge_tracked tracked call force scheduled
  | commitPurge call faults =>
      unfold Contest.step at moved
      dsimp only at moved
      split at moved
      · rename_i running
        cases moved
        exact commitPurge_tracked tracked call _ _ faults (tracked.calls call _ running).1
      · cases moved
  | finishPurge call =>
      unfold Contest.step at moved
      dsimp only at moved
      split at moved
      · rename_i outcome _
        cases moved
        have recorded : Tracked userId
            { before with database := recordPrivy userId outcome before.database } :=
          requests_tracked tracked rfl
        exact tracked_leave recorded call
      · rename_i message _
        cases moved
        have failed : Tracked userId
            { before with
              database := before.database.updateRequests (isOpen userId)
                (AccountDeletionRequest.fail message) } :=
          requests_tracked tracked rfl
        exact tracked_leave failed call
      · cases moved
  | abandon call =>
      unfold Contest.step at moved
      dsimp only at moved
      split at moved
      · cases moved
      · cases moved
        exact tracked_leave tracked call

theorem undisputed_tracked (undisputed : Undisputed userId state) : Tracked userId state := by
  obtain ⟨asked, takenBack, _, _⟩ := undisputed.counts
  refine ⟨?_, ?_, ?_⟩
  · rw [takenBack]
    exact Nat.zero_le _
  · intro row found pending
    rw [undisputed.idle row found] at pending
    cases pending
  · intro call entered running
    rw [undisputed.calls call] at running
    cases running

/-! ### When the promise is kept -/

theorem commitsPurge_iff {faults : PurgeFaults} :
    CommitsPurge userId state user faults ↔ Undisturbed faults := by
  unfold CommitsPurge
  by_cases undisturbed : Undisturbed faults
  · rw [Transaction.transact_ok (purgeTransaction_done undisturbed)]
    exact ⟨fun _ => undisturbed, fun _ => ⟨_, rfl⟩⟩
  · obtain ⟨transaction, failure, left⟩ := @purgeTransaction_failed _ userId state.now user
      state.database undisturbed
    rw [Transaction.transact_error left]
    constructor
    · rintro ⟨warnings, done⟩
      cases done
    · exact fun accepted => absurd accepted undisturbed

theorem honoured_iff (tracked : Tracked userId state) (label : ContestStep) :
    Honoured userId state label ↔ Uncontested state label := by
  cases label with
  | elapse milliseconds => exact Iff.rfl
  | beginRequest call reason referenceId => exact Iff.rfl
  | commitRequest call => exact Iff.rfl
  | beginCancel call => exact Iff.rfl
  | beginPurge call force scheduled => exact Iff.rfl
  | finishPurge call => exact Iff.rfl
  | abandon call => exact Iff.rfl
  | commitPurge call faults =>
      constructor
      · intro honoured user scheduled request seen running undisturbed
        have seenAll := (tracked.calls call _ running).2 rfl
        exact seenAll.2.2.mp
          (honoured user scheduled request seen running (commitsPurge_iff.mpr undisturbed))
      · intro uncontested user scheduled request seen running commits
        have seenAll := (tracked.calls call _ running).2 rfl
        exact seenAll.2.2.mpr
          (uncontested user scheduled request seen running (commitsPurge_iff.mp commits))
  | commitCancel call =>
      constructor
      · intro honoured seen running
        obtain ⟨bound, erased⟩ := tracked.calls call _ running
        apply Nat.le_antisymm bound
        apply Nat.not_lt.mp
        intro fewer
        obtain ⟨row, found, deleted⟩ := erased.mpr fewer
        rw [honoured seen row running found] at deleted
        cases deleted
      · intro uncontested seen row running found
        obtain ⟨_, erased⟩ := tracked.calls call _ running
        apply Option.not_isSome_iff_eq_none.mp
        intro deleted
        exact Nat.ne_of_lt (erased.mp ⟨row, found, deleted⟩) (uncontested seen running)

end Tracking

/-! A listener takes the request back while its erasure is under way. -/

def idleListener : UserRow := fun column =>
  match column with
  | .id => .text "u1"
  | _ => .null

def beforeRequest : Contest := ⟨0, ⟨[idleListener], [], fun _ => []⟩, 0, 0, 0, 0, fun _ => none⟩

theorem beforeRequest_undisputed : Undisputed "u1" beforeRequest := by
  refine ⟨⟨rfl, rfl, rfl, rfl⟩, fun _ => rfl, ?_⟩
  intro row found
  cases List.mem_singleton.mp (findRow_mem found).1
  rfl

def stillWanted (state : Contest) (call : Nat) : Bool :=
  match state.calls call with
  | some (.purging _ false _ request _) => decide (state.takenBack < request)
  | _ => true

theorem honoured_stillWanted {userId : String} {state : Contest} {call : Nat}
    {faults : PurgeFaults} (undisturbed : Undisturbed faults)
    (honoured : Honoured userId state (.commitPurge call faults)) :
    stillWanted state call = true := by
  unfold stillWanted
  split
  · rename_i user scheduled request seen running
    exact decide_eq_true
      (honoured user scheduled request seen running (commitsPurge_iff.mpr undisturbed))
  · rfl

def cancelledMeanwhile : List ContestStep :=
  [.beginRequest 0 none "r1", .commitRequest 0, .elapse (30 * 24 * 60 * 60 * 1000),
    .beginPurge 1 false true, .beginCancel 2, .commitCancel 2]

end AudioBlock.Accounts
