/-
The life of a deletion request, over runs of requests, cancellations and passes of the job.

A pass that fails turns the open request into a failed one and leaves the account pending;
no other statement looks at that status.  A user who asks once more is then given a new
deadline, and the failed row stays when the erasure succeeds.
-/
import AudioBlock.Foundation.Machine
import AudioBlock.Accounts.DeletionEffects

namespace AudioBlock.Accounts

open AudioBlock.Foundation

/-! ### Runs -/

/-- Beside the database, the accounts whose erasure has failed since they asked for it, with the
number of accounts that were due no later at the time. -/
structure Lifecycle where
  now : Nat
  database : Database
  awaiting : List (String × Nat)

inductive LifecycleStep
  | elapse (milliseconds : Nat)
  | requestDeletion (userId : String) (reason : Option String) (referenceId : String)
  | cancelDeletion (userId : String)
  | processDue (limit : Nat) (faults : String → PurgeFaults)

namespace Lifecycle

def room (state : Lifecycle) (userId : String) : Nat :=
  match state.database.findUser userId with
  | none => 0
  | some row => dueNoLater state.database.users state.now row

def failures (state : Lifecycle) (outcomes : List (String × Except String PurgeResult)) :
    List (String × Nat) :=
  outcomes.filterMap fun entry =>
    match entry.2 with
    | .ok _ => none
    | .error _ => some (entry.1, state.room entry.1)

def processDue (toISOString : Nat → String) (state : Lifecycle) (limit : Nat)
    (faults : String → PurgeFaults) : Lifecycle :=
  let (after, outcomes) :=
    processDueDeletions toISOString state.now faults limit state.database
  { state with
    database := after
    awaiting := state.failures outcomes ++
      state.awaiting.filter fun entry => decide (entry.1 ∉ outcomes.map Prod.fst) }

/-- A cancelled deletion is not awaited any more. -/
def withdraw (state : Lifecycle) (userId : String) (after : Database) : Lifecycle :=
  { state with
    database := after
    awaiting := state.awaiting.filter fun entry => decide (entry.1 ≠ userId) }

def cancel (state : Lifecycle) (userId : String) : Lifecycle :=
  match cancelDeletion state.database userId with
  | (after, .ok ()) => state.withdraw userId after
  | (after, .error _) => { state with database := after }

def request (configured : Option Int) (state : Lifecycle) (userId : String)
    (reason : Option String) (referenceId : String) : Lifecycle :=
  { state with
    database :=
      (requestDeletion state.database state.now (gracePeriodDays configured) userId reason
        referenceId).1 }

def advance (toISOString : Nat → String) (configured : Option Int) (state : Lifecycle) :
    LifecycleStep → Lifecycle
  | .elapse milliseconds => { state with now := state.now + milliseconds }
  | .requestDeletion userId reason referenceId =>
      state.request configured userId reason referenceId
  | .cancelDeletion userId => state.cancel userId
  | .processDue limit faults => state.processDue toISOString limit faults

end Lifecycle

/-- Nobody has asked for a deletion yet. -/
structure Unasked (state : Lifecycle) : Prop where
  distinct : (state.database.users.map UserRow.key).Nodup
  idle : ∀ row ∈ state.database.users, row.time .deletionRequestedAt = none
  unrequested : state.database.requests = []
  unfailed : state.awaiting = []

def lifecycleMachine (toISOString : Nat → String) (configured : Option Int) :
    Machine Lifecycle LifecycleStep where
  initial := Unasked
  step state label := some (state.advance toISOString configured label)

/-! ### The rules of the lifecycle -/

def pendingDeadline (row : UserRow) : Option Nat :=
  if (row.time .deletedAt).isNone && (row.time .deletionRequestedAt).isSome then
    row.time .deletionScheduledFor
  else none

/-- At most one request of an account is open; its deadline stays unless it is cancelled, and
is not moved later; a pass with the room that a failed account needed tries it again; and an
account that is erased has no request that waits or has failed. -/
structure LifecycleRules (before : Lifecycle) (label : LifecycleStep) (after : Lifecycle) :
    Prop where
  single : ∀ userId, (after.database.requests.filter (isOpen userId)).length ≤ 1
  deadline : ∀ userId row deadline, before.database.findUser userId = some row →
    pendingDeadline row = some deadline → label ≠ .cancelDeletion userId →
    ∃ later, after.database.findUser userId = some later ∧
      ∃ kept ≤ deadline, later.time .deletionScheduledFor = some kept
  retried : ∀ limit faults, label = .processDue limit faults →
    ∀ entry ∈ before.awaiting, entry.2 ≤ limit → entry.1 ∈ dueIds before.database before.now limit
  cleared : ∀ userId row erased, before.database.findUser userId = some row →
    row.time .deletedAt = none → after.database.findUser userId = some erased →
    (erased.time .deletedAt).isSome = true →
    ∀ request ∈ after.database.requests, request.userId = userId →
      request.status ≠ .requested ∧ request.status ≠ .failed

def Lawful (toISOString : Nat → String) (configured : Option Int) (state : Lifecycle)
    (label : LifecycleStep) : Prop :=
  LifecycleRules state label (state.advance toISOString configured label)

/-- Nobody asks anew while a failed erasure is pending, and a pass erases only accounts
without a failed request. -/
def Considerate (state : Lifecycle) : LifecycleStep → Prop
  | .requestDeletion userId _ _ =>
      ∀ row deadline, state.database.findUser userId = some row →
        pendingDeadline row = some deadline →
          ∃ request ∈ state.database.requests, isOpen userId request = true
  | .processDue limit faults =>
      ∀ userId ∈ dueIds state.database state.now limit, Undisturbed (faults userId) →
        ∀ request ∈ state.database.requests, request.userId = userId → request.status ≠ .failed
  | _ => True

/-! ### The invariant -/

/-- A pending account without an open request is overdue, as is each whose erasure has failed. -/
structure Orderly (state : Lifecycle) : Prop where
  distinct : (state.database.users.map UserRow.key).Nodup
  single : ∀ userId, state.database.standings.count (userId, .requested) ≤ 1
  lapsed : ∀ row ∈ state.database.users, ∀ userId, row.key = .text userId →
    (userId, .requested) ∉ state.database.standings →
    ∀ deadline, pendingDeadline row = some deadline → deadline ≤ state.now
  awaited : ∀ entry ∈ state.awaiting, ∃ row ∈ state.database.users, row.key = .text entry.1 ∧
    isDue state.now row = true ∧ dueNoLater state.database.users state.now row ≤ entry.2

section Facts

variable {now : Nat} {row : UserRow} {database : Database} {userId : String}

theorem isDue_iff :
    isDue now row = true ↔ ∃ deadline ≤ now, pendingDeadline row = some deadline := by
  unfold isDue pendingDeadline
  cases (row.time .deletedAt).isNone && (row.time .deletionRequestedAt).isSome with
  | false =>
      simp only [Bool.false_and, Bool.false_eq_true, if_false, reduceCtorEq, and_false, exists_false]
  | true =>
      simp only [Bool.true_and, if_true, Option.any_eq_true, decide_eq_true_eq]
      constructor
      · rintro ⟨deadline, scheduled, passed⟩
        exact ⟨deadline, passed, scheduled⟩
      · rintro ⟨deadline, passed, scheduled⟩
        exact ⟨deadline, scheduled, passed⟩

theorem pendingDeadline_eq {deadline : Nat} (pending : pendingDeadline row = some deadline) :
    row.time .deletedAt = none ∧ row.time .deletionScheduledFor = some deadline := by
  unfold pendingDeadline at pending
  split at pending
  · rename_i waits
    rw [Bool.and_eq_true, Option.isNone_iff_eq_none] at waits
    exact ⟨waits.1, pending⟩
  · cases pending

theorem findUser_of_mem (distinct : (database.users.map UserRow.key).Nodup)
    (member : row ∈ database.users) (named : row.key = .text userId) :
    database.findUser userId = some row := by
  unfold Database.findUser
  rw [← named]
  exact findRow_of_mem distinct member

theorem open_iff : (∃ request ∈ database.requests, isOpen userId request = true) ↔
    (userId, .requested) ∈ database.standings := by
  unfold Database.standings
  rw [List.mem_map]
  simp only [isOpen_eq, decide_eq_true_eq]

theorem open_count : (database.requests.filter (isOpen userId)).length =
    database.standings.count (userId, .requested) := by
  unfold Database.standings
  rw [← List.countP_eq_length_filter, List.count_eq_countP, List.countP_map]
  apply List.countP_congr
  intro request _
  rw [isOpen_eq, Function.comp_apply, beq_eq_decide]

theorem count_map_le {Item : Type} [BEq Item] [LawfulBEq Item] {change : Item → Item} {item : Item}
    {items : List Item} (only : ∀ other, change other = item → other = item) :
    (items.map change).count item ≤ items.count item := by
  rw [List.count_eq_countP, List.count_eq_countP, List.countP_map]
  apply List.countP_mono_left
  intro other _ same
  exact beq_iff_eq.mpr (only other (beq_iff_eq.mp same))

def Withdraws (now : Nat) (change : UserRow → UserRow) : Prop :=
  ∀ row, change row = row ∨ isDue now (change row) = false

theorem dueNoLater_withdraws {change : UserRow → UserRow} (withdraws : Withdraws now change)
    (users : List UserRow) : dueNoLater (users.map change) now row ≤ dueNoLater users now row := by
  unfold dueNoLater
  rw [List.countP_map]
  apply List.countP_mono_left
  intro other _ counted
  rw [Function.comp_apply] at counted
  cases withdraws other with
  | inl same =>
      rw [same] at counted
      exact counted
  | inr gone =>
      rw [gone, Bool.false_and] at counted
      cases counted

theorem dueNoLater_later {later : Nat} (due : isDue now row = true) (users : List UserRow) :
    dueNoLater users later row ≤ dueNoLater users now row := by
  obtain ⟨deadline, passed, pending⟩ := isDue_iff.mp due
  apply List.countP_mono_left
  intro other _ counted
  rw [Bool.and_eq_true] at counted ⊢
  refine ⟨?_, counted.2⟩
  obtain ⟨otherDeadline, _, otherPending⟩ := isDue_iff.mp counted.1
  have order := of_decide_eq_true counted.2
  rw [(pendingDeadline_eq pending).2, (pendingDeadline_eq otherPending).2] at order
  exact isDue_iff.mpr ⟨otherDeadline, Nat.le_trans order passed, otherPending⟩

theorem scheduleFor_withdraws {days : Nat} (positive : 0 < days) (reason : Option String) :
    Withdraws now (scheduleFor now days userId reason) := by
  intro other
  unfold scheduleFor
  split
  · right
    apply Bool.eq_false_iff.mpr
    intro due
    obtain ⟨deadline, passed, pending⟩ := isDue_iff.mp due
    have scheduled := (pendingDeadline_eq pending).2
    change some (now + days * 24 * 60 * 60 * 1000) = some deadline at scheduled
    have same := Option.some_inj.mp scheduled
    omega
  · exact Or.inl rfl

theorem pendingDeadline_unschedule (row : UserRow) : pendingDeadline row.unschedule = none := by
  unfold pendingDeadline
  have unasked : (row.unschedule.time .deletionRequestedAt).isSome = false := rfl
  rw [unasked, Bool.and_false, if_neg Bool.false_ne_true]

theorem not_due {row : UserRow} (idle : pendingDeadline row = none) : isDue now row = false := by
  apply Bool.eq_false_iff.mpr
  intro due
  obtain ⟨deadline, _, pending⟩ := isDue_iff.mp due
  cases idle.symm.trans pending

theorem unscheduleFor_withdraws : Withdraws now (unscheduleFor userId) := by
  intro other
  unfold unscheduleFor
  split
  · exact Or.inr (not_due (pendingDeadline_unschedule other))
  · exact Or.inl rfl

variable {faults : String → PurgeFaults} {ids : List String}

theorem passRow_changes (row : UserRow) :
    passRow now faults ids row = row ∨
      (passRow now faults ids row).time .deletedAt = some now ∧
        ∃ userId ∈ ids, row.key = .text userId ∧ Undisturbed (faults userId) := by
  unfold passRow
  split
  · exact Or.inl rfl
  · rename_i userId named
    split
    · rename_i chosen
      exact Or.inr ⟨rfl, userId, chosen.1, accountId_iff.mp named, chosen.2⟩
    · exact Or.inl rfl

theorem pendingDeadline_deleted {moment : Nat} (deleted : row.time .deletedAt = some moment) :
    pendingDeadline row = none := by
  unfold pendingDeadline
  rw [deleted, Option.isNone_some, Bool.false_and, if_neg Bool.false_ne_true]

theorem passRow_withdraws : Withdraws now (passRow now faults ids) := by
  intro other
  cases @passRow_changes now faults ids other with
  | inl same => exact Or.inl same
  | inr changed => exact Or.inr (not_due (pendingDeadline_deleted changed.1))

end Facts

/-! ### The invariant holds in every run -/

section Steps

variable {toISOString : Nat → String} {configured : Option Int} {state : Lifecycle}
  {userId referenceId : String} {reason : Option String}

/-- The parts of the invariant that a statement on single rows leaves to be shown. -/
structure RowwiseStep (before after : Lifecycle) (change : UserRow → UserRow) : Prop where
  sameNow : after.now = before.now
  users : after.database.users = before.database.users.map change
  keeps : ∀ row, (change row).key = row.key
  withdraws : Withdraws before.now change
  single : ∀ userId, after.database.standings.count (userId, .requested) ≤ 1
  lapsed : ∀ row ∈ before.database.users, ∀ userId, row.key = .text userId →
    (userId, .requested) ∉ after.database.standings →
    ∀ deadline, pendingDeadline (change row) = some deadline → deadline ≤ before.now
  awaited : ∀ entry ∈ after.awaiting, ∃ row ∈ before.database.users,
    row.key = .text entry.1 ∧ isDue before.now row = true ∧
      dueNoLater before.database.users before.now row ≤ entry.2 ∧ change row = row

theorem RowwiseStep.orderly {before after : Lifecycle} {change : UserRow → UserRow}
    (changed : RowwiseStep before after change) (orderly : Orderly before) : Orderly after := by
  constructor
  · have keys : before.database.users.map (UserRow.key ∘ change) =
        before.database.users.map UserRow.key :=
      List.map_congr_left fun row _ => changed.keeps row
    rw [changed.users, List.map_map, keys]
    exact orderly.distinct
  · exact changed.single
  · intro row member owner named closed deadline pending
    rw [changed.users] at member
    obtain ⟨earlier, present, same⟩ := List.mem_map.mp member
    subst same
    rw [changed.sameNow]
    exact changed.lapsed earlier present owner ((changed.keeps earlier).symm.trans named) closed
      deadline pending
  · intro entry waiting
    obtain ⟨row, member, named, due, counted, same⟩ := changed.awaited entry waiting
    refine ⟨row, ?_, named, ?_, ?_⟩
    · rw [changed.users]
      exact List.mem_map.mpr ⟨row, member, same⟩
    · rw [changed.sameNow]
      exact due
    · rw [changed.users, changed.sameNow]
      exact Nat.le_trans (dueNoLater_withdraws changed.withdraws _) counted

theorem scheduleFor_key (now days : Nat) (row : UserRow) :
    (scheduleFor now days userId reason row).key = row.key := by
  unfold scheduleFor
  split
  · rfl
  · rfl

theorem unscheduleFor_key (row : UserRow) : (unscheduleFor userId row).key = row.key := by
  unfold unscheduleFor
  split
  · rfl
  · rfl

theorem request_unopened (stays : ∀ user, ¬Opens state.database userId user) :
    state.request configured userId reason referenceId = state := by
  unfold Lifecycle.request
  rw [requestDeletion_unopened stays]

theorem request_orderly (orderly : Orderly state)
    (considerate : Considerate state (.requestDeletion userId reason referenceId)) :
    Orderly (state.request configured userId reason referenceId) := by
  by_cases opened : ∃ user, Opens state.database userId user
  · obtain ⟨user, opens⟩ := opened
    obtain ⟨users, standings⟩ := @requestDeletion_opens _ state.now
      (gracePeriodDays configured) _ referenceId reason _ opens
    have changed : RowwiseStep state (state.request configured userId reason referenceId)
        (scheduleFor state.now (gracePeriodDays configured) userId reason) := by
      refine ⟨rfl, users, scheduleFor_key _ _, scheduleFor_withdraws (gracePeriodDays_pos _) _,
        ?_, ?_, ?_⟩
      · intro owner
        change List.count _ (requestDeletion _ _ _ _ _ _).1.standings ≤ 1
        rw [standings, List.count_append]
        by_cases own : owner = userId
        · subst own
          rw [List.count_eq_zero_of_not_mem opens.closed, List.count_singleton_self]
        · have different : ((userId, AccountDeletionStatus.requested) == (owner, .requested)) = false :=
            beq_false_of_ne fun same => own (congrArg Prod.fst same).symm
          rw [List.count_singleton, different]
          exact orderly.single owner
      · intro row member owner named closed deadline pending
        change (owner, _) ∉ (requestDeletion _ _ _ _ _ _).1.standings at closed
        rw [standings, List.mem_append, not_or] at closed
        have other : row.key ≠ .text userId := by
          intro same
          cases named.symm.trans same
          exact closed.2 List.mem_cons_self
        unfold scheduleFor at pending
        rw [if_neg other] at pending
        exact orderly.lapsed row member owner named closed.1 deadline pending
      · intro entry waiting
        obtain ⟨row, member, named, due, counted⟩ := orderly.awaited entry waiting
        refine ⟨row, member, named, due, counted, ?_⟩
        apply if_neg
        intro same
        obtain ⟨deadline, _, pending⟩ := isDue_iff.mp due
        have found := findUser_of_mem orderly.distinct member same
        exact opens.closed (open_iff.mp (considerate row deadline found pending))
    exact changed.orderly orderly
  · rw [request_unopened fun user opens => opened ⟨user, opens⟩]
    exact orderly

variable {entry : String × AccountDeletionStatus}

theorem cancelStanding_open {owner : String}
    (same : cancelStanding userId entry = (owner, .requested)) : entry = (owner, .requested) := by
  unfold cancelStanding at same
  split at same
  · cases same
  · exact same

theorem cancel_orderly (orderly : Orderly state) : Orderly (state.cancel userId) := by
  unfold Lifecycle.cancel
  cases answer : cancelDeletion state.database userId with
  | mk after outcome =>
      cases outcome with
      | error failure =>
          have same := cancelDeletion_refused (congrArg Prod.snd answer)
          rw [answer] at same
          dsimp only at same ⊢
          rw [same]
          exact orderly
      | ok _ =>
          obtain ⟨users, standings⟩ := cancelDeletion_done (congrArg Prod.snd answer)
          rw [answer] at users standings
          change (state.withdraw userId after).database.standings = _ at standings
          have changed : RowwiseStep state (state.withdraw userId after) (unscheduleFor userId) := by
            refine ⟨rfl, users, unscheduleFor_key, unscheduleFor_withdraws, ?_, ?_, ?_⟩
            · intro owner
              rw [standings]
              exact Nat.le_trans (count_map_le fun _ => cancelStanding_open) (orderly.single owner)
            · intro row member owner named closed deadline pending
              unfold unscheduleFor at pending
              split at pending
              · rw [pendingDeadline_unschedule] at pending
                cases pending
              · rename_i other
                apply orderly.lapsed row member owner named _ deadline pending
                intro waits
                rw [standings] at closed
                apply closed
                apply List.mem_map.mpr
                refine ⟨_, waits, if_neg ?_⟩
                intro same
                exact other (named.trans (congrArg SqlValue.text (congrArg Prod.fst same)))
            · intro entry waiting
              obtain ⟨listed, apart⟩ := List.mem_filter.mp waiting
              obtain ⟨row, member, named, due, counted⟩ := orderly.awaited entry listed
              refine ⟨row, member, named, due, counted, if_neg ?_⟩
              intro same
              cases named.symm.trans same
              exact of_decide_eq_true apart rfl
          exact changed.orderly orderly

theorem elapse_orderly (orderly : Orderly state) (milliseconds : Nat) :
    Orderly { state with now := state.now + milliseconds } := by
  refine ⟨orderly.distinct, orderly.single, ?_, ?_⟩
  · intro row member owner named closed deadline pending
    exact Nat.le_add_right_of_le (orderly.lapsed row member owner named closed deadline pending)
  · intro entry waiting
    obtain ⟨row, member, named, due, counted⟩ := orderly.awaited entry waiting
    refine ⟨row, member, named, ?_, Nat.le_trans (dueNoLater_later due _) counted⟩
    obtain ⟨deadline, passed, pending⟩ := isDue_iff.mp due
    exact isDue_iff.mpr ⟨deadline, Nat.le_add_right_of_le passed, pending⟩

theorem pass_effect (orderly : Orderly state) (limit : Nat) (faults : String → PurgeFaults) :
    PassEffect state.now faults (dueIds state.database state.now limit) state.database
        (processDueDeletions toISOString state.now faults limit state.database).1 ∧
      (processDueDeletions toISOString state.now faults limit state.database).2.map Prod.fst =
        dueIds state.database state.now limit ∧
      ∀ entry ∈ (processDueDeletions toISOString state.now faults limit state.database).2,
        (∃ result, entry.2 = .ok result) ↔ Undisturbed (faults entry.1) :=
  purgeEach_effect orderly.distinct (dueIds_nodup orderly.distinct) fun _ selected =>
    dueIds_due selected

theorem failures_mem {outcomes : List (String × Except String PurgeResult)} {entry : String × Nat}
    (failed : entry ∈ state.failures outcomes) :
    ∃ outcome ∈ outcomes, entry = (outcome.1, state.room outcome.1) ∧
      ¬∃ result, outcome.2 = .ok result := by
  obtain ⟨outcome, member, same⟩ := List.mem_filterMap.mp failed
  refine ⟨outcome, member, ?_⟩
  split at same
  · cases same
  · rename_i message answered
    refine ⟨(Option.some_inj.mp same).symm, ?_⟩
    intro done
    obtain ⟨result, equal⟩ := done
    cases answered.symm.trans equal

theorem passStanding_open {faults : String → PurgeFaults} {ids : List String} {owner : String}
    (same : passStanding faults ids entry = (owner, .requested)) : entry = (owner, .requested) := by
  unfold passStanding at same
  split at same
  · have status := congrArg Prod.snd same
    dsimp only at status
    split at status
    · cases status
    · cases status
  · exact same

section Passes

variable {limit : Nat} {faults : String → PurgeFaults} {row : UserRow}

theorem selected_passed (distinct : (state.database.users.map UserRow.key).Nodup)
    (selected : userId ∈ dueIds state.database state.now limit)
    (member : row ∈ state.database.users) (named : row.key = .text userId) {deadline : Nat}
    (pending : pendingDeadline row = some deadline) : deadline ≤ state.now := by
  obtain ⟨other, present, otherNamed, due⟩ := dueIds_due selected
  have equal := List.inj_on_of_nodup_map distinct member present (named.trans otherNamed.symm)
  obtain ⟨otherDeadline, passed, otherPending⟩ := isDue_iff.mp due
  rw [← equal, pending] at otherPending
  rw [Option.some_inj.mp otherPending]
  exact passed

theorem pass_lapsed (orderly : Orderly state) (member : row ∈ state.database.users)
    (named : row.key = .text userId)
    (closed : (userId, .requested) ∉ state.database.standings.map
      (passStanding faults (dueIds state.database state.now limit)))
    {deadline : Nat}
    (pending : pendingDeadline (passRow state.now faults (dueIds state.database state.now limit)
      row) = some deadline) : deadline ≤ state.now := by
  cases @passRow_changes state.now faults (dueIds state.database state.now limit) row with
  | inr gone =>
      rw [pendingDeadline_deleted gone.1] at pending
      cases pending
  | inl same =>
      rw [same] at pending
      by_cases selected : userId ∈ dueIds state.database state.now limit
      · exact selected_passed orderly.distinct selected member named pending
      · apply orderly.lapsed row member userId named _ deadline pending
        intro waits
        apply closed
        exact List.mem_map.mpr ⟨_, waits, if_neg fun chosen => selected chosen.2⟩

theorem failures_awaited (orderly : Orderly state) {entry : String × Nat}
    (failed : entry ∈ state.failures
      (processDueDeletions toISOString state.now faults limit state.database).2) :
    ∃ row ∈ state.database.users, row.key = .text entry.1 ∧ isDue state.now row = true ∧
      dueNoLater state.database.users state.now row ≤ entry.2 ∧
        ¬Undisturbed (faults entry.1) := by
  obtain ⟨_, answered, accepted⟩ := @pass_effect toISOString _ orderly limit faults
  obtain ⟨outcome, member, same, refused⟩ := failures_mem failed
  have selected : outcome.1 ∈ dueIds state.database state.now limit :=
    answered ▸ List.mem_map_of_mem member
  obtain ⟨row, present, named, due⟩ := dueIds_due selected
  subst same
  refine ⟨row, present, named, due, ?_, ?_⟩
  · unfold Lifecycle.room
    rw [findUser_of_mem orderly.distinct present named]
  · intro undisturbed
    exact refused ((accepted outcome member).mpr undisturbed)

theorem pass_awaited (orderly : Orderly state) {entry : String × Nat}
    (waiting : entry ∈ (state.processDue toISOString limit faults).awaiting) :
    ∃ row ∈ state.database.users, row.key = .text entry.1 ∧ isDue state.now row = true ∧
      dueNoLater state.database.users state.now row ≤ entry.2 ∧
        passRow state.now faults (dueIds state.database state.now limit) row = row := by
  cases List.mem_append.mp waiting with
  | inl failed =>
      obtain ⟨row, present, named, due, counted, disturbed⟩ := failures_awaited orderly failed
      refine ⟨row, present, named, due, counted, passRow_kept ?_⟩
      intro owner _ ownNamed
      cases named.symm.trans ownNamed
      exact disturbed
  | inr earlier =>
      obtain ⟨listed, apart⟩ := List.mem_filter.mp earlier
      obtain ⟨_, answered, _⟩ := @pass_effect toISOString _ orderly limit faults
      obtain ⟨row, present, named, due, counted⟩ := orderly.awaited entry listed
      refine ⟨row, present, named, due, counted, passRow_kept ?_⟩
      intro owner selected ownNamed
      cases named.symm.trans ownNamed
      rw [← answered] at selected
      exact absurd selected (of_decide_eq_true apart)

end Passes

theorem processDue_orderly (orderly : Orderly state) (limit : Nat)
    (faults : String → PurgeFaults) : Orderly (state.processDue toISOString limit faults) := by
  obtain ⟨⟨users, standings⟩, _, _⟩ := @pass_effect toISOString _ orderly limit faults
  change (state.processDue toISOString limit faults).database.standings = _ at standings
  have changed : RowwiseStep state (state.processDue toISOString limit faults)
      (passRow state.now faults (dueIds state.database state.now limit)) := by
    refine ⟨rfl, users, passRow_key, passRow_withdraws, ?_, ?_, ?_⟩
    · intro owner
      rw [standings]
      exact Nat.le_trans (count_map_le fun _ => passStanding_open) (orderly.single owner)
    · intro row member owner named closed deadline pending
      rw [standings] at closed
      exact pass_lapsed orderly member named closed pending
    · intro entry waiting
      exact pass_awaited orderly waiting
  exact changed.orderly orderly

theorem advance_orderly (orderly : Orderly state) {label : LifecycleStep}
    (considerate : Considerate state label) :
    Orderly (state.advance toISOString configured label) := by
  cases label with
  | elapse milliseconds => exact elapse_orderly orderly milliseconds
  | requestDeletion userId reason referenceId => exact request_orderly orderly considerate
  | cancelDeletion userId => exact cancel_orderly orderly
  | processDue limit faults => exact processDue_orderly orderly limit faults

theorem unasked_orderly (unasked : Unasked state) : Orderly state := by
  refine ⟨unasked.distinct, ?_, ?_, ?_⟩
  · intro owner
    unfold Database.standings
    rw [unasked.unrequested]
    exact Nat.zero_le 1
  · intro row member owner _ _ deadline pending
    unfold pendingDeadline at pending
    rw [unasked.idle row member, Option.isSome_none, Bool.and_false,
      if_neg Bool.false_ne_true] at pending
    cases pending
  · intro entry waiting
    rw [unasked.unfailed] at waiting
    exact absurd waiting List.not_mem_nil

end Steps

/-! ### The rules hold as long as nobody asks anew and the erased have no failed request -/

section Rules

variable {toISOString : Nat → String} {configured : Option Int} {state : Lifecycle}

theorem findUser_map {before after : Database} {change : UserRow → UserRow}
    (users : after.users = before.users.map change) (keeps : ∀ row, (change row).key = row.key)
    (userId : String) : after.findUser userId = (before.findUser userId).map change := by
  unfold Database.findUser
  rw [users, findRow_map change keeps]

theorem failed_iff {database : Database} {userId : String} :
    (∀ request ∈ database.requests, request.userId = userId → request.status ≠ .failed) ↔
      (userId, .failed) ∉ database.standings := by
  unfold Database.standings
  rw [List.mem_map]
  constructor
  · intro unfailed listed
    obtain ⟨request, member, same⟩ := listed
    exact unfailed request member (congrArg Prod.fst same) (congrArg Prod.snd same)
  · intro absent request member own status
    exact absent ⟨request, member, Prod.ext own status⟩

variable {label : LifecycleStep} {faults : String → PurgeFaults}

theorem rules_of_rowwise {after : Lifecycle} {change : UserRow → UserRow} (later : Orderly after)
    (notPass : ∀ limit faults, label ≠ .processDue limit faults)
    (users : after.database.users = state.database.users.map change)
    (keeps : ∀ row, (change row).key = row.key)
    (deletes : ∀ row, (change row).time .deletedAt = row.time .deletedAt)
    (deadline : ∀ userId row deadline, state.database.findUser userId = some row →
      pendingDeadline row = some deadline → label ≠ .cancelDeletion userId → change row = row) :
    LifecycleRules state label after := by
  refine ⟨?_, ?_, ?_, ?_⟩
  · intro owner
    rw [open_count]
    exact later.single owner
  · intro owner row moment found pending notCancel
    refine ⟨row, ?_, moment, Nat.le_refl moment, (pendingDeadline_eq pending).2⟩
    rw [findUser_map users keeps, found, Option.map_some,
      deadline owner row moment found pending notCancel]
  · intro limit faults is
    exact absurd is (notPass limit faults)
  · intro owner row erased found alive foundLater deleted
    rw [findUser_map users keeps, found, Option.map_some] at foundLater
    rw [← Option.some_inj.mp foundLater, deletes, alive] at deleted
    cases deleted

theorem rules_unchanged {after : Lifecycle} (later : Orderly after)
    (notPass : ∀ limit faults, label ≠ .processDue limit faults)
    (same : after.database = state.database) : LifecycleRules state label after := by
  apply @rules_of_rowwise _ _ _ id later notPass _ fun _ => rfl
  · exact fun _ => rfl
  · exact fun _ _ _ _ _ _ => rfl
  · rw [same, List.map_id]

theorem passStanding_cleared {ids : List String} {entry : String × AccountDeletionStatus}
    (selected : entry.1 ∈ ids) (undisturbed : Undisturbed (faults entry.1))
    (unfailed : entry.2 ≠ .failed) :
    (passStanding faults ids entry).2 ≠ .requested ∧
      (passStanding faults ids entry).2 ≠ .failed := by
  unfold passStanding
  by_cases waits : entry.2 = .requested
  · rw [if_pos ⟨waits, selected⟩, if_pos undisturbed]
    exact ⟨AccountDeletionStatus.noConfusion, AccountDeletionStatus.noConfusion⟩
  · rw [if_neg fun chosen => waits chosen.1]
    exact ⟨waits, unfailed⟩

theorem passStanding_owner {ids : List String} (entry : String × AccountDeletionStatus) :
    (passStanding faults ids entry).1 = entry.1 := by
  unfold passStanding
  split
  · rfl
  · rfl

theorem pass_cleared (orderly : Orderly state) {limit : Nat} {owner : String}
    (selected : owner ∈ dueIds state.database state.now limit)
    (undisturbed : Undisturbed (faults owner))
    (unfailed : (owner, .failed) ∉ state.database.standings) {request : AccountDeletionRequest}
    (member : request ∈ (state.processDue toISOString limit faults).database.requests)
    (own : request.userId = owner) :
    request.status ≠ .requested ∧ request.status ≠ .failed := by
  obtain ⟨⟨_, standings⟩, _, _⟩ := @pass_effect toISOString _ orderly limit faults
  have listed : standing request ∈ state.database.standings.map (passStanding faults
      (dueIds state.database state.now limit)) :=
    standings ▸ List.mem_map_of_mem member
  obtain ⟨entry, present, same⟩ := List.mem_map.mp listed
  have entryOwner : entry.1 = owner := by
    rw [← passStanding_owner entry, same]
    exact own
  have unmarked : entry.2 ≠ .failed := by
    intro failed
    have failedEntry : entry = (owner, .failed) := Prod.ext entryOwner failed
    exact unfailed (failedEntry ▸ present)
  have cleared := passStanding_cleared (entryOwner.symm ▸ selected)
    (entryOwner.symm ▸ undisturbed) unmarked
  rw [same] at cleared
  exact cleared

theorem pass_rules (orderly : Orderly state) {limit : Nat}
    (considerate : Considerate state (.processDue limit faults)) :
    LifecycleRules state (.processDue limit faults)
      (state.processDue toISOString limit faults) := by
  have later := @processDue_orderly toISOString _ orderly limit faults
  obtain ⟨⟨users, _⟩, _, _⟩ := @pass_effect toISOString _ orderly limit faults
  refine ⟨?_, ?_, ?_, ?_⟩
  · intro owner
    rw [open_count]
    exact later.single owner
  · intro owner row deadline found pending _
    refine ⟨_, (findUser_map users passRow_key owner).trans (congrArg _ found), deadline,
      Nat.le_refl deadline, ?_⟩
    rw [← (pendingDeadline_eq pending).2]
    unfold passRow
    split
    · rfl
    · split
      · rfl
      · rfl
  · intro wanted others same entry waiting sufficient
    cases same
    obtain ⟨row, member, named, due, counted⟩ := orderly.awaited entry waiting
    exact mem_dueIds member named due (Nat.le_trans counted sufficient)
  · intro owner row erased found alive foundLater deleted request member own
    have erasedRow := (findUser_map users passRow_key owner).symm.trans foundLater
    rw [found, Option.map_some, Option.some_inj] at erasedRow
    cases @passRow_changes state.now faults (dueIds state.database state.now limit) row with
    | inl same =>
        rw [← erasedRow, same, alive] at deleted
        cases deleted
    | inr gone =>
        obtain ⟨_, userId, selected, named, undisturbed⟩ := gone
        cases (findRow_mem found).2.symm.trans named
        have unfailed := failed_iff.mp (considerate owner selected undisturbed)
        exact pass_cleared orderly selected undisturbed unfailed member own

theorem rules_of_considerate (orderly : Orderly state) (considerate : Considerate state label) :
    Lawful toISOString configured state label := by
  have later := @advance_orderly toISOString configured _ orderly _ considerate
  unfold Lawful
  cases label with
  | elapse milliseconds =>
      exact rules_unchanged later (fun _ _ => LifecycleStep.noConfusion) rfl
  | requestDeletion userId reason referenceId =>
      by_cases opened : ∃ user, Opens state.database userId user
      · obtain ⟨user, opens⟩ := opened
        have users := (@requestDeletion_opens _ state.now (gracePeriodDays configured) _ referenceId
          reason _
          opens).1
        apply rules_of_rowwise later (fun _ _ => LifecycleStep.noConfusion) users
          (scheduleFor_key _ _)
        · intro row
          unfold scheduleFor
          split
          · rfl
          · rfl
        · intro owner row deadline found pending _
          apply if_neg
          intro named
          cases (findRow_mem found).2.symm.trans named
          exact opens.closed (open_iff.mp (considerate row deadline found pending))
      · apply rules_unchanged later fun _ _ => LifecycleStep.noConfusion
        exact congrArg Lifecycle.database
          (request_unopened fun user opens => opened ⟨user, opens⟩)
  | cancelDeletion userId =>
      change LifecycleRules state _ (state.cancel userId)
      change Orderly (state.cancel userId) at later
      unfold Lifecycle.cancel at later ⊢
      cases answer : cancelDeletion state.database userId with
      | mk after outcome =>
          rw [answer] at later
          cases outcome with
          | error failure =>
              apply rules_unchanged later fun _ _ => LifecycleStep.noConfusion
              have same := cancelDeletion_refused (congrArg Prod.snd answer)
              rw [answer] at same
              exact same
          | ok _ =>
              have users := (cancelDeletion_done (congrArg Prod.snd answer)).1
              rw [answer] at users
              apply rules_of_rowwise later (fun _ _ => LifecycleStep.noConfusion) users
                unscheduleFor_key
              · intro row
                unfold unscheduleFor
                split
                · rfl
                · rfl
              · intro owner row deadline found _ notCancel
                apply if_neg
                intro named
                cases (findRow_mem found).2.symm.trans named
                exact notCancel rfl
  | processDue limit faults => exact pass_rules orderly considerate

theorem considerate_of_rules (orderly : Orderly state)
    (lawful : Lawful toISOString configured state label) : Considerate state label := by
  unfold Lawful at lawful
  cases label with
  | elapse milliseconds => trivial
  | cancelDeletion userId => trivial
  | requestDeletion userId reason referenceId =>
      intro row deadline found pending
      apply open_iff.mpr
      apply Decidable.byContradiction
      intro closed
      obtain ⟨member, named⟩ := findRow_mem found
      have opens : Opens state.database userId row := ⟨found, (pendingDeadline_eq pending).1, closed⟩
      have users := (@requestDeletion_opens _ state.now (gracePeriodDays configured) _ referenceId
          reason _
        opens).1
      obtain ⟨later, foundLater, kept, notLater, scheduled⟩ :=
        lawful.deadline userId row deadline found pending LifecycleStep.noConfusion
      have moved := (findUser_map users (scheduleFor_key _ _) userId).symm.trans foundLater
      rw [found, Option.map_some, Option.some_inj] at moved
      unfold scheduleFor at moved
      rw [if_pos named] at moved
      rw [← moved] at scheduled
      change some (state.now + gracePeriodDays configured * 24 * 60 * 60 * 1000) = some kept
        at scheduled
      have passed := orderly.lapsed row member userId named closed deadline pending
      have positive := gracePeriodDays_pos configured
      have same := Option.some_inj.mp scheduled
      omega
  | processDue limit faults =>
      intro userId selected undisturbed
      apply failed_iff.mpr
      intro failed
      obtain ⟨⟨users, standings⟩, _, _⟩ :=
        @pass_effect toISOString _ orderly limit faults
      obtain ⟨row, member, named, due⟩ := dueIds_due selected
      have found := findUser_of_mem orderly.distinct member named
      have foundLater := (findUser_map users passRow_key userId).trans (congrArg _ found)
      rw [Option.map_some, passRow_named named, if_pos ⟨selected, undisturbed⟩] at foundLater
      have stays : (userId, .failed) ∈
          (processDueDeletions toISOString state.now faults limit state.database).1.standings := by
        rw [standings]
        refine List.mem_map.mpr ⟨_, failed, if_neg ?_⟩
        exact fun chosen => AccountDeletionStatus.noConfusion chosen.1
      refine absurd stays (failed_iff.mp ?_)
      intro request inside own
      exact (lawful.cleared userId row _ found (isDue_pending due).1 foundLater rfl request inside
        own).2

end Rules

/-! A listener asks, and the first pass after the grace period is refused. -/

def newListener : UserRow := fun column =>
  match column with
  | .id => .text "u1"
  | _ => .null

def quiet : Lifecycle := ⟨0, ⟨[newListener], [], fun _ => []⟩, []⟩

theorem quiet_unasked : Unasked quiet := by
  refine ⟨List.nodup_singleton _, ?_, rfl, rfl⟩
  intro row member
  cases List.mem_singleton.mp member
  rfl

def firstRequest : LifecycleStep := .requestDeletion "u1" none "r1"

def month : Nat := 30 * 24 * 60 * 60 * 1000

def asked : Lifecycle :=
  (quiet.advance (fun _ => "") none firstRequest).advance (fun _ => "") none (.elapse month)

def anonymiseRefused : PurgeFaults :=
  ⟨fun statement => if statement = .anonymise then some "deadlock detected" else none, none⟩

theorem asked_requests : asked.database.requests = [newRequest "u1" "r1" 0 month] := by decide

theorem asked_considerate : Considerate quiet firstRequest ∧
    ∀ faults, Considerate asked (.processDue 1 faults) := by
  constructor
  · intro row deadline found pending
    cases List.mem_singleton.mp (findRow_mem found).1
    cases pending
  · intro faults userId _ _ request member _
    rw [asked_requests] at member
    cases List.mem_singleton.mp member
    exact AccountDeletionStatus.noConfusion

def askedListener : UserRow := scheduleFor 0 30 "u1" none newListener

theorem asked_users : asked.database.users = [askedListener] := rfl

theorem asked_due : isDue asked.now askedListener = true := by
  have now : asked.now = month := Nat.zero_add month
  have scheduled : pendingDeadline askedListener = some month := by decide
  exact isDue_iff.mpr ⟨month, Nat.le_of_eq now.symm, scheduled⟩

theorem asked_selected {database : Database} (users : database.users = [askedListener]) :
    "u1" ∈ dueIds database asked.now 1 := by
  apply @mem_dueIds _ _ _ askedListener _ _ rfl asked_due
  · unfold dueNoLater
    rw [users]
    exact List.countP_le_length
  · rw [users]
    exact List.mem_singleton_self _

end AudioBlock.Accounts
