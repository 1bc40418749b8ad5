/-
What requests, cancellations and passes of the job make of the accounts and their requests.

Of a request only its account and its status matter here.  With distinct identifiers each of
them changes the rows one by one: a pass erases the accounts it selects, or marks their open
requests as failed.
-/
import AudioBlock.Accounts.Erasure

namespace AudioBlock.Accounts

open AudioBlock.Foundation

/-! ### The accounts that a pass selects -/

section Selection

variable {Item : Type} {before : Item → Item → Bool}

theorem mem_take_mergeSort
    (transitive : ∀ one two three, before one two = true → before two three = true →
      before one three = true)
    (total : ∀ one two, (before one two || before two one) = true)
    {items : List Item} {item : Item} {limit : Nat} (member : item ∈ items)
    (room : items.countP (before · item) ≤ limit) :
    item ∈ (items.mergeSort before).take limit := by
  have sorted := List.pairwise_mergeSort transitive total items
  have present : item ∈ items.mergeSort before := List.mem_mergeSort.mpr member
  have counted := (List.mergeSort_perm items before).countP_eq (before · item)
  rw [← List.take_append_drop limit (items.mergeSort before)] at sorted present counted
  cases List.mem_append.mp present with
  | inl early => exact early
  | inr late =>
      have all : ∀ other ∈ (items.mergeSort before).take limit, before other item = true :=
        fun other inside => (List.pairwise_append.mp sorted).2.2 other inside item late
      have reflexive : before item item = true := by
        simpa only [Bool.or_self] using total item item
      have own : 0 < ((items.mergeSort before).drop limit).countP (before · item) :=
        List.countP_pos_iff.mpr ⟨item, late, reflexive⟩
      rw [List.countP_append, List.countP_eq_length.mpr all, List.length_take] at counted
      have short : (items.mergeSort before).length ≤ limit := by omega
      rw [List.drop_eq_nil_of_le short] at late
      exact absurd late List.not_mem_nil

end Selection

/-- The accounts that are due, and not after the given one. -/
def dueNoLater (users : List UserRow) (now : Nat) (row : UserRow) : Nat :=
  users.countP fun other => isDue now other && scheduledBefore other row

theorem accountId_iff {row : UserRow} {userId : String} :
    row.accountId = some userId ↔ row.key = .text userId := by
  unfold UserRow.accountId UserRow.key
  constructor
  · intro same
    split at same
    · rename_i other read
      rw [read, Option.some_inj.mp same]
    · cases same
  · intro same
    rw [same]

section Due

variable {database : Database} {now limit : Nat} {row : UserRow} {userId : String}

theorem mem_dueIds (member : row ∈ database.users) (named : row.key = .text userId)
    (due : isDue now row = true) (room : dueNoLater database.users now row ≤ limit) :
    userId ∈ dueIds database now limit := by
  apply List.mem_filterMap.mpr
  refine ⟨row, ?_, accountId_iff.mpr named⟩
  apply mem_take_mergeSort
  · intro one two three first second
    unfold scheduledBefore at first second ⊢
    exact decide_eq_true (Nat.le_trans (of_decide_eq_true first) (of_decide_eq_true second))
  · intro one two
    unfold scheduledBefore
    simp only [Bool.or_eq_true, decide_eq_true_eq]
    exact Nat.le_total _ _
  · exact List.mem_filter.mpr ⟨member, due⟩
  · rw [List.countP_filter]
    simpa only [dueNoLater, Bool.and_comm] using room

theorem dueIds_due (selected : userId ∈ dueIds database now limit) :
    ∃ row ∈ database.users, row.key = .text userId ∧ isDue now row = true := by
  obtain ⟨row, taken, named⟩ := List.mem_filterMap.mp selected
  have sorted := List.mem_mergeSort.mp (List.mem_of_mem_take taken)
  obtain ⟨member, due⟩ := List.mem_filter.mp sorted
  exact ⟨row, member, accountId_iff.mp named, due⟩

theorem dueIds_nodup (distinct : (database.users.map UserRow.key).Nodup) :
    (dueIds database now limit).Nodup := by
  have sorted : ((database.users.filter (isDue now)).mergeSort scheduledBefore).Perm
      (database.users.filter (isDue now)) := List.mergeSort_perm _ _
  have keys : ((dueAccounts database now limit).map UserRow.key).Nodup := by
    apply List.Nodup.sublist ((List.take_sublist _ _).map _)
    exact (sorted.map _).nodup_iff.mpr (distinct.sublist (List.filter_sublist.map _))
  apply List.pairwise_filterMap.mpr
  apply (List.pairwise_map.mp keys).imp
  intro one two different userId first other second same
  exact different ((accountId_iff.mp first).trans (same ▸ (accountId_iff.mp second).symm))

end Due

/-! ### One pass -/

instance decidableUndisturbed (faults : PurgeFaults) : Decidable (Undisturbed faults) :=
  decidable_of_iff
    ((∀ entry ∈ purgeEntries, faults.refused (.delete entry.1 entry.2) = none) ∧
      faults.refused .anonymise = none ∧ faults.refused .complete = none)
    ⟨fun all => ⟨all.1, all.2.1, all.2.2⟩, fun all => ⟨all.deletions, all.anonymise, all.complete⟩⟩

def standing (request : AccountDeletionRequest) : String × AccountDeletionStatus :=
  (request.userId, request.status)

def Database.standings (database : Database) : List (String × AccountDeletionStatus) :=
  database.requests.map standing

theorem isOpen_eq (userId : String) (request : AccountDeletionRequest) :
    isOpen userId request = decide (standing request = (userId, .requested)) := by
  unfold isOpen standing
  simp only [Prod.mk.injEq, Bool.decide_and]

def passRow (now : Nat) (faults : String → PurgeFaults) (ids : List String) (row : UserRow) :
    UserRow :=
  match row.accountId with
  | none => row
  | some userId =>
      if userId ∈ ids ∧ Undisturbed (faults userId) then anonymisedRow now row row userId else row

def passStanding (faults : String → PurgeFaults) (ids : List String)
    (entry : String × AccountDeletionStatus) : String × AccountDeletionStatus :=
  if entry.2 = .requested ∧ entry.1 ∈ ids then
    (entry.1, if Undisturbed (faults entry.1) then .completed else .failed)
  else entry

structure PassEffect (now : Nat) (faults : String → PurgeFaults) (ids : List String)
    (before after : Database) : Prop where
  users : after.users = before.users.map (passRow now faults ids)
  standings : after.standings = before.standings.map (passStanding faults ids)

section Pass

variable {toISOString : Nat → String} {now : Nat} {faults : String → PurgeFaults}
  {userId : String} {ids : List String} {database : Database} {row : UserRow}

theorem passRow_key (row : UserRow) : (passRow now faults ids row).key = row.key := by
  unfold passRow
  split
  · rfl
  · split
    · rfl
    · rfl

theorem passRow_keys (rows : List UserRow) :
    (rows.map (passRow now faults ids)).map UserRow.key = rows.map UserRow.key := by
  rw [List.map_map]
  exact List.map_congr_left fun row _ => passRow_key row

theorem passRow_named (named : row.key = .text userId) :
    passRow now faults ids row =
      if userId ∈ ids ∧ Undisturbed (faults userId) then anonymisedRow now row row userId
      else row := by
  unfold passRow
  rw [accountId_iff.mpr named]

theorem passRow_kept
    (spared : ∀ userId ∈ ids, row.key = .text userId → ¬Undisturbed (faults userId)) :
    passRow now faults ids row = row := by
  unfold passRow
  split
  · rfl
  · rename_i userId read
    exact if_neg fun chosen => spared userId chosen.1 (accountId_iff.mp read) chosen.2

theorem passRow_append {later : List String} (apart : ∀ userId ∈ ids, userId ∉ later)
    (row : UserRow) :
    passRow now faults later (passRow now faults ids row) = passRow now faults (ids ++ later) row := by
  cases named : row.accountId with
  | none =>
      have unnamed : ∀ userId, row.key ≠ .text userId := by
        intro userId same
        cases named.symm.trans (accountId_iff.mpr same)
      rw [passRow_kept fun userId _ same => absurd same (unnamed userId),
        passRow_kept fun userId _ same => absurd same (unnamed userId),
        passRow_kept fun userId _ same => absurd same (unnamed userId)]
  | some userId =>
      have own := accountId_iff.mp named
      rw [passRow_named ((passRow_key row).trans own), passRow_named own, passRow_named own]
      by_cases first : userId ∈ ids ∧ Undisturbed (faults userId)
      · rw [if_pos first, if_neg fun second => apart userId first.1 second.1,
          if_pos ⟨List.mem_append_left _ first.1, first.2⟩]
      · rw [if_neg first]
        have same : (userId ∈ ids ++ later ∧ Undisturbed (faults userId)) ↔
            (userId ∈ later ∧ Undisturbed (faults userId)) := by
          rw [List.mem_append]
          constructor
          · intro chosen
            exact ⟨chosen.1.resolve_left fun inside => first ⟨inside, chosen.2⟩, chosen.2⟩
          · intro chosen
            exact ⟨Or.inr chosen.1, chosen.2⟩
        simp only [same]

theorem passStanding_append {later : List String} (entry : String × AccountDeletionStatus) :
    passStanding faults later (passStanding faults ids entry) =
      passStanding faults (ids ++ later) entry := by
  unfold passStanding
  by_cases first : entry.2 = .requested ∧ entry.1 ∈ ids
  · have closed : (if Undisturbed (faults entry.1) then AccountDeletionStatus.completed
        else .failed) ≠ .requested := by
      split
      · exact AccountDeletionStatus.noConfusion
      · exact AccountDeletionStatus.noConfusion
    have combined : entry.2 = .requested ∧ entry.1 ∈ ids ++ later :=
      ⟨first.1, List.mem_append_left _ first.2⟩
    rw [if_pos first, if_neg fun second => closed second.1, if_pos combined]
  · rw [if_neg first]
    have same : (entry.2 = .requested ∧ entry.1 ∈ ids ++ later) ↔
        (entry.2 = .requested ∧ entry.1 ∈ later) := by
      rw [List.mem_append]
      constructor
      · intro chosen
        exact ⟨chosen.1, chosen.2.resolve_left fun inside => first ⟨chosen.1, inside⟩⟩
      · intro chosen
        exact ⟨chosen.1, Or.inr chosen.2⟩
    simp only [same]

theorem passRow_nil (row : UserRow) : passRow now faults [] row = row :=
  passRow_kept fun _ inside => absurd inside List.not_mem_nil

theorem passStanding_nil (entry : String × AccountDeletionStatus) :
    passStanding faults [] entry = entry :=
  if_neg fun chosen => List.not_mem_nil chosen.2

theorem isDue_pending (due : isDue now row = true) :
    row.time .deletedAt = none ∧ (row.time .deletionRequestedAt).isSome = true ∧
      ∃ deadline ≤ now, row.time .deletionScheduledFor = some deadline := by
  unfold isDue at due
  simp only [Bool.and_eq_true, Option.isNone_iff_eq_none, Option.any_eq_true,
    decide_eq_true_eq] at due
  obtain ⟨⟨alive, asked⟩, deadline, scheduled, passed⟩ := due
  exact ⟨alive, asked, deadline, passed, scheduled⟩

theorem isDue_starts (distinct : (database.users.map UserRow.key).Nodup)
    (member : row ∈ database.users) (named : row.key = .text userId)
    (due : isDue now row = true) : PurgeStarts database now userId false row := by
  obtain ⟨alive, asked, deadline, passed, scheduled⟩ := isDue_pending due
  refine ⟨?_, alive, ?_⟩
  · unfold Database.findUser
    rw [← named]
    exact findRow_of_mem distinct member
  · unfold purgeRefusal
    have waited : ¬now < deadline := Nat.not_lt.mpr passed
    rw [Option.isNone_eq_false_iff.mpr asked, Bool.false_and, if_neg Bool.false_ne_true, scheduled]
    simp only [waited, decide_false, Bool.and_false, Bool.false_eq_true, if_false]

theorem standing_settled {request changed : AccountDeletionRequest}
    (sameUser : changed.userId = request.userId)
    (status : changed.status = if isOpen userId request then
      (if Undisturbed (faults userId) then .completed else .failed) else request.status) :
    standing changed = passStanding faults [userId] (standing request) := by
  unfold passStanding
  by_cases requested : isOpen userId request = true
  · obtain ⟨own, waits⟩ := isOpen_iff.mp requested
    rw [if_pos requested] at status
    rw [if_pos ⟨waits, List.mem_singleton.mpr own⟩]
    unfold standing
    rw [sameUser, status, own]
  · have other : ¬((standing request).2 = .requested ∧ (standing request).1 ∈ [userId]) :=
      fun chosen => requested (isOpen_iff.mpr ⟨List.mem_singleton.mp chosen.2, chosen.1⟩)
    rw [if_neg requested] at status
    rw [if_neg other]
    unfold standing
    rw [sameUser, status]

theorem purgeDue_done (distinct : (database.users.map UserRow.key).Nodup)
    (member : row ∈ database.users) (named : row.key = .text userId)
    (due : isDue now row = true) (undisturbed : Undisturbed (faults userId)) :
    PassEffect now faults [userId] database
        (purgeDue toISOString now (faults userId) userId database).1 ∧
      ∃ result, (purgeDue toISOString now (faults userId) userId database).2 = .ok result := by
  obtain ⟨result, done⟩ := purgeUser_done (isDue_starts distinct member named due) undisturbed
  unfold purgeDue
  rw [done]
  refine ⟨⟨?_, ?_⟩, result, rfl⟩
  · dsimp only
    rw [erased_users]
    apply List.map_congr_left
    intro other present
    by_cases own : other.key = .text userId
    · have same := List.inj_on_of_nodup_map distinct member present (named.trans own.symm)
      rw [if_pos own, passRow_named own,
        if_pos ⟨List.mem_singleton_self userId, undisturbed⟩, same]
    · rw [if_neg own]
      apply (passRow_kept _).symm
      intro listed inside same
      exact absurd (List.mem_singleton.mp inside ▸ same) own
  · dsimp only
    unfold Database.standings
    rw [erased_requests, List.map_map, List.map_map]
    apply List.map_congr_left
    intro request _
    apply standing_settled
    · dsimp only
      split
      · exact settled_userId _ _
      · rfl
    · rw [if_pos undisturbed]
      dsimp only
      split
      · exact settled_status _ _
      · rename_i other
        exact (if_neg fun requested => other (isOpen_iff.mp requested).1).symm

theorem purgeDue_failed (starts : PurgeStarts database now userId false row)
    (disturbed : ¬Undisturbed (faults userId)) :
    PassEffect now faults [userId] database
        (purgeDue toISOString now (faults userId) userId database).1 ∧
      ¬∃ result, (purgeDue toISOString now (faults userId) userId database).2 = .ok result := by
  obtain ⟨failure, failed⟩ := purgeUser_failed starts disturbed
  unfold purgeDue
  rw [failed]
  refine ⟨⟨?_, ?_⟩, ?_⟩
  · have kept : ∀ other ∈ database.users, passRow now faults [userId] other = id other := by
      intro other _
      apply passRow_kept
      intro listed inside _
      exact List.mem_singleton.mp inside ▸ disturbed
    rw [List.map_congr_left kept, List.map_id]
    rfl
  · change (database.requests.map _).map standing = (database.requests.map standing).map _
    rw [List.map_map, List.map_map]
    apply List.map_congr_left
    intro request _
    apply standing_settled
    · dsimp only
      split
      · rfl
      · rfl
    · rw [if_neg disturbed]
      dsimp only
      split
      · rfl
      · rfl
  · intro done
    obtain ⟨result, answered⟩ := done
    cases answered

theorem purgeDue_effect (distinct : (database.users.map UserRow.key).Nodup)
    (member : row ∈ database.users) (named : row.key = .text userId)
    (due : isDue now row = true) :
    PassEffect now faults [userId] database
        (purgeDue toISOString now (faults userId) userId database).1 ∧
      ((∃ result, (purgeDue toISOString now (faults userId) userId database).2 = .ok result) ↔
        Undisturbed (faults userId)) := by
  by_cases undisturbed : Undisturbed (faults userId)
  · have erased := @purgeDue_done toISOString _ _ _ _ _ distinct member named due undisturbed
    exact ⟨erased.1, iff_of_true erased.2 undisturbed⟩
  · have kept := @purgeDue_failed toISOString _ _ _ _ _
      (isDue_starts distinct member named due) undisturbed
    exact ⟨kept.1, iff_of_false kept.2 undisturbed⟩

theorem passRow_other {other : String} (fresh : other ≠ userId)
    (named : row.key = .text other) : passRow now faults [userId] row = row := by
  apply passRow_kept
  intro listed single same
  cases named.symm.trans same
  exact absurd (List.mem_singleton.mp single) fresh

theorem purgeEach_effect (distinct : (database.users.map UserRow.key).Nodup)
    (idsDistinct : ids.Nodup)
    (due : ∀ userId ∈ ids, ∃ row ∈ database.users,
      row.key = .text userId ∧ isDue now row = true) :
    PassEffect now faults ids database (purgeEach toISOString now faults ids database).1 ∧
      (purgeEach toISOString now faults ids database).2.map Prod.fst = ids ∧
      ∀ entry ∈ (purgeEach toISOString now faults ids database).2,
        (∃ result, entry.2 = .ok result) ↔ Undisturbed (faults entry.1) := by
  induction ids generalizing database with
  | nil =>
      refine ⟨⟨?_, ?_⟩, rfl, fun entry member => absurd member List.not_mem_nil⟩
      · rw [List.map_congr_left fun row _ => passRow_nil row, List.map_id']
        rfl
      · rw [List.map_congr_left fun entry _ => passStanding_nil entry, List.map_id']
        rfl
  | cons userId rest ih =>
      obtain ⟨fresh, restDistinct⟩ := List.nodup_cons.mp idsDistinct
      obtain ⟨row, member, named, rowDue⟩ := due userId List.mem_cons_self
      have effect := @purgeDue_effect toISOString _ faults _ _ _ distinct member
        named rowDue
      unfold purgeEach
      dsimp only
      generalize purgeDue toISOString now (faults userId) userId database = first at effect ⊢
      obtain ⟨after, outcome⟩ := first
      obtain ⟨⟨users, standings⟩, accepted⟩ := effect
      dsimp only at users standings accepted ⊢
      have keys : (after.users.map UserRow.key).Nodup := by
        rw [users, passRow_keys]
        exact distinct
      have restDue : ∀ other ∈ rest, ∃ row ∈ after.users,
          row.key = .text other ∧ isDue now row = true := by
        intro other inside
        obtain ⟨otherRow, present, otherNamed, otherDue⟩ := due other (List.mem_cons_of_mem _ inside)
        refine ⟨otherRow, ?_, otherNamed, otherDue⟩
        rw [users]
        have apart : other ≠ userId := fun same => fresh (same ▸ inside)
        exact List.mem_map.mpr ⟨otherRow, present, passRow_other apart otherNamed⟩
      obtain ⟨⟨laterUsers, laterStandings⟩, answered, outcomes⟩ := ih keys restDistinct restDue
      have apart : ∀ other ∈ [userId], other ∉ rest := by
        intro other single
        exact List.mem_singleton.mp single ▸ fresh
      refine ⟨⟨?_, ?_⟩, congrArg (userId :: ·) answered, List.forall_mem_cons.mpr ⟨accepted, outcomes⟩⟩
      · rw [laterUsers, users, List.map_map]
        exact List.map_congr_left fun row _ => passRow_append apart row
      · rw [laterStandings, standings, List.map_map]
        exact List.map_congr_left fun entry _ => passStanding_append entry

end Pass

/-! ### Requests and cancellations -/

section Requests

variable {database : Database} {now days : Nat} {userId referenceId : String}
  {reason : Option String}

theorem gracePeriodDays_pos (configured : Option Int) : 0 < gracePeriodDays configured := by
  unfold gracePeriodDays
  split
  · exact Nat.succ_pos 29
  · split
    · omega
    · exact Nat.succ_pos 29

theorem findRequested_none :
    findRequested database userId = none ↔ (userId, .requested) ∉ database.standings := by
  unfold findRequested Database.standings
  rw [List.argmax_eq_none, List.filter_eq_nil_iff, List.mem_map]
  constructor
  · intro closed waits
    obtain ⟨request, member, same⟩ := waits
    exact closed request member (by rw [isOpen_eq]; exact decide_eq_true same)
  · intro absent request member waits
    rw [isOpen_eq] at waits
    exact absent ⟨request, member, of_decide_eq_true waits⟩

structure Opens (database : Database) (userId : String) (user : UserRow) : Prop where
  found : database.findUser userId = some user
  alive : user.time .deletedAt = none
  closed : (userId, .requested) ∉ database.standings

def scheduleFor (now days : Nat) (userId : String) (reason : Option String) (row : UserRow) :
    UserRow :=
  if row.key = .text userId then row.schedule now (now + days * 24 * 60 * 60 * 1000) reason else row

theorem requestDeletion_opens {user : UserRow} (opens : Opens database userId user) :
    (requestDeletion database now days userId reason referenceId).1.users =
        database.users.map (scheduleFor now days userId reason) ∧
      (requestDeletion database now days userId reason referenceId).1.standings =
        database.standings ++ [(userId, .requested)] := by
  unfold requestDeletion
  rw [opens.found]
  dsimp only
  rw [opens.alive, Option.isSome_none, if_neg Bool.false_ne_true,
    findRequested_none.mpr opens.closed]
  refine ⟨rfl, ?_⟩
  exact List.map_append

theorem requestDeletion_unopened (stays : ∀ user, ¬Opens database userId user) :
    (requestDeletion database now days userId reason referenceId).1 = database := by
  unfold requestDeletion
  cases found : database.findUser userId with
  | none => rfl
  | some user =>
      dsimp only
      split
      · rfl
      rename_i alive
      cases existing : findRequested database userId with
      | some request => rfl
      | none =>
          have missing : user.time .deletedAt = none := by
            simpa only [Bool.not_eq_true, Option.isSome_eq_false_iff, Option.isNone_iff_eq_none]
              using alive
          exact absurd ⟨found, missing, findRequested_none.mp existing⟩ (stays user)

def unscheduleFor (userId : String) (row : UserRow) : UserRow :=
  if row.key = .text userId then row.unschedule else row

def cancelStanding (userId : String) (entry : String × AccountDeletionStatus) :
    String × AccountDeletionStatus :=
  if entry = (userId, .requested) then (userId, .cancelled) else entry

theorem standing_cancel (request : AccountDeletionRequest) :
    standing (if isOpen userId request then request.cancel else request) =
      cancelStanding userId (standing request) := by
  unfold cancelStanding
  rw [isOpen_eq]
  by_cases waits : standing request = (userId, .requested)
  · rw [if_pos (decide_eq_true waits), if_pos waits]
    exact congrArg (·, AccountDeletionStatus.cancelled) (congrArg Prod.fst waits)
  · rw [if_neg waits, if_neg fun chosen => waits (of_decide_eq_true chosen)]

theorem cancelDeletion_done (done : (cancelDeletion database userId).2 = .ok ()) :
    (cancelDeletion database userId).1.users = database.users.map (unscheduleFor userId) ∧
      (cancelDeletion database userId).1.standings =
        database.standings.map (cancelStanding userId) := by
  unfold cancelDeletion at done ⊢
  cases found : database.findUser userId with
  | none =>
      rw [found] at done
      cases done
  | some user =>
      rw [found] at done
      dsimp only at done ⊢
      split at done
      · cases done
      rename_i alive
      split at done
      · cases done
      rename_i pending
      rw [if_neg alive, if_neg pending]
      refine ⟨rfl, ?_⟩
      change (database.requests.map _).map standing = (database.requests.map standing).map _
      rw [List.map_map, List.map_map]
      exact List.map_congr_left fun request _ => standing_cancel request

theorem cancelDeletion_refused {failure : DeletionFailure}
    (refused : (cancelDeletion database userId).2 = .error failure) :
    (cancelDeletion database userId).1 = database := by
  unfold cancelDeletion at refused ⊢
  cases found : database.findUser userId with
  | none => rfl
  | some user =>
      rw [found] at refused
      dsimp only at refused ⊢
      split
      · rfl
      rename_i alive
      split
      · rfl
      rename_i pending
      rw [if_neg alive, if_neg pending] at refused
      cases refused

end Requests

end AudioBlock.Accounts
