/-
The active subscriptions of a user as a queue, the newest ones first.

A read looks at the first of them, and drops it if it has ended.
-/
import AudioBlock.Foundation.Newest
import AudioBlock.Subscriptions.ActiveSubscription

namespace AudioBlock.Subscriptions

open AudioBlock.Foundation AudioBlock.Songs

def activeQueue (rows : List Subscription) (userId : String) : List Subscription :=
  byDate Subscription.createdAt (rows.filter (isActiveOf userId))

def readQueue (now : Int) : List Subscription → List Subscription × Option SubscriptionEntity
  | [] => ([], none)
  | first :: others =>
      match readOutcome now first.load with
      | .expired _ => (others, none)
      | .finalised saved => (saved.write first :: others, some saved)
      | .current subscription => (first :: others, some subscription)

def afterQueueReads (queue : List Subscription) (reads : List Int) : List Subscription :=
  reads.foldl (fun before read => (readQueue read before).1) queue

/-! ### Saves over the first subscription -/

section Saves

variable {rows : List Subscription} {userId : String} {first : Subscription}
  {others : List Subscription}

theorem findActive_queue : findActive rows userId = (activeQueue rows userId).head? := rfl

theorem findActive_first (queue : activeQueue rows userId = first :: others) :
    findActive rows userId = some first := by
  rw [findActive_queue, queue]
  rfl

section

variable (distinct : (rows.map Subscription.id).Nodup)
  (queue : activeQueue rows userId = first :: others)
include distinct queue

theorem first_other : ∀ row ∈ others, row ≠ first := by
  have alone : (activeQueue rows userId).Nodup :=
    byDate_nodup ((List.Nodup.of_map _ distinct).filter _)
  rw [queue] at alone
  exact fun row member same => (List.nodup_cons.1 alone).1 (same ▸ member)

theorem activeQueue_save {saved : SubscriptionEntity} (named : saved.id = first.id)
    (user : saved.userId = userId) (active : saved.status = .active) :
    activeQueue (saveSubscription rows saved) userId = saved.write first :: others := by
  obtain ⟨member, wasActive⟩ := findActive_mem (findActive_first queue)
  have written : isActiveOf userId (saved.write first) = true :=
    Bool.and_eq_true_iff.2 ⟨decide_eq_true user, decide_eq_true active⟩
  have chosen : ∀ row ∈ rows, (isActiveOf userId ∘ fun row =>
      if row = first then saved.write first else row) row = isActiveOf userId row := by
    intro row _
    by_cases same : row = first
    · rw [Function.comp_apply, if_pos same, same, written, wasActive]
    · rw [Function.comp_apply, if_neg same]
  have dated : ∀ row ∈ rows.filter (isActiveOf userId),
      (if row = first then saved.write first else row).createdAt = row.createdAt := by
    intro row _
    by_cases same : row = first
    · rw [if_pos same, same]
      rfl
    · rw [if_neg same]
  have kept : ∀ row ∈ others, (if row = first then saved.write first else row) = id row :=
    fun row later => if_neg (first_other distinct queue row later)
  rw [saveSubscription_found distinct member named]
  unfold activeQueue at queue ⊢
  rw [List.filter_map, List.filter_congr chosen, byDate_map _ dated, queue, List.map_cons,
    if_pos rfl, List.map_congr_left kept, List.map_id]

theorem activeQueue_close {saved : SubscriptionEntity} (named : saved.id = first.id)
    (closed : saved.status ≠ .active) :
    activeQueue (saveSubscription rows saved) userId = others := by
  have member := (findActive_mem (findActive_first queue)).1
  have written : isActiveOf userId (saved.write first) = false :=
    Bool.and_eq_false_iff.2 (.inr (decide_eq_false closed))
  have chosen : ∀ row ∈ rows, (isActiveOf userId ∘ fun row =>
      if row = first then saved.write first else row) row =
        (decide (row ≠ first) && isActiveOf userId row) := by
    intro row _
    by_cases same : row = first
    · rw [Function.comp_apply, if_pos same, written, decide_eq_false (not_not_intro same),
        Bool.false_and]
    · rw [Function.comp_apply, if_neg same, decide_eq_true same, Bool.true_and]
  have unchanged : ∀ row ∈ rows.filter fun row => decide (row ≠ first) && isActiveOf userId row,
      (if row = first then saved.write first else row) = id row := by
    intro row left
    have different := (Bool.and_eq_true_iff.1 (List.mem_filter.1 left).2).1
    exact if_neg (of_decide_eq_true different)
  have stay : ∀ row ∈ others, decide (row ≠ first) = true :=
    fun row later => decide_eq_true (first_other distinct queue row later)
  rw [saveSubscription_found distinct member named]
  unfold activeQueue at queue ⊢
  rw [List.filter_map, List.filter_congr chosen, List.map_congr_left unchanged, List.map_id,
    ← List.filter_filter, byDate_filter, queue, List.filter_cons_of_neg,
    List.filter_eq_self.2 stay]
  exact fun stays => of_decide_eq_true stays rfl

end

end Saves

/-! ### Reads -/

section Reads

variable {rows : List Subscription} {userId : String} {now : Int}

theorem readOutcome_cases (row : Subscription) :
    Overdue now row ∧ readOutcome now row.load = .expired (expiry row) ∨
      ¬Overdue now row ∧
        ((∃ trialEndsAt, row.trialEndsAt = some trialEndsAt ∧ trialEndsAt ≤ now) ∧
            readOutcome now row.load = .finalised (finalizeTrialTransition row.load) ∨
          (∀ trialEndsAt, row.trialEndsAt = some trialEndsAt → now < trialEndsAt) ∧
            readOutcome now row.load = .current row.load) := by
  by_cases overdue : Overdue now row
  · exact .inl ⟨overdue, if_pos (hasEnded_iff.2 overdue)⟩
  · have going : ¬hasEnded now row.load = true := fun ended => overdue (hasEnded_iff.1 ended)
    have marker : row.load.trialEnd = row.trialEndsAt := rfl
    refine .inr ⟨overdue, ?_⟩
    unfold readOutcome
    rw [if_neg going, marker]
    cases row.trialEndsAt with
    | none => exact .inr ⟨fun _ absent => (nomatch absent), rfl⟩
    | some trialEndsAt =>
        by_cases ahead : now < trialEndsAt
        · exact .inr ⟨fun _ same => Option.some.inj same ▸ ahead, if_pos ahead⟩
        · exact .inl ⟨⟨trialEndsAt, rfl, Int.not_lt.1 ahead⟩, if_neg ahead⟩

theorem finalize_user {found : Subscription} :
    (finalizeTrialTransition found.load).userId = found.userId ∧
      (finalizeTrialTransition found.load).status = found.status := by
  unfold finalizeTrialTransition
  split
  · exact ⟨rfl, rfl⟩
  · exact ⟨rfl, rfl⟩

theorem currentSubscription_queue (distinct : (rows.map Subscription.id).Nodup) :
    activeQueue (currentSubscription rows now userId).1 userId =
        (readQueue now (activeQueue rows userId)).1 ∧
      (currentSubscription rows now userId).2 = (readQueue now (activeQueue rows userId)).2 := by
  cases queue : activeQueue rows userId with
  | nil =>
      have absent : findActive rows userId = none := by
        rw [findActive_queue, queue]
        rfl
      unfold currentSubscription
      rw [absent]
      exact ⟨queue, rfl⟩
  | cons first others =>
      have found := findActive_first queue
      have active := isActiveOf_iff.1 (findActive_mem found).2
      obtain ⟨user, status⟩ := @finalize_user first
      unfold currentSubscription readQueue
      rw [found]
      dsimp only
      rcases @readOutcome_cases now first with ⟨_, same⟩ | ⟨_, ⟨_, same⟩ | ⟨_, same⟩⟩
      · rw [same]
        refine ⟨activeQueue_close distinct queue rfl ?_, rfl⟩
        intro impossible
        cases impossible
      · rw [same]
        exact ⟨activeQueue_save distinct queue finalize_id
          (user.trans active.1) (status.trans active.2), rfl⟩
      · rw [same]
        exact ⟨queue, rfl⟩

theorem afterReads_queue (named : userId ≠ "") (distinct : (rows.map Subscription.id).Nodup)
    (reads : List Int) :
    activeQueue (afterReads rows userId reads) userId =
        afterQueueReads (activeQueue rows userId) reads ∧
      ((afterReads rows userId reads).map Subscription.id).Nodup := by
  induction reads generalizing rows with
  | nil => exact ⟨rfl, distinct⟩
  | cons read rest ih =>
      have first : (getUserSubscription rows read userId).1 =
          (currentSubscription rows read userId).1 := by
        rw [getUserSubscription_named named]
      have keyed : ((currentSubscription rows read userId).1.map Subscription.id).Nodup := by
        rw [currentSubscription_ids]
        exact distinct
      unfold afterReads afterQueueReads at ih ⊢
      rw [List.foldl_cons, List.foldl_cons, first, ← (currentSubscription_queue distinct).1]
      exact ih keyed

theorem reported_queue (named : userId ≠ "") (distinct : (rows.map Subscription.id).Nodup)
    (reads : List Int) :
    reported (afterReads rows userId reads) now userId =
      .ok (readQueue now (afterQueueReads (activeQueue rows userId) reads)).2 := by
  obtain ⟨queue, keyed⟩ := afterReads_queue named distinct reads
  rw [reported_named named, (currentSubscription_queue keyed).2, queue]

end Reads

/-!
### After a cancellation

Access after a cancellation, up to the end of what was paid.
-/

def PaidUntil (rows : List Subscription) (userId : String) (tier : SubscriptionTier)
    (start ending : Int) : Prop :=
  ∀ reads now, reads.Pairwise (· ≤ ·) → (∀ read ∈ reads, start ≤ read ∧ read ≤ now) →
    start ≤ now →
      (now < ending → ∃ current,
          reported (afterReads rows userId reads) now userId = .ok (some current) ∧
            current.tier = tier) ∧
        (ending ≤ now → ∀ current,
          reported (afterReads rows userId reads) now userId = .ok (some current) →
            current.tier ≠ tier)

/-! ### The condition -/

def Subscription.lastEnd (row : Subscription) : Option Int :=
  row.endDate.or (row.trialEndsAt.map (· + DEFAULT_BILLING_PERIOD_MS))

def ServedFrom (tier : SubscriptionTier) : List Subscription → Int → Prop
  | [], _ => False
  | first :: others, time =>
      (¬Overdue time first ∧ first.tier = tier) ∨
        ∃ ending, first.lastEnd = some ending ∧ ServedFrom tier others (max time (ending + 1))

def OthersServe (others : List Subscription) (tier : SubscriptionTier) (start ending : Int) :
    Prop :=
  (start < ending → ∃ next, others.head? = some next ∧ next.tier = tier ∧
      next.endDate = some (ending - 1)) ∧
    ¬ServedFrom tier others (max start ending)

/-! ### A read of the queue -/

section Queue

variable {tier : SubscriptionTier} {first : Subscription} {others queue : List Subscription}
  {now time : Int} {current : SubscriptionEntity}

structure GoesOn (row after : Subscription) : Prop where
  tier : after.tier = row.tier
  lastEnd : after.lastEnd = row.lastEnd
  endDate : ∀ ending, row.endDate = some ending → after.endDate = some ending

theorem billed_goesOn {trialEndsAt : Int} (trial : first.trialEndsAt = some trialEndsAt) :
    GoesOn first (billed first) := by
  cases ending : first.endDate with
  | none =>
      refine ⟨?_, ?_, fun _ absent => nomatch ending.symm.trans absent⟩
      · unfold billed
        rw [finalize_eq trial]
        rfl
      · unfold Subscription.lastEnd
        rw [billed_endDate ending trial, ending, trial]
        rfl
  | some endDate =>
      have same : billed first = first := finalize_write ending
      rw [same]
      exact ⟨rfl, rfl, fun _ stored => ending ▸ stored⟩

theorem readQueue_cons (now : Int) (first : Subscription) (others : List Subscription) :
    Overdue now first ∧ readQueue now (first :: others) = (others, none) ∨
      ¬Overdue now first ∧ ∃ after current,
        readQueue now (first :: others) = (after :: others, some current) ∧
          GoesOn first after ∧ current.id = after.id ∧ current.tier = first.tier := by
  unfold readQueue
  dsimp only
  rcases @readOutcome_cases now first with ⟨overdue, same⟩ | ⟨runs, ⟨trial, same⟩ | ⟨_, same⟩⟩
  · rw [same]
    exact .inl ⟨overdue, rfl⟩
  · obtain ⟨trialEndsAt, trial, _⟩ := trial
    rw [same]
    refine .inr ⟨runs, billed first, _, rfl, billed_goesOn trial, finalize_id, ?_⟩
    rw [finalize_eq trial]
    rfl
  · rw [same]
    exact .inr ⟨runs, first, _, rfl, ⟨rfl, rfl, fun _ stored => stored⟩, rfl, rfl⟩

theorem ServedFrom.earlier {earlier : Int} (served : ServedFrom tier queue time)
    (order : earlier ≤ time) : ServedFrom tier queue earlier := by
  induction queue generalizing time earlier with
  | nil => exact served
  | cons first others ih =>
      rcases served with ⟨runs, same⟩ | ⟨ending, stored, later⟩
      · refine .inl ⟨?_, same⟩
        rintro ⟨endDate, dated, passed⟩
        exact runs ⟨endDate, dated, Int.lt_of_lt_of_le passed order⟩
      · exact .inr ⟨ending, stored, ih later (max_le_max_right _ order)⟩

theorem ServedFrom.before_read {read : Int}
    (served : ServedFrom tier (readQueue read queue).1 time) (order : read ≤ time) :
    ServedFrom tier queue time := by
  cases queue with
  | nil => exact served
  | cons first others =>
      rcases readQueue_cons read first others with
        ⟨⟨endDate, dated, passed⟩, same⟩ | ⟨_, after, current, same, goesOn, _⟩
      · rw [same] at served
        have ending : first.lastEnd = some endDate := by
          unfold Subscription.lastEnd
          rw [dated]
          rfl
        refine .inr ⟨endDate, ending, ?_⟩
        rw [max_eq_left (by omega)]
        exact served
      · rw [same] at served
        rcases served with ⟨runs, tierOf⟩ | ⟨ending, stored, later⟩
        · refine .inl ⟨?_, goesOn.tier.symm.trans tierOf⟩
          rintro ⟨endDate, dated, passed⟩
          exact runs ⟨endDate, goesOn.endDate endDate dated, passed⟩
        · exact .inr ⟨ending, goesOn.lastEnd.symm.trans stored, later⟩

theorem readQueue_some (answered : (readQueue now queue).2 = some current) :
    ∃ first others, queue = first :: others ∧ ¬Overdue now first ∧ first.tier = current.tier := by
  cases queue with
  | nil => cases answered
  | cons first others =>
      rcases readQueue_cons now first others with
        ⟨_, same⟩ | ⟨runs, after, served, same, _, _, tierOf⟩
      · rw [same] at answered
        cases answered
      · rw [same] at answered
        cases answered
        exact ⟨first, others, rfl, runs, tierOf.symm⟩

theorem servedFrom_answer (answered : (readQueue now queue).2 = some current) :
    ServedFrom current.tier queue now := by
  obtain ⟨first, others, rfl, runs, same⟩ := readQueue_some answered
  exact .inl ⟨runs, same⟩

theorem servedFrom_reads {reads : List Int} (past : ∀ read ∈ reads, read ≤ now)
    (answered : (readQueue now (afterQueueReads queue reads)).2 = some current) :
    ServedFrom current.tier queue now := by
  induction reads generalizing queue with
  | nil => exact servedFrom_answer answered
  | cons read rest ih =>
      apply ServedFrom.before_read _ (past read List.mem_cons_self)
      exact ih (fun other member => past other (List.mem_cons_of_mem _ member)) answered

theorem reads_pass {ending read : Int} (stored : first.lastEnd = some ending)
    (passed : ending < read) :
    ∃ count : Nat,
      afterQueueReads (first :: others) (List.replicate count read) = others := by
  have dropped : ∀ row : Subscription, row.endDate = some ending →
      (readQueue read (row :: others)).1 = others := by
    intro row dated
    rcases readQueue_cons read row others with ⟨_, same⟩ | ⟨runs, _⟩
    · rw [same]
    · exact absurd ⟨ending, dated, passed⟩ runs
  unfold Subscription.lastEnd at stored
  cases dated : first.endDate with
  | some endDate =>
      rw [dated] at stored
      exact ⟨1, dropped first (dated.trans stored)⟩
  | none =>
      rw [dated, Option.none_or] at stored
      obtain ⟨trialEndsAt, trial, rfl⟩ := Option.map_eq_some_iff.1 stored
      have elapsed : trialEndsAt ≤ read := by
        unfold DEFAULT_BILLING_PERIOD_MS at passed
        omega
      have renewed : (readQueue read (first :: others)).1 = billed first :: others := by
        unfold readQueue
        dsimp only
        rcases @readOutcome_cases read first with ⟨⟨_, ended, _⟩, _⟩ | ⟨_, ⟨_, same⟩ | ⟨ahead, _⟩⟩
        · cases dated.symm.trans ended
        · rw [same]
          rfl
        · exact absurd (ahead trialEndsAt trial) (Int.not_lt.2 elapsed)
      refine ⟨2, ?_⟩
      change (readQueue read (readQueue read (first :: others)).1).1 = others
      rw [renewed]
      exact dropped _ (billed_endDate dated trial)

theorem servedFrom_reached (served : ServedFrom tier queue time) :
    ∃ reads now current, time ≤ now ∧ reads.Pairwise (· ≤ ·) ∧
      (∀ read ∈ reads, time ≤ read ∧ read ≤ now) ∧
        (readQueue now (afterQueueReads queue reads)).2 = some current ∧ current.tier = tier := by
  induction queue generalizing time with
  | nil => exact served.elim
  | cons first others ih =>
      rcases served with ⟨runs, same⟩ | ⟨ending, stored, later⟩
      · rcases readQueue_cons time first others with ⟨overdue, _⟩ | ⟨_, _, current, read, _, _, tierOf⟩
        · exact absurd overdue runs
        · refine ⟨[], time, current, Int.le_refl _, List.Pairwise.nil,
            fun _ member => (nomatch member), ?_, tierOf.trans same⟩
          exact congrArg Prod.snd read
      · obtain ⟨reads, now, current, order, sorted, within, answered, tierOf⟩ := ih later
        have passed : ending < max time (ending + 1) := by omega
        obtain ⟨count, past⟩ := @reads_pass first others ending _ stored passed
        refine ⟨List.replicate count (max time (ending + 1)) ++ reads, now, current, by omega,
          List.pairwise_append.2 ⟨?_, sorted, ?_⟩, ?_, ?_, tierOf⟩
        · exact List.pairwise_replicate.2 (.inr (Int.le_refl _))
        · intro one first other member
          rw [List.eq_of_mem_replicate first]
          exact (within other member).1
        · intro read member
          rcases List.mem_append.1 member with first | rest
          · rw [List.eq_of_mem_replicate first]
            exact ⟨Int.le_max_left _ _, order⟩
          · have bounds := within read rest
            exact ⟨by omega, bounds.2⟩
        · unfold afterQueueReads at past answered ⊢
          rw [List.foldl_append, past]
          exact answered

theorem reads_stay {ending : Int} (dated : first.endDate = some ending) {reads : List Int}
    (past : ∀ read ∈ reads, read ≤ ending) :
    ∃ after, afterQueueReads (first :: others) reads = after :: others ∧ GoesOn first after := by
  induction reads generalizing first with
  | nil => exact ⟨first, rfl, rfl, rfl, fun _ stored => stored⟩
  | cons read rest ih =>
      rcases readQueue_cons read first others with ⟨overdue, _⟩ | ⟨_, after, _, same, goesOn, _⟩
      · exact absurd overdue (not_overdue_before dated (past read List.mem_cons_self))
      · obtain ⟨last, reached, goesFurther⟩ := ih (goesOn.endDate ending dated)
          fun other member => past other (List.mem_cons_of_mem _ member)
        refine ⟨last, ?_, goesFurther.tier.trans goesOn.tier,
          goesFurther.lastEnd.trans goesOn.lastEnd,
          fun stored ends => goesFurther.endDate stored (goesOn.endDate stored ends)⟩
        unfold afterQueueReads at reached ⊢
        rw [List.foldl_cons, same]
        exact reached

/-! ### Access from a time on -/

def QueuePaid (queue : List Subscription) (tier : SubscriptionTier) (start ending : Int) : Prop :=
  ∀ reads now, reads.Pairwise (· ≤ ·) → (∀ read ∈ reads, start ≤ read ∧ read ≤ now) →
    start ≤ now →
      (now < ending → ∃ current,
          (readQueue now (afterQueueReads queue reads)).2 = some current ∧ current.tier = tier) ∧
        (ending ≤ now → ∀ current,
          (readQueue now (afterQueueReads queue reads)).2 = some current → current.tier ≠ tier)

variable {start ending : Int}

section

variable (paid : QueuePaid queue tier start ending)
include paid

theorem queuePaid_silent :
    ¬ServedFrom tier queue (max start ending) := by
  intro served
  obtain ⟨reads, now, current, order, sorted, within, answered, same⟩ := servedFrom_reached served
  have bounds : ∀ read ∈ reads, start ≤ read ∧ read ≤ now := fun read member =>
    ⟨Int.le_trans (Int.le_max_left _ _) (within read member).1, (within read member).2⟩
  exact (paid reads now sorted bounds (by omega)).2 (by omega) current answered same

theorem queuePaid_answers (order : start ≤ now) (before : now < ending) :
    ∃ first others, queue = first :: others ∧ ¬Overdue now first ∧ first.tier = tier := by
  obtain ⟨current, answered, same⟩ :=
    (paid [] now List.Pairwise.nil (fun _ member => nomatch member) order).1 before
  obtain ⟨first, others, whole, runs, tierOf⟩ := readQueue_some answered
  exact ⟨first, others, whole, runs, tierOf.trans same⟩

theorem queuePaid_next (ahead : start < ending) :
    ∃ next, queue.head? = some next ∧ next.tier = tier ∧ next.endDate = some (ending - 1) := by
  obtain ⟨first, others, rfl, _, tierOf⟩ := queuePaid_answers paid (Int.le_refl _) ahead
  have ended : Overdue (max start ending) first :=
    Classical.byContradiction fun later => queuePaid_silent paid (.inl ⟨later, tierOf⟩)
  obtain ⟨endDate, dated, passed⟩ := ended
  obtain ⟨_, _, same, runs, _⟩ := queuePaid_answers paid (show start ≤ ending - 1 by omega)
    (show ending - 1 < ending by omega)
  cases same
  have reaches : ending - 1 ≤ endDate := Int.not_lt.1 fun early => runs ⟨endDate, dated, early⟩
  refine ⟨first, rfl, tierOf, ?_⟩
  rw [dated]
  congr 1
  omega

end

theorem queuePaid_iff :
    QueuePaid queue tier start ending ↔ OthersServe queue tier start ending := by
  constructor
  · exact fun paid => ⟨queuePaid_next paid, queuePaid_silent paid⟩
  · rintro ⟨next, silent⟩ reads now _ within order
    constructor
    · intro before
      obtain ⟨first, head, tierOf, dated⟩ := next (Int.lt_of_le_of_lt order before)
      obtain ⟨others, rfl⟩ := List.head?_eq_some_iff.1 head
      obtain ⟨after, reached, goesOn⟩ := @reads_stay first others _ dated reads fun read member =>
        Int.le_trans (within read member).2 (by omega)
      rw [reached]
      rcases readQueue_cons now after others with ⟨overdue, _⟩ | ⟨_, _, current, same, _, _, served⟩
      · exact absurd overdue (not_overdue_before (goesOn.endDate _ dated) (by omega))
      · rw [same]
        exact ⟨current, rfl, served.trans (goesOn.tier.trans tierOf)⟩
    · intro _ current answered same
      have served := servedFrom_reads (fun read member => (within read member).2) answered
      rw [same] at served
      exact silent (served.earlier (by omega))

end Queue

/-! ### The cancellation -/

section Cancellation

variable {rows : List Subscription} {userId : String} {now ending : Int}
  {saved : SubscriptionEntity} {tier : SubscriptionTier}

theorem cancelled_queue (distinct : (rows.map Subscription.id).Nodup)
    (cancelled : (cancelSubscription rows now userId).2 = .ok saved) :
    userId ≠ "" ∧ ((cancelSubscription rows now userId).1.map Subscription.id).Nodup ∧
      activeQueue (cancelSubscription rows now userId).1 userId =
        (activeQueue rows userId).tail := by
  have named : userId ≠ "" := by
    rintro rfl
    cases cancelled
  obtain ⟨queue, answer⟩ := @currentSubscription_queue rows userId now distinct
  have keyed : ((currentSubscription rows now userId).1.map Subscription.id).Nodup := by
    rw [currentSubscription_ids]
    exact distinct
  unfold cancelSubscription at cancelled ⊢
  rw [getUserSubscription_named named] at cancelled ⊢
  cases current : (currentSubscription rows now userId).2 with
  | none =>
      rw [current] at cancelled
      cases cancelled
  | some subscription =>
      rw [current] at answer
      refine ⟨named, (saveSubscription_ids _ _).symm ▸ keyed, ?_⟩
      cases whole : activeQueue rows userId with
      | nil =>
          rw [whole] at answer
          cases answer
      | cons first others =>
          rw [whole] at queue answer
          rcases readQueue_cons now first others with ⟨_, same⟩ | ⟨_, after, served, same, _, id, _⟩
          · rw [same] at answer
            cases answer
          · rw [same] at queue answer
            cases answer
            exact activeQueue_close keyed queue id (fun impossible => nomatch impossible)

theorem paidUntil_queue {start : Int} (named : userId ≠ "")
    (distinct : (rows.map Subscription.id).Nodup) :
    PaidUntil rows userId tier start ending ↔
      QueuePaid (activeQueue rows userId) tier start ending := by
  unfold PaidUntil QueuePaid
  simp only [reported_queue named distinct, Except.ok.injEq]

/-- After a cancellation the paid access lasts up to the end, and no longer, exactly if other
subscriptions give it. -/
theorem cancelSubscription_paid_iff (distinct : (rows.map Subscription.id).Nodup)
    (cancelled : (cancelSubscription rows now userId).2 = .ok saved) :
    ∀ ending ∈ saved.endDate,
      (PaidUntil (cancelSubscription rows now userId).1 userId saved.tier now ending ↔
        OthersServe (activeQueue rows userId).tail saved.tier now ending) := by
  intro ending _
  obtain ⟨named, keyed, queue⟩ := cancelled_queue distinct cancelled
  rw [paidUntil_queue named keyed, queue]
  exact queuePaid_iff

def monthlySubscription : Subscription where
  id := "subscription"
  userId := "artist"
  tier := .artistPro
  status := .active
  startDate := 0
  endDate := some 1000
  trialEndsAt := none
  createdAt := 0

theorem monthlySubscription_queue :
    activeQueue [monthlySubscription] "artist" = [monthlySubscription] := by
  have active : isActiveOf "artist" monthlySubscription = true := rfl
  unfold activeQueue
  rw [List.filter_cons_of_pos active, List.filter_nil, byDate_cons, byDate_nil, List.filter_nil,
    List.filter_nil, List.nil_append]

theorem monthlySubscription_cancelled {now : Int} (runs : now ≤ 1000) :
    (cancelSubscription [monthlySubscription] now "artist").2 =
      .ok { monthlySubscription.load with status := .cancelled } := by
  have found := findActive_first monthlySubscription_queue
  have going : ¬Overdue now monthlySubscription := not_overdue_before rfl runs
  have current := read_current found going fun _ trial => nomatch trial
  unfold cancelSubscription
  rw [getUserSubscription_named (by decide), current]

/-- A cancellation at the very end. -/
theorem monthlySubscription_used_up :
    PaidUntil (cancelSubscription [monthlySubscription] 1000 "artist").1 "artist" .artistPro 1000
      1000 := by
  have distinct : ([monthlySubscription].map Subscription.id).Nodup := List.nodup_singleton _
  apply (cancelSubscription_paid_iff distinct (monthlySubscription_cancelled (Int.le_refl _)) 1000
    rfl).2
  rw [monthlySubscription_queue]
  refine ⟨fun ahead => ?_, fun served => served⟩
  exact absurd ahead (by decide)

/-- Halfway, the access ends with the cancellation. -/
theorem monthlySubscription_lost :
    (cancelSubscription [monthlySubscription] 500 "artist").2 =
        .ok { monthlySubscription.load with status := .cancelled } ∧
      ¬PaidUntil (cancelSubscription [monthlySubscription] 500 "artist").1 "artist" .artistPro 500
        1000 := by
  refine ⟨monthlySubscription_cancelled (by decide), ?_⟩
  intro paid
  have distinct : ([monthlySubscription].map Subscription.id).Nodup := List.nodup_singleton _
  obtain ⟨named, keyed, queue⟩ :=
    cancelled_queue distinct (monthlySubscription_cancelled (show (500 : Int) ≤ 1000 by decide))
  rw [paidUntil_queue named keyed, queue, monthlySubscription_queue] at paid
  obtain ⟨_, absent, _⟩ := queuePaid_next paid (by decide)
  cases absent

end Cancellation

end AudioBlock.Subscriptions
