/-
Reads of the current subscription, which expire it or end its trial on the way.

A read at one time is compared with the same read after any reads before it.  A subscription
with an end is left as it is until the end has passed; a trial without one is given an end by
the first read after it, and only the next read looks at that.
-/
import AudioBlock.Subscriptions.SubscriptionService

namespace AudioBlock.Subscriptions

open AudioBlock.Foundation AudioBlock.Songs

/-! ### Reads before a read -/

def afterReads (rows : List Subscription) (userId : String) (reads : List Int) :
    List Subscription :=
  reads.foldl (fun table read => (getUserSubscription table read userId).1) rows

def reported (rows : List Subscription) (now : Int) (userId : String) :
    Except SubscriptionError (Option SubscriptionEntity) :=
  (getUserSubscription rows now userId).2

/-- No reads before, at times in order, change what a read answers. -/
def HistoryIndependent (rows : List Subscription) (userId : String) (now : Int) : Prop :=
  ∀ reads : List Int, reads.Pairwise (· ≤ ·) → (∀ read ∈ reads, read ≤ now) →
    reported (afterReads rows userId reads) now userId = reported rows now userId

/-- The end that is stored has passed. -/
def Overdue (now : Int) (row : Subscription) : Prop :=
  ∃ endDate, row.endDate = some endDate ∧ endDate < now

def Settled (rows : List Subscription) (userId : String) (now : Int) : Prop :=
  match findActive rows userId with
  | none => True
  | some newest =>
      match newest.endDate, newest.trialEndsAt with
      | some endDate, _ =>
          now ≤ endDate ∨ ∀ row ∈ rows, isActiveOf userId row = true → Overdue now row
      | none, some trialEndsAt => now ≤ trialEndsAt + DEFAULT_BILLING_PERIOD_MS
      | none, none => True

/-! ### The subscription that is found -/

section Found

variable {rows : List Subscription} {userId : String} {found : Subscription}

theorem findActive_mem (newest : findActive rows userId = some found) :
    found ∈ rows ∧ isActiveOf userId found = true := by
  have member := List.mem_of_head? newest
  exact List.mem_filter.mp (List.mem_mergeSort.mp member)

theorem findActive_none (absent : findActive rows userId = none) {row : Subscription}
    (member : row ∈ rows) : isActiveOf userId row = false := by
  have empty := List.head?_eq_none_iff.mp absent
  apply Bool.not_eq_true _ |>.mp
  intro active
  have listed : row ∈ ([] : List Subscription) := by
    rw [← empty]
    exact List.mem_mergeSort.mpr (List.mem_filter.mpr ⟨member, active⟩)
  exact absurd listed List.not_mem_nil

variable {saved : SubscriptionEntity}

section

variable (distinct : (rows.map Subscription.id).Nodup)
include distinct

theorem saveSubscription_found (member : found ∈ rows) (named : saved.id = found.id) :
    saveSubscription rows saved =
      rows.map fun row => if row = found then saved.write found else row := by
  apply List.map_congr_left
  intro row present
  by_cases same : row.id = found.id
  · have equal : row = found := List.inj_on_of_nodup_map distinct present member same
    rw [if_pos (same.trans named.symm), if_pos equal, equal]
  · have other : row ≠ found := fun equal => same (congrArg Subscription.id equal)
    rw [if_neg (named ▸ same), if_neg other]

theorem saveSubscription_same (member : found ∈ rows) (named : saved.id = found.id)
    (same : saved.write found = found) :
    saveSubscription rows saved = rows := by
  rw [saveSubscription_found distinct member named]
  have kept : ∀ row ∈ rows, (if row = found then saved.write found else row) = id row := by
    intro row _
    by_cases equal : row = found
    · rw [if_pos equal, same, equal, id]
    · rw [if_neg equal, id]
  rw [List.map_congr_left kept, List.map_id]

theorem findActive_save (newest : findActive rows userId = some found)
    (named : saved.id = found.id) (user : saved.userId = userId) (active : saved.status = .active) :
    findActive (saveSubscription rows saved) userId = some (saved.write found) := by
  obtain ⟨member, foundActive⟩ := findActive_mem newest
  let change : Subscription → Subscription := fun row =>
    if row = found then saved.write found else row
  have dated : ∀ row, (change row).createdAt = row.createdAt := by
    intro row
    change (if row = found then saved.write found else row).createdAt = row.createdAt
    split
    · rename_i same
      rw [same]
      rfl
    · rfl
  have chosen : ∀ row ∈ rows,
      (isActiveOf userId ∘ change) row = isActiveOf userId row := by
    intro row _
    by_cases same : row = found
    · have written : isActiveOf userId (saved.write found) = true := by
        unfold isActiveOf
        exact Bool.and_eq_true_iff.mpr ⟨decide_eq_true user, decide_eq_true active⟩
      rw [Function.comp_apply, same, foundActive]
      exact (congrArg (isActiveOf userId) (if_pos rfl)).trans written
    · exact congrArg (isActiveOf userId) (if_neg same)
  unfold findActive at newest ⊢
  rw [saveSubscription_found distinct member named, List.filter_map, List.filter_congr chosen,
    ← List.map_mergeSort, List.head?_map, newest]
  · exact congrArg some (if_pos rfl)
  · intro one _ other _
    rw [dated, dated]

end

end Found

/-! ### What a read does -/

section Reads

variable {rows : List Subscription} {userId : String} {now : Int} {found : Subscription}

theorem hasEnded_iff : hasEnded now found.load = true ↔ Overdue now found := by
  unfold hasEnded Overdue
  rw [Option.any_eq_true]
  constructor
  · intro ended
    obtain ⟨endDate, stored, passed⟩ := ended
    exact ⟨endDate, stored, of_decide_eq_true passed⟩
  · intro overdue
    obtain ⟨endDate, stored, passed⟩ := overdue
    exact ⟨endDate, stored, decide_eq_true passed⟩

theorem not_overdue_endless (endless : found.endDate = none) : ¬Overdue now found := by
  intro overdue
  obtain ⟨endDate, stored, _⟩ := overdue
  cases endless.symm.trans stored

variable {endDate : Int}

theorem not_overdue_before (ending : found.endDate = some endDate) (runs : now ≤ endDate) :
    ¬Overdue now found := by
  intro overdue
  obtain ⟨stored, same, passed⟩ := overdue
  cases ending.symm.trans same
  omega

def expiry (found : Subscription) : SubscriptionEntity := { found.load with status := .expired }

theorem read_overdue (newest : findActive rows userId = some found) (overdue : Overdue now found) :
    currentSubscription rows now userId = (saveSubscription rows (expiry found), none) := by
  unfold currentSubscription readOutcome
  rw [newest]
  dsimp only
  rw [if_pos (hasEnded_iff.mpr overdue)]
  rfl

theorem read_current (newest : findActive rows userId = some found) (runs : ¬Overdue now found)
    (trial : ∀ trialEndsAt, found.trialEndsAt = some trialEndsAt → now < trialEndsAt) :
    currentSubscription rows now userId = (rows, some found.load) := by
  have going : ¬hasEnded now found.load = true := fun ended => runs (hasEnded_iff.mp ended)
  have marker : found.load.trialEnd = found.trialEndsAt := rfl
  unfold currentSubscription readOutcome
  rw [newest]
  dsimp only
  rw [if_neg going, marker]
  cases ending : found.trialEndsAt with
  | none => rfl
  | some trialEndsAt =>
      dsimp only
      rw [if_pos (trial trialEndsAt ending)]

theorem finalize_eq {trialEndsAt : Int} (trial : found.trialEndsAt = some trialEndsAt) :
    finalizeTrialTransition found.load =
      { found.load with
        trialEndsAt := .undefined
        endDate := some (found.endDate.getD (trialEndsAt + DEFAULT_BILLING_PERIOD_MS)) } := by
  have marker : found.load.trialEnd = some trialEndsAt := trial
  unfold finalizeTrialTransition
  rw [marker]
  rfl

theorem read_finalised (newest : findActive rows userId = some found)
    (runs : ¬Overdue now found) {trialEndsAt : Int}
    (trial : found.trialEndsAt = some trialEndsAt) (elapsed : trialEndsAt ≤ now) :
    currentSubscription rows now userId =
      (saveSubscription rows (finalizeTrialTransition found.load),
        some (finalizeTrialTransition found.load)) := by
  have going : ¬hasEnded now found.load = true := fun ended => runs (hasEnded_iff.mp ended)
  have marker : found.load.trialEnd = some trialEndsAt := trial
  unfold currentSubscription readOutcome
  rw [newest]
  dsimp only
  rw [if_neg going, marker]
  dsimp only
  rw [if_neg (Int.not_lt.mpr elapsed)]

theorem finalize_write (ending : found.endDate = some endDate) :
    (finalizeTrialTransition found.load).write found = found := by
  cases trial : found.trialEndsAt with
  | none =>
      have marker : found.load.trialEnd = none := trial
      unfold finalizeTrialTransition
      rw [marker]
      rfl
  | some trialEndsAt =>
      rw [finalize_eq trial, ending]
      cases found
      cases ending
      rfl

theorem finalize_id : (finalizeTrialTransition found.load).id = found.id := by
  unfold finalizeTrialTransition
  split
  · rfl
  · rfl

theorem read_keeps (distinct : (rows.map Subscription.id).Nodup)
    (newest : findActive rows userId = some found) (ending : found.endDate = some endDate)
    (runs : now ≤ endDate) :
    (currentSubscription rows now userId).1 = rows := by
  have going := not_overdue_before ending runs
  by_cases elapsed : ∃ trialEndsAt, found.trialEndsAt = some trialEndsAt ∧ trialEndsAt ≤ now
  · obtain ⟨trialEndsAt, trial, passed⟩ := elapsed
    rw [read_finalised newest going trial passed]
    exact saveSubscription_same distinct (findActive_mem newest).1 finalize_id
      (finalize_write ending)
  · rw [read_current newest going]
    intro trialEndsAt trial
    exact Int.not_le.mp fun passed => elapsed ⟨trialEndsAt, trial, passed⟩

theorem getUserSubscription_named (named : userId ≠ "") :
    getUserSubscription rows now userId =
      ((currentSubscription rows now userId).1, .ok (currentSubscription rows now userId).2) := by
  unfold getUserSubscription validateRequired
  rw [if_neg named]

theorem afterReads_keeps (named : userId ≠ "") (holds : List Subscription → Prop)
    (kept : ∀ table read, read ≤ now → holds table →
      holds (currentSubscription table read userId).1)
    (reads : List Int) (before : ∀ read ∈ reads, read ≤ now) (initially : holds rows) :
    holds (afterReads rows userId reads) := by
  unfold afterReads
  induction reads generalizing rows with
  | nil => exact initially
  | cons read later ih =>
      rw [List.foldl_cons, getUserSubscription_named named]
      apply ih fun other member => before other (List.mem_cons_of_mem _ member)
      exact kept rows read (before read List.mem_cons_self) initially

end Reads

/-! ### Where reads do not matter -/

section Independence

variable {rows : List Subscription} {userId : String} {now : Int} {found : Subscription}

theorem reported_named (named : userId ≠ "") :
    reported rows now userId = .ok (currentSubscription rows now userId).2 := by
  unfold reported
  rw [getUserSubscription_named named]

theorem unnamed_independent : HistoryIndependent rows "" now := by
  intro reads _ _
  rfl

theorem unchanged_independent (named : userId ≠ "")
    (kept : ∀ read, read ≤ now → (currentSubscription rows read userId).1 = rows) :
    HistoryIndependent rows userId now := by
  intro reads _ before
  have same : afterReads rows userId reads = rows := by
    apply afterReads_keeps named (fun table => table = rows) _ reads before rfl
    intro table read past equal
    subst equal
    exact kept read past
  rw [same]

theorem endless_independent (named : userId ≠ "") (newest : findActive rows userId = some found)
    (endless : found.endDate = none)
    (trial : ∀ trialEndsAt, found.trialEndsAt = some trialEndsAt → now < trialEndsAt) :
    HistoryIndependent rows userId now := by
  apply unchanged_independent named
  intro read past
  rw [read_current newest (not_overdue_endless endless)]
  exact fun trialEndsAt ending => Int.lt_of_le_of_lt past (trial trialEndsAt ending)

def billed (found : Subscription) : Subscription := (finalizeTrialTransition found.load).write found

variable {trialEndsAt : Int}

theorem billed_endDate (endless : found.endDate = none)
    (trial : found.trialEndsAt = some trialEndsAt) :
    (billed found).endDate = some (trialEndsAt + DEFAULT_BILLING_PERIOD_MS) := by
  unfold billed
  rw [finalize_eq trial, endless]
  rfl

theorem billed_trialEndsAt (trial : found.trialEndsAt = some trialEndsAt) :
    (billed found).trialEndsAt = some trialEndsAt := by
  unfold billed
  rw [finalize_eq trial]
  exact trial

theorem billed_finalize (endless : found.endDate = none)
    (trial : found.trialEndsAt = some trialEndsAt) :
    finalizeTrialTransition (billed found).load = finalizeTrialTransition found.load := by
  rw [finalize_eq (billed_trialEndsAt trial), billed_endDate endless trial, finalize_eq trial,
    endless]
  unfold billed
  rw [finalize_eq trial, endless]
  rfl

theorem billed_newest (distinct : (rows.map Subscription.id).Nodup)
    (newest : findActive rows userId = some found) (trial : found.trialEndsAt = some trialEndsAt) :
    findActive (saveSubscription rows (finalizeTrialTransition found.load)) userId =
      some (billed found) := by
  have active := (findActive_mem newest).2
  unfold isActiveOf at active
  rw [Bool.and_eq_true, decide_eq_true_eq, decide_eq_true_eq] at active
  apply findActive_save distinct newest finalize_id
  · rw [finalize_eq trial]
    exact active.1
  · rw [finalize_eq trial]
    exact active.2

theorem trial_independent (named : userId ≠ "") (distinct : (rows.map Subscription.id).Nodup)
    (newest : findActive rows userId = some found) (endless : found.endDate = none)
    (trial : found.trialEndsAt = some trialEndsAt) (elapsed : trialEndsAt ≤ now)
    (within : now ≤ trialEndsAt + DEFAULT_BILLING_PERIOD_MS) :
    HistoryIndependent rows userId now := by
  intro reads _ before
  have going : ∀ read, ¬Overdue read found := fun read => not_overdue_endless endless
  have next := billed_newest distinct newest trial
  have ids := saveSubscription_ids rows (finalizeTrialTransition found.load)
  have reached : afterReads rows userId reads = rows ∨ afterReads rows userId reads =
      saveSubscription rows (finalizeTrialTransition found.load) := by
    apply afterReads_keeps named (fun table => table = rows ∨ table =
      saveSubscription rows (finalizeTrialTransition found.load)) _ reads before (Or.inl rfl)
    intro table read past reached
    rcases reached with same | same
    · rw [same]
      by_cases passed : trialEndsAt ≤ read
      · rw [read_finalised newest (going read) trial passed]
        exact Or.inr rfl
      · apply Or.inl
        rw [read_current newest (going read)]
        intro other stored
        cases trial.symm.trans stored
        exact Int.not_le.mp passed
    · rw [same]
      exact Or.inr (read_keeps (ids ▸ distinct) next (billed_endDate endless trial)
        (Int.le_trans past within))
  rw [reported_named named, reported_named named, read_finalised newest (going now) trial elapsed]
  rcases reached with same | same
  · rw [same, read_finalised newest (going now) trial elapsed]
  · have runs := not_overdue_before (billed_endDate endless trial) within
    rw [same, read_finalised next runs (billed_trialEndsAt trial) elapsed,
      billed_finalize endless trial]

theorem active_expiry {row : Subscription}
    (member : row ∈ saveSubscription rows (expiry found))
    (active : isActiveOf userId row = true) : row ∈ rows ∧ row.id ≠ found.id := by
  obtain ⟨old, present, same⟩ := List.mem_map.mp member
  split at same
  · subst same
    unfold isActiveOf at active
    rw [Bool.and_eq_true, decide_eq_true_eq, decide_eq_true_eq] at active
    cases active.2
  · rename_i other
    exact same ▸ ⟨present, other⟩

theorem overdue_independent (named : userId ≠ "") (distinct : (rows.map Subscription.id).Nodup)
    (overdue : ∀ row ∈ rows, isActiveOf userId row = true → Overdue now row) :
    HistoryIndependent rows userId now := by
  intro reads _ before
  have silent : ∀ table : List Subscription,
      (∀ row ∈ table, isActiveOf userId row = true → Overdue now row) →
      (currentSubscription table now userId).2 = none := by
    intro table all
    cases newest : findActive table userId with
    | none =>
        unfold currentSubscription
        rw [newest]
    | some found =>
        obtain ⟨member, active⟩ := findActive_mem newest
        rw [read_overdue newest (all found member active)]
  have kept : (afterReads rows userId reads |>.map Subscription.id).Nodup ∧
      ∀ row ∈ afterReads rows userId reads, isActiveOf userId row = true → Overdue now row := by
    apply afterReads_keeps named (fun table => (table.map Subscription.id).Nodup ∧
      ∀ row ∈ table, isActiveOf userId row = true → Overdue now row) _ reads before
      ⟨distinct, overdue⟩
    intro table read past holds
    obtain ⟨ids, all⟩ := holds
    cases newest : findActive table userId with
    | none =>
        unfold currentSubscription
        rw [newest]
        exact ⟨ids, all⟩
    | some found =>
        obtain ⟨member, active⟩ := findActive_mem newest
        obtain ⟨endDate, stored, _⟩ := all found member active
        by_cases ended : Overdue read found
        · rw [read_overdue newest ended]
          refine ⟨(saveSubscription_ids table (expiry found)).symm ▸ ids, ?_⟩
          intro row listed rowActive
          exact all row (active_expiry listed rowActive).1 rowActive
        · have runs : read ≤ endDate := by
            apply Int.not_lt.mp
            exact fun passed => ended ⟨endDate, stored, passed⟩
          rw [read_keeps ids newest stored runs]
          exact ⟨ids, all⟩
  rw [reported_named named, reported_named named, silent rows overdue, silent _ kept.2]

end Independence

/-! ### Where they do -/

section Dependence

variable {rows : List Subscription} {userId : String} {now : Int} {found : Subscription}

theorem read_running (newest : findActive rows userId = some found) (runs : ¬Overdue now found) :
    (currentSubscription rows now userId).2 ≠ none := by
  by_cases elapsed : ∃ trialEndsAt, found.trialEndsAt = some trialEndsAt ∧ trialEndsAt ≤ now
  · obtain ⟨trialEndsAt, trial, passed⟩ := elapsed
    rw [read_finalised newest runs trial passed]
    exact Option.some_ne_none _
  · rw [read_current newest runs]
    · exact Option.some_ne_none _
    · intro trialEndsAt trial
      exact Int.not_le.mp fun passed => elapsed ⟨trialEndsAt, trial, passed⟩

theorem expiry_fewer (newest : findActive rows userId = some found)
    (distinct : (rows.map Subscription.id).Nodup) :
    ((saveSubscription rows (expiry found)).filter (isActiveOf userId)).length <
      (rows.filter (isActiveOf userId)).length := by
  obtain ⟨member, active⟩ := findActive_mem newest
  have chosen : ∀ row ∈ rows, (isActiveOf userId ∘ fun row =>
      if row = found then (expiry found).write found else row) row =
        (decide (row ≠ found) && isActiveOf userId row) := by
    intro row _
    by_cases same : row = found
    · have closed : isActiveOf userId ((expiry found).write found) = false := by
        unfold isActiveOf
        exact Bool.and_eq_false_iff.mpr (Or.inr rfl)
      rw [Function.comp_apply, if_pos same, closed, decide_eq_false (not_not_intro same),
        Bool.false_and]
    · rw [Function.comp_apply, if_neg same, decide_eq_true same, Bool.true_and]
  have expiryNamed : (expiry found).id = found.id := rfl
  rw [saveSubscription_found distinct member expiryNamed, List.filter_map, List.length_map,
    List.filter_congr chosen, ← List.filter_filter]
  apply List.length_filter_lt_length_iff_exists.mpr
  refine ⟨found, List.mem_filter.mpr ⟨member, active⟩, ?_⟩
  rw [decide_eq_true_eq]
  exact not_not_intro rfl

theorem reads_reach (named : userId ≠ "") (distinct : (rows.map Subscription.id).Nodup)
    {row : Subscription} (member : row ∈ rows) (active : isActiveOf userId row = true)
    (runs : ¬Overdue now row) :
    ∃ count : Nat,
      (currentSubscription (afterReads rows userId (List.replicate count now)) now userId).2 ≠
        none := by
  induction size : (rows.filter (isActiveOf userId)).length using Nat.strongRecOn
    generalizing rows with
  | ind size ih =>
      cases newest : findActive rows userId with
      | none =>
          rw [findActive_none newest member] at active
          cases active
      | some found =>
          by_cases overdue : Overdue now found
          · have different : row.id ≠ found.id := by
              intro same
              have equal := List.inj_on_of_nodup_map distinct member
                (findActive_mem newest).1 same
              exact runs (equal ▸ overdue)
            have stays : row ∈ saveSubscription rows (expiry found) :=
              List.mem_map.mpr ⟨row, member, if_neg different⟩
            have fewer := expiry_fewer newest distinct
            have ids := saveSubscription_ids rows (expiry found)
            obtain ⟨count, answered⟩ := ih _ (size ▸ fewer) (ids ▸ distinct) stays rfl
            refine ⟨count + 1, ?_⟩
            have first : afterReads rows userId (List.replicate (count + 1) now) =
                afterReads (saveSubscription rows (expiry found)) userId
                  (List.replicate count now) := by
              unfold afterReads
              rw [List.replicate_succ, List.foldl_cons, getUserSubscription_named named,
                read_overdue newest overdue]
            rw [first]
            exact answered
          · exact ⟨0, read_running newest overdue⟩

theorem replicate_reads (count : Nat) :
    (List.replicate count now).Pairwise (· ≤ ·) ∧
      ∀ read ∈ List.replicate count now, read ≤ now := by
  refine ⟨List.pairwise_replicate.mpr (Or.inr (Int.le_refl now)), ?_⟩
  intro read member
  exact Int.le_of_eq (List.eq_of_mem_replicate member)

section

variable (named : userId ≠ "") (distinct : (rows.map Subscription.id).Nodup)
  (newest : findActive rows userId = some found)
include named distinct newest

theorem overdue_dependent (overdue : Overdue now found)
    (independent : HistoryIndependent rows userId now) {row : Subscription} (member : row ∈ rows)
    (active : isActiveOf userId row = true) : Overdue now row := by
  by_contra runs
  obtain ⟨count, answered⟩ := reads_reach named distinct member active runs
  have ordered := @replicate_reads now count
  have same := independent _ ordered.1 ordered.2
  rw [reported_named named, reported_named named, read_overdue newest overdue] at same
  exact answered (Except.ok.inj same)

theorem trial_dependent (endless : found.endDate = none) {trialEndsAt : Int}
    (trial : found.trialEndsAt = some trialEndsAt)
    (late : trialEndsAt + DEFAULT_BILLING_PERIOD_MS < now) :
    ¬HistoryIndependent rows userId now := by
  intro independent
  have going : ¬Overdue now found := not_overdue_endless endless
  have elapsed : trialEndsAt ≤ now := by
    unfold DEFAULT_BILLING_PERIOD_MS at late
    omega
  have ordered := @replicate_reads now 1
  have same := independent _ ordered.1 ordered.2
  have once : afterReads rows userId (List.replicate 1 now) =
      saveSubscription rows (finalizeTrialTransition found.load) := by
    unfold afterReads
    rw [List.replicate_one, List.foldl_cons, List.foldl_nil, getUserSubscription_named named,
      read_finalised newest going trial elapsed]
  have ended : Overdue now (billed found) := ⟨_, billed_endDate endless trial, late⟩
  rw [once, reported_named named, reported_named named,
    read_overdue (billed_newest distinct newest trial) ended,
    read_finalised newest going trial elapsed] at same
  cases same

end

/-- A read does not depend on the reads before it exactly if the newest active subscription has
not come to its end, given or stored, or if all active ones have ended. -/
theorem historyIndependent_iff (rows : List Subscription) (userId : String) (now : Int)
    (distinct : (rows.map Subscription.id).Nodup) :
    HistoryIndependent rows userId now ↔ userId = "" ∨ Settled rows userId now := by
  by_cases unnamed : userId = ""
  · subst unnamed
    exact ⟨fun _ => Or.inl rfl, fun _ => unnamed_independent⟩
  · rw [or_iff_right unnamed]
    unfold Settled
    cases newest : findActive rows userId with
    | none =>
        refine ⟨fun _ => trivial, fun _ => ?_⟩
        apply unchanged_independent unnamed
        intro read _
        unfold currentSubscription
        rw [newest]
    | some found =>
        dsimp only
        cases ending : found.endDate with
        | some endDate =>
            dsimp only
            constructor
            · intro independent
              rw [or_iff_not_imp_left]
              intro passed row member active
              exact overdue_dependent unnamed distinct newest
                ⟨endDate, ending, Int.not_le.mp passed⟩ independent member active
            · intro settled
              rcases settled with runs | overdue
              · apply unchanged_independent unnamed
                exact fun read past => read_keeps distinct newest ending (Int.le_trans past runs)
              · exact overdue_independent unnamed distinct overdue
        | none =>
            cases trial : found.trialEndsAt with
            | none =>
                refine ⟨fun _ => trivial, fun _ => ?_⟩
                apply endless_independent unnamed newest ending
                intro trialEndsAt stored
                cases trial.symm.trans stored
            | some trialEndsAt =>
                dsimp only
                constructor
                · intro independent
                  apply Int.not_lt.mp
                  exact fun late =>
                    trial_dependent unnamed distinct newest ending trial late independent
                · intro within
                  by_cases elapsed : trialEndsAt ≤ now
                  · exact trial_independent unnamed distinct newest ending trial elapsed within
                  · apply endless_independent unnamed newest ending
                    intro other stored
                    cases trial.symm.trans stored
                    exact Int.not_le.mp elapsed

end Dependence

/-! ### Trials and tiers -/

section Answers

variable {rows : List Subscription} {userId : String} {now : Int}

end Answers

/-! One trial that ended at time 0. -/

def endedTrial : Subscription where
  id := "t1"
  userId := "u1"
  tier := .artistPro
  status := .active
  startDate := -1
  endDate := none
  trialEndsAt := some 0
  createdAt := -1

/-- Read in the middle of its period. -/
theorem endedTrial_midway : HistoryIndependent [endedTrial] "u1" 1000 := by
  apply (historyIndependent_iff [endedTrial] "u1" 1000 (List.nodup_singleton _)).mpr
  have newest : findActive [endedTrial] "u1" = some endedTrial := by decide +kernel
  apply Or.inr
  unfold Settled
  rw [newest]
  change (1000 : Int) ≤ 0 + DEFAULT_BILLING_PERIOD_MS
  decide +kernel

/-- Read after its period: active with an end in the past, unless it was read before. -/
theorem endedTrial_late :
    ([endedTrial].map Subscription.id).Nodup ∧
      ¬HistoryIndependent [endedTrial] "u1" (DEFAULT_BILLING_PERIOD_MS + 1) := by
  refine ⟨List.nodup_singleton _, ?_⟩
  intro independent
  have same := independent [0] (List.pairwise_singleton _ _) (by decide)
  have answers : reported [endedTrial] (DEFAULT_BILLING_PERIOD_MS + 1) "u1" ≠
      reported (afterReads [endedTrial] "u1" [0]) (DEFAULT_BILLING_PERIOD_MS + 1) "u1" := by
    decide +kernel
  exact answers same.symm

end AudioBlock.Subscriptions
