/-
Reconciliation of events that arrive in several calls.

Each call judges a payout by the events of that call alone and forgets what the
calls before it have seen.  So what a payout ends with depends only on the last
call that had events of its sale, and that call may have been given any of them.
-/
import AudioBlock.Royalty.Reconciliation

namespace AudioBlock.Royalty

open AudioBlock.Foundation
open scoped List

/-- Successive calls of `reconcileEvents`. -/
def reconcileBatches (rows : List RoyaltyPayout) (batches : List (List RoyaltyPayoutEvent)) :
    List RoyaltyPayout :=
  batches.foldl (fun table events => (reconcileEvents table events).1) rows

def settleRow (row : RoyaltyPayout) (batches : List (List RoyaltyPayoutEvent)) : RoyaltyPayout :=
  batches.foldl (fun settled events => reconcileRow events settled) row

def RoyaltyPayout.outcome (row : RoyaltyPayout) : RoyaltyPayoutStatus × List (Option String) :=
  (row.status, row.expectedSplits.map RoyaltySplit.actualAmount)

def outcomeOf (rows : List RoyaltyPayout) (id : String) :
    Option (RoyaltyPayoutStatus × List (Option String)) :=
  (findRow RoyaltyPayout.id id rows).map RoyaltyPayout.outcome

def statusOf (rows : List RoyaltyPayout) (id : String) : Option RoyaltyPayoutStatus :=
  (findRow RoyaltyPayout.id id rows).map RoyaltyPayout.status

/-- However the events are ordered and cut into calls, the payout ends the same,
and once it is reconciled it stays so. -/
def BatchIndependent (rows : List RoyaltyPayout) (events : List RoyaltyPayoutEvent)
    (id : String) : Prop :=
  (∀ first second, first.flatten ~ events → second.flatten ~ events →
    outcomeOf (reconcileBatches rows first) id = outcomeOf (reconcileBatches rows second) id) ∧
  ∀ earlier later, (earlier ++ later).flatten ~ events →
    statusOf (reconcileBatches rows earlier) id = some .reconciled →
      statusOf (reconcileBatches rows (earlier ++ later)) id = some .reconciled

structure Interchangeable (saleEvents : List RoyaltyPayoutEvent) (row : RoyaltyPayout) : Prop where
  agree : ∀ event ∈ saleEvents, ∀ other ∈ saleEvents, ∀ split ∈ row.expectedSplits,
    event.recipientPublicKey = split.recipientPublicKey →
      other.recipientPublicKey = split.recipientPublicKey ∧
        other.amountStroops = event.amountStroops
  settled : row.status = .reconciled → ∀ event ∈ saleEvents, ∀ split ∈ row.expectedSplits,
    event.recipientPublicKey = split.recipientPublicKey ∧
      event.amountStroops = split.expectedAmount

/-! ### Rows settle by themselves -/

variable (events : List RoyaltyPayoutEvent) (batches : List (List RoyaltyPayoutEvent))

theorem reconcileBatches_rows (rows : List RoyaltyPayout)
    (distinct : (rows.map RoyaltyPayout.id).Nodup) :
    reconcileBatches rows batches = rows.map fun row => settleRow row batches := by
  induction batches generalizing rows with
  | nil => exact (List.map_id rows).symm
  | cons events rest ih =>
      have kept : (rows.map (reconcileRow events)).map RoyaltyPayout.id =
          rows.map RoyaltyPayout.id := by
        rw [List.map_map]
        exact List.map_congr_left fun row _ => reconcileRow_id events row
      change reconcileBatches (reconcileEvents rows events).1 rest = _
      rw [reconcileEvents_rows events rows distinct, ih _ (kept.symm ▸ distinct), List.map_map]
      rfl

theorem settleRow_id (row : RoyaltyPayout) (batches : List (List RoyaltyPayoutEvent)) :
    (settleRow row batches).id = row.id := by
  induction batches generalizing row with
  | nil => rfl
  | cons events rest ih => exact (ih _).trans (reconcileRow_id events row)

variable {row : RoyaltyPayout} {first second saleEvents : List RoyaltyPayoutEvent}

theorem findRow_reconcileBatches {rows : List RoyaltyPayout}
    (distinct : (rows.map RoyaltyPayout.id).Nodup) (member : row ∈ rows) :
    findRow RoyaltyPayout.id row.id (reconcileBatches rows batches) =
      some (settleRow row batches) := by
  rw [reconcileBatches_rows batches rows distinct, findRow_map _ fun other => settleRow_id other batches,
    findRow_of_mem distinct member, Option.map_some]

/-! ### The verdict of one call -/

def RoyaltyPayout.demands (row : RoyaltyPayout) : List (String × String) :=
  row.expectedSplits.map fun split => (split.recipientPublicKey, split.expectedAmount)

def verdict (saleEvents : List RoyaltyPayoutEvent) (demands : List (String × String)) :
    RoyaltyPayoutStatus × List (Option String) :=
  (if ∀ demand ∈ demands, actualByRecipient saleEvents demand.1 = some demand.2 then .reconciled
    else .discrepancy,
    demands.map fun demand => actualByRecipient saleEvents demand.1)

theorem matches_demands (saleEvents : List RoyaltyPayoutEvent) (row : RoyaltyPayout) :
    Matches saleEvents row.expectedSplits ↔
      ∀ demand ∈ row.demands, actualByRecipient saleEvents demand.1 = some demand.2 := by
  unfold RoyaltyPayout.demands
  rw [List.forall_mem_map]
  exact Iff.rfl

theorem reconcilePayout_sale (row : RoyaltyPayout) :
    (reconcilePayout events row).saleEventId = row.saleEventId := by
  unfold reconcilePayout
  dsimp only
  split
  · rfl
  · rfl

theorem reconcilePayout_splits (row : RoyaltyPayout) :
    (reconcilePayout events row).expectedSplits =
      splitResults (saleEventsOf events row.saleEventId) row.expectedSplits := by
  unfold reconcilePayout
  dsimp only
  split
  · rfl
  · rfl

theorem reconcilePayout_demands (row : RoyaltyPayout) :
    (reconcilePayout events row).demands = row.demands := by
  unfold RoyaltyPayout.demands
  rw [reconcilePayout_splits, splitResults, List.map_map]
  rfl

theorem reconcilePayout_outcome (row : RoyaltyPayout) :
    (reconcilePayout events row).outcome =
      verdict (saleEventsOf events row.saleEventId) row.demands := by
  unfold RoyaltyPayout.outcome verdict
  have amounts : (reconcilePayout events row).expectedSplits.map RoyaltySplit.actualAmount =
      row.demands.map fun demand =>
        actualByRecipient (saleEventsOf events row.saleEventId) demand.1 := by
    rw [reconcilePayout_splits, splitResults, RoyaltyPayout.demands, List.map_map, List.map_map]
    rfl
  rw [amounts]
  split
  · rename_i same
    rw [(reconcilePayout_reconciled events row).mpr ((matches_demands _ row).mpr same)]
  · rename_i differing
    rw [(reconcilePayout_discrepancy events row).mpr
      fun same => differing ((matches_demands _ row).mp same)]

theorem verdict_congr {demands : List (String × String)}
    (same : ∀ demand ∈ demands,
      actualByRecipient first demand.1 = actualByRecipient second demand.1) :
    verdict first demands = verdict second demands := by
  have matching : (∀ demand ∈ demands, actualByRecipient first demand.1 = some demand.2) ↔
      ∀ demand ∈ demands, actualByRecipient second demand.1 = some demand.2 :=
    forall₂_congr fun demand member => by rw [same demand member]
  have amounts : demands.map (fun demand => actualByRecipient first demand.1) =
      demands.map fun demand => actualByRecipient second demand.1 := List.map_congr_left same
  unfold verdict
  rw [amounts]
  simp only [matching]

/-! ### Interchangeable events -/

section

variable (same : Interchangeable saleEvents row)
include same

theorem Interchangeable.actual {seen : List RoyaltyPayoutEvent}
    (among : ∀ event ∈ seen, event ∈ saleEvents) {event : RoyaltyPayoutEvent}
    (member : event ∈ seen) {split : RoyaltySplit} (asked : split ∈ row.expectedSplits) :
    actualByRecipient seen split.recipientPublicKey =
      if event.recipientPublicKey = split.recipientPublicKey then some event.amountStroops
      else none := by
  rw [actualByRecipient_eq]
  by_cases own : event.recipientPublicKey = split.recipientPublicKey
  · have all : eventsTo seen split.recipientPublicKey = seen := by
      apply List.filter_eq_self.mpr
      intro other inSeen
      exact decide_eq_true
        (same.agree event (among event member) other (among other inSeen) split asked own).1
    rw [if_pos own, all]
    obtain ⟨last, ends⟩ : ∃ last, seen.getLast? = some last :=
      ⟨_, List.getLast?_eq_some_getLast (List.ne_nil_of_mem member)⟩
    have inSeen := List.mem_of_getLast? ends
    rw [ends, Option.map_some,
      (same.agree event (among event member) last (among last inSeen) split asked own).2]
  · have nobody : eventsTo seen split.recipientPublicKey = [] := by
      apply List.filter_eq_nil_iff.mpr
      intro other inSeen named
      have pays := same.agree other (among other inSeen) event (among event member) split asked
        (of_decide_eq_true named)
      exact own pays.1
    rw [if_neg own, nobody]
    rfl

theorem Interchangeable.verdict_eq {seen : List RoyaltyPayoutEvent}
    (among : ∀ event ∈ seen, event ∈ saleEvents) (some : seen ≠ []) :
    verdict seen row.demands = verdict saleEvents row.demands := by
  obtain ⟨event, member⟩ := List.exists_mem_of_ne_nil seen some
  apply verdict_congr
  intro demand demanded
  obtain ⟨split, asked, rfl⟩ := List.mem_map.mp demanded
  dsimp only
  rw [same.actual among member asked, same.actual (fun _ => id) (among event member) asked]

theorem Interchangeable.settleRow_outcome (batches : List (List RoyaltyPayoutEvent))
    (among : ∀ batch ∈ batches, ∀ event ∈ saleEventsOf batch row.saleEventId, event ∈ saleEvents)
    (other : RoyaltyPayout) (sale : other.saleEventId = row.saleEventId)
    (demands : other.demands = row.demands) :
    (settleRow other batches).outcome =
      if saleEventsOf batches.flatten row.saleEventId = [] then other.outcome
      else verdict saleEvents row.demands := by
  induction batches generalizing other with
  | nil => rfl
  | cons batch rest ih =>
      have later : ∀ next ∈ rest, ∀ event ∈ saleEventsOf next row.saleEventId,
          event ∈ saleEvents := fun next member => among next (List.mem_cons_of_mem _ member)
      have split : saleEventsOf (batch :: rest).flatten row.saleEventId =
          saleEventsOf batch row.saleEventId ++ saleEventsOf rest.flatten row.saleEventId :=
        List.filter_append _ _
      change (settleRow (reconcileRow batch other) rest).outcome = _
      unfold reconcileRow
      rw [sale]
      by_cases idle : saleEventsOf batch row.saleEventId = []
      · rw [if_pos idle, ih later other sale demands, split, idle, List.nil_append]
      · have judged : (reconcilePayout batch other).outcome = verdict saleEvents row.demands := by
          rw [reconcilePayout_outcome, sale, demands]
          exact same.verdict_eq (among batch List.mem_cons_self) idle
        have touched : saleEventsOf (batch :: rest).flatten row.saleEventId ≠ [] := by
          rw [split]
          exact fun none => idle (List.append_eq_nil_iff.mp none).1
        rw [if_neg idle, if_neg touched,
          ih later _ ((reconcilePayout_sale batch other).trans sale)
            ((reconcilePayout_demands batch other).trans demands), judged, ite_self]

end

/-! ### Both directions -/

theorem saleEventsOf_perm (same : first ~ second) (saleEventId : String) :
    saleEventsOf first saleEventId ~ saleEventsOf second saleEventId :=
  same.filter _

theorem mem_of_batch {batches : List (List RoyaltyPayoutEvent)} {events : List RoyaltyPayoutEvent}
    (same : batches.flatten ~ events) (saleEventId : String) :
    ∀ batch ∈ batches, ∀ event ∈ saleEventsOf batch saleEventId,
      event ∈ saleEventsOf events saleEventId := by
  intro batch inBatches event member
  obtain ⟨inBatch, named⟩ := List.mem_filter.mp member
  have whole := List.mem_flatten.mpr ⟨batch, inBatches, inBatch⟩
  exact List.mem_filter.mpr ⟨same.mem_iff.mp whole, named⟩

section Independence

variable {rows : List RoyaltyPayout} {events : List RoyaltyPayoutEvent}
  {row : RoyaltyPayout}

theorem Interchangeable.verdict_settled (same : Interchangeable (saleEventsOf events row.saleEventId) row)
    (settled : row.status = .reconciled) (some : saleEventsOf events row.saleEventId ≠ []) :
    (verdict (saleEventsOf events row.saleEventId) row.demands).1 = .reconciled := by
  obtain ⟨event, present⟩ := List.exists_mem_of_ne_nil _ some
  apply if_pos
  intro demand demanded
  obtain ⟨split, asked, rfl⟩ := List.mem_map.mp demanded
  obtain ⟨key, amount⟩ := same.settled settled event present split asked
  dsimp only
  rw [same.actual (fun _ => id) present asked, if_pos key, amount]

theorem Interchangeable.batchIndependent (distinct : (rows.map RoyaltyPayout.id).Nodup)
    (member : row ∈ rows) (same : Interchangeable (saleEventsOf events row.saleEventId) row) :
    BatchIndependent rows events row.id := by
  have final : ∀ batches, batches.flatten ~ events →
      outcomeOf (reconcileBatches rows batches) row.id =
        some (if saleEventsOf events row.saleEventId = [] then row.outcome
          else verdict (saleEventsOf events row.saleEventId) row.demands) := by
    intro batches permuted
    have outcome := same.settleRow_outcome batches (mem_of_batch permuted _) row rfl rfl
    have touched : saleEventsOf batches.flatten row.saleEventId = [] ↔
        saleEventsOf events row.saleEventId = [] := by
      rw [← List.length_eq_zero_iff, (saleEventsOf_perm permuted _).length_eq,
        List.length_eq_zero_iff]
    simp only [touched] at outcome
    rw [outcomeOf, findRow_reconcileBatches batches distinct member, Option.map_some, outcome]
  constructor
  · intro first second isFirst isSecond
    rw [final first isFirst, final second isSecond]
  · intro earlier later permuted reconciled
    have among := mem_of_batch permuted row.saleEventId
    have before := same.settleRow_outcome earlier
      (fun batch inEarlier => among batch (List.mem_append_left _ inEarlier)) row rfl rfl
    rw [statusOf, findRow_reconcileBatches earlier distinct member, Option.map_some] at reconciled
    have status : (settleRow row earlier).outcome.1 = .reconciled := Option.some.inj reconciled
    rw [before] at status
    have after := congrArg (Option.map Prod.fst) (final _ permuted)
    rw [outcomeOf, Option.map_map, Option.map_some] at after
    refine after.trans (congrArg some ?_)
    split
    · rename_i none
      have nothing : saleEventsOf earlier.flatten row.saleEventId = [] := by
        have inside := (saleEventsOf_perm permuted row.saleEventId).length_eq
        rw [none, List.flatten_append, saleEventsOf, List.filter_append, List.length_append] at inside
        exact List.length_eq_zero_iff.mp (Nat.eq_zero_of_add_eq_zero_right inside)
      rw [if_pos nothing] at status
      exact status
    · rename_i some
      split at status
      · exact same.verdict_settled status some
      · exact status

theorem outcomeOf_last (distinct : (rows.map RoyaltyPayout.id).Nodup) (member : row ∈ rows)
    (earlier : List RoyaltyPayoutEvent) {event : RoyaltyPayoutEvent}
    (named : event.saleEventId = row.saleEventId) :
    outcomeOf (reconcileBatches rows [earlier, [event]]) row.id =
      some (verdict [event] row.demands) := by
  have own : ∀ settled : RoyaltyPayout, settled.saleEventId = row.saleEventId →
      settled.demands = row.demands →
        (reconcileRow [event] settled).outcome = verdict [event] row.demands := by
    intro settled sale demands
    have seen : saleEventsOf [event] settled.saleEventId = [event] := by
      rw [sale]
      exact List.filter_cons_of_pos (decide_eq_true named)
    rw [reconcileRow, seen, if_neg (List.cons_ne_nil _ _), reconcilePayout_outcome, seen, demands]
  rw [outcomeOf, findRow_reconcileBatches _ distinct member, Option.map_some]
  apply congrArg some
  change (reconcileRow [event] (reconcileRow earlier row)).outcome = _
  apply own
  · unfold reconcileRow
    split
    · rfl
    · exact reconcilePayout_sale earlier row
  · unfold reconcileRow
    split
    · rfl
    · exact reconcilePayout_demands earlier row

theorem actualByRecipient_singleton (event : RoyaltyPayoutEvent) (key : String) :
    actualByRecipient [event] key =
      if key = event.recipientPublicKey then some event.amountStroops else none := rfl

theorem last_perm {event : RoyaltyPayoutEvent} (member : event ∈ events) :
    [events.erase event, [event]].flatten ~ events := by
  change events.erase event ++ [event] ~ events
  exact (List.perm_append_comm).trans (List.perm_cons_erase member).symm

theorem BatchIndependent.interchangeable (distinct : (rows.map RoyaltyPayout.id).Nodup)
    (member : row ∈ rows) (independent : BatchIndependent rows events row.id) :
    Interchangeable (saleEventsOf events row.saleEventId) row := by
  obtain ⟨orders, stable⟩ := independent
  constructor
  · intro event isEvent other isOther split asked own
    obtain ⟨inEvents, named⟩ := List.mem_filter.mp isEvent
    obtain ⟨otherInEvents, otherNamed⟩ := List.mem_filter.mp isOther
    have same := orders _ _ (last_perm inEvents) (last_perm otherInEvents)
    rw [outcomeOf_last distinct member _ (of_decide_eq_true named),
      outcomeOf_last distinct member _ (of_decide_eq_true otherNamed)] at same
    have amounts := congrArg Prod.snd (Option.some.inj same)
    have demanded : (split.recipientPublicKey, split.expectedAmount) ∈ row.demands :=
      List.mem_map.mpr ⟨split, asked, rfl⟩
    have equal := List.map_inj_left.mp amounts _ demanded
    dsimp only at equal
    rw [actualByRecipient_singleton, actualByRecipient_singleton, if_pos own.symm] at equal
    split at equal
    · rename_i otherOwn
      exact ⟨otherOwn.symm, (Option.some.inj equal).symm⟩
    · cases equal
  · intro settled event isEvent split asked
    obtain ⟨inEvents, named⟩ := List.mem_filter.mp isEvent
    have before : statusOf (reconcileBatches rows []) row.id = some .reconciled := by
      rw [statusOf, findRow_reconcileBatches [] distinct member]
      exact congrArg some settled
    have after := stable [] _ (last_perm inEvents) before
    have decided := congrArg (Option.map Prod.fst)
      (outcomeOf_last distinct member (events.erase event) (of_decide_eq_true named))
    rw [outcomeOf, Option.map_map] at decided
    have judged : (verdict [event] row.demands).1 = .reconciled :=
      Option.some.inj (decided.symm.trans after)
    unfold verdict at judged
    dsimp only at judged
    split at judged
    · rename_i paid
      have own := paid _ (List.mem_map.mpr ⟨split, asked, rfl⟩)
      dsimp only at own
      rw [actualByRecipient_singleton] at own
      split at own
      · rename_i key
        exact ⟨key.symm, Option.some.inj own⟩
      · cases own
    · cases judged

/-- Ordering and cutting the events never matters to a payout exactly where its
splits cannot tell the events of its sale apart. -/
theorem reconcileBatches_independent_iff (rows : List RoyaltyPayout)
    (events : List RoyaltyPayoutEvent) (distinct : (rows.map RoyaltyPayout.id).Nodup)
    (row : RoyaltyPayout) (member : row ∈ rows) :
    BatchIndependent rows events row.id ↔
      Interchangeable (saleEventsOf events row.saleEventId) row := by
  constructor
  · exact fun independent => independent.interchangeable distinct member
  · exact fun same => same.batchIndependent distinct member

end Independence

/-! One recipient, whose event is delivered twice. -/

def solePayout : RoyaltyPayout := pendingPayout [expectedSplit "GA" "500"]

theorem reconcileBatches_independent_sole :
    BatchIndependent [solePayout] [paidEvent "GA" "500", paidEvent "GA" "500"] "p1" :=
  (reconcileBatches_independent_iff [solePayout] [paidEvent "GA" "500", paidEvent "GA" "500"]
    (by decide) solePayout List.mem_cons_self).mpr ⟨by decide, by decide⟩

/-- Two recipients are reconciled in one call and a discrepancy in two, and the
second delivery of an event undoes the first call. -/
theorem reconcileBatches_forgets :
    ¬BatchIndependent [evenPayout] [paidEvent "GA" "500", paidEvent "GB" "500"] "p1" ∧
      statusOf (reconcileBatches [evenPayout]
        [[paidEvent "GA" "500", paidEvent "GB" "500"]]) "p1" = some .reconciled ∧
      statusOf (reconcileBatches [evenPayout]
        [[paidEvent "GA" "500", paidEvent "GB" "500"], [paidEvent "GB" "500"]]) "p1" =
          some .discrepancy := by
  refine ⟨?_, by decide, by decide⟩
  intro independent
  have same := independent.1 [[paidEvent "GA" "500", paidEvent "GB" "500"]]
    [[paidEvent "GA" "500"], [paidEvent "GB" "500"]] (List.Perm.refl _) (List.Perm.refl _)
  revert same
  decide

/-! ### Starting again -/

/-- The rows that a call leaves if it breaks off after some of its payouts. -/
def interruptedRows (rows : List RoyaltyPayout) (events : List RoyaltyPayoutEvent) (saved : Nat) :
    List RoyaltyPayout :=
  (((rows.filter fun row =>
      decide (row.saleEventId ∈ events.map RoyaltyPayoutEvent.saleEventId)).take saved).foldl
    (reconcileNext events) (rows, { reconciled := [], discrepancies := [] })).1

theorem reconcilePayout_again (row : RoyaltyPayout) :
    reconcilePayout events (reconcilePayout events row) = reconcilePayout events row := by
  have splits (saleEvents : List RoyaltyPayoutEvent) : splitResults saleEvents
      (splitResults saleEvents row.expectedSplits) = splitResults saleEvents row.expectedSplits := by
    unfold splitResults
    rw [List.map_map]
    rfl
  unfold reconcilePayout
  dsimp only
  by_cases matched : (missingOrMismatched
      (splitResults (saleEventsOf events row.saleEventId) row.expectedSplits)).isEmpty = true
  · simp only [matched, if_true, splits, ← Option.or_assoc, Option.or_self]
  · simp only [matched, Bool.false_eq_true, if_false, splits, ← Option.or_assoc, Option.or_self]

/-- A call that broke off anywhere and is made again leaves what one call leaves. -/
theorem reconcileEvents_restarts (rows : List RoyaltyPayout) (saved : Nat)
    (distinct : (rows.map RoyaltyPayout.id).Nodup) :
    (reconcileEvents (interruptedRows rows events saved) events).1 =
      (reconcileEvents rows events).1 := by
  let chosen := (rows.filter fun row =>
    decide (row.saleEventId ∈ events.map RoyaltyPayoutEvent.saleEventId)).take saved
  have part : chosen.Sublist rows := (List.take_sublist _ _).trans List.filter_sublist
  have left : interruptedRows rows events saved =
      rows.map fun row => if row ∈ chosen then reconcilePayout events row else row := by
    unfold interruptedRows
    rw [foldl_reconcileNext]
    exact foldl_saveRow_mem _ (reconcilePayout_id events) _ _ distinct
      (distinct.sublist (part.map _)) fun row member => part.subset member
  have ids : (interruptedRows rows events saved).map RoyaltyPayout.id =
      rows.map RoyaltyPayout.id := by
    rw [left, List.map_map]
    apply List.map_congr_left
    intro row _
    rw [Function.comp_apply, apply_ite RoyaltyPayout.id, reconcilePayout_id, ite_self]
  rw [reconcileEvents_rows events _ (ids ▸ distinct), reconcileEvents_rows events _ distinct, left,
    List.map_map]
  apply List.map_congr_left
  intro row _
  rw [Function.comp_apply]
  split
  · rename_i member
    have named := of_decide_eq_true (List.mem_filter.mp (List.mem_of_mem_take member)).2
    have touched := (mem_saleIds_iff events row.saleEventId).mp named
    unfold reconcileRow
    rw [reconcilePayout_sale, if_neg touched, if_neg touched, reconcilePayout_again]
  · rfl

theorem reconcileEvents_restarts_sole :
    (reconcileEvents (interruptedRows [solePayout] [paidEvent "GA" "400"] 1)
      [paidEvent "GA" "400"]).1 = (reconcileEvents [solePayout] [paidEvent "GA" "400"]).1 :=
  reconcileEvents_restarts [paidEvent "GA" "400"] [solePayout] 1 (List.nodup_singleton _)

end AudioBlock.Royalty
