/-
Royalty payouts and their reconciliation with on-chain events.

Amounts are texts, as the columns and the events hold them, and are compared as
texts.  The rows of `royalty_payouts` are a list with a primary key; a save
replaces the row of its key, and a property that is undefined leaves its column.
The columns of a payout that reconciliation does not read and its time stamps
are left out.
-/
import AudioBlock.Foundation.Rows
import Mathlib.Algebra.BigOperators.Group.List.Basic
import Mathlib.Algebra.Order.Group.Int
import Mathlib.Algebra.Ring.Int.Defs
import Mathlib.Data.List.Induction

namespace AudioBlock.Royalty

open AudioBlock.Foundation
open scoped List

inductive RoyaltyPayoutStatus
  | pending
  | reconciled
  | discrepancy
  deriving DecidableEq

structure RoyaltySplit where
  recipientPublicKey : String
  shareBps : Int
  expectedAmount : String
  actualAmount : Option String
  deriving DecidableEq

structure RoyaltyPayout where
  id : String
  saleEventId : String
  onChainEventId : Option String
  expectedSplits : List RoyaltySplit
  status : RoyaltyPayoutStatus
  discrepancyReason : Option String
  deriving DecidableEq

structure RoyaltyPayoutEvent where
  saleEventId : String
  onChainEventId : String
  recipientPublicKey : String
  amountStroops : String
  deriving DecidableEq

structure RoyaltyReconciliationResult where
  reconciled : List RoyaltyPayout
  discrepancies : List RoyaltyPayout

/-! ### One payout -/

def saleEventsOf (events : List RoyaltyPayoutEvent) (saleEventId : String) :
    List RoyaltyPayoutEvent :=
  events.filter fun event => decide (event.saleEventId = saleEventId)

/-- `new Map(...)` over the sale's events: a later entry replaces an earlier one. -/
def actualByRecipient (saleEvents : List RoyaltyPayoutEvent) : String → Option String :=
  saleEvents.foldl
    (fun actual event key =>
      if key = event.recipientPublicKey then some event.amountStroops else actual key)
    fun _ => none

def splitResults (saleEvents : List RoyaltyPayoutEvent) (splits : List RoyaltySplit) :
    List RoyaltySplit :=
  splits.map fun split =>
    { split with actualAmount := actualByRecipient saleEvents split.recipientPublicKey }

def missingOrMismatched (splits : List RoyaltySplit) : List RoyaltySplit :=
  splits.filter fun split => decide (split.actualAmount ≠ some split.expectedAmount)

def mismatchText (split : RoyaltySplit) : String :=
  let actual := split.actualAmount.getD ""
  split.recipientPublicKey ++ " expected " ++ split.expectedAmount ++ ", actual " ++
    if actual = "" then "missing" else actual

/-- The row that the loop of `reconcileEvents` saves for a payout. -/
def reconcilePayout (events : List RoyaltyPayoutEvent) (payout : RoyaltyPayout) : RoyaltyPayout :=
  let saleEvents := saleEventsOf events payout.saleEventId
  let splits := splitResults saleEvents payout.expectedSplits
  let mismatched := missingOrMismatched splits
  let seen :=
    { payout with
      expectedSplits := splits
      onChainEventId :=
        (saleEvents.head?.map RoyaltyPayoutEvent.onChainEventId).or payout.onChainEventId }
  if mismatched.isEmpty then { seen with status := .reconciled }
  else
    { seen with
      status := .discrepancy
      discrepancyReason := some ("; ".intercalate (mismatched.map mismatchText)) }

/-! ### All payouts of the events -/

def RoyaltyReconciliationResult.push (result : RoyaltyReconciliationResult)
    (saved : RoyaltyPayout) : RoyaltyReconciliationResult :=
  if saved.status = .reconciled then { result with reconciled := result.reconciled ++ [saved] }
  else { result with discrepancies := result.discrepancies ++ [saved] }

def reconcileNext (events : List RoyaltyPayoutEvent)
    (progress : List RoyaltyPayout × RoyaltyReconciliationResult) (payout : RoyaltyPayout) :
    List RoyaltyPayout × RoyaltyReconciliationResult :=
  (saveRow RoyaltyPayout.id (reconcilePayout events payout) progress.1,
    progress.2.push (reconcilePayout events payout))

def reconcileEvents (rows : List RoyaltyPayout) (events : List RoyaltyPayoutEvent) :
    List RoyaltyPayout × RoyaltyReconciliationResult :=
  (rows.filter fun row => decide (row.saleEventId ∈ events.map RoyaltyPayoutEvent.saleEventId)).foldl
    (reconcileNext events) (rows, { reconciled := [], discrepancies := [] })

/-! ### What a call leaves in a row -/

def reconcileRow (events : List RoyaltyPayoutEvent) (row : RoyaltyPayout) : RoyaltyPayout :=
  if saleEventsOf events row.saleEventId = [] then row else reconcilePayout events row

variable (events : List RoyaltyPayoutEvent) (payout : RoyaltyPayout)

theorem reconcilePayout_id :
    (reconcilePayout events payout).id = payout.id := by
  unfold reconcilePayout
  dsimp only
  split
  · rfl
  · rfl

theorem reconcileRow_id (row : RoyaltyPayout) :
    (reconcileRow events row).id = row.id := by
  unfold reconcileRow
  split
  · rfl
  · exact reconcilePayout_id events row

theorem mem_saleIds_iff (saleEventId : String) :
    saleEventId ∈ events.map RoyaltyPayoutEvent.saleEventId ↔
      saleEventsOf events saleEventId ≠ [] := by
  unfold saleEventsOf
  rw [Ne, List.filter_eq_nil_iff]
  constructor
  · intro member absent
    obtain ⟨event, present, same⟩ := List.mem_map.mp member
    exact absent event present (decide_eq_true same)
  · intro some
    by_contra missing
    apply some
    intro event present same
    exact missing (List.mem_map.mpr ⟨event, present, of_decide_eq_true same⟩)

theorem foldl_reconcileNext (payouts : List RoyaltyPayout)
    (progress : List RoyaltyPayout × RoyaltyReconciliationResult) :
    (payouts.foldl (reconcileNext events) progress).1 =
      payouts.foldl
        (fun rows payout => saveRow RoyaltyPayout.id (reconcilePayout events payout) rows)
        progress.1 := by
  induction payouts generalizing progress with
  | nil => rfl
  | cons payout rest ih =>
      rw [List.foldl_cons, List.foldl_cons]
      exact ih _

theorem reconcileEvents_rows (rows : List RoyaltyPayout)
    (distinct : (rows.map RoyaltyPayout.id).Nodup) :
    (reconcileEvents rows events).1 = rows.map (reconcileRow events) := by
  unfold reconcileEvents
  rw [foldl_reconcileNext, foldl_saveRow_filter (reconcilePayout events)
    (reconcilePayout_id events) _ _ distinct]
  apply List.map_congr_left
  intro row _
  unfold reconcileRow
  by_cases touched : saleEventsOf events row.saleEventId = []
  · have untouched := fun member => (mem_saleIds_iff events row.saleEventId).mp member touched
    rw [if_pos touched, if_neg (by simpa using untouched)]
  · have member := (mem_saleIds_iff events row.saleEventId).mpr touched
    rw [if_neg touched, if_pos (decide_eq_true member)]

/-! ### The verdict -/

section Verdict

variable (saleEvents : List RoyaltyPayoutEvent)

def eventsTo (key : String) : List RoyaltyPayoutEvent :=
  saleEvents.filter fun event => decide (event.recipientPublicKey = key)

theorem actualByRecipient_eq (key : String) :
    actualByRecipient saleEvents key =
      (eventsTo saleEvents key).getLast?.map RoyaltyPayoutEvent.amountStroops := by
  unfold actualByRecipient eventsTo
  induction saleEvents using List.reverseRecOn with
  | nil => rfl
  | append_singleton earlier last ih =>
      rw [List.foldl_append, List.filter_append]
      by_cases own : last.recipientPublicKey = key
      · simp only [List.foldl_cons, List.foldl_nil, own, if_true, decide_true, List.filter_cons_of_pos,
          List.filter_nil, List.getLast?_append, List.getLast?_singleton, Option.some_or,
          Option.map_some]
      · have foreign : ¬key = last.recipientPublicKey := fun same => own same.symm
        rw [List.filter_cons_of_neg (by simpa using own), List.filter_nil, List.append_nil, ← ih]
        simp only [List.foldl_cons, List.foldl_nil, if_neg foreign]

def Matches (splits : List RoyaltySplit) : Prop :=
  ∀ split ∈ splits,
    actualByRecipient saleEvents split.recipientPublicKey = some split.expectedAmount

instance (splits : List RoyaltySplit) : Decidable (Matches saleEvents splits) :=
  inferInstanceAs (Decidable (∀ split ∈ splits, _))

theorem missingOrMismatched_isEmpty (splits : List RoyaltySplit) :
    (missingOrMismatched (splitResults saleEvents splits)).isEmpty = true ↔
      Matches saleEvents splits := by
  unfold missingOrMismatched splitResults Matches
  rw [List.isEmpty_iff, List.filter_eq_nil_iff, List.forall_mem_map]
  simp only [ne_eq, decide_not, Bool.not_eq_true', decide_eq_false_iff_not, not_not]

end Verdict

theorem reconcilePayout_reconciled :
    (reconcilePayout events payout).status = .reconciled ↔
      Matches (saleEventsOf events payout.saleEventId) payout.expectedSplits := by
  rw [← missingOrMismatched_isEmpty]
  unfold reconcilePayout
  dsimp only
  split
  · rename_i settled
    exact ⟨fun _ => settled, fun _ => rfl⟩
  · rename_i differing
    exact ⟨fun impossible => (nomatch impossible), fun settled => absurd settled differing⟩

theorem reconcilePayout_discrepancy :
    (reconcilePayout events payout).status = .discrepancy ↔
      ¬Matches (saleEventsOf events payout.saleEventId) payout.expectedSplits := by
  rw [← missingOrMismatched_isEmpty]
  unfold reconcilePayout
  dsimp only
  split
  · rename_i settled
    exact ⟨fun impossible => (nomatch impossible), fun differing => absurd settled differing⟩
  · rename_i differing
    exact ⟨fun _ => differing, fun _ => rfl⟩

/-!
### Totals of the recipients

A payout and its sale are balanced where, for every recipient, the on-chain
amounts total the expected ones.  The code compares each split with the last
event of its recipient.  What it overlooks are a recipient's earlier events, its
further splits, and the events of recipients that have no split.
-/

def readDecimal (digits : List Char) : Int :=
  digits.foldl (fun value digit => value * 10 + ((digit.toNat : Int) - 48)) 0

/-- The number that the text of an amount writes. -/
def stroops (text : String) : Int :=
  match text.toList with
  | '-' :: digits => -readDecimal digits
  | digits => readDecimal digits

example : stroops "12500000" = 12500000 := by decide

def totalActual (events : List RoyaltyPayoutEvent) : Int :=
  (events.map fun event => stroops event.amountStroops).sum

def totalExpected (splits : List RoyaltySplit) : Int :=
  (splits.map fun split => stroops split.expectedAmount).sum

def splitsTo (splits : List RoyaltySplit) (key : String) : List RoyaltySplit :=
  splits.filter fun split => decide (split.recipientPublicKey = key)

section Sides

variable (saleEvents : List RoyaltyPayoutEvent) (splits : List RoyaltySplit)

/-- For every recipient the amounts total the same on both sides. -/
def Balanced : Prop :=
  ∀ key, totalActual (eventsTo saleEvents key) = totalExpected (splitsTo splits key)

def compared (key : String) : Int :=
  match splitsTo splits key with
  | [] => 0
  | split :: _ =>
      stroops split.expectedAmount - ((actualByRecipient saleEvents key).map stroops).getD 0

/-- What the comparison does not see of a recipient's amounts. -/
def overlooked (key : String) : Int :=
  match splitsTo splits key with
  | [] => totalActual (eventsTo saleEvents key)
  | _ :: further =>
      totalActual (eventsTo saleEvents key).dropLast - totalExpected further

/-- What is overlooked changes no verdict: nothing is left where the comparison
succeeds, and it does not make up for the differences where it fails. -/
def OverlooksNothing : Prop :=
  if Matches saleEvents splits then ∀ key, overlooked saleEvents splits key = 0
  else ∃ key, overlooked saleEvents splits key ≠ compared saleEvents splits key

theorem totalActual_last (events : List RoyaltyPayoutEvent) :
    totalActual events =
      totalActual events.dropLast +
        ((events.getLast?.map RoyaltyPayoutEvent.amountStroops).map stroops).getD 0 := by
  induction events using List.reverseRecOn with
  | nil => rfl
  | append_singleton earlier last ih =>
      rw [List.dropLast_concat, List.getLast?_concat]
      unfold totalActual
      rw [List.map_append, List.sum_append]
      simp only [List.map_cons, List.map_nil, List.sum_cons, List.sum_nil, Option.map_some,
        Option.getD_some, add_zero]

theorem balanced_at_iff (key : String) :
    totalActual (eventsTo saleEvents key) = totalExpected (splitsTo splits key) ↔
      overlooked saleEvents splits key = compared saleEvents splits key := by
  unfold overlooked compared
  cases own : splitsTo splits key with
  | nil => exact Iff.rfl
  | cons split further =>
      have first : totalExpected (split :: further) =
          stroops split.expectedAmount + totalExpected further := List.sum_cons
      have last := totalActual_last (eventsTo saleEvents key)
      rw [← actualByRecipient_eq] at last
      dsimp only
      omega

theorem Matches.compared (same : Matches saleEvents splits) (key : String) :
    compared saleEvents splits key = 0 := by
  unfold Royalty.compared
  split
  · rfl
  · rename_i split further own
    have member : split ∈ splitsTo splits key := by
      rw [own]
      exact List.mem_cons_self
    obtain ⟨present, named⟩ := List.mem_filter.mp member
    have seen := same split present
    rw [of_decide_eq_true named] at seen
    rw [seen, Option.map_some, Option.getD_some, Int.sub_self]

theorem matches_iff_balanced_iff :
    (Matches saleEvents splits ↔ Balanced saleEvents splits) ↔
      OverlooksNothing saleEvents splits := by
  have balanced : Balanced saleEvents splits ↔
      ∀ key, overlooked saleEvents splits key = compared saleEvents splits key :=
    forall_congr' (balanced_at_iff saleEvents splits)
  unfold OverlooksNothing
  rw [balanced]
  split
  · rename_i same
    rw [iff_true_left same]
    exact forall_congr' fun key => by rw [same.compared]
  · rename_i differing
    rw [iff_false_left differing, not_forall]

theorem filter_key_singleton {Item : Type} {name : Item → String} {items : List Item}
    (distinct : (items.map name).Nodup) {item : Item} (member : item ∈ items) :
    (items.filter fun other => decide (name other = name item)) = [item] := by
  have itemDistinct : items.Nodup := List.Nodup.of_map name distinct
  have single : (items.filter fun other => decide (name other = name item)) ~ [item] := by
    apply (List.perm_ext_iff_of_nodup (itemDistinct.filter _) (List.nodup_singleton item)).mpr
    intro other
    rw [List.mem_filter, List.mem_singleton, decide_eq_true_iff]
    constructor
    · rintro ⟨present, same⟩
      exact List.inj_on_of_nodup_map distinct present member same
    · rintro rfl
      exact ⟨member, rfl⟩
  exact List.perm_singleton.mp single

theorem overlooksNothing_of_once
    (eventsOnce : (saleEvents.map RoyaltyPayoutEvent.recipientPublicKey).Nodup)
    (splitsOnce : (splits.map RoyaltySplit.recipientPublicKey).Nodup)
    (sameKeys : ∀ key, key ∈ saleEvents.map RoyaltyPayoutEvent.recipientPublicKey ↔
      key ∈ splits.map RoyaltySplit.recipientPublicKey)
    (texts : ∀ event ∈ saleEvents, ∀ split ∈ splits,
      stroops event.amountStroops = stroops split.expectedAmount →
        event.amountStroops = split.expectedAmount) :
    OverlooksNothing saleEvents splits := by
  have paired : ∀ split ∈ splits, ∃ event ∈ saleEvents,
      eventsTo saleEvents split.recipientPublicKey = [event] ∧
        splitsTo splits split.recipientPublicKey = [split] := by
    intro split member
    obtain ⟨event, present, named⟩ :=
      List.mem_map.mp ((sameKeys split.recipientPublicKey).mpr (List.mem_map_of_mem member))
    refine ⟨event, present, ?_, filter_key_singleton splitsOnce member⟩
    rw [← named]
    exact filter_key_singleton eventsOnce present
  have nothing : ∀ key, overlooked saleEvents splits key = 0 := by
    intro key
    unfold overlooked
    cases own : splitsTo splits key with
    | nil =>
        have absent : eventsTo saleEvents key = [] := by
          rw [eventsTo, List.filter_eq_nil_iff]
          intro event present same
          have both := (sameKeys key).mp
            (List.mem_map.mpr ⟨event, present, of_decide_eq_true same⟩)
          obtain ⟨split, inSplits, named⟩ := List.mem_map.mp both
          have inOwn : split ∈ splitsTo splits key :=
            List.mem_filter.mpr ⟨inSplits, decide_eq_true named⟩
          rw [own] at inOwn
          cases inOwn
        rw [absent]
        rfl
    | cons split further =>
        have inOwn : split ∈ splitsTo splits key := by
          rw [own]
          exact List.mem_cons_self
        obtain ⟨member, named⟩ := List.mem_filter.mp inOwn
        obtain ⟨event, _, events, once⟩ := paired split member
        rw [of_decide_eq_true named] at events once
        rw [own] at once
        cases once
        dsimp only
        rw [events]
        rfl
  unfold OverlooksNothing
  split
  · exact nothing
  · rename_i differing
    obtain ⟨split, member, unequal⟩ : ∃ split ∈ splits,
        actualByRecipient saleEvents split.recipientPublicKey ≠ some split.expectedAmount := by
      simpa only [Matches, not_forall, exists_prop] using differing
    obtain ⟨event, present, events, once⟩ := paired split member
    refine ⟨split.recipientPublicKey, ?_⟩
    rw [nothing]
    unfold compared
    rw [once]
    rw [actualByRecipient_eq, events] at unequal ⊢
    intro same
    apply unequal
    have equal : stroops event.amountStroops = stroops split.expectedAmount := by
      change 0 = stroops split.expectedAmount - stroops event.amountStroops at same
      omega
    exact congrArg some (texts event present split member equal)

end Sides

def expectedSplit (key amount : String) : RoyaltySplit :=
  { recipientPublicKey := key, shareBps := 5000, expectedAmount := amount, actualAmount := none }

def pendingPayout (splits : List RoyaltySplit) : RoyaltyPayout :=
  { id := "p1"
    saleEventId := "sale"
    onChainEventId := none
    expectedSplits := splits
    status := .pending
    discrepancyReason := none }

def paidEvent (key amount : String) : RoyaltyPayoutEvent :=
  { saleEventId := "sale"
    onChainEventId := "e1"
    recipientPublicKey := key
    amountStroops := amount }

def evenPayout : RoyaltyPayout := pendingPayout [expectedSplit "GA" "500", expectedSplit "GB" "500"]

end AudioBlock.Royalty
