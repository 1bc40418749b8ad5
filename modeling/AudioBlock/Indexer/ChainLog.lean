/-
The event log of one contract as the RPC serves it in ledger-range mode.

A `ChainEvent` carries the raw response entry together with the event that the
reader normalizes it to, so a log holds readable events only.  The RPC answers
with the first `limit` events at or after the requested start ledger, in ledger
order; whether it also stops at the requested end ledger is left open.
-/

import AudioBlock.Indexer.EventReader
import AudioBlock.Foundation.PagedScan
import Mathlib.Data.List.TakeWhile

namespace AudioBlock.Indexer

open AudioBlock.Foundation

variable {ScVal Value : Type}

structure ChainEvent (scValToNative : ScVal → Option Value) where
  raw : RawEvent ScVal
  event : NormalizedContractEvent Value
  normalizes : normalizeEvent scValToNative (some raw) = some event

def ChainEvent.ledger {scValToNative : ScVal → Option Value}
    (item : ChainEvent scValToNative) : Nat := item.event.ledger

/-- The event as a page hands it on. -/
def ChainEvent.delivered {scValToNative : ScVal → Option Value}
    (contractIds : List String) (item : ChainEvent scValToNative) :
    NormalizedContractEvent Value :=
  fillContract contractIds item.event

structure EventLog (scValToNative : ScVal → Option Value) where
  events : List (ChainEvent scValToNative)
  ordered : events.Pairwise fun left right => left.ledger ≤ right.ledger

namespace EventLog

variable {scValToNative : ScVal → Option Value}

def between (log : EventLog scValToNative) (low high : Nat) :
    List (ChainEvent scValToNative) :=
  log.events.filter fun item => decide (low ≤ item.ledger) && decide (item.ledger ≤ high)

def atOrAfter (log : EventLog scValToNative) (low : Nat) : List (ChainEvent scValToNative) :=
  log.events.filter fun item => decide (low ≤ item.ledger)

def requested (log : EventLog scValToNative) (honoursEnd : Bool) (low high : Nat) :
    List (ChainEvent scValToNative) :=
  if honoursEnd then log.between low high else log.atOrAfter low

def answerRange (log : EventLog scValToNative) (honoursEnd : Bool)
    (request : GetEventsRequest) : GetEventsResponse ScVal :=
  let low := request.startLedger.getD 1
  let answer := match request.endLedger with
    | some high => log.requested honoursEnd low high
    | none => log.atOrAfter low
  { events := (answer.take request.limit).map fun item => some item.raw
    cursor := none }

/-- A reader over the log whose `n`-th request is answered only if `up n`. -/
def rangeReader (log : EventLog scValToNative) (honoursEnd : Bool) (up : Nat → Bool)
    (call : Nat) (opts : FetchEventsOptions) : Option (EventsPage Value) :=
  fetchEvents scValToNative
    (fun request => if up call then some (log.answerRange honoursEnd request) else none) opts

theorem normalize_served (items : List (ChainEvent scValToNative)) :
    (items.map fun item => some item.raw).filterMap (normalizeEvent scValToNative) =
      items.map fun item => item.event := by
  induction items with
  | nil => rfl
  | cons item rest ih =>
      simp only [List.map_cons, List.filterMap_cons, item.normalizes, ih]

variable (log : EventLog scValToNative) (honoursEnd : Bool) (low high : Nat)

theorem rangeReader_events (up : Nat → Bool) (call : Nat) (contractIds : List String)
    (low high limit : Nat) (page : EventsPage Value)
    (answered : log.rangeReader honoursEnd up call
      { contractIds, startLedger := some low, endLedger := some high,
        limit := some limit } = some page) :
    page.events =
      ((log.requested honoursEnd low high).take limit).map (ChainEvent.delivered contractIds) := by
  unfold rangeReader fetchEvents at answered
  simp only [getEventsRequest, truthy, Bool.false_eq_true, if_false, answerRange,
    Option.getD_some] at answered
  by_cases alive : up call = true
  · simp only [alive, if_true, Option.some.injEq] at answered
    rw [← answered]
    change (List.filterMap _ (List.map _ _)).map (fillContract contractIds) = _
    rw [normalize_served, List.map_map]
    rfl
  · simp only [alive] at answered
    cases answered

theorem rangeReader_inside (up : Nat → Bool) (call : Nat) (contractIds : List String)
    (low high limit : Nat) (page : EventsPage Value)
    (answered : log.rangeReader true up call
      { contractIds, startLedger := some low, endLedger := some high,
        limit := some limit } = some page) (event : NormalizedContractEvent Value)
    (member : event ∈ page.events) :
    low ≤ event.ledger ∧ event.ledger ≤ high := by
  rw [log.rangeReader_events true up call contractIds low high limit page answered] at member
  obtain ⟨item, itemMember, rfl⟩ := List.mem_map.mp member
  have inside := (List.mem_filter.mp (List.mem_of_mem_take itemMember)).2
  simp only [Bool.and_eq_true, decide_eq_true_eq] at inside
  rw [ChainEvent.delivered, fillContract_ledger]
  exact inside

theorem between_ordered :
    (log.between low high).Pairwise fun left right => left.ledger ≤ right.ledger :=
  log.ordered.filter _

theorem requested_ordered :
    (log.requested honoursEnd low high).Pairwise fun left right => left.ledger ≤ right.ledger := by
  unfold requested
  split
  · exact log.ordered.filter _
  · exact log.ordered.filter _

theorem mem_requested_ledger (item : ChainEvent scValToNative)
    (member : item ∈ log.requested honoursEnd low high) : low ≤ item.ledger := by
  unfold requested at member
  split at member
  · have both := (List.mem_filter.mp member).2
    simp only [Bool.and_eq_true, decide_eq_true_eq] at both
    exact both.1
  · exact of_decide_eq_true (List.mem_filter.mp member).2

theorem requested_filter_below :
    (log.requested honoursEnd low high).filter (fun item => decide (item.ledger ≤ high)) =
      log.between low high := by
  unfold requested between atOrAfter
  split
  · rw [List.filter_filter]
    apply List.filter_congr
    intro item _
    cases decide (item.ledger ≤ high) <;> simp
  · rw [List.filter_filter]
    apply List.filter_congr
    intro item _
    exact Bool.and_comm _ _

theorem between_filter_above (next : Nat) (later : low ≤ next + 1) :
    (log.between low high).filter (fun item => decide (next < item.ledger)) =
      log.between (next + 1) high := by
  unfold between
  rw [List.filter_filter]
  apply List.filter_congr
  intro item _
  by_cases above : next < item.ledger
  · have lowBound : low ≤ item.ledger := by omega
    have nextBound : next + 1 ≤ item.ledger := above
    simp [above, lowBound, nextBound]
  · have nextBound : ¬ next + 1 ≤ item.ledger := by omega
    simp [above, nextBound]

theorem between_empty_range (empty : high < low) :
    log.between low high = [] := by
  apply List.filter_eq_nil_iff.mpr
  intro item _ inside
  simp only [Bool.and_eq_true, decide_eq_true_eq] at inside
  omega

theorem between_nil_mono (later high : Nat) (order : low ≤ later)
    (empty : log.between low high = []) : log.between later high = [] := by
  apply List.filter_eq_nil_iff.mpr
  intro item member inside
  simp only [Bool.and_eq_true, decide_eq_true_eq] at inside
  apply List.filter_eq_nil_iff.mp empty item member
  simp only [Bool.and_eq_true, decide_eq_true_eq]
  omega

end EventLog

def plainEvent (id : String) (ledger : Nat) : ChainEvent (some : String → Option String) :=
  { raw := { id := some id, ledger := some ledger, txHash := some "tx", contractId := some "CA",
             topic := none, value := none }
    event := { id, ledger, txHash := "tx", contractId := some "CA", topic := [], value := none }
    normalizes := rfl }

def splitLedgerLog : EventLog (some : String → Option String) :=
  { events := [plainEvent "a" 5, plainEvent "b" 5]
    ordered := by simp [plainEvent, ChainEvent.ledger] }

theorem filter_take_of_ordered {α : Type} (key : α → Nat) (high count : Nat) (items : List α)
    (ordered : items.Pairwise fun left right => key left ≤ key right) :
    (items.take count).filter (fun item => decide (key item ≤ high)) =
      (items.filter fun item => decide (key item ≤ high)).take count := by
  induction items generalizing count with
  | nil => simp
  | cons item rest ih =>
      obtain ⟨headBelow, tailOrdered⟩ := List.pairwise_cons.mp ordered
      cases count with
      | zero => simp
      | succ count =>
          by_cases inside : key item ≤ high
          · simp only [List.take_succ_cons, List.filter_cons, inside, decide_true, if_true,
              ih count tailOrdered]
          · have restOutside : rest.filter (fun item => decide (key item ≤ high)) = [] := by
              apply List.filter_eq_nil_iff.mpr
              intro other member below
              have above := headBelow other member
              have bound := of_decide_eq_true below
              omega
            simp only [List.take_succ_cons, List.filter_cons, inside, decide_false,
              Bool.false_eq_true, if_false, restOutside, List.take_nil]
            apply List.filter_eq_nil_iff.mpr
            intro other member below
            exact List.filter_eq_nil_iff.mp restOutside other (List.mem_of_mem_take member) below

end AudioBlock.Indexer
