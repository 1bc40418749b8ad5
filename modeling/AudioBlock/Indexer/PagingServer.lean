/-
An RPC that serves a contract's log in ledger order and chains its pages by
paging cursors.

A token names a position in the log.  A page starts at the position of the
request, holds at least one event if one is visible, and may end anywhere, also
inside a ledger.  Visible is what the tip, and in a range request the end ledger,
allows.  A page that reaches the last visible event answers with a token or with
the empty cursor.  The tip never falls within one poll.
-/

import AudioBlock.Indexer.ChainLog
import AudioBlock.Indexer.Worker

namespace AudioBlock.Indexer

variable {ScVal Value : Type}

structure PagingServer (scValToNative : ScVal → Option Value) extends EventLog scValToNative where
  fromGenesis : ∀ item ∈ events, 1 ≤ item.ledger
  token : Nat → String
  position : String → Option Nat
  position_token : ∀ index, position (token index) = some index
  token_nonempty : ∀ index, token index ≠ ""

/-- The choices of the environment around one page. -/
structure ServedPage where
  stopRequested : Bool := false
  answered : Bool := true
  tipRise : Nat := 0
  beyondFirst : Nat := 0
  closing : Bool := true
  progressSaved : Bool := true
deriving DecidableEq, Repr

namespace PagingServer

variable {scValToNative : ScVal → Option Value} (server : PagingServer scValToNative)

def firstAt (ledger : Nat) : Nat :=
  (server.events.takeWhile fun item => decide (item.ledger < ledger)).length

def visibleCount (bound index : Nat) : Nat :=
  ((server.events.drop index).takeWhile fun item => decide (item.ledger ≤ bound)).length

/-- No event at or below the bound lies at or after the position. -/
def Exhausted (bound index : Nat) : Prop :=
  ∀ later item, server.events[later]? = some item → item.ledger ≤ bound → later < index

def servePage (bound beyondFirst : Nat) (closing : Bool) (index : Nat) :
    List (ChainEvent scValToNative) × String :=
  let visible := server.visibleCount bound index
  let served := min (beyondFirst + 1) visible
  ((server.events.drop index).take served,
    if visible ≤ beyondFirst + 1 ∧ closing then "" else server.token (index + served))

def boundOf (tip : Nat) (request : GetEventsRequest) : Nat :=
  match request.endLedger with
  | none => tip
  | some high => min tip high

def indexOf (request : GetEventsRequest) : Option Nat :=
  match request.cursor with
  | some cursor => server.position cursor
  | none => some (server.firstAt (request.startLedger.getD 1))

def serve (tip : Nat) (page : ServedPage) (request : GetEventsRequest) :
    Option (GetEventsResponse ScVal) :=
  if page.answered then
    (server.indexOf request).map fun index =>
      let (items, cursor) := server.servePage (boundOf tip request) page.beyondFirst
        page.closing index
      { events := items.map fun item => some item.raw, cursor := some cursor }
  else none

def answers : Nat → List ServedPage → List (PageAnswer ScVal)
  | _, [] => []
  | tip, page :: rest =>
      { stopRequested := page.stopRequested
        getEvents := server.serve (tip + page.tipRise) page
        progressSaved := page.progressSaved } :: answers (tip + page.tipRise) rest

structure Served (contractIds : List String) (bound index next : Nat)
    (page : EventsPage Value) : Prop where
  forward : index ≤ next
  events : page.events =
    ((server.events.drop index).take (next - index)).map (ChainEvent.delivered contractIds)
  visible : ∀ item ∈ (server.events.drop index).take (next - index), item.ledger ≤ bound
  stalled : next = index → server.Exhausted bound index
  cursor : (page.cursor = "" ∧ server.Exhausted bound next) ∨ page.cursor = server.token next

theorem exhausted_of_ordered (bound index : Nat)
    (next : ∀ item, server.events[index]? = some item → bound < item.ledger) :
    server.Exhausted bound index := by
  intro later item found below
  by_contra beyond
  have bounds := (List.getElem?_eq_some_iff.mp found).1
  have inside : index < server.events.length := by omega
  have above := next _ (List.getElem?_eq_getElem inside)
  rcases Nat.lt_or_eq_of_le (Nat.le_of_not_lt beyond) with earlier | same
  · have order := List.pairwise_iff_getElem.mp server.ordered index later inside bounds earlier
    rw [List.getElem?_eq_getElem bounds, Option.some.injEq] at found
    rw [found] at order
    omega
  · subst same
    rw [List.getElem?_eq_getElem bounds, Option.some.injEq] at found
    rw [found] at above
    omega

private theorem after_takeWhile {α : Type} (keep : α → Bool) (items : List α) (item : α)
    (found : items[(items.takeWhile keep).length]? = some item) : keep item = false := by
  induction items with
  | nil => simp at found
  | cons head rest ih =>
      cases kept : keep head with
      | true =>
          rw [List.takeWhile_cons_of_pos kept, List.length_cons, List.getElem?_cons_succ] at found
          exact ih found
      | false =>
          rw [List.takeWhile_cons_of_neg (by simp [kept]), List.length_nil,
            List.getElem?_cons_zero] at found
          rw [← Option.some.inj found]
          exact kept

theorem exhausted_visible (bound index : Nat) :
    server.Exhausted bound (index + server.visibleCount bound index) := by
  apply server.exhausted_of_ordered
  intro item found
  rw [← List.getElem?_drop] at found
  have hidden := after_takeWhile _ _ item found
  exact Nat.lt_of_not_le (of_decide_eq_false hidden)

theorem firstAt_below (ledger later : Nat) (item : ChainEvent scValToNative)
    (earlier : later < server.firstAt ledger)
    (found : server.events[later]? = some item) : item.ledger < ledger := by
  unfold firstAt at earlier
  have front := List.takeWhile_prefix (l := server.events) fun item => decide (item.ledger < ledger)
  have same := List.IsPrefix.getElem front earlier
  rw [List.getElem?_eq_getElem (Nat.lt_of_lt_of_le earlier front.length_le), Option.some.injEq,
    ← same] at found
  have kept := List.mem_takeWhile_imp (List.getElem_mem earlier)
  rw [found] at kept
  exact of_decide_eq_true kept

theorem exhausted_firstAt (ledger : Nat) :
    server.Exhausted ledger (server.firstAt (ledger + 1)) := by
  apply server.exhausted_of_ordered
  intro item found
  have beyond := after_takeWhile _ _ item found
  have above := of_decide_eq_false beyond
  omega

theorem servePage_served (contractIds : List String) (bound beyondFirst : Nat) (closing : Bool)
    (index : Nat) :
    server.Served contractIds bound index
      (index + min (beyondFirst + 1) (server.visibleCount bound index))
      { events := (server.servePage bound beyondFirst closing index).1.map
          (ChainEvent.delivered contractIds)
        cursor := (server.servePage bound beyondFirst closing index).2 } := by
  have atEnd : server.visibleCount bound index ≤ beyondFirst + 1 →
      server.Exhausted bound
        (index + min (beyondFirst + 1) (server.visibleCount bound index)) := by
    intro all
    rw [Nat.min_eq_right all]
    exact server.exhausted_visible bound index
  constructor
  · exact Nat.le_add_right _ _
  · rw [Nat.add_sub_cancel_left]
    rfl
  · intro item member
    rw [Nat.add_sub_cancel_left] at member
    have front := List.takeWhile_prefix (l := server.events.drop index)
      fun item => decide (item.ledger ≤ bound)
    have whole := List.prefix_iff_eq_take.mp front
    have shorter := List.take_sublist_take_left (l := server.events.drop index)
      (Nat.min_le_right (beyondFirst + 1) (server.visibleCount bound index))
    have inside := shorter.mem member
    rw [visibleCount, ← whole] at inside
    have kept := List.mem_takeWhile_imp inside
    exact of_decide_eq_true kept
  · intro same
    have nothing : server.visibleCount bound index = 0 := by omega
    have ended := server.exhausted_visible bound index
    rw [nothing] at ended
    exact ended
  · unfold servePage
    by_cases last : server.visibleCount bound index ≤ beyondFirst + 1 ∧ closing = true
    · left
      exact ⟨by simp only [if_pos last], atEnd last.1⟩
    · right
      simp only [if_neg last]

theorem fetchEvents_served (contractIds : List String) (tip : Nat) (served : ServedPage)
    (opts : FetchEventsOptions) (page : EventsPage Value) (index : Nat)
    (contracts : opts.contractIds = contractIds)
    (requested : server.indexOf (getEventsRequest opts) = some index)
    (fetched : fetchEvents scValToNative (server.serve tip served) opts = some page) :
    ∃ next, server.Served contractIds (boundOf tip (getEventsRequest opts)) index next page := by
  unfold fetchEvents serve at fetched
  cases answered : served.answered with
  | false =>
      simp only [answered, Bool.false_eq_true, if_false] at fetched
      cases fetched
  | true =>
      simp only [answered, if_true, requested, Option.map_some, Option.some.injEq,
        Option.getD_some, contracts] at fetched
      have whole := server.servePage_served contractIds (boundOf tip (getEventsRequest opts))
        served.beyondFirst served.closing index
      refine ⟨index + min (served.beyondFirst + 1)
        (server.visibleCount (boundOf tip (getEventsRequest opts)) index), ?_⟩
      rw [← fetched]
      rw [EventLog.normalize_served, List.map_map]
      exact whole

end PagingServer

end AudioBlock.Indexer
