/-
Polls that may end at any page, and what a later poll recovers.

The persisted cursor is a ledger number.  A poll that ends inside a ledger
leaves events of that ledger behind the cursor, and the next poll starts at the
following ledger unless the gap to the tip makes the reorg guard roll back.
Below the cursor's own ledger nothing is ever lost; at the cursor's ledger the
results hold when each poll that starts inside a ledger sees such a gap.

All writes resolve here, so the stored events are the events that were passed
to `upsertEvent`.
-/

import AudioBlock.Foundation.Machine
import AudioBlock.Indexer.PagingServer
import AudioBlock.Indexer.CursorDurability

namespace AudioBlock.Indexer

open AudioBlock.Foundation

variable {ScVal Value : Type}

structure PollLabel where
  cursorRead : Bool := true
  latestLedger : Option Nat
  pages : List ServedPage
  errorMessage : String := ""
  errorSaved : Bool := true
deriving DecidableEq, Repr

structure IndexerRun (Value : Type) where
  poll : PollState Value
  completed : Bool

def PollResult.isCompleted : PollResult → Bool
  | .completed _ => true
  | .failed _ => false
  | .cut => false

namespace IndexerWorker

variable (worker : IndexerWorker ScVal Value) (contract : IndexerContract Value)
  (server : PagingServer worker.scValToNative)

def pollInput (label : PollLabel) : PollInput ScVal :=
  { cursorRead := label.cursorRead
    latestLedger := label.latestLedger
    pages := server.answers (label.latestLedger.getD 0) label.pages
    errorMessage := label.errorMessage
    errorSaved := label.errorSaved }

/-- One poll, complete or not.  It may run in a new process, so the stop flag
counts as read afresh. -/
def nextRun (run : IndexerRun Value) (label : PollLabel) : IndexerRun Value :=
  let ended := worker.pollOnce contract (worker.pollInput server label)
    { run.poll with stopped := false }
  { poll := ended.1, completed := ended.2.isCompleted && !ended.1.stopped }

def indexerMachine : Machine (IndexerRun Value) PollLabel where
  initial run :=
    worker.lastProcessedLedger contract run.poll = 0 ∧ run.poll.db.stored = [] ∧
      run.completed = false
  step run label := some (worker.nextRun contract server run label)

def Passed (item : ChainEvent worker.scValToNative) (state : PollState Value) : Prop :=
  ∀ dto, contract.decoder.decode (item.delivered [contract.contractId]) = some dto →
    dto ∈ state.db.stored

/-- Some decodable event of the cursor's own ledger has not been passed on. -/
def Straddled (state : PollState Value) : Prop :=
  ∃ item ∈ server.events, item.ledger = worker.lastProcessedLedger contract state ∧
    ¬ worker.Passed contract item state

def GapWhenStraddled (run : IndexerRun Value) (label : PollLabel) : Prop :=
  worker.Straddled contract server run.poll → ∀ latestLedger,
    label.latestLedger = some latestLedger →
      worker.lastProcessedLedger contract run.poll + run.poll.guard.config.gapThreshold <
        latestLedger

def PassedBelow (state : PollState Value) : Prop :=
  ∀ item ∈ server.events, item.ledger < worker.lastProcessedLedger contract state →
    worker.Passed contract item state

def PassedUpTo (state : PollState Value) : Prop :=
  ∀ item ∈ server.events, item.ledger ≤ worker.lastProcessedLedger contract state →
    worker.Passed contract item state

structure Walked (before : PollState Value) (bound index : Nat) (state : PollState Value) :
    Prop where
  passed : ∀ earlier item, earlier < index → server.events[earlier]? = some item →
    worker.Passed contract item state
  kept : ∀ dto ∈ before.db.stored, dto ∈ state.db.stored
  cursor : worker.lastProcessedLedger contract state =
      worker.lastProcessedLedger contract before ∨
    ∃ earlier item, earlier < index ∧ server.events[earlier]? = some item ∧ item.ledger ≤ bound ∧
      worker.lastProcessedLedger contract before < item.ledger ∧
        worker.lastProcessedLedger contract state = item.ledger

/-- Where the next request of a poll starts, and what the last answer settled. -/
def AtPage (latestLedger bound index : Nat) : Paging → Prop
  | .range start latest =>
      bound ≤ latestLedger ∧ latest = latestLedger ∧ index = server.firstAt start
  | .following seenCursors pageCursor =>
      latestLedger ≤ bound ∧
        (∀ cursor ∈ seenCursors, ∃ earlier, earlier ≤ index ∧ cursor = server.token earlier ∧
          (earlier = index → server.Exhausted bound index)) ∧
        match pageCursor with
        | none => server.Exhausted bound index
        | some cursor => cursor = server.token index

def PollWalk (before : PollState Value) (latestLedger : Nat) (answers : List (PageAnswer ScVal))
    (paging : Paging) (state : PollState Value) : Prop :=
  ∃ tip pages bound index, answers = server.answers tip pages ∧ latestLedger ≤ tip ∧
    bound ≤ tip ∧ worker.Walked contract server before bound index state ∧
      worker.AtPage server latestLedger bound index paging

variable (before : PollState Value) (latestLedger bound index next : Nat) (page : EventsPage Value)

private theorem served_item (served : server.Served [contract.contractId] bound index next page)
    (later : Nat) (item : ChainEvent worker.scValToNative) (lower : index ≤ later)
    (upper : later < next) (found : server.events[later]? = some item) :
    item.delivered [contract.contractId] ∈ page.events := by
  rw [served.events]
  apply List.mem_map_of_mem
  apply List.mem_of_getElem? (i := later - index)
  rw [List.getElem?_take_of_lt (by omega), List.getElem?_drop]
  have position : index + (later - index) = later := by omega
  rw [position]
  exact found

private theorem served_origin (served : server.Served [contract.contractId] bound index next page)
    (event : NormalizedContractEvent Value) (member : event ∈ page.events) :
    ∃ later item, later < next ∧ server.events[later]? = some item ∧ item.ledger ≤ bound ∧
      event.ledger = item.ledger := by
  rw [served.events] at member
  obtain ⟨item, itemMember, rfl⟩ := List.mem_map.mp member
  obtain ⟨offset, found⟩ := List.mem_iff_getElem?.mp itemMember
  have inside := (List.getElem?_eq_some_iff.mp found).1
  rw [List.length_take] at inside
  rw [List.getElem?_take_of_lt (by omega), List.getElem?_drop] at found
  exact ⟨index + offset, item, by omega, found, served.visible item itemMember,
    fillContract_ledger _ _⟩

theorem walked_step (resolves : ∀ call, worker.upsertEvent call = true)
    (before state : PollState Value) (bound reach index next : Nat) (page : EventsPage Value)
    (progressSaved : Bool) (rising : bound ≤ reach)
    (walked : worker.Walked contract server before bound index state)
    (served : server.Served [contract.contractId] reach index next page)
    (saved : (worker.persistedPage contract (worker.lastProcessedLedger contract before) page
      progressSaved (seePage page state)).2 ≠ none) :
    worker.Walked contract server before reach next
      (worker.persistedPage contract (worker.lastProcessedLedger contract before) page
        progressSaved (seePage page state)).1 := by
  constructor
  · intro later item upper found dto decoded
    apply (worker.mem_persistedPage_stored contract _ page progressSaved _ dto).mpr
    by_cases earlier : later < index
    · exact Or.inl (walked.passed later item earlier found dto decoded)
    · have member := worker.served_item contract server reach index next page served later item
        (Nat.le_of_not_lt earlier) upper found
      exact Or.inr (WriteResolved.of_mem resolves (List.mem_filterMap.mpr ⟨_, member, decoded⟩))
  · intro dto stored
    exact (worker.mem_persistedPage_stored contract _ page progressSaved _ dto).mpr
      (Or.inl (walked.kept dto stored))
  · rcases worker.persistedPage_cursor contract _ page progressSaved _ saved with same | moved
    · rw [same]
      rcases walked.cursor with start | ⟨earlier, item, position, found, visible, above, ledger⟩
      · exact Or.inl start
      · exact Or.inr ⟨earlier, item, Nat.lt_of_lt_of_le position served.forward, found,
          Nat.le_trans visible rising, above, ledger⟩
    · rw [moved]
      have floor := floor_le_highestLedger
        (worker.lastProcessedLedger contract before : Int) page.events
      rcases highestLedger_attained (worker.lastProcessedLedger contract before : Int)
          page.events with atFloor | ⟨event, member, attained⟩
      · exact Or.inl (by omega)
      · obtain ⟨later, item, upper, found, visible, ledger⟩ :=
          worker.served_origin contract server reach index next page served event member
        by_cases above : worker.lastProcessedLedger contract before < item.ledger
        · exact Or.inr ⟨later, item, upper, found, visible, above, by omega⟩
        · exact Or.inl (by omega)

theorem Walked.passedBelow {before state : PollState Value} {bound index : Nat}
    (walked : worker.Walked contract server before bound index state)
    (below : worker.PassedBelow contract server before) :
    worker.PassedBelow contract server state := by
  intro item member lower dto decoded
  rcases walked.cursor with start | ⟨earlier, last, position, found, _, _, ledger⟩
  · rw [start] at lower
    exact walked.kept dto (below item member lower dto decoded)
  · obtain ⟨later, itemAt⟩ := List.mem_iff_getElem?.mp member
    have front : later < index := by
      by_contra beyond
      obtain ⟨lastBound, lastGet⟩ := List.getElem?_eq_some_iff.mp found
      obtain ⟨itemBound, itemGet⟩ := List.getElem?_eq_some_iff.mp itemAt
      have order := List.pairwise_iff_getElem.mp server.ordered earlier later lastBound itemBound
        (by omega)
      rw [lastGet, itemGet] at order
      omega
    exact walked.passed later item front itemAt dto decoded

theorem Walked.passedUpTo {before state : PollState Value} {bound index : Nat}
    (walked : worker.Walked contract server before bound index state)
    (below : worker.PassedBelow contract server before)
    (exhausted : server.Exhausted bound index)
    (ready : worker.Straddled contract server before →
      worker.lastProcessedLedger contract before ≤ bound) :
    worker.PassedUpTo contract server state := by
  intro item member upper
  obtain ⟨later, itemAt⟩ := List.mem_iff_getElem?.mp member
  have whenVisible : item.ledger ≤ bound → worker.Passed contract item state :=
    fun visible => walked.passed later item (exhausted later item itemAt visible) itemAt
  rcases walked.cursor with start | ⟨_, last, _, _, visible, _, ledger⟩
  · rw [start] at upper
    rcases Nat.lt_or_eq_of_le upper with lower | atCursor
    · intro dto decoded
      exact walked.kept dto (below item member lower dto decoded)
    · by_cases passed : worker.Passed contract item before
      · intro dto decoded
        exact walked.kept dto (passed dto decoded)
      · have reach := ready ⟨item, member, atCursor, passed⟩
        exact whenVisible (by omega)
  · exact whenVisible (by omega)

private theorem nonEmpty_served
    (served : server.Served [contract.contractId] bound index next page) :
    match nonEmpty page.cursor with
    | none => server.Exhausted bound next
    | some cursor => cursor = server.token next := by
  unfold nonEmpty
  rcases served.cursor with ⟨closed, exhausted⟩ | chained
  · rw [if_pos closed]
    exact exhausted
  · rw [if_neg (by rw [chained]; exact server.token_nonempty next)]
    exact chained

theorem pollWalk_step (resolves : ∀ call, worker.upsertEvent call = true)
    (before : PollState Value) (latestLedger : Nat) :
    worker.PageStep contract (worker.lastProcessedLedger contract before)
      (worker.PollWalk contract server before latestLedger) := by
  rintro answer rest paging opts page state
    ⟨tip, pages, bound, index, answersEq, tipBound, boundTip, walked, atPage⟩ requested fetched saved
  cases pages with
  | nil => cases answersEq
  | cons first later =>
      obtain ⟨rfl, rfl⟩ := List.cons.inj answersEq
      cases paging with
      | range start latest =>
          obtain ⟨boundBelow, rfl, rfl⟩ := atPage
          cases requested
          obtain ⟨next, served⟩ := server.fetchEvents_served [contract.contractId] _ first _ page
            (server.firstAt start) rfl rfl fetched
          have reach : PagingServer.boundOf (tip + first.tipRise)
              (getEventsRequest
                { contractIds := [contract.contractId], startLedger := some start,
                  endLedger := some latest, limit := some worker.pageSize }) = latest := by
            change min (tip + first.tipRise) latest = latest
            omega
          rw [reach] at served
          refine ⟨tip + first.tipRise, later, latest, next, rfl, by omega, by omega, ?_, ?_⟩
          · exact worker.walked_step contract server resolves before state bound latest _ next page
              _ boundBelow walked served saved
          · refine ⟨Nat.le_refl _, ?_,
              worker.nonEmpty_served contract server latest _ next page served⟩
            intro cursor member
            cases member
      | following seenCursors pageCursor =>
          cases pageCursor with
          | none => cases requested
          | some cursor =>
              obtain ⟨latestBound, seen, here⟩ := atPage
              simp only at here
              subst here
              by_cases repeated : server.token index ∈ seenCursors
              · rw [request, if_pos repeated] at requested
                cases requested
              · rw [request, if_neg repeated] at requested
                cases requested
                have nonempty : truthy (some (server.token index)) = true := by
                  simp [truthy, server.token_nonempty index]
                have chained : getEventsRequest
                    { contractIds := [contract.contractId], cursor := some (server.token index),
                      limit := some worker.pageSize } =
                    { contractIds := [contract.contractId], limit := worker.pageSize,
                      cursor := some (server.token index), startLedger := none,
                      endLedger := none } := by
                  rw [getEventsRequest, if_pos nonempty]
                  rfl
                obtain ⟨next, served⟩ := server.fetchEvents_served [contract.contractId] _ first _
                  page index rfl (by rw [chained]; exact server.position_token index) fetched
                rw [chained] at served
                change server.Served _ (tip + first.tipRise) index next page at served
                refine ⟨tip + first.tipRise, later, tip + first.tipRise, next, rfl, by omega,
                  Nat.le_refl _, ?_, ?_⟩
                · exact worker.walked_step contract server resolves before state bound _ index next
                    page _ (by omega) walked served saved
                · refine ⟨by omega, ?_, ?_⟩
                  · intro cursor member
                    rcases List.mem_cons.mp member with same | earlierSeen
                    · refine ⟨index, served.forward, same, ?_⟩
                      intro stalled
                      rw [← stalled]
                      exact served.stalled stalled.symm
                    · obtain ⟨earlier, behind, token, _⟩ := seen cursor earlierSeen
                      refine ⟨earlier, Nat.le_trans behind served.forward, token, ?_⟩
                      intro stalled
                      have forward := served.forward
                      have same : next = index := by omega
                      rw [same]
                      exact served.stalled same
                  · exact worker.nonEmpty_served contract server _ index next page served

theorem pollWalk_exhausted (answers : List (PageAnswer ScVal)) (paging : Paging)
    (state : PollState Value)
    (walk : worker.PollWalk contract server before latestLedger answers paging state)
    (ended : worker.request contract paging = none) :
    ∃ bound index, latestLedger ≤ bound ∧
      worker.Walked contract server before bound index state ∧ server.Exhausted bound index := by
  obtain ⟨tip, pages, bound, index, _, _, _, walked, atPage⟩ := walk
  cases paging with
  | range start latest => cases ended
  | following seenCursors pageCursor =>
      obtain ⟨latestBound, seen, here⟩ := atPage
      refine ⟨bound, index, latestBound, walked, ?_⟩
      cases pageCursor with
      | none => exact here
      | some cursor =>
          by_cases repeated : cursor ∈ seenCursors
          · obtain ⟨earlier, _, token, exhausted⟩ := seen cursor repeated
            simp only at here
            apply exhausted
            rw [here] at token
            have positions := congrArg server.position token
            rw [server.position_token, server.position_token] at positions
            exact (Option.some.inj positions).symm
          · rw [request, if_neg repeated] at ended
            cases ended

private theorem passedUpTo_of_not_straddled (state : PollState Value)
    (below : worker.PassedBelow contract server state)
    (whole : ¬ worker.Straddled contract server state) :
    worker.PassedUpTo contract server state := by
  intro item member upper
  rcases Nat.lt_or_eq_of_le upper with lower | atCursor
  · exact below item member lower
  · by_contra missed
    exact whole ⟨item, member, atCursor, missed⟩

private theorem PassedBelow.mono {state after : PollState Value}
    (below : worker.PassedBelow contract server state)
    (cursor : worker.lastProcessedLedger contract after = worker.lastProcessedLedger contract state)
    (kept : ∀ dto ∈ state.db.stored, dto ∈ after.db.stored) :
    worker.PassedBelow contract server after := by
  intro item member lower dto decoded
  rw [cursor] at lower
  exact kept dto (below item member lower dto decoded)

private theorem begin_stored (state : PollState Value) :
    (worker.begin contract state).db.stored = state.db.stored :=
  IndexerDb.getCursor_stored _ _ _

private theorem pollFailed_stored (input : PollInput ScVal) (initial : PageTotals)
    (state : PollState Value) :
    (worker.pollFailed contract input initial state).1.db.stored = state.db.stored := by
  unfold pollFailed
  cases input.errorSaved with
  | false => rfl
  | true => exact IndexerDb.recordError_stored _ _ _ _

private theorem passedBelow_pollFailed (input : PollInput ScVal) (initial : PageTotals)
    (state : PollState Value) (below : worker.PassedBelow contract server state) :
    worker.PassedBelow contract server (worker.pollFailed contract input initial state).1 := by
  apply PassedBelow.mono worker contract server below
    (worker.pollFailed_cursor contract input initial state)
  intro dto stored
  rw [pollFailed_stored]
  exact stored

theorem pollWalk_start (pages : List ServedPage)
    (below : worker.PassedBelow contract server before)
    (gap : worker.Straddled contract server before →
      worker.lastProcessedLedger contract before + before.guard.config.gapThreshold <
        latestLedger) :
    worker.PollWalk contract server before latestLedger (server.answers latestLedger pages)
      (Paging.start ((worker.begin contract before).guard.getOverlapStart latestLedger)
        latestLedger)
      (worker.begin contract before) := by
  have walked : ∀ bound index, (∀ earlier item, earlier < index →
      server.events[earlier]? = some item → worker.Passed contract item before) →
      worker.Walked contract server before bound index (worker.begin contract before) := by
    intro bound index passed
    constructor
    · intro earlier item position found dto decoded
      rw [begin_stored]
      exact passed earlier item position found dto decoded
    · intro dto stored
      rw [begin_stored]
      exact stored
    · exact Or.inl (worker.begin_cursor contract before)
  have atBoundary : latestLedger ≤ worker.lastProcessedLedger contract before +
      before.guard.config.gapThreshold → ∀ earlier item,
        earlier < server.firstAt (worker.lastProcessedLedger contract before + 1) →
          server.events[earlier]? = some item → worker.Passed contract item before := by
    intro near earlier item position found
    have whole : ¬ worker.Straddled contract server before := by
      intro straddled
      have far := gap straddled
      omega
    have lower := server.firstAt_below _ earlier item position found
    exact worker.passedUpTo_of_not_straddled contract server before below whole item
      (List.mem_of_getElem? found) (Nat.le_of_lt_succ lower)
  rcases before.guard.getOverlapStart_cases (worker.lastProcessedLedger contract before)
      latestLedger with ⟨start, level⟩ | ⟨start, above, near⟩ | ⟨first, start, rollback, _⟩
  · change worker.PollWalk contract server before _ _ (Paging.start
      ((before.guard.setCursor _).getOverlapStart _) _) _
    rw [start]
    refine ⟨latestLedger, pages, worker.lastProcessedLedger contract before,
      server.firstAt (worker.lastProcessedLedger contract before + 1), rfl, Nat.le_refl _,
      Nat.le_of_eq level.symm, walked _ _ (atBoundary (by omega)), Nat.le_of_eq level, ?_,
      server.exhausted_firstAt _⟩
    intro cursor member
    cases member
  · change worker.PollWalk contract server before _ _ (Paging.start
      ((before.guard.setCursor _).getOverlapStart _) _) _
    rw [start]
    exact ⟨latestLedger, pages, 0, _, rfl, Nat.le_refl _, Nat.zero_le _,
      walked _ _ (atBoundary near), Nat.zero_le _, rfl, rfl⟩
  · change worker.PollWalk contract server before _ _ (Paging.start
      ((before.guard.setCursor _).getOverlapStart _) _) _
    rw [start]
    refine ⟨latestLedger, pages, 0, _, rfl, Nat.le_refl _, Nat.zero_le _, walked _ _ ?_,
      Nat.zero_le _, rfl, rfl⟩
    intro earlier item position found
    have member := List.mem_of_getElem? found
    have lower := server.firstAt_below _ earlier item position found
    have genesis := server.fromGenesis item member
    exact below item member (by omega)

theorem pollEnds_passes (below : worker.PassedBelow contract server before)
    (gap : worker.Straddled contract server before →
      worker.lastProcessedLedger contract before + before.guard.config.gapThreshold <
        latestLedger) (input : PollInput ScVal) (after : PollState Value) (result : PollResult)
    (ends : worker.PollEnds contract (worker.lastProcessedLedger contract before)
      (worker.PollWalk contract server before latestLedger) input after result) :
    worker.PassedBelow contract server after ∧
      ((result.isCompleted && !after.stopped) = true →
        worker.PassedUpTo contract server after) := by
  have between : ∀ answers paging state,
      worker.PollWalk contract server before latestLedger answers paging state →
        worker.PassedBelow contract server state := by
    rintro answers paging state ⟨_, _, _, _, _, _, _, walked, _⟩
    exact Walked.passedBelow worker contract server walked below
  cases ends with
  | caughtUp outcome reached exhausted =>
      refine ⟨between _ _ _ reached, fun _ => ?_⟩
      obtain ⟨bound, index, latestBound, walked, ended⟩ :=
        worker.pollWalk_exhausted contract server before latestLedger _ _ _ reached exhausted
      apply Walked.passedUpTo worker contract server walked below ended
      intro straddled
      have far := gap straddled
      omega
  | stopped outcome reached =>
      have passed := between _ _ _ reached
      refine ⟨passed, fun finished => ?_⟩
      rw [Bool.not_true, Bool.and_false] at finished
      cases finished
  | cut reached => exact ⟨between _ _ _ reached, fun finished => by cases finished⟩
  | unanswered initial reached =>
      exact ⟨worker.passedBelow_pollFailed contract server input initial _ (between _ _ _ reached),
        fun finished => by cases finished⟩
  | @unsaved answer _ _ last _ page initial reached requested answered rejected =>
      refine ⟨?_, fun finished => by cases finished⟩
      refine worker.passedBelow_pollFailed contract server input initial _ ?_
      have passed := between _ _ _ reached
      have seen : worker.PassedBelow contract server (seePage page last) := passed
      apply PassedBelow.mono worker contract server seen
        (worker.persistedPage_cursor_rejected contract _ _ _ _ rejected)
      intro dto stored
      exact (worker.mem_persistedPage_stored contract _ _ _ _ dto).mpr (Or.inl stored)

theorem nextRun_passes (resolves : ∀ call, worker.upsertEvent call = true)
    (run : IndexerRun Value) (label : PollLabel)
    (below : worker.PassedBelow contract server run.poll)
    (gap : worker.GapWhenStraddled contract server run label) :
    worker.PassedBelow contract server (worker.nextRun contract server run label).poll ∧
      ((worker.nextRun contract server run label).completed = true →
        worker.PassedUpTo contract server (worker.nextRun contract server run label).poll) := by
  unfold nextRun
  rcases worker.pollOnce_cases contract (worker.pollInput server label)
      { run.poll with stopped := false } with ⟨latestLedger, tip, polled⟩ | ⟨start, failedAt, polled⟩
  · have walk := worker.pollWalk_start contract server { run.poll with stopped := false }
      latestLedger label.pages below fun straddled => gap straddled latestLedger tip
    have pages : (worker.pollInput server label).pages =
        server.answers latestLedger label.pages := by
      have tipEq : label.latestLedger = some latestLedger := tip
      simp only [pollInput, tipEq, Option.getD_some]
    rw [← pages] at walk
    have ends := worker.pollFrom_ends contract _ _
      (worker.pollWalk_step contract server resolves { run.poll with stopped := false }
        latestLedger) (worker.pollInput server label) latestLedger _ walk
    rw [← polled] at ends
    exact worker.pollEnds_passes contract server { run.poll with stopped := false } latestLedger
      below (fun straddled => gap straddled latestLedger tip) _ _ _ ends
  · rw [polled]
    refine ⟨?_, fun finished => by cases finished⟩
    refine worker.passedBelow_pollFailed contract server _ noTotals start ?_
    rcases failedAt with rfl | rfl
    · apply PassedBelow.mono worker contract server below
        (worker.begin_cursor contract { run.poll with stopped := false })
      intro dto stored
      rw [begin_stored]
      exact stored
    · exact below

end IndexerWorker

/-! ### Two events of ledger 3, the first poll cut between them -/

def reliableWorker : IndexerWorker String String :=
  { rejectingWorker with upsertEvent := fun _ => true }

def twoEventServer : PagingServer (some : String → Option String) :=
  { events := [plainEvent "a" 3, plainEvent "b" 3]
    ordered := by simp [plainEvent, ChainEvent.ledger]
    fromGenesis := by simp [plainEvent, ChainEvent.ledger]
    token := fun index => String.ofList (List.replicate (index + 1) '1')
    position := fun text => some (text.length - 1)
    position_token := by simp
    token_nonempty := by
      intro index empty
      have lengths := congrArg String.length empty
      simp at lengths }

def firstRun : IndexerRun String := { poll := idleState, completed := false }

def cutAfterOneEvent : PollLabel :=
  { latestLedger := some 4, pages := [{ beyondFirst := 0, closing := false }] }

/-- The run after the cut poll and one more poll to the given tip. -/
def resumedRun (latestLedger : Nat) : IndexerRun String :=
  reliableWorker.nextRun nftContract twoEventServer
    (reliableWorker.nextRun nftContract twoEventServer firstRun cutAfterOneEvent)
    { latestLedger := some latestLedger, pages := [{ beyondFirst := 5 }] }

end AudioBlock.Indexer
