/-
What one page does, and the invariant rule of a poll.

The bounded queue is transparent: whatever its capacity and the write batch
size, a page is written by one `upsertEach` over its decoded events, and the
queue is empty again when the page is done.  With that, a poll is a sequence of
page steps, and `pollOnce_ends` lists the ways it can end.
-/

import AudioBlock.Indexer.Worker

namespace AudioBlock.Indexer

variable {ScVal Value : Type}

namespace IndexerWorker

variable (worker : IndexerWorker ScVal Value) (contract : IndexerContract Value)

variable (prevLedger : Nat) (page : EventsPage Value) (progressSaved : Bool)
  (state : PollState Value) (skipped : Nat) (tally : UpsertTally Value)
  (queue : BoundedEventQueue (InsertIndexedEventDTO Value))
  (events : List (NormalizedContractEvent Value))

theorem flushQueue_tally :
    (worker.flushQueue tally queue).1 = upsertEach worker.upsertEvent tally queue.items := by
  fun_induction flushQueue worker tally queue with
  | case1 tally queue waiting batch ih =>
      rw [ih]
      change upsertEach _ (upsertEach _ _ (queue.items.take _)) (queue.items.drop _) = _
      rw [← upsertEach_append, List.take_append_drop]
  | case2 tally queue drained =>
      have nothing : queue.items = [] := by
        cases items : queue.items with
        | nil => rfl
        | cons item rest => simp [BoundedEventQueue.isEmpty, items] at drained
      rw [nothing]
      rfl

theorem flushQueue_items :
    (worker.flushQueue tally queue).2.items = [] := by
  fun_induction flushQueue worker tally queue with
  | case1 tally queue waiting batch ih => exact ih
  | case2 tally queue drained =>
      cases items : queue.items with
      | nil => rfl
      | cons item rest => simp [BoundedEventQueue.isEmpty, items] at drained

theorem bufferEvents_tally (skipped : Nat) (tally : UpsertTally Value)
    (queue : BoundedEventQueue (InsertIndexedEventDTO Value)) :
    upsertEach worker.upsertEvent (worker.bufferEvents contract events skipped tally queue).2.1
        (worker.bufferEvents contract events skipped tally queue).2.2.items =
      upsertEach worker.upsertEvent tally
        (queue.items ++ events.filterMap contract.decoder.decode) := by
  induction events generalizing skipped tally queue with
  | nil => simp [bufferEvents]
  | cons event rest ih =>
      cases decoded : contract.decoder.decode event with
      | none =>
          simp only [bufferEvents, decoded, List.filterMap_cons]
          exact ih (skipped + 1) tally queue
      | some dto =>
          simp only [bufferEvents, decoded, List.filterMap_cons]
          cases full : queue.isFull with
          | true =>
              have drained := worker.flushQueue_items tally queue
              have room := BoundedEventQueue.isFull_of_items_nil _ drained
              simp only [if_true]
              rw [ih, BoundedEventQueue.tryEnqueue_items _ dto room, drained, flushQueue_tally,
                ← upsertEach_append]
              rfl
          | false =>
              simp only [Bool.false_eq_true, if_false]
              rw [ih, BoundedEventQueue.tryEnqueue_items queue dto full, List.append_assoc]
              rfl

theorem bufferEvents_skipped (skipped : Nat) (tally : UpsertTally Value)
    (queue : BoundedEventQueue (InsertIndexedEventDTO Value)) :
    (worker.bufferEvents contract events skipped tally queue).1 +
        (events.filterMap contract.decoder.decode).length = skipped + events.length := by
  induction events generalizing skipped tally queue with
  | nil => rfl
  | cons event rest ih =>
      cases decoded : contract.decoder.decode event with
      | none =>
          have tail := ih (skipped + 1) tally queue
          simp only [bufferEvents, decoded, List.filterMap_cons, List.length_cons]
          omega
      | some dto =>
          simp only [bufferEvents, decoded, List.filterMap_cons, List.length_cons]
          rw [← Nat.add_assoc, ih]
          rfl

theorem advance_cases (state : PollState Value) :
    (¬ (0 < tally.processed ∨ prevLedger < (highestLedger prevLedger page.events).toNat) ∧
        worker.advance contract prevLedger page progressSaved skipped tally state =
          (state, some { processed := tally.processed, skipped, errors := tally.errors })) ∨
      ((0 < tally.processed ∨ prevLedger < (highestLedger prevLedger page.events).toNat) ∧
        worker.advance contract prevLedger page progressSaved skipped tally state =
          if progressSaved then
            ({ state with
                handed := state.handed ++ [(highestLedger prevLedger page.events).toNat]
                db := state.db.recordProgress contract.contractId worker.network
                  (highestLedger prevLedger page.events).toNat tally.processed none
                guard := state.guard.updateCursor (highestLedger prevLedger page.events).toNat },
              some { processed := tally.processed, skipped, errors := tally.errors })
          else
            ({ state with
                handed := state.handed ++ [(highestLedger prevLedger page.events).toNat] },
              none)) := by
  by_cases records : 0 < tally.processed ∨ prevLedger < (highestLedger prevLedger page.events).toNat
  · exact Or.inr ⟨records, by rw [advance, if_pos records]⟩
  · exact Or.inl ⟨records, by rw [advance, if_neg records]⟩

theorem advance_fetched (state : PollState Value) :
    (worker.advance contract prevLedger page progressSaved skipped tally state).1.fetched =
      state.fetched := by
  rcases worker.advance_cases contract prevLedger page progressSaved skipped tally state with
    ⟨_, same⟩ | ⟨_, same⟩
  · rw [same]
  · rw [same]
    cases progressSaved <;> rfl

theorem advance_upsertCalls (state : PollState Value) :
    (worker.advance contract prevLedger page progressSaved skipped tally state).1.upsertCalls =
      state.upsertCalls := by
  rcases worker.advance_cases contract prevLedger page progressSaved skipped tally state with
    ⟨_, same⟩ | ⟨_, same⟩
  · rw [same]
  · rw [same]
    cases progressSaved <;> rfl

theorem advance_stored (state : PollState Value) :
    (worker.advance contract prevLedger page progressSaved skipped tally state).1.db.stored =
      state.db.stored := by
  rcases worker.advance_cases contract prevLedger page progressSaved skipped tally state with
    ⟨_, same⟩ | ⟨_, same⟩
  · rw [same]
  · rw [same]
    cases progressSaved with
    | false => rfl
    | true => exact IndexerDb.recordProgress_stored _ _ _ _ _ _

theorem advance_handed (state : PollState Value) :
    (worker.advance contract prevLedger page progressSaved skipped tally state).1.handed =
      if 0 < tally.processed ∨ prevLedger < (highestLedger prevLedger page.events).toNat then
        state.handed ++ [(highestLedger prevLedger page.events).toNat]
      else state.handed := by
  rcases worker.advance_cases contract prevLedger page progressSaved skipped tally state with
    ⟨records, same⟩ | ⟨records, same⟩
  · rw [same, if_neg records]
  · rw [same, if_pos records]
    cases progressSaved <;> rfl

def pageTally (page : EventsPage Value) (state : PollState Value) : UpsertTally Value :=
  upsertEach worker.upsertEvent (tallyOf state) (page.events.filterMap contract.decoder.decode)

def persistedPage (prevLedger : Nat) (page : EventsPage Value) (progressSaved : Bool)
    (state : PollState Value) : PollState Value × Option PageOutcome :=
  worker.advance contract prevLedger page progressSaved
    (page.events.length - (page.events.filterMap contract.decoder.decode).length)
    (worker.pageTally contract page state)
    (withTally state (worker.pageTally contract page state))

theorem persistedPage_fetched :
    (worker.persistedPage contract prevLedger page progressSaved (seePage page state)).1.fetched =
      state.fetched ++ page.events := by
  rw [persistedPage, advance_fetched]
  rfl

theorem persistedPage_upsertCalls :
    (worker.persistedPage contract prevLedger page progressSaved state).1.upsertCalls =
      state.upsertCalls + (page.events.filterMap contract.decoder.decode).length := by
  rw [persistedPage, advance_upsertCalls]
  exact upsertEach_calls _ _ _

theorem mem_persistedPage_stored (dto : InsertIndexedEventDTO Value) :
    dto ∈ (worker.persistedPage contract prevLedger page progressSaved state).1.db.stored ↔
      dto ∈ state.db.stored ∨
        WriteResolved worker.upsertEvent state.upsertCalls
          (page.events.filterMap contract.decoder.decode) dto := by
  rw [persistedPage, advance_stored]
  exact mem_upsertEach_stored _ _ _ dto

theorem persistedPage_handed :
    (worker.persistedPage contract prevLedger page progressSaved state).1.handed =
      if 0 < (worker.pageTally contract page state).processed ∨
          prevLedger < (highestLedger prevLedger page.events).toNat then
        state.handed ++ [(highestLedger prevLedger page.events).toNat]
      else state.handed := by
  rw [persistedPage, advance_handed]
  rfl

theorem persistedPage_cursor
    (saved : (worker.persistedPage contract prevLedger page progressSaved state).2 ≠ none) :
    worker.lastProcessedLedger contract
        (worker.persistedPage contract prevLedger page progressSaved state).1 =
          worker.lastProcessedLedger contract state ∨
      worker.lastProcessedLedger contract
        (worker.persistedPage contract prevLedger page progressSaved state).1 =
          (highestLedger prevLedger page.events).toNat := by
  unfold persistedPage at saved ⊢
  rcases worker.advance_cases contract prevLedger page progressSaved
      (page.events.length - (page.events.filterMap contract.decoder.decode).length)
      (worker.pageTally contract page state)
      (withTally state (worker.pageTally contract page state)) with ⟨_, same⟩ | ⟨_, same⟩
  · rw [same]
    exact Or.inl rfl
  · rw [same] at saved ⊢
    cases progressSaved with
    | false => exact absurd rfl saved
    | true =>
        right
        rw [if_pos rfl, lastProcessedLedger]
        exact IndexerDb.recordProgress_ledger
          (withTally state (worker.pageTally contract page state)).db _ _ _ _ none

theorem persistedPage_cursor_rejected
    (rejected : (worker.persistedPage contract prevLedger page progressSaved state).2 = none) :
    worker.lastProcessedLedger contract
        (worker.persistedPage contract prevLedger page progressSaved state).1 =
      worker.lastProcessedLedger contract state := by
  unfold persistedPage at rejected ⊢
  rcases worker.advance_cases contract prevLedger page progressSaved
      (page.events.length - (page.events.filterMap contract.decoder.decode).length)
      (worker.pageTally contract page state)
      (withTally state (worker.pageTally contract page state)) with ⟨_, same⟩ | ⟨_, same⟩
  · rw [same]
    rfl
  · rw [same] at rejected ⊢
    cases progressSaved with
    | false => rfl
    | true => cases rejected

theorem pageTally_processed :
    (worker.pageTally contract page state).processed = 0 ↔
      EveryWriteRejected worker.upsertEvent state.upsertCalls
        (page.events.filterMap contract.decoder.decode) :=
  upsertEach_processed_eq worker.upsertEvent (tallyOf state) _

theorem persistProgress_eq (state : PollState Value) (drained : queue.items = []) :
    ∃ after, after.items = [] ∧
      worker.persistProgress contract prevLedger page progressSaved queue state =
        ((worker.persistedPage contract prevLedger page progressSaved state).1, after,
          (worker.persistedPage contract prevLedger page progressSaved state).2) := by
  have skips := worker.bufferEvents_skipped contract page.events 0 (tallyOf state) queue
  have writes := worker.bufferEvents_tally contract page.events 0 (tallyOf state) queue
  rw [drained, List.nil_append, ← flushQueue_tally] at writes
  refine ⟨_, worker.flushQueue_items
    (worker.bufferEvents contract page.events 0 (tallyOf state) queue).2.1
    (worker.bufferEvents contract page.events 0 (tallyOf state) queue).2.2, ?_⟩
  have skippedEq : (worker.bufferEvents contract page.events 0 (tallyOf state) queue).1 =
      page.events.length - (page.events.filterMap contract.decoder.decode).length := by omega
  unfold persistProgress persistedPage pageTally
  simp only [writes, skippedEq]

@[simp] theorem freshQueue_items : worker.freshQueue.items = [] := rfl

/-- Where a poll stands between two pages. -/
inductive Paging
  | range (start latestLedger : Nat)
  | following (seenCursors : List String) (pageCursor : Option String)

def request : Paging → Option FetchEventsOptions
  | .range start latestLedger =>
      some
        { contractIds := [contract.contractId], startLedger := some start,
          endLedger := some latestLedger, limit := some worker.pageSize }
  | .following _ none => none
  | .following seenCursors (some pageCursor) =>
      if pageCursor ∈ seenCursors then none
      else
        some
          { contractIds := [contract.contractId], cursor := some pageCursor,
            limit := some worker.pageSize }

def Paging.after (page : EventsPage Value) : Paging → Paging
  | .range _ _ => .following [] (nonEmpty page.cursor)
  | .following seenCursors none => .following seenCursors none
  | .following seenCursors (some pageCursor) =>
      .following (pageCursor :: seenCursors) (nonEmpty page.cursor)

def Paging.start (first : Option Nat) (latestLedger : Nat) : Paging :=
  match first with
  | none => .following [] none
  | some start => .range start latestLedger

variable (prevLedger : Nat)
  (holds : List (PageAnswer ScVal) → Paging → PollState Value → Prop)

/-- The ways a poll can end, each with the last point between two pages at which
`holds` was reached. -/
inductive PollEnds (input : PollInput ScVal) : PollState Value → PollResult → Prop
  | caughtUp {answers : List (PageAnswer ScVal)} {paging : Paging} {last : PollState Value}
      (outcome : PollOutcome) (reached : holds answers paging last)
      (exhausted : worker.request contract paging = none) :
      PollEnds input last (.completed outcome)
  | stopped {answers : List (PageAnswer ScVal)} {paging : Paging} {last : PollState Value}
      (outcome : PollOutcome) (reached : holds answers paging last) :
      PollEnds input { last with stopped := true } (.completed outcome)
  | cut {answers : List (PageAnswer ScVal)} {paging : Paging} {last : PollState Value}
      (reached : holds answers paging last) : PollEnds input last .cut
  | unanswered {answers : List (PageAnswer ScVal)} {paging : Paging} {last : PollState Value}
      (initial : PageTotals) (reached : holds answers paging last) :
      PollEnds input (worker.pollFailed contract input initial last).1
        (worker.pollFailed contract input initial last).2
  | unsaved {answer : PageAnswer ScVal} {rest : List (PageAnswer ScVal)} {paging : Paging}
      {last : PollState Value} {opts : FetchEventsOptions} {page : EventsPage Value}
      (initial : PageTotals) (reached : holds (answer :: rest) paging last)
      (requested : worker.request contract paging = some opts)
      (answered : fetchEvents worker.scValToNative answer.getEvents opts = some page)
      (rejected : (worker.persistedPage contract prevLedger page answer.progressSaved
        (seePage page last)).2 = none) :
      PollEnds input
        (worker.pollFailed contract input initial
          (worker.persistedPage contract prevLedger page answer.progressSaved
            (seePage page last)).1).1
        (worker.pollFailed contract input initial
          (worker.persistedPage contract prevLedger page answer.progressSaved
            (seePage page last)).1).2

/-- `holds` survives every page whose cursor write does not reject. -/
def PageStep : Prop :=
  ∀ answer rest paging opts page state, holds (answer :: rest) paging state →
    worker.request contract paging = some opts →
    fetchEvents worker.scValToNative answer.getEvents opts = some page →
    (worker.persistedPage contract prevLedger page answer.progressSaved
      (seePage page state)).2 ≠ none →
    holds rest (paging.after page)
      (worker.persistedPage contract prevLedger page answer.progressSaved (seePage page state)).1

theorem finishDrain_eq (totals : PageTotals) (state : PollState Value)
    (drained : queue.items = []) :
    worker.finishDrain queue totals state = (state, .returned totals) := by
  have unchanged : (worker.flushQueue (tallyOf state) queue).1 = tallyOf state := by
    rw [flushQueue_tally, drained]
    rfl
  unfold finishDrain
  simp only [unchanged]
  rfl

/-- The ways the draining of pages can end, before `pollOnce` reacts to them. -/
private inductive DrainEnds : PollState Value → PollEnd PageTotals → Prop
  | caughtUp {answers : List (PageAnswer ScVal)} {paging : Paging} {last : PollState Value}
      (totals : PageTotals) (reached : holds answers paging last)
      (exhausted : worker.request contract paging = none) : DrainEnds last (.returned totals)
  | stopped {answers : List (PageAnswer ScVal)} {paging : Paging} {last : PollState Value}
      (totals : PageTotals) (reached : holds answers paging last) :
      DrainEnds { last with stopped := true } (.returned totals)
  | cut {answers : List (PageAnswer ScVal)} {paging : Paging} {last : PollState Value}
      (reached : holds answers paging last) : DrainEnds last .cut
  | unanswered {answers : List (PageAnswer ScVal)} {paging : Paging} {last : PollState Value}
      (reached : holds answers paging last) : DrainEnds last .rejected
  | unsaved {answer : PageAnswer ScVal} {rest : List (PageAnswer ScVal)} {paging : Paging}
      {last : PollState Value} {opts : FetchEventsOptions} {page : EventsPage Value}
      (reached : holds (answer :: rest) paging last)
      (requested : worker.request contract paging = some opts)
      (answered : fetchEvents worker.scValToNative answer.getEvents opts = some page)
      (rejected : (worker.persistedPage contract prevLedger page answer.progressSaved
        (seePage page last)).2 = none) :
      DrainEnds
        (worker.persistedPage contract prevLedger page answer.progressSaved
          (seePage page last)).1 .rejected

private theorem drainPages_ends (step : worker.PageStep contract prevLedger holds)
    (answers : List (PageAnswer ScVal)) (seenCursors : List String) (pageCursor : Option String)
    (queue : BoundedEventQueue (InsertIndexedEventDTO Value)) (totals : PageTotals)
    (state : PollState Value) (drained : queue.items = [])
    (reached : holds answers (.following seenCursors pageCursor) state) :
    worker.DrainEnds contract prevLedger holds
      (worker.drainPages contract prevLedger answers seenCursors pageCursor queue totals state).1
      (worker.drainPages contract prevLedger answers seenCursors pageCursor queue totals state).2 := by
  induction answers generalizing seenCursors pageCursor queue totals state with
  | nil =>
      cases pageCursor with
      | none =>
          simp only [drainPages, finishDrain_eq _ _ _ _ drained]
          exact .caughtUp totals reached rfl
      | some cursor => exact .cut reached
  | cons answer rest ih =>
      cases pageCursor with
      | none =>
          simp only [drainPages, finishDrain_eq _ _ _ _ drained]
          exact .caughtUp totals reached rfl
      | some cursor =>
          by_cases stop : answer.stopRequested = true
          · simp only [drainPages, if_pos stop, finishDrain_eq _ _ _ _ drained]
            exact .stopped totals reached
          · by_cases seen : cursor ∈ seenCursors
            · simp only [drainPages, if_neg stop, if_pos seen, finishDrain_eq _ _ _ _ drained]
              exact .caughtUp totals reached (by rw [request, if_pos seen])
            · have requested : worker.request contract (.following seenCursors (some cursor)) =
                  some
                    { contractIds := [contract.contractId], cursor := some cursor,
                      limit := some worker.pageSize } := by
                rw [request, if_neg seen]
              have room := BoundedEventQueue.isFull_of_items_nil queue drained
              have unchanged : withTally state (tallyOf state) = state := rfl
              simp only [drainPages, if_neg stop, if_neg seen, room, Bool.false_eq_true, if_false,
                unchanged]
              cases answered : fetchEvents worker.scValToNative answer.getEvents
                  { contractIds := [contract.contractId], cursor := some cursor,
                    limit := some worker.pageSize } with
              | none => exact .unanswered reached
              | some page =>
                  obtain ⟨emptied, emptiedItems, persisted⟩ := worker.persistProgress_eq contract
                    prevLedger page answer.progressSaved queue (seePage page state) drained
                  simp only [persisted]
                  cases outcomeAt : (worker.persistedPage contract prevLedger page
                      answer.progressSaved (seePage page state)).2 with
                  | none => exact .unsaved reached requested answered outcomeAt
                  | some outcome =>
                      have saved : (worker.persistedPage contract prevLedger page
                          answer.progressSaved (seePage page state)).2 ≠ none := by
                        rw [outcomeAt]
                        exact Option.some_ne_none outcome
                      exact ih _ _ emptied _ _ emptiedItems
                        (step answer rest _ _ page state reached requested answered saved)

private theorem pollInitialPage_ends (step : worker.PageStep contract prevLedger holds)
    (start : Option Nat) (latestLedger : Nat) (pages : List (PageAnswer ScVal))
    (state : PollState Value) (reached : holds pages (Paging.start start latestLedger) state) :
    (∃ after rest initial,
      worker.pollInitialPage contract start latestLedger prevLedger pages state =
          (after, rest, .returned initial) ∧
        holds rest (.following [] initial.cursor) after) ∨
      ∃ after rest, worker.DrainEnds contract prevLedger holds after .cut ∧
          worker.pollInitialPage contract start latestLedger prevLedger pages state =
            (after, rest, .cut) ∨
        worker.DrainEnds contract prevLedger holds after .rejected ∧
          worker.pollInitialPage contract start latestLedger prevLedger pages state =
            (after, rest, .rejected) := by
  cases start with
  | none => exact Or.inl ⟨state, pages, _, rfl, reached⟩
  | some start =>
      cases pages with
      | nil => exact Or.inr ⟨state, [], Or.inl ⟨.cut reached, rfl⟩⟩
      | cons answer rest =>
          simp only [pollInitialPage]
          cases answered : fetchEvents worker.scValToNative answer.getEvents
              { contractIds := [contract.contractId], startLedger := some start,
                endLedger := some latestLedger, limit := some worker.pageSize } with
          | none => exact Or.inr ⟨state, rest, Or.inr ⟨.unanswered reached, rfl⟩⟩
          | some first =>
              obtain ⟨emptied, _, persisted⟩ := worker.persistProgress_eq contract prevLedger first
                answer.progressSaved worker.freshQueue (seePage first state) worker.freshQueue_items
              simp only [persisted]
              cases outcomeAt : (worker.persistedPage contract prevLedger first
                  answer.progressSaved (seePage first state)).2 with
              | none =>
                  exact Or.inr ⟨_, rest, Or.inr ⟨.unsaved reached rfl answered outcomeAt, rfl⟩⟩
              | some outcome =>
                  have saved : (worker.persistedPage contract prevLedger first
                      answer.progressSaved (seePage first state)).2 ≠ none := by
                    rw [outcomeAt]
                    exact Option.some_ne_none outcome
                  exact Or.inl ⟨_, rest, _, rfl,
                    step answer rest _ _ first state reached rfl answered saved⟩

theorem begin_cursor :
    worker.lastProcessedLedger contract (worker.begin contract state) =
      worker.lastProcessedLedger contract state := by
  unfold lastProcessedLedger begin
  rw [IndexerDb.getCursor_cursorOf]

theorem pollFailed_cursor (input : PollInput ScVal) (initial : PageTotals)
    (state : PollState Value) :
    worker.lastProcessedLedger contract (worker.pollFailed contract input initial state).1 =
      worker.lastProcessedLedger contract state := by
  unfold pollFailed lastProcessedLedger
  cases input.errorSaved with
  | false => rfl
  | true => exact IndexerDb.recordError_ledger _ _ _ _

theorem pollOnce_cases (input : PollInput ScVal) (state : PollState Value) :
    (∃ latestLedger, input.latestLedger = some latestLedger ∧
      worker.pollOnce contract input state =
        worker.pollFrom contract input (worker.lastProcessedLedger contract state) latestLedger
          (worker.begin contract state)) ∨
      ∃ start, (start = worker.begin contract state ∨
          start = { state with handed := [], fetched := [] }) ∧
        worker.pollOnce contract input state =
          worker.pollFailed contract input noTotals start := by
  unfold pollOnce
  by_cases read : input.cursorRead = true
  · rw [if_pos read]
    cases input.latestLedger with
    | none => exact Or.inr ⟨_, Or.inl rfl, rfl⟩
    | some latestLedger => exact Or.inl ⟨latestLedger, rfl, rfl⟩
  · rw [if_neg read]
    exact Or.inr ⟨_, Or.inr rfl, rfl⟩

theorem pollFrom_ends (step : worker.PageStep contract prevLedger holds)
    (input : PollInput ScVal) (latestLedger : Nat) (state : PollState Value)
    (reached : holds input.pages
      (Paging.start (state.guard.getOverlapStart latestLedger) latestLedger) state) :
    worker.PollEnds contract prevLedger holds input
      (worker.pollFrom contract input prevLedger latestLedger state).1
      (worker.pollFrom contract input prevLedger latestLedger state).2 := by
  unfold pollFrom
  rcases worker.pollInitialPage_ends contract prevLedger holds step
      (state.guard.getOverlapStart latestLedger) latestLedger input.pages state reached with
    ⟨after, rest, initial, initialEq, followed⟩ | ⟨after, rest, ⟨ends, endsEq⟩ | ⟨ends, endsEq⟩⟩
  · have ends := worker.drainPages_ends contract prevLedger holds step rest [] initial.cursor
      worker.freshQueue noTotals after worker.freshQueue_items followed
    rw [initialEq]
    simp only
    generalize worker.drainPages contract prevLedger rest [] initial.cursor worker.freshQueue
      noTotals after = drained at ends
    obtain ⟨last, ended⟩ := drained
    cases ends with
    | caughtUp totals reached exhausted => exact .caughtUp _ reached exhausted
    | stopped totals reached => exact .stopped _ reached
    | cut reached => exact .cut reached
    | unanswered reached => exact .unanswered initial reached
    | unsaved reached requested answered rejected =>
        exact .unsaved initial reached requested answered rejected
  · rw [endsEq]
    cases ends with
    | cut reached => exact .cut reached
  · rw [endsEq]
    cases ends with
    | unanswered reached => exact .unanswered noTotals reached
    | unsaved reached requested answered rejected =>
        exact .unsaved noTotals reached requested answered rejected

end IndexerWorker

end AudioBlock.Indexer
