/-
Embedding of src/workers/indexer/BoundedEventQueue.ts, as far as the indexer
worker uses it.

The constructor refuses a capacity below one and no operation lets the queue
grow past its capacity; both facts are fields.  Waiting producers exist only
under `enqueue`, which the worker never calls.
-/

import AudioBlock.Indexer.EventStore
import AudioBlock.Indexer.ReorgGuard

namespace AudioBlock.Indexer

structure BoundedEventQueue (α : Type) where
  maxSize : Nat
  items : List α
  positive : 0 < maxSize
  bounded : items.length ≤ maxSize

namespace BoundedEventQueue

variable {α : Type}

def empty (maxSize : Nat) (positive : 0 < maxSize) : BoundedEventQueue α :=
  { maxSize, items := [], positive, bounded := Nat.zero_le maxSize }

def isFull (queue : BoundedEventQueue α) : Bool := decide (queue.maxSize ≤ queue.items.length)

def isEmpty (queue : BoundedEventQueue α) : Bool := queue.items.isEmpty

def tryEnqueue (queue : BoundedEventQueue α) (item : α) : Bool × BoundedEventQueue α :=
  if full : queue.maxSize ≤ queue.items.length then (false, queue)
  else
    (true,
      { queue with
        items := queue.items ++ [item]
        bounded := by
          rw [List.length_append, List.length_singleton]
          omega })

def dequeueBatch (queue : BoundedEventQueue α) (batchSize : Nat) :
    List α × BoundedEventQueue α :=
  (queue.items.take batchSize,
    { queue with
      items := queue.items.drop batchSize
      bounded := by
        rw [List.length_drop]
        exact Nat.le_trans (Nat.sub_le _ _) queue.bounded })

theorem isFull_of_items_nil (queue : BoundedEventQueue α) (drained : queue.items = []) :
    queue.isFull = false := by
  unfold isFull
  rw [drained, List.length_nil]
  exact decide_eq_false (Nat.not_le.mpr queue.positive)

theorem tryEnqueue_items (queue : BoundedEventQueue α) (item : α)
    (room : queue.isFull = false) :
    (queue.tryEnqueue item).2.items = queue.items ++ [item] := by
  unfold tryEnqueue
  rw [dif_neg (of_decide_eq_false room)]

theorem dequeueBatch_shorter (queue : BoundedEventQueue α) (batchSize : Nat)
    (positive : 0 < batchSize) (waiting : queue.isEmpty = false) :
    (queue.dequeueBatch batchSize).2.items.length < queue.items.length := by
  have nonempty : 0 < queue.items.length := by
    cases items : queue.items with
    | nil =>
        rw [isEmpty, items] at waiting
        cases waiting
    | cons item rest => exact Nat.succ_pos _
  simp only [dequeueBatch, List.length_drop]
  omega

end BoundedEventQueue

/-!
### The poll cycle

Embedding of one poll cycle of src/workers/indexer/IndexerWorker.ts.

`PollState` is what a poll changes: the database, the worker's guard for the
contract, the stop flag, and three ghost records that no function reads back
(the number of `upsertEvent` calls, the ledgers handed to `recordProgress` and
the events of the fetched pages).  A `PollInput` answers every call that leaves
the process.  A list of page answers that runs out models a process that ends
while it waits for the next page.

`upsertEvent` rejections are caught by the worker; every other rejection ends
the poll in `recordError`.  The two reads of the stop flag in one iteration have
no `await` between them, because the queue is empty whenever an iteration starts.
A write batch size of zero would keep `flushQueue` from returning and is excluded
by a field.  Logging, metrics, the queue depth gauge and the timers of `start`
are left out.
-/

variable {ScVal Value : Type}

structure IndexerWorker (ScVal Value : Type) where
  network : String
  pageSize : Nat
  maxQueueSize : Nat
  writeBatchSize : Nat
  queuePositive : 0 < maxQueueSize
  batchPositive : 0 < writeBatchSize
  scValToNative : ScVal → Option Value
  upsertEvent : Nat → Bool

structure PollState (Value : Type) where
  db : IndexerDb Value
  guard : IndexerReorgGuard
  stopped : Bool
  upsertCalls : Nat
  handed : List Nat
  fetched : List (NormalizedContractEvent Value)

/-- What happens around one page: the stop flag as read before it, the answer of
the RPC and whether the cursor write resolves. -/
structure PageAnswer (ScVal : Type) where
  stopRequested : Bool
  getEvents : GetEventsRequest → Option (GetEventsResponse ScVal)
  progressSaved : Bool

structure PollInput (ScVal : Type) where
  cursorRead : Bool
  latestLedger : Option Nat
  pages : List (PageAnswer ScVal)
  errorMessage : String
  errorSaved : Bool

structure PageOutcome where
  processed : Nat
  skipped : Nat
  errors : Nat
deriving DecidableEq, Repr

structure PageTotals where
  fetched : Nat
  processed : Nat
  skipped : Nat
  errors : Nat
  cursor : Option String
deriving DecidableEq, Repr

structure PollOutcome where
  contractType : ContractType
  eventsFetched : Nat
  eventsProcessed : Nat
  eventsSkipped : Nat
  errors : Nat
  cursor : Option String
  latestLedger : Nat
deriving DecidableEq, Repr

/-- How a part of a poll ends; `cut` is the end of the process while a page is awaited. -/
inductive PollEnd (α : Type)
  | returned (value : α)
  | rejected
  | cut
deriving DecidableEq, Repr

inductive PollResult
  | completed (outcome : PollOutcome)
  | failed (outcome : PollOutcome)
  | cut
deriving DecidableEq, Repr

/-- `text || null`. -/
def nonEmpty (text : String) : Option String := if text = "" then none else some text

namespace IndexerWorker

variable (worker : IndexerWorker ScVal Value) (contract : IndexerContract Value)

def flushQueue (tally : UpsertTally Value)
    (queue : BoundedEventQueue (InsertIndexedEventDTO Value)) :
    UpsertTally Value × BoundedEventQueue (InsertIndexedEventDTO Value) :=
  if _waiting : queue.isEmpty = false then
    let batch := queue.dequeueBatch worker.writeBatchSize
    flushQueue (upsertEach worker.upsertEvent tally batch.1) batch.2
  else (tally, queue)
termination_by queue.items.length
decreasing_by exact queue.dequeueBatch_shorter _ worker.batchPositive _waiting

/-- The event loop of `persistProgress`: skip, or enqueue with backpressure. -/
def bufferEvents : List (NormalizedContractEvent Value) → Nat → UpsertTally Value →
    BoundedEventQueue (InsertIndexedEventDTO Value) →
    Nat × UpsertTally Value × BoundedEventQueue (InsertIndexedEventDTO Value)
  | [], skipped, tally, queue => (skipped, tally, queue)
  | event :: rest, skipped, tally, queue =>
      match contract.decoder.decode event with
      | none => bufferEvents rest (skipped + 1) tally queue
      | some dto =>
          let (tally, queue) :=
            if queue.isFull then worker.flushQueue tally queue else (tally, queue)
          bufferEvents rest skipped tally (queue.tryEnqueue dto).2

def tallyOf (state : PollState Value) : UpsertTally Value :=
  { stored := state.db.stored, calls := state.upsertCalls, processed := 0, errors := 0 }

def withTally (state : PollState Value) (tally : UpsertTally Value) : PollState Value :=
  { state with db := { state.db with stored := tally.stored }, upsertCalls := tally.calls }

/-- The cursor update at the end of `persistProgress`; `none` where the write rejects. -/
def advance (prevLedger : Nat) (page : EventsPage Value) (progressSaved : Bool)
    (skipped : Nat) (tally : UpsertTally Value) (state : PollState Value) :
    PollState Value × Option PageOutcome :=
  let outcome : PageOutcome :=
    { processed := tally.processed, skipped, errors := tally.errors }
  let highest := (highestLedger prevLedger page.events).toNat
  if 0 < tally.processed ∨ prevLedger < highest then
    let handed := { state with handed := state.handed ++ [highest] }
    if progressSaved then
      ({ handed with
          db := handed.db.recordProgress contract.contractId worker.network highest
            tally.processed none
          guard := handed.guard.updateCursor highest }, some outcome)
    else (handed, none)
  else (state, some outcome)

def persistProgress (prevLedger : Nat) (page : EventsPage Value) (progressSaved : Bool)
    (queue : BoundedEventQueue (InsertIndexedEventDTO Value)) (state : PollState Value) :
    PollState Value × BoundedEventQueue (InsertIndexedEventDTO Value) × Option PageOutcome :=
  let (skipped, tally, queue) :=
    worker.bufferEvents contract page.events 0 (tallyOf state) queue
  let (tally, queue) := worker.flushQueue tally queue
  let (state, outcome) :=
    worker.advance contract prevLedger page progressSaved skipped tally (withTally state tally)
  (state, queue, outcome)

def freshQueue : BoundedEventQueue (InsertIndexedEventDTO Value) :=
  BoundedEventQueue.empty worker.maxQueueSize worker.queuePositive

def seePage (page : EventsPage Value) (state : PollState Value) : PollState Value :=
  { state with fetched := state.fetched ++ page.events }

def pollInitialPage (start : Option Nat) (latestLedger prevLedger : Nat)
    (pages : List (PageAnswer ScVal)) (state : PollState Value) :
    PollState Value × List (PageAnswer ScVal) × PollEnd PageTotals :=
  match start with
  | none =>
      (state, pages,
        .returned { fetched := 0, processed := 0, skipped := 0, errors := 0, cursor := none })
  | some start =>
      match pages with
      | [] => (state, [], .cut)
      | answer :: rest =>
          match fetchEvents worker.scValToNative answer.getEvents
              { contractIds := [contract.contractId], startLedger := some start,
                endLedger := some latestLedger, limit := some worker.pageSize } with
          | none => (state, rest, .rejected)
          | some first =>
              match worker.persistProgress contract prevLedger first answer.progressSaved
                  worker.freshQueue (seePage first state) with
              | (state, _, none) => (state, rest, .rejected)
              | (state, _, some outcome) =>
                  (state, rest,
                    .returned
                      { fetched := first.events.length
                        processed := outcome.processed
                        skipped := outcome.skipped
                        errors := outcome.errors
                        cursor := nonEmpty first.cursor })

/-- The end of `drainPages`: flush what is still buffered. -/
def finishDrain (queue : BoundedEventQueue (InsertIndexedEventDTO Value)) (totals : PageTotals)
    (state : PollState Value) : PollState Value × PollEnd PageTotals :=
  let (tally, _) := worker.flushQueue (tallyOf state) queue
  (withTally state tally,
    .returned
      { totals with
        processed := totals.processed + tally.processed
        errors := totals.errors + tally.errors })

def drainPages (prevLedger : Nat) :
    List (PageAnswer ScVal) → List String → Option String →
    BoundedEventQueue (InsertIndexedEventDTO Value) → PageTotals → PollState Value →
    PollState Value × PollEnd PageTotals
  | _, _, none, queue, totals, state => worker.finishDrain queue totals state
  | [], _, some _, _, _, state => (state, .cut)
  | answer :: rest, seenCursors, some pageCursor, queue, totals, state =>
      if answer.stopRequested then
        worker.finishDrain queue totals { state with stopped := true }
      else if pageCursor ∈ seenCursors then worker.finishDrain queue totals state
      else
        let (tally, queue) :=
          if queue.isFull then worker.flushQueue (tallyOf state) queue
          else (tallyOf state, queue)
        let state := withTally state tally
        match fetchEvents worker.scValToNative answer.getEvents
            { contractIds := [contract.contractId], cursor := some pageCursor,
              limit := some worker.pageSize } with
        | none => (state, .rejected)
        | some page =>
            match worker.persistProgress contract prevLedger page answer.progressSaved queue
                (seePage page state) with
            | (state, _, none) => (state, .rejected)
            | (state, queue, some outcome) =>
                drainPages prevLedger rest (pageCursor :: seenCursors) (nonEmpty page.cursor) queue
                  { fetched := totals.fetched + page.events.length
                    processed := totals.processed + tally.processed + outcome.processed
                    skipped := totals.skipped + outcome.skipped
                    errors := totals.errors + tally.errors + outcome.errors
                    cursor := (nonEmpty page.cursor).or totals.cursor } state

/-- The `catch` of `pollOnce`. -/
def pollFailed (input : PollInput ScVal) (initial : PageTotals) (state : PollState Value) :
    PollState Value × PollResult :=
  let state :=
    if input.errorSaved then
      { state with
        db := state.db.recordError contract.contractId worker.network input.errorMessage }
    else state
  (state,
    .failed
      { contractType := contract.contractType
        eventsFetched := initial.fetched
        eventsProcessed := initial.processed
        eventsSkipped := initial.skipped
        errors := initial.errors + 1
        cursor := initial.cursor
        latestLedger := 0 })

def noTotals : PageTotals :=
  { fetched := 0, processed := 0, skipped := 0, errors := 0, cursor := none }

/-- The poll after the tip is known. -/
def pollFrom (input : PollInput ScVal) (prevLedger latestLedger : Nat)
    (state : PollState Value) : PollState Value × PollResult :=
  match worker.pollInitialPage contract (state.guard.getOverlapStart latestLedger) latestLedger
      prevLedger input.pages state with
  | (state, _, .cut) => (state, .cut)
  | (state, _, .rejected) => worker.pollFailed contract input noTotals state
  | (state, rest, .returned initial) =>
      match worker.drainPages contract prevLedger rest [] initial.cursor worker.freshQueue
          noTotals state with
      | (state, .cut) => (state, .cut)
      | (state, .rejected) => worker.pollFailed contract input initial state
      | (state, .returned drained) =>
          (state,
            .completed
              { contractType := contract.contractType
                eventsFetched := initial.fetched + drained.fetched
                eventsProcessed := initial.processed + drained.processed
                eventsSkipped := initial.skipped + drained.skipped
                errors := initial.errors + drained.errors
                cursor := drained.cursor.or initial.cursor
                latestLedger })

def lastProcessedLedger (state : PollState Value) : Nat :=
  (state.db.cursorOf contract.contractId worker.network).lastProcessedLedger

def begin (state : PollState Value) : PollState Value :=
  { state with
    db := (state.db.getCursor contract.contractId worker.network).2
    guard := state.guard.setCursor (worker.lastProcessedLedger contract state)
    handed := []
    fetched := [] }

def pollOnce (input : PollInput ScVal) (state : PollState Value) : PollState Value × PollResult :=
  if input.cursorRead then
    let prevLedger := worker.lastProcessedLedger contract state
    let state := worker.begin contract state
    match input.latestLedger with
    | none => worker.pollFailed contract input noTotals state
    | some latestLedger => worker.pollFrom contract input prevLedger latestLedger state
  else
    worker.pollFailed contract input noTotals { state with handed := [], fetched := [] }

end IndexerWorker

end AudioBlock.Indexer
