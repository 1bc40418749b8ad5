/-
Decoders (src/services/Soroban/eventDecoders.ts, the interface), the write of
decoded events (src/services/IndexedEventService.ts, the outcome of
`upsertEvent`) and the cursor and backfill rows of
src/services/IndexerService.ts.

`upsertEach` is the loop both the live worker and the backfill run over decoded
events: a call that resolves stores the event, a call that rejects is counted
and the loop goes on.  The outcome of the `n`-th call is `upsertEvent n`.
Timestamps and Prometheus counters are left out: no function embedded here
reads them.
-/

import AudioBlock.Indexer.EventReader
import Mathlib.Logic.Function.Basic

namespace AudioBlock.Indexer

inductive ContractType
  | nft
  | artist
  | catalog
  | royalty
  | marketplace
deriving DecidableEq, Repr

structure InsertIndexedEventDTO (Value : Type) where
  network : Option String := none
  contractId : Option String := none
  contractType : Option String := none
  eventType : String
  eventId : Option String := none
  address : Option String := none
  txHash : Option String := none
  ledger : Option Nat := none
  payload : Option (List (String × Value)) := none
  data : Option (List (String × Value)) := none
deriving DecidableEq, Repr

structure SorobanEventDecoder (Value : Type) where
  contractType : ContractType
  decode : NormalizedContractEvent Value → Option (InsertIndexedEventDTO Value)

structure IndexerContract (Value : Type) where
  contractType : ContractType
  contractId : String
  decoder : SorobanEventDecoder Value

structure IndexerCursor where
  lastProcessedLedger : Nat
  lastProcessedEventId : Option String
  eventsProcessed : Nat
  errorCount : Nat
  lastError : Option String
deriving DecidableEq, Repr

structure BackfillStatus where
  completed : Bool
  startLedger : Option Nat
  endLedger : Option Nat
  eventsImported : Nat
  errorMessage : Option String
deriving DecidableEq, Repr

/-- The tables the indexer writes.  Cursor and backfill rows are unique per
contract and network; `stored` holds what successful `upsertEvent` calls wrote. -/
structure IndexerDb (Value : Type) where
  cursors : String → String → Option IndexerCursor
  backfills : String → String → Option BackfillStatus
  stored : List (InsertIndexedEventDTO Value)

variable {Value : Type}

/-! ### Rows of the indexer service -/

def emptyCursor : IndexerCursor :=
  { lastProcessedLedger := 0, lastProcessedEventId := none, eventsProcessed := 0, errorCount := 0,
    lastError := none }

namespace IndexerDb

def cursorOf (db : IndexerDb Value) (contractId network : String) : IndexerCursor :=
  (db.cursors contractId network).getD emptyCursor

def saveCursor (db : IndexerDb Value) (contractId network : String) (cursor : IndexerCursor) :
    IndexerDb Value :=
  { db with
    cursors := Function.update db.cursors contractId
      (Function.update (db.cursors contractId) network (some cursor)) }

def saveBackfill (db : IndexerDb Value) (contractId network : String) (status : BackfillStatus) :
    IndexerDb Value :=
  { db with
    backfills := Function.update db.backfills contractId
      (Function.update (db.backfills contractId) network (some status)) }

/-- Get or create: a missing row is saved with its initial values. -/
def getCursor (db : IndexerDb Value) (contractId network : String) :
    IndexerCursor × IndexerDb Value :=
  match db.cursors contractId network with
  | some cursor => (cursor, db)
  | none => (emptyCursor, db.saveCursor contractId network emptyCursor)

def recordProgress (db : IndexerDb Value) (contractId network : String)
    (ledger eventCount : Nat) (eventId : Option String) : IndexerDb Value :=
  let (cursor, db) := db.getCursor contractId network
  db.saveCursor contractId network
    { cursor with
      lastProcessedLedger := ledger
      lastProcessedEventId := match eventId with
        | some id => some id
        | none => cursor.lastProcessedEventId
      eventsProcessed := cursor.eventsProcessed + eventCount }

def recordError (db : IndexerDb Value) (contractId network message : String) : IndexerDb Value :=
  let (cursor, db) := db.getCursor contractId network
  db.saveCursor contractId network
    { cursor with errorCount := cursor.errorCount + 1, lastError := some message }

def isBackfillCompleted (db : IndexerDb Value) (contractId network : String) : Bool :=
  match db.backfills contractId network with
  | some status => status.completed
  | none => false

def updateBackfillProgress (db : IndexerDb Value) (contractId network : String)
    (eventsImported : Nat) : IndexerDb Value :=
  match db.backfills contractId network with
  | some status => db.saveBackfill contractId network { status with eventsImported }
  | none => db

def completeBackfill (db : IndexerDb Value) (contractId network : String) : IndexerDb Value :=
  match db.backfills contractId network with
  | some status => db.saveBackfill contractId network { status with completed := true }
  | none => db

variable (db : IndexerDb Value) (contractId network : String)

@[simp] theorem saveCursor_cursorOf (cursor : IndexerCursor) :
    (db.saveCursor contractId network cursor).cursorOf contractId network = cursor := by
  simp [saveCursor, cursorOf]

@[simp] theorem saveCursor_stored (cursor : IndexerCursor) :
    (db.saveCursor contractId network cursor).stored = db.stored := rfl

@[simp] theorem saveBackfill_stored (status : BackfillStatus) :
    (db.saveBackfill contractId network status).stored = db.stored := rfl

@[simp] theorem getCursor_fst :
    (db.getCursor contractId network).1 = db.cursorOf contractId network := by
  unfold getCursor cursorOf
  cases db.cursors contractId network <;> rfl

@[simp] theorem getCursor_stored :
    (db.getCursor contractId network).2.stored = db.stored := by
  unfold getCursor
  cases db.cursors contractId network <;> rfl

@[simp] theorem getCursor_cursorOf :
    (db.getCursor contractId network).2.cursorOf contractId network =
      db.cursorOf contractId network := by
  unfold getCursor
  cases found : db.cursors contractId network with
  | some cursor => rfl
  | none =>
      change (db.saveCursor contractId network emptyCursor).cursorOf contractId network = _
      rw [saveCursor_cursorOf, cursorOf, found]
      rfl

@[simp] theorem recordProgress_stored (ledger eventCount : Nat) (eventId : Option String) :
    (db.recordProgress contractId network ledger eventCount eventId).stored = db.stored := by
  unfold recordProgress
  simp

@[simp] theorem recordProgress_ledger (ledger eventCount : Nat) (eventId : Option String) :
    ((db.recordProgress contractId network ledger eventCount eventId).cursorOf
      contractId network).lastProcessedLedger = ledger := by
  unfold recordProgress
  simp

@[simp] theorem recordError_stored (message : String) :
    (db.recordError contractId network message).stored = db.stored := by
  unfold recordError
  simp

@[simp] theorem recordError_ledger (message : String) :
    ((db.recordError contractId network message).cursorOf contractId network).lastProcessedLedger =
      (db.cursorOf contractId network).lastProcessedLedger := by
  unfold recordError
  simp

@[simp] theorem updateBackfillProgress_stored (eventsImported : Nat) :
    (db.updateBackfillProgress contractId network eventsImported).stored = db.stored := by
  unfold updateBackfillProgress
  cases db.backfills contractId network <;> rfl

@[simp] theorem completeBackfill_stored :
    (db.completeBackfill contractId network).stored = db.stored := by
  unfold completeBackfill
  cases db.backfills contractId network <;> rfl

@[simp] theorem updateBackfillProgress_cursorOf (eventsImported : Nat) :
    (db.updateBackfillProgress contractId network eventsImported).cursorOf contractId network =
      db.cursorOf contractId network := by
  unfold updateBackfillProgress
  cases db.backfills contractId network <;> rfl

@[simp] theorem completeBackfill_cursorOf :
    (db.completeBackfill contractId network).cursorOf contractId network =
      db.cursorOf contractId network := by
  unfold completeBackfill
  cases db.backfills contractId network <;> rfl

end IndexerDb

/-! ### Writing a list of decoded events -/

structure UpsertTally (Value : Type) where
  stored : List (InsertIndexedEventDTO Value)
  calls : Nat
  processed : Nat
  errors : Nat

def upsertEach (upsertEvent : Nat → Bool) :
    UpsertTally Value → List (InsertIndexedEventDTO Value) → UpsertTally Value
  | tally, [] => tally
  | tally, dto :: rest =>
      if upsertEvent tally.calls then
        upsertEach upsertEvent
          { tally with
            stored := tally.stored ++ [dto]
            calls := tally.calls + 1
            processed := tally.processed + 1 } rest
      else
        upsertEach upsertEvent
          { tally with
            calls := tally.calls + 1
            errors := tally.errors + 1 } rest

variable (upsertEvent : Nat → Bool) (tally : UpsertTally Value)
  (items : List (InsertIndexedEventDTO Value)) (first : Nat)
  (front back : List (InsertIndexedEventDTO Value)) (head : InsertIndexedEventDTO Value)
  (rest : List (InsertIndexedEventDTO Value)) (dto : InsertIndexedEventDTO Value)

theorem upsertEach_append (first second : List (InsertIndexedEventDTO Value)) :
    upsertEach upsertEvent tally (first ++ second) =
      upsertEach upsertEvent (upsertEach upsertEvent tally first) second := by
  induction first generalizing tally with
  | nil => rfl
  | cons dto rest ih =>
      simp only [List.cons_append, upsertEach]
      split
      · exact ih _
      · exact ih _

theorem upsertEach_calls :
    (upsertEach upsertEvent tally items).calls = tally.calls + items.length := by
  induction items generalizing tally with
  | nil => rfl
  | cons dto rest ih =>
      simp only [upsertEach]
      split
      · rw [ih, List.length_cons]
        simp only
        omega
      · rw [ih, List.length_cons]
        simp only
        omega

/-- One of the calls made for the event resolves, the first call having number `first`. -/
def WriteResolved (upsertEvent : Nat → Bool) (first : Nat)
    (items : List (InsertIndexedEventDTO Value)) (dto : InsertIndexedEventDTO Value) : Prop :=
  ∃ index, items[index]? = some dto ∧ upsertEvent (first + index) = true

theorem writeResolved_cons :
    WriteResolved upsertEvent first (head :: rest) dto ↔
      (head = dto ∧ upsertEvent first = true) ∨
        WriteResolved upsertEvent (first + 1) rest dto := by
  constructor
  · rintro ⟨index, found, resolved⟩
    cases index with
    | zero => exact Or.inl ⟨Option.some.inj found, resolved⟩
    | succ index =>
        right
        refine ⟨index, found, ?_⟩
        rw [Nat.add_assoc, Nat.add_comm 1 index]
        exact resolved
  · rintro (⟨same, resolved⟩ | ⟨index, found, resolved⟩)
    · exact ⟨0, congrArg some same, resolved⟩
    · refine ⟨index + 1, found, ?_⟩
      rw [Nat.add_comm index 1, ← Nat.add_assoc]
      exact resolved

theorem writeResolved_append :
    WriteResolved upsertEvent first (front ++ back) dto ↔
      WriteResolved upsertEvent first front dto ∨
        WriteResolved upsertEvent (first + front.length) back dto := by
  induction front generalizing first with
  | nil => simp [WriteResolved]
  | cons head rest ih =>
      rw [List.cons_append, writeResolved_cons, writeResolved_cons, ih, or_assoc,
        List.length_cons, Nat.add_assoc first 1, Nat.add_comm 1]

theorem WriteResolved.of_mem {upsertEvent : Nat → Bool} {first : Nat}
    {items : List (InsertIndexedEventDTO Value)} {dto : InsertIndexedEventDTO Value}
    (resolves : ∀ call, upsertEvent call = true) (member : dto ∈ items) :
    WriteResolved upsertEvent first items dto := by
  obtain ⟨index, found⟩ := List.mem_iff_getElem?.mp member
  exact ⟨index, found, resolves _⟩

theorem mem_upsertEach_stored :
    dto ∈ (upsertEach upsertEvent tally items).stored ↔
      dto ∈ tally.stored ∨ WriteResolved upsertEvent tally.calls items dto := by
  induction items generalizing tally with
  | nil => simp [upsertEach, WriteResolved]
  | cons head rest ih =>
      rw [writeResolved_cons]
      simp only [upsertEach]
      by_cases resolved : upsertEvent tally.calls = true
      · rw [if_pos resolved, ih]
        simp only [List.mem_append, List.mem_singleton, resolved, and_true, or_assoc, eq_comm]
      · rw [if_neg resolved, ih]
        simp only [resolved, Bool.false_eq_true, and_false, false_or]

theorem upsertEach_processed_le :
    tally.processed ≤ (upsertEach upsertEvent tally items).processed := by
  induction items generalizing tally with
  | nil => exact Nat.le_refl _
  | cons dto rest ih =>
      simp only [upsertEach]
      split
      · have grown := ih
          { stored := tally.stored ++ [dto], calls := tally.calls + 1,
            processed := tally.processed + 1, errors := tally.errors }
        exact Nat.le_of_succ_le grown
      · exact ih
          { stored := tally.stored, calls := tally.calls + 1,
            processed := tally.processed, errors := tally.errors + 1 }

/-- Every call made for the events rejects, the first call having number `first`. -/
def EveryWriteRejected (upsertEvent : Nat → Bool) (first : Nat)
    (items : List (InsertIndexedEventDTO Value)) : Prop :=
  ∀ index, index < items.length → upsertEvent (first + index) = false

theorem everyWriteRejected_cons :
    EveryWriteRejected upsertEvent first (head :: rest) ↔
      upsertEvent first = false ∧ EveryWriteRejected upsertEvent (first + 1) rest := by
  constructor
  · intro rejected
    refine ⟨rejected 0 (Nat.succ_pos _), ?_⟩
    intro index bound
    have later := rejected (index + 1) (Nat.succ_lt_succ bound)
    rw [Nat.add_assoc, Nat.add_comm 1 index]
    exact later
  · rintro ⟨now, later⟩ index bound
    cases index with
    | zero => exact now
    | succ index =>
        have rejected := later index (Nat.lt_of_succ_lt_succ bound)
        rw [Nat.add_assoc, Nat.add_comm 1 index] at rejected
        exact rejected

theorem everyWriteRejected_append :
    EveryWriteRejected upsertEvent first (front ++ back) ↔
      EveryWriteRejected upsertEvent first front ∧
        EveryWriteRejected upsertEvent (first + front.length) back := by
  induction front generalizing first with
  | nil => simp [EveryWriteRejected]
  | cons head rest ih =>
      rw [List.cons_append, everyWriteRejected_cons, everyWriteRejected_cons, ih, and_assoc,
        List.length_cons, Nat.add_assoc first 1, Nat.add_comm 1]

theorem upsertEach_processed_eq :
    (upsertEach upsertEvent tally items).processed = tally.processed ↔
      EveryWriteRejected upsertEvent tally.calls items := by
  induction items generalizing tally with
  | nil => simp [upsertEach, EveryWriteRejected]
  | cons dto rest ih =>
      rw [everyWriteRejected_cons]
      simp only [upsertEach]
      by_cases resolved : upsertEvent tally.calls = true
      · rw [if_pos resolved, resolved]
        have grown := upsertEach_processed_le upsertEvent
          { stored := tally.stored ++ [dto], calls := tally.calls + 1,
            processed := tally.processed + 1, errors := tally.errors } rest
        simp only at grown
        constructor
        · intro same
          omega
        · rintro ⟨impossible, _⟩
          cases impossible
      · rw [if_neg resolved, ih]
        simp only [Bool.not_eq_true] at resolved
        simp only [resolved, true_and]

/-! ### A decoder and a database for concrete runs -/

def keepAll : SorobanEventDecoder String :=
  { contractType := .nft
    decode := fun event =>
      some { eventType := "mint", contractId := event.contractId, contractType := some "nft",
             eventId := some event.id, txHash := some event.txHash, ledger := some event.ledger } }

def emptyDb : IndexerDb String :=
  { cursors := fun _ _ => none, backfills := fun _ _ => none, stored := [] }

end AudioBlock.Indexer
