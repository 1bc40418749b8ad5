/-
The bigint columns of the cursor row as `recordProgress`, `recordError` and the reorg guard
use them.

The driver returns such a column as a decimal text, and a row that `getCursor` has just
created still holds the numbers it was created with.  Ledgers and counts that the program
passes are safe integers; the column itself takes any integer of 64 bits with a sign, and
its range is checked when the row is saved.
-/
import Mathlib.Algebra.GroupWithZero.Nat
import AudioBlock.Foundation.Coercion
import AudioBlock.Indexer.CursorOverlap
import AudioBlock.Indexer.ReorgGuard

namespace AudioBlock.Indexer

open AudioBlock.Foundation

structure SafeInteger where
  value : Nat
  safe : value ≤ 9007199254740991
  deriving DecidableEq

structure Bigint where
  value : Nat
  inRange : value ≤ 9223372036854775807
  deriving DecidableEq

structure StoredCursor where
  lastProcessedLedger : SafeInteger
  lastProcessedEventId : Option String
  eventsProcessed : Bigint
  errorCount : Bigint
  lastError : Option String
  deriving DecidableEq

/-- The entity that the service changes and saves; its ledger was read or passed. -/
structure CursorEntity where
  lastProcessedLedger : Operand
  lastProcessedEventId : Option String
  eventsProcessed : Operand
  errorCount : Operand
  lastError : Option String
  safeLedger : lastProcessedLedger.toNumber ≤ 9007199254740991

/-- The integers of a row, without their representation. -/
def StoredCursor.numbers (row : StoredCursor) : IndexerCursor where
  lastProcessedLedger := row.lastProcessedLedger.value
  lastProcessedEventId := row.lastProcessedEventId
  eventsProcessed := row.eventsProcessed.value
  errorCount := row.errorCount.value
  lastError := row.lastError

def CursorEntity.numbers (cursor : CursorEntity) : IndexerCursor where
  lastProcessedLedger := cursor.lastProcessedLedger.toNumber
  lastProcessedEventId := cursor.lastProcessedEventId
  eventsProcessed := cursor.eventsProcessed.toNumber
  errorCount := cursor.errorCount.toNumber
  lastError := cursor.lastError

/-- A missing row counts as the one that `getCursor` creates. -/
def numbersOf (row : Option StoredCursor) : IndexerCursor :=
  (row.map StoredCursor.numbers).getD emptyCursor

def getCursor (row : Option StoredCursor) : CursorEntity :=
  match row with
  | some stored =>
      { lastProcessedLedger := Operand.ofColumn stored.lastProcessedLedger.value
        lastProcessedEventId := stored.lastProcessedEventId
        eventsProcessed := Operand.ofColumn stored.eventsProcessed.value
        errorCount := Operand.ofColumn stored.errorCount.value
        lastError := stored.lastError
        safeLedger := by
          rw [Operand.toNumber_ofColumn]
          exact stored.lastProcessedLedger.safe }
  | none =>
      { lastProcessedLedger := .number 0
        lastProcessedEventId := none
        eventsProcessed := .number 0
        errorCount := .number 0
        lastError := none
        safeLedger := Nat.zero_le _ }

/-- The column rejects what is out of its range. -/
def Bigint.ofOperand (operand : Operand) : Option Bigint :=
  if inRange : operand.toNumber ≤ 9223372036854775807 then
    some ⟨operand.toNumber, inRange⟩
  else none

def saveEntity (cursor : CursorEntity) : Option StoredCursor :=
  match Bigint.ofOperand cursor.eventsProcessed, Bigint.ofOperand cursor.errorCount with
  | some eventsProcessed, some errorCount =>
      some
        { lastProcessedLedger := ⟨cursor.lastProcessedLedger.toNumber, cursor.safeLedger⟩
          lastProcessedEventId := cursor.lastProcessedEventId
          eventsProcessed
          errorCount
          lastError := cursor.lastError }
  | _, _ => none

def recordProgress (row : Option StoredCursor) (ledger eventCount : SafeInteger)
    (eventId : Option String) : Option StoredCursor :=
  let cursor := getCursor row
  saveEntity
    { cursor with
      lastProcessedLedger := .number ledger.value
      lastProcessedEventId := match eventId with
        | some id => some id
        | none => cursor.lastProcessedEventId
      eventsProcessed := cursor.eventsProcessed.add eventCount.value
      safeLedger := ledger.safe }

def recordError (row : Option StoredCursor) (message : String) : Option StoredCursor :=
  let cursor := getCursor row
  saveEntity
    { cursor with errorCount := cursor.errorCount.add 1, lastError := some message }

inductive RecordCall
  | progress (ledger eventCount : SafeInteger) (eventId : Option String)
  | error (message : String)
  deriving DecidableEq

namespace RecordCall

/-- The call on a row of integers. -/
def update : RecordCall → CursorUpdate
  | .progress ledger eventCount eventId => .progress ledger.value eventCount.value eventId
  | .error message => .error message

def isError : RecordCall → Bool
  | .progress _ _ _ => false
  | .error _ => true

def counter (cursor : IndexerCursor) : RecordCall → Nat
  | .progress _ _ _ => cursor.eventsProcessed
  | .error _ => cursor.errorCount

end RecordCall

def record (row : Option StoredCursor) : RecordCall → Option StoredCursor
  | .progress ledger eventCount eventId => recordProgress row ledger eventCount eventId
  | .error message => recordError row message

def recordAll (row : Option StoredCursor) : List RecordCall → Option (Option StoredCursor)
  | [] => some row
  | call :: rest =>
      match record row call with
      | some stored => recordAll (some stored) rest
      | none => none

/-- What the calls make of a row of integers. -/
def recorded (cursor : IndexerCursor) (calls : List RecordCall) : IndexerCursor :=
  calls.foldl (fun cursor call => call.update.apply cursor) cursor

/-- `getOverlapStart` on a cursor as it was read. -/
def overlapStart (config : ReorgGuardConfig) (cursor : Operand) (latestAvailableLedger : Nat) :
    Option Operand :=
  let expectedNext := cursor.add 1
  if latestAvailableLedger < cursor.toNumber then
    some (.number (max 1 (cursor.toNumber - config.overlapWindow)))
  else if cursor.strictEquals latestAvailableLedger then none
  else if config.gapThreshold < latestAvailableLedger - cursor.toNumber then
    some (.number (max 1 (cursor.toNumber - config.overlapWindow)))
  else some expectedNext

/-- What a start from the row may be. -/
def StartsFrom (config : ReorgGuardConfig) (ledger start : Nat) : Prop :=
  start = ledger + 1 ∨ start = max 1 (ledger - config.overlapWindow)

structure ColumnsAdded (row : Option StoredCursor) (calls : List RecordCall)
    (after : Option StoredCursor) (config : ReorgGuardConfig) (latest : Nat) : Prop where
  events : (numbersOf after).eventsProcessed =
    (numbersOf row).eventsProcessed + (calls.map fun call => call.update.count).sum
  errors : (numbersOf after).errorCount =
    (numbersOf row).errorCount + calls.countP RecordCall.isError
  starts : ∀ start, overlapStart config (getCursor after).lastProcessedLedger latest = some start →
    StartsFrom config (numbersOf after).lastProcessedLedger start.toNumber

/-- Every call returns, and the columns are as the arithmetic has them. -/
def ColumnsExact (row : Option StoredCursor) (calls : List RecordCall)
    (config : ReorgGuardConfig) (latest : Nat) : Prop :=
  ∃ after, recordAll row calls = some after ∧ ColumnsAdded row calls after config latest

def AddsToZero (cursor : IndexerCursor) : List RecordCall → Prop
  | [] => True
  | call :: rest => call.counter cursor = 0 ∧ AddsToZero (call.update.apply cursor) rest

/-- The guard adds nothing to the ledger, or adds to zero. -/
def RollsBack (config : ReorgGuardConfig) (ledger latest : Nat) : Prop :=
  ledger = 0 ∨ latest < ledger ∨ ledger + config.gapThreshold < latest

/-! ### One call -/

variable (row : Option StoredCursor)

theorem getCursor_numbers :
    (getCursor row).numbers = numbersOf row := by
  cases row with
  | none => rfl
  | some stored =>
      simp only [getCursor, CursorEntity.numbers, Operand.toNumber_ofColumn]
      rfl

/-- The counter as the program adds to it: never to less than the sum, exactly from zero. -/
structure AddsLike (operand : Operand) (counter : Nat) : Prop where
  value : operand.toNumber = counter
  grows : ∀ count, counter + count ≤ (operand.add count).toNumber
  exact_iff : ∀ count, (operand.add count).toNumber = counter + count ↔ counter = 0

theorem addsLike_ofColumn (counter : Nat) : AddsLike (Operand.ofColumn counter) counter := by
  have value := Operand.toNumber_ofColumn counter
  refine ⟨value, fun count => ?_, fun count => ?_⟩
  · have grown := Operand.le_toNumber_add (Operand.ofColumn counter) count
    rwa [value] at grown
  · have exact_iff := Operand.toNumber_add_iff (Operand.ofColumn counter) count
    rw [value] at exact_iff
    rw [exact_iff]
    exact ⟨fun either => either.resolve_left nofun, Or.inr⟩

theorem addsLike_zero : AddsLike (.number 0) 0 :=
  ⟨rfl, fun _ => Nat.le_refl _, fun _ => iff_of_true rfl rfl⟩

theorem getCursor_events :
    AddsLike (getCursor row).eventsProcessed (numbersOf row).eventsProcessed := by
  cases row with
  | none => exact addsLike_zero
  | some stored => exact addsLike_ofColumn stored.eventsProcessed.value

theorem getCursor_errors :
    AddsLike (getCursor row).errorCount (numbersOf row).errorCount := by
  cases row with
  | none => exact addsLike_zero
  | some stored => exact addsLike_ofColumn stored.errorCount.value

theorem getCursor_ledger :
    AddsLike (getCursor row).lastProcessedLedger (numbersOf row).lastProcessedLedger := by
  cases row with
  | none => exact addsLike_zero
  | some stored => exact addsLike_ofColumn stored.lastProcessedLedger.value

theorem numbersOf_inRange :
    (numbersOf row).eventsProcessed ≤ 9223372036854775807 ∧
      (numbersOf row).errorCount ≤ 9223372036854775807 := by
  cases row with
  | none => exact ⟨Nat.zero_le _, Nat.zero_le _⟩
  | some stored => exact ⟨stored.eventsProcessed.inRange, stored.errorCount.inRange⟩

theorem Bigint.ofOperand_some {operand : Operand} {column : Bigint}
    (stored : Bigint.ofOperand operand = some column) : column.value = operand.toNumber := by
  unfold Bigint.ofOperand at stored
  split at stored
  · cases stored
    rfl
  · cases stored

theorem saveEntity_numbers {cursor : CursorEntity} {stored : StoredCursor}
    (saved : saveEntity cursor = some stored) : stored.numbers = cursor.numbers := by
  unfold saveEntity at saved
  split at saved
  · rename_i events errors eventsStored errorsStored
    cases saved
    simp only [StoredCursor.numbers, CursorEntity.numbers, Bigint.ofOperand_some eventsStored,
      Bigint.ofOperand_some errorsStored]
  · cases saved

theorem saveEntity_isSome {cursor : CursorEntity}
    (events : cursor.numbers.eventsProcessed ≤ 9223372036854775807)
    (errors : cursor.numbers.errorCount ≤ 9223372036854775807) :
    ∃ stored, saveEntity cursor = some stored := by
  have eventsStored : Bigint.ofOperand cursor.eventsProcessed = some ⟨_, events⟩ := dif_pos events
  have errorsStored : Bigint.ofOperand cursor.errorCount = some ⟨_, errors⟩ := dif_pos errors
  unfold saveEntity
  rw [eventsStored, errorsStored]
  exact ⟨_, rfl⟩

section Calls

variable {row : Option StoredCursor} {stored : StoredCursor}

theorem record_grows (call : RecordCall) (done : record row call = some stored) :
    (call.update.apply (numbersOf row)).eventsProcessed ≤ stored.numbers.eventsProcessed ∧
      (call.update.apply (numbersOf row)).errorCount ≤ stored.numbers.errorCount ∧
        (stored.numbers.eventsProcessed = (call.update.apply (numbersOf row)).eventsProcessed →
          stored.numbers.errorCount = (call.update.apply (numbersOf row)).errorCount →
            call.counter (numbersOf row) = 0) := by
  have events := getCursor_events row
  have errors := getCursor_errors row
  cases call with
  | progress ledger eventCount eventId =>
      rw [saveEntity_numbers done]
      refine ⟨events.grows eventCount.value, Nat.le_of_eq errors.value.symm, ?_⟩
      exact fun same _ => (events.exact_iff eventCount.value).mp same
  | error message =>
      rw [saveEntity_numbers done]
      refine ⟨Nat.le_of_eq events.value.symm, errors.grows 1, ?_⟩
      exact fun _ same => (errors.exact_iff 1).mp same

theorem record_zero (call : RecordCall) (zero : call.counter (numbersOf row) = 0) :
    ∃ stored, record row call = some stored ∧
      stored.numbers = call.update.apply (numbersOf row) := by
  have before := getCursor_numbers row
  obtain ⟨eventsInRange, errorsInRange⟩ := numbersOf_inRange row
  cases call with
  | progress ledger eventCount eventId =>
      have safe := eventCount.safe
      have exact := ((getCursor_events row).exact_iff eventCount.value).mpr zero
      obtain ⟨stored, saved⟩ : ∃ stored, recordProgress row ledger eventCount eventId =
          some stored := by
        simp only [RecordCall.counter] at zero
        apply saveEntity_isSome
        · change ((getCursor row).eventsProcessed.add eventCount.value).toNumber ≤ _
          omega
        · exact Nat.le_trans (Nat.le_of_eq (getCursor_errors row).value) errorsInRange
      refine ⟨stored, saved, ?_⟩
      rw [saveEntity_numbers saved, ← before]
      rw [← before] at exact
      simp only [CursorEntity.numbers] at exact ⊢
      rw [exact]
      cases eventId <;> rfl
  | error message =>
      have exact := ((getCursor_errors row).exact_iff 1).mpr zero
      obtain ⟨stored, saved⟩ : ∃ stored, recordError row message = some stored := by
        simp only [RecordCall.counter] at zero
        apply saveEntity_isSome
        · exact Nat.le_trans (Nat.le_of_eq (getCursor_events row).value) eventsInRange
        · change ((getCursor row).errorCount.add 1).toNumber ≤ _
          omega
      refine ⟨stored, saved, ?_⟩
      rw [saveEntity_numbers saved, ← before]
      rw [← before] at exact
      simp only [CursorEntity.numbers] at exact ⊢
      rw [exact]
      rfl

end Calls

/-! ### All calls -/

theorem apply_counters (cursor : IndexerCursor) (call : RecordCall) :
    (call.update.apply cursor).eventsProcessed = cursor.eventsProcessed + call.update.count ∧
      (call.update.apply cursor).errorCount =
        cursor.errorCount + if call.isError = true then 1 else 0 := by
  cases call with
  | progress ledger eventCount eventId => exact ⟨rfl, rfl⟩
  | error message => exact ⟨rfl, rfl⟩

theorem recorded_counters (cursor : IndexerCursor) (calls : List RecordCall) :
    (recorded cursor calls).eventsProcessed =
        cursor.eventsProcessed + (calls.map fun call => call.update.count).sum ∧
      (recorded cursor calls).errorCount =
        cursor.errorCount + calls.countP RecordCall.isError := by
  induction calls generalizing cursor with
  | nil => exact ⟨rfl, rfl⟩
  | cons call rest ih =>
      obtain ⟨events, errors⟩ := apply_counters cursor call
      obtain ⟨restEvents, restErrors⟩ := ih (call.update.apply cursor)
      change (recorded (call.update.apply cursor) rest).eventsProcessed = _ ∧
        (recorded (call.update.apply cursor) rest).errorCount = _
      rw [restEvents, restErrors, events, errors, List.map_cons, List.sum_cons, List.countP_cons]
      constructor <;> omega

theorem recordAll_exact {row : Option StoredCursor} {calls : List RecordCall}
    (adds : AddsToZero (numbersOf row) calls) :
    ∃ after, recordAll row calls = some after ∧
      numbersOf after = recorded (numbersOf row) calls := by
  induction calls generalizing row with
  | nil => exact ⟨row, rfl, rfl⟩
  | cons call rest ih =>
      obtain ⟨zero, later⟩ := adds
      obtain ⟨stored, done, numbers⟩ := record_zero call zero
      have same : numbersOf (some stored) = call.update.apply (numbersOf row) := numbers
      rw [← same] at later
      obtain ⟨after, ran, total⟩ := ih later
      refine ⟨after, ?_, ?_⟩
      · rw [recordAll, done]
        exact ran
      · rw [total, same]
        rfl

theorem recordAll_grows {row after : Option StoredCursor} {calls : List RecordCall}
    (ran : recordAll row calls = some after) :
    (recorded (numbersOf row) calls).eventsProcessed ≤ (numbersOf after).eventsProcessed ∧
      (recorded (numbersOf row) calls).errorCount ≤ (numbersOf after).errorCount ∧
        ((numbersOf after).eventsProcessed = (recorded (numbersOf row) calls).eventsProcessed →
          (numbersOf after).errorCount = (recorded (numbersOf row) calls).errorCount →
            AddsToZero (numbersOf row) calls) := by
  induction calls generalizing row with
  | nil =>
      cases ran
      exact ⟨Nat.le_refl _, Nat.le_refl _, fun _ _ => trivial⟩
  | cons call rest ih =>
      rw [recordAll] at ran
      split at ran
      · rename_i stored done
        obtain ⟨eventsGrow, errorsGrow, zero⟩ := record_grows call done
        obtain ⟨restEvents, restErrors, restAdds⟩ := ih ran
        obtain ⟨events, errors⟩ := recorded_counters (numbersOf (some stored)) rest
        obtain ⟨eventsHere, errorsHere⟩ :=
          recorded_counters (call.update.apply (numbersOf row)) rest
        change _ ≤ (numbersOf (some stored)).eventsProcessed at eventsGrow
        change _ ≤ (numbersOf (some stored)).errorCount at errorsGrow
        change (recorded (call.update.apply (numbersOf row)) rest).eventsProcessed ≤ _ ∧
          (recorded (call.update.apply (numbersOf row)) rest).errorCount ≤ _ ∧
            (_ = (recorded (call.update.apply (numbersOf row)) rest).eventsProcessed →
              _ = (recorded (call.update.apply (numbersOf row)) rest).errorCount → _)
        refine ⟨by omega, by omega, ?_⟩
        intro eventsSame errorsSame
        -- equal sums leave no room for growth in the first call or in the later ones
        have isZero : call.counter (numbersOf row) = 0 := by
          apply zero
          · change (numbersOf (some stored)).eventsProcessed = _
            omega
          · change (numbersOf (some stored)).errorCount = _
            omega
        obtain ⟨again, redone, numbers⟩ := record_zero call isZero
        rw [done] at redone
        cases redone
        have same : numbersOf (some stored) = call.update.apply (numbersOf row) := numbers
        rw [same] at restAdds
        exact ⟨isZero, restAdds eventsSame errorsSame⟩
      · cases ran

/-! ### The start of the next poll -/

theorem AddsLike.strictEquals_zero {operand : Operand} {counter value : Nat}
    (adds : AddsLike operand counter) (same : operand.strictEquals value = true) :
    counter = 0 := by
  cases operand with
  | number left => exact (adds.exact_iff 0).mp adds.value
  | text digits => exact nomatch same

theorem overlapStart_iff (config : ReorgGuardConfig) {cursor : Operand} {ledger : Nat}
    (latest : Nat) (adds : AddsLike cursor ledger) :
    (∀ start, overlapStart config cursor latest = some start →
        StartsFrom config ledger start.toNumber) ↔
      RollsBack config ledger latest := by
  unfold overlapStart
  dsimp only
  rw [adds.value]
  split
  · rename_i behind
    refine iff_of_true ?_ (Or.inr (Or.inl behind))
    rintro start ⟨⟩
    exact Or.inr rfl
  · rename_i reached
    split
    · rename_i level
      exact iff_of_true nofun (Or.inl (adds.strictEquals_zero level))
    · split
      · rename_i gap
        refine iff_of_true ?_ (Or.inr (Or.inr (by omega)))
        rintro start ⟨⟩
        exact Or.inr rfl
      · rename_i near
        have grown := adds.grows 1
        have exact_iff := adds.exact_iff 1
        constructor
        · intro expected
          rcases expected _ rfl with next | overlap
          · exact Or.inl (exact_iff.mp next)
          · rw [overlap] at grown
            exact Or.inl (by omega)
        · rintro (zero | behind | gap)
          · rintro start ⟨⟩
            exact Or.inl (exact_iff.mpr zero)
          · exact absurd behind reached
          · omega

/-! ### The columns -/

theorem columnsExact_iff (row : Option StoredCursor) (calls : List RecordCall)
    (config : ReorgGuardConfig) (latest : Nat) :
    ColumnsExact row calls config latest ↔
      AddsToZero (numbersOf row) calls ∧
        RollsBack config (recorded (numbersOf row) calls).lastProcessedLedger latest := by
  obtain ⟨events, errors⟩ := recorded_counters (numbersOf row) calls
  constructor
  · rintro ⟨after, ran, added⟩
    have adds : AddsToZero (numbersOf row) calls :=
      (recordAll_grows ran).2.2 (added.events.trans events.symm) (added.errors.trans errors.symm)
    obtain ⟨again, reran, numbers⟩ := recordAll_exact adds
    rw [ran] at reran
    cases reran
    refine ⟨adds, ?_⟩
    rw [← numbers]
    exact (overlapStart_iff config latest (getCursor_ledger after)).mp added.starts
  · rintro ⟨adds, rolls⟩
    obtain ⟨after, ran, numbers⟩ := recordAll_exact adds
    refine ⟨after, ran, ?_, ?_, ?_⟩
    · rw [numbers, events]
    · rw [numbers, errors]
    · rw [← numbers] at rolls
      exact (overlapStart_iff config latest (getCursor_ledger after)).mpr rolls

/-- Two batches of the first poll, of three events and of four. -/
def twoBatches : List RecordCall :=
  [.progress ⟨1000, by decide⟩ ⟨3, by decide⟩ none, .progress ⟨1001, by decide⟩ ⟨4, by decide⟩ none]

/-- The columns then hold 34 events, and the next poll starts at ledger 10011. -/
theorem columnsExact_concatenates :
    (∃ after, recordAll none twoBatches = some after ∧
        (numbersOf after).eventsProcessed = 34 ∧
          (overlapStart { } (getCursor after).lastProcessedLedger 1003).map Operand.toNumber =
            some 10011) ∧
      ¬ColumnsExact none twoBatches { } 1003 := by
  refine ⟨⟨_, rfl, by decide +kernel, by decide +kernel⟩, fun exact => ?_⟩
  obtain ⟨⟨_, later, _⟩, _⟩ := (columnsExact_iff none twoBatches { } 1003).mp exact
  exact absurd later (by decide)

end AudioBlock.Indexer
