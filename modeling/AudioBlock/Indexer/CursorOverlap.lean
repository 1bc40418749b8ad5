/-
The cursor row of one contract and network under overlapping polls and backfills.

The timer of `start` begins a poll whether or not the previous one has ended, and a backfill
writes the same row.  Every `recordProgress` and `recordError` reads the row and saves it
whole, with other calls between the two.  What a page holds, what its upserts do and when a
call fails is left open.  `recorded` sums the counts of the saves of `recordProgress`, and
`ledgers` lists the ledger of the row after each save.
-/
import AudioBlock.Foundation.Machine
import AudioBlock.Indexer.Backfill

namespace AudioBlock.Indexer

open AudioBlock.Foundation

variable {Value : Type}

inductive CursorUpdate
  | progress (ledger eventCount : Nat) (eventId : Option String)
  | error (message : String)
  deriving DecidableEq

namespace CursorUpdate

/-- What `recordProgress` and `recordError` make of the row that they read. -/
def apply (cursor : IndexerCursor) : CursorUpdate → IndexerCursor
  | .progress ledger eventCount eventId =>
      { cursor with
        lastProcessedLedger := ledger
        lastProcessedEventId := match eventId with
          | some id => some id
          | none => cursor.lastProcessedEventId
        eventsProcessed := cursor.eventsProcessed + eventCount }
  | .error message =>
      { cursor with errorCount := cursor.errorCount + 1, lastError := some message }

def count : CursorUpdate → Nat
  | .progress _ eventCount _ => eventCount
  | .error _ => 0

end CursorUpdate

/-- A poll knows the ledger that it read first; a backfill reads where to resume from. -/
inductive CursorUser
  | poll (prevLedger : Nat)
  | backfill (startLedger : Nat)
  | backfilling (currentLedger : Nat)
  deriving DecidableEq

/-- A call at the command that it awaits, or between two uses of the row. -/
inductive CursorCall
  | finding (user : CursorUser) (update : Option CursorUpdate)
  | creating (user : CursorUser) (update : Option CursorUpdate)
  | saving (user : CursorUser) (update : CursorUpdate) (held : IndexerCursor)
  | between (user : CursorUser)
  | ended
  deriving DecidableEq

/-- Whether the call has read the row and is about to save it. -/
def CursorCall.saves : CursorCall → Bool
  | .saving _ _ _ => true
  | .finding _ _ | .creating _ _ | .between _ | .ended => false

structure CursorState where
  row : Option IndexerCursor
  calls : List CursorCall
  recorded : Nat
  ledgers : List Nat

inductive CursorLabel (Value : Type)
  | poll
  | backfill (startLedger : Nat)
  | find (index : Nat)
  | create (index : Nat)
  | save (index : Nat)
  | page (index : Nat) (events : List (NormalizedContractEvent Value)) (processed : Nat)
  | batch (index : Nat) (events : List (NormalizedContractEvent Value)) (imported nextStart : Nat)
  | fails (index : Nat) (message : String)
  | finish (index : Nat)

def gotCursor (user : CursorUser) (update : Option CursorUpdate) (cursor : IndexerCursor) :
    CursorCall :=
  match update with
  | some update => .saving user update cursor
  | none =>
      match user with
      | .poll _ => .between (.poll cursor.lastProcessedLedger)
      | .backfill startLedger =>
          .between (.backfilling (max startLedger (cursor.lastProcessedLedger + 1) - 1))
      | .backfilling currentLedger => .between (.backfilling currentLedger)

/-- `pollOnce` records an error, unless recording one has failed; a backfill rejects. -/
def rejectedCall (user : CursorUser) (update : Option CursorUpdate) (message : String) :
    CursorCall :=
  match user, update with
  | .poll _, some (.error _) => .ended
  | .poll _, _ => .finding user (some (.error message))
  | _, _ => .ended

/-- The end of `persistProgress`. -/
def afterPage (prevLedger : Nat) (events : List (NormalizedContractEvent Value))
    (processed : Nat) : CursorCall :=
  let highest := (highestLedger prevLedger events).toNat
  if 0 < processed ∨ prevLedger < highest then
    .finding (.poll prevLedger) (some (.progress highest processed none))
  else .between (.poll prevLedger)

/-- The end of `processBatch`. -/
def afterBatch (currentLedger : Nat) (events : List (NormalizedContractEvent Value))
    (imported nextStart : Nat) : CursorCall :=
  let currentLedger := max currentLedger (highestLedger currentLedger events).toNat
  .finding (.backfilling currentLedger)
    (some (.progress (max currentLedger (nextStart - 1)) imported none))

namespace CursorState

def continueCall (state : CursorState) (index : Nat) (call : CursorCall) : CursorState :=
  { state with calls := state.calls.set index call }

/-- The row as a call saves it. -/
def saveRow (state : CursorState) (cursor : IndexerCursor) (count : Nat) : CursorState :=
  { state with
    row := some cursor
    recorded := state.recorded + count
    ledgers := state.ledgers ++ [cursor.lastProcessedLedger] }

end CursorState

/-- `index` is the place of the call that moves. -/
def cursorStep (state : CursorState) : CursorLabel Value → Option CursorState
  | .poll => some { state with calls := state.calls ++ [.finding (.poll 0) none] }
  | .backfill startLedger =>
      some { state with calls := state.calls ++ [.finding (.backfill startLedger) none] }
  | .find index =>
      match state.calls[index]? with
      | some (.finding user update) =>
          match state.row with
          | none => some (state.continueCall index (.creating user update))
          | some cursor => some (state.continueCall index (gotCursor user update cursor))
      | _ => none
  | .create index =>
      match state.calls[index]? with
      | some (.creating user update) =>
          match state.row with
          | none =>
              some ((state.saveRow emptyCursor 0).continueCall index
                (gotCursor user update emptyCursor))
          | some _ =>
              some (state.continueCall index (rejectedCall user update
                "duplicate key value violates unique constraint"))
      | _ => none
  | .save index =>
      match state.calls[index]? with
      | some (.saving user update held) =>
          some ((state.saveRow (update.apply held) update.count).continueCall index
            (match update with
              | .progress _ _ _ => .between user
              | .error _ => .ended))
      | _ => none
  | .page index events processed =>
      match state.calls[index]? with
      | some (.between (.poll prevLedger)) =>
          some (state.continueCall index (afterPage prevLedger events processed))
      | _ => none
  | .batch index events imported nextStart =>
      match state.calls[index]? with
      | some (.between (.backfilling currentLedger)) =>
          some (state.continueCall index (afterBatch currentLedger events imported nextStart))
      | _ => none
  | .fails index message =>
      match state.calls[index]? with
      | some (.finding user update) | some (.creating user update) =>
          some (state.continueCall index (rejectedCall user update message))
      | some (.saving user update _) =>
          some (state.continueCall index (rejectedCall user (some update) message))
      | some (.between user) => some (state.continueCall index (rejectedCall user none message))
      | _ => none
  | .finish index =>
      match state.calls[index]? with
      | some (.between _) => some (state.continueCall index .ended)
      | _ => none

def cursorMachine : Machine CursorState (CursorLabel Value) where
  initial state := state = { row := none, calls := [], recorded := 0, ledgers := [] }
  step := cursorStep

structure CursorKept (state : CursorState) : Prop where
  rising : state.ledgers.Pairwise (· ≤ ·)
  counted : (state.row.getD emptyCursor).eventsProcessed = state.recorded

/-- The ledger that a call passes, the one that it read where it passes none. -/
def CursorUpdate.ledger (update : CursorUpdate) (held : IndexerCursor) : Nat :=
  match update with
  | .progress ledger _ _ => ledger
  | .error _ => held.lastProcessedLedger

/-- The row still has the progress that the call read, and the call passes no earlier ledger. -/
def SavesInTurn (row : Option IndexerCursor) (update : CursorUpdate) (held : IndexerCursor) :
    Prop :=
  (∀ cursor ∈ row, cursor.eventsProcessed = held.eventsProcessed ∧
      cursor.lastProcessedLedger = held.lastProcessedLedger) ∧
    held.lastProcessedLedger ≤ update.ledger held

instance (row : Option IndexerCursor) (update : CursorUpdate) (held : IndexerCursor) :
    Decidable (SavesInTurn row update held) :=
  inferInstanceAs (Decidable ((∀ cursor ∈ row, _) ∧ _))

def KeepsCursor (state : CursorState) : CursorLabel Value → Prop
  | .save index =>
      match state.calls[index]? with
      | some (.saving _ update held) => SavesInTurn state.row update held
      | _ => True
  | _ => True

/-! ### Every run -/

structure CursorSound (state : CursorState) : Prop where
  kept : CursorKept state
  below : ∀ ledger ∈ state.ledgers, ledger ≤ (state.row.getD emptyCursor).lastProcessedLedger
  present : ∀ call ∈ state.calls, call.saves = true → state.row.isSome = true

section Steps

variable {state after : CursorState} {label : CursorLabel Value}

theorem CursorSound.continueCall (sound : CursorSound state) (index : Nat) {call : CursorCall}
    (present : call.saves = true → state.row.isSome = true) :
    CursorSound (state.continueCall index call) := by
  refine ⟨⟨sound.kept.rising, sound.kept.counted⟩, sound.below, ?_⟩
  intro other member
  rcases List.mem_or_eq_of_mem_set member with before | rfl
  · exact sound.present other before
  · exact present

theorem CursorSound.start (sound : CursorSound state) (user : CursorUser) :
    CursorSound { state with calls := state.calls ++ [.finding user none] } := by
  refine ⟨⟨sound.kept.rising, sound.kept.counted⟩, sound.below, ?_⟩
  intro call member
  rcases List.mem_append.mp member with before | new
  · exact sound.present call before
  · cases List.mem_singleton.mp new
    exact nofun

theorem rejectedCall_saves (user : CursorUser) (update : Option CursorUpdate) (message : String) :
    (rejectedCall user update message).saves = false := by
  unfold rejectedCall
  split
  · rfl
  · rfl
  · rfl

theorem CursorSound.rejects (sound : CursorSound state) (index : Nat) (user : CursorUser)
    (update : Option CursorUpdate) (message : String) :
    CursorSound (state.continueCall index (rejectedCall user update message)) := by
  apply sound.continueCall
  rw [rejectedCall_saves]
  exact nofun

theorem CursorSound.saveRow (sound : CursorSound state) {cursor : IndexerCursor} {count : Nat}
    (added : cursor.eventsProcessed = (state.row.getD emptyCursor).eventsProcessed + count)
    (forward : (state.row.getD emptyCursor).lastProcessedLedger ≤ cursor.lastProcessedLedger) :
    CursorSound (state.saveRow cursor count) := by
  refine ⟨⟨?_, ?_⟩, ?_, fun _ _ _ => rfl⟩
  · refine List.pairwise_append.mpr ⟨sound.kept.rising, List.pairwise_singleton _ _, ?_⟩
    intro earlier member last isLast
    rw [List.mem_singleton.mp isLast]
    exact Nat.le_trans (sound.below earlier member) forward
  · change cursor.eventsProcessed = state.recorded + count
    rw [added, sound.kept.counted]
  · intro ledger member
    change ledger ≤ cursor.lastProcessedLedger
    rcases List.mem_append.mp member with before | new
    · exact Nat.le_trans (sound.below ledger before) forward
    · rw [List.mem_singleton.mp new]

theorem apply_progress (cursor : IndexerCursor) (update : CursorUpdate) :
    (update.apply cursor).eventsProcessed = cursor.eventsProcessed + update.count ∧
      (update.apply cursor).lastProcessedLedger = update.ledger cursor := by
  cases update with
  | progress ledger eventCount eventId => exact ⟨rfl, rfl⟩
  | error message => exact ⟨rfl, rfl⟩

theorem CursorSound.create (sound : CursorSound state) (missing : state.row = none) :
    CursorSound (state.saveRow emptyCursor 0) := by
  apply sound.saveRow
  · rw [missing]
    rfl
  · rw [missing]
    exact Nat.le_refl 0

theorem CursorSound.save (sound : CursorSound state) {update : CursorUpdate}
    {held : IndexerCursor} (present : state.row.isSome = true)
    (turn : SavesInTurn state.row update held) :
    CursorSound (state.saveRow (update.apply held) update.count) := by
  obtain ⟨cursor, isRow⟩ := Option.isSome_iff_exists.mp present
  obtain ⟨same, forward⟩ := turn
  obtain ⟨events, ledger⟩ := same cursor isRow
  obtain ⟨added, passed⟩ := apply_progress held update
  apply sound.saveRow
  · rw [isRow, Option.getD_some, added, events]
  · rw [isRow, Option.getD_some, passed, ledger]
    exact forward

theorem cursorStep_sound (sound : CursorSound state) (permitted : KeepsCursor state label)
    (moved : cursorStep state label = some after) : CursorSound after := by
  cases label with
  | poll =>
      cases moved
      exact sound.start _
  | backfill startLedger =>
      cases moved
      exact sound.start _
  | find index =>
      simp only [cursorStep] at moved
      split at moved
      · rename_i user update calling
        cases row : state.row with
        | none =>
            rw [row] at moved
            cases moved
            exact sound.continueCall index nofun
        | some cursor =>
            rw [row] at moved
            cases moved
            exact sound.continueCall index fun _ => Option.isSome_of_mem row
      · cases moved
  | create index =>
      simp only [cursorStep] at moved
      split at moved
      · rename_i user update calling
        cases row : state.row with
        | none =>
            rw [row] at moved
            cases moved
            exact (sound.create row).continueCall index fun _ => rfl
        | some cursor =>
            rw [row] at moved
            cases moved
            exact sound.rejects index user update _
      · cases moved
  | save index =>
      simp only [cursorStep] at moved
      split at moved
      · rename_i user update held calling
        cases moved
        simp only [KeepsCursor, calling] at permitted
        have present := sound.present _ (List.mem_of_getElem? calling) rfl
        exact (sound.save present permitted).continueCall index fun _ => rfl
      · cases moved
  | page index events processed =>
      simp only [cursorStep] at moved
      split at moved
      · cases moved
        apply sound.continueCall
        unfold afterPage
        dsimp only
        split
        · exact nofun
        · exact nofun
      · cases moved
  | batch index events imported nextStart =>
      simp only [cursorStep] at moved
      split at moved
      · cases moved
        exact sound.continueCall index nofun
      · cases moved
  | fails index message =>
      simp only [cursorStep] at moved
      split at moved
      · cases moved
        exact sound.rejects index _ _ _
      · cases moved
        exact sound.rejects index _ _ _
      · cases moved
        exact sound.rejects index _ _ _
      · cases moved
        exact sound.rejects index _ _ _
      · cases moved
  | finish index =>
      simp only [cursorStep] at moved
      split at moved
      · cases moved
        exact sound.continueCall index nofun
      · cases moved

end Steps

instance (state : CursorState) (label : CursorLabel Value) : Decidable (KeepsCursor state label) := by
  unfold KeepsCursor
  split
  · split <;> infer_instance
  · infer_instance

/-! Two polls and a backfill, one after another, and two polls at once. -/

def ledgerEvent (ledger : Nat) : NormalizedContractEvent String :=
  { id := "event", ledger, txHash := "", contractId := none, topic := [], value := none }

/-- Each of the uses of the row is done before the next begins. -/
def takenTurns : List (CursorLabel String) :=
  [.poll, .find 0, .create 0, .page 0 [ledgerEvent 90] 1, .find 0, .save 0, .poll, .find 1,
    .page 1 [ledgerEvent 100] 1, .find 1, .save 1, .backfill 80, .find 2,
    .batch 2 [ledgerEvent 110] 1 111, .find 2, .save 2]

/-- The later poll reads the row before the earlier one has saved it. -/
def overlappingPolls : List (CursorLabel String) :=
  [.poll, .find 0, .create 0, .poll, .find 1, .page 1 [ledgerEvent 100] 1,
    .page 0 [ledgerEvent 90] 1, .find 0, .find 1, .save 1, .save 0]

end AudioBlock.Indexer
