/-
When the cursor stays behind durable writes.

`persistProgress` hands the highest ledger of a page to `recordProgress` as soon
as one write of the page resolved or the page reached above the prior cursor,
whatever the other writes did.  A decodable event whose write rejected is then
at or below the ledger handed on.  The cursor is safe exactly when no write was
lost or when nothing was handed on at all.
-/

import AudioBlock.Indexer.PollRule
import AudioBlock.Indexer.ChainLog

namespace AudioBlock.Indexer

variable {ScVal Value : Type}

namespace IndexerWorker

variable (worker : IndexerWorker ScVal Value) (contract : IndexerContract Value)

/-- The decoded events that a poll passed to `upsertEvent`, in call order. -/
def pollWrites (state : PollState Value) : List (InsertIndexedEventDTO Value) :=
  state.fetched.filterMap contract.decoder.decode

/-- Every fetched decodable event at or below a ledger handed to
`recordProgress` is stored. -/
def CursorDurable (state : PollState Value) : Prop :=
  ∀ ledger ∈ state.handed, ∀ event ∈ state.fetched, ∀ dto,
    contract.decoder.decode event = some dto → event.ledger ≤ ledger → dto ∈ state.db.stored

/-- What holds of a poll between any two pages, and when it ends. -/
structure WritesFollow (before : PollState Value) (prevLedger : Nat)
    (state : PollState Value) : Prop where
  calls : state.upsertCalls = before.upsertCalls + (pollWrites contract state).length
  stored : ∀ dto, dto ∈ state.db.stored ↔
    dto ∈ before.db.stored ∨
      WriteResolved worker.upsertEvent before.upsertCalls (pollWrites contract state) dto
  handedAbove : ∀ ledger ∈ state.handed, prevLedger ≤ ledger
  covered : ∀ event ∈ state.fetched, prevLedger < event.ledger →
    ∃ ledger ∈ state.handed, event.ledger ≤ ledger
  silent : state.handed = [] ↔
    (∀ event ∈ state.fetched, event.ledger ≤ prevLedger) ∧
      EveryWriteRejected worker.upsertEvent before.upsertCalls (pollWrites contract state)

theorem persistedPage_writesFollow (before : PollState Value) (prevLedger : Nat)
    (page : EventsPage Value) (progressSaved : Bool) (state : PollState Value)
    (earlier : worker.WritesFollow contract before prevLedger state) :
    worker.WritesFollow contract before prevLedger
      (worker.persistedPage contract prevLedger page progressSaved (seePage page state)).1 := by
  have highestAbove : prevLedger ≤ (highestLedger prevLedger page.events).toNat := by
    have floor := floor_le_highestLedger (prevLedger : Int) page.events
    omega
  have nothingAbove := not_lt_highestLedger_iff prevLedger page.events
  have fetched := worker.persistedPage_fetched contract prevLedger page progressSaved state
  have handed := worker.persistedPage_handed contract prevLedger page progressSaved
    (seePage page state)
  have unprocessed := worker.pageTally_processed contract page (seePage page state)
  have writes : pollWrites contract (worker.persistedPage contract prevLedger page progressSaved
      (seePage page state)).1 =
        pollWrites contract state ++ page.events.filterMap contract.decoder.decode := by
    rw [pollWrites, fetched, List.filterMap_append]
    rfl
  constructor
  · rw [writes, List.length_append, persistedPage_upsertCalls, ← Nat.add_assoc, ← earlier.calls]
    rfl
  · intro dto
    rw [writes, writeResolved_append, mem_persistedPage_stored, ← or_assoc, ← earlier.stored dto,
      ← earlier.calls]
    rfl
  · intro ledger member
    rw [handed] at member
    split at member
    · rcases List.mem_append.mp member with old | new
      · exact earlier.handedAbove ledger old
      · rw [List.mem_singleton.mp new]
        exact highestAbove
    · exact earlier.handedAbove ledger member
  · intro event member above
    rw [fetched] at member
    rw [handed]
    rcases List.mem_append.mp member with old | new
    · obtain ⟨ledger, ledgerMember, bound⟩ := earlier.covered event old above
      refine ⟨ledger, ?_, bound⟩
      split
      · exact List.mem_append_left _ ledgerMember
      · exact ledgerMember
    · have eventBound := ledger_le_highestLedger (prevLedger : Int) page.events event new
      rw [if_pos (Or.inr (by omega))]
      exact ⟨_, List.mem_append_right _ (List.mem_singleton.mpr rfl), by omega⟩
  · rw [handed, fetched, writes, everyWriteRejected_append, ← earlier.calls]
    by_cases records : 0 < (worker.pageTally contract page (seePage page state)).processed ∨
        prevLedger < (highestLedger prevLedger page.events).toNat
    · rw [if_pos records]
      constructor
      · intro nothing
        simp at nothing
      · rintro ⟨below, _, rejected⟩
        rcases records with processed | above
        · exact absurd (unprocessed.mpr rejected) (Nat.ne_of_gt processed)
        · refine absurd above (nothingAbove.mpr fun event member => ?_)
          exact below event (List.mem_append_right _ member)
    · obtain ⟨notProcessed, notAbove⟩ := not_or.mp records
      have pageBelow := nothingAbove.mp notAbove
      have pageRejected := unprocessed.mp (Nat.eq_zero_of_not_pos notProcessed)
      rw [if_neg records]
      change state.handed = [] ↔ _
      rw [earlier.silent]
      constructor
      · rintro ⟨below, rejected⟩
        refine ⟨?_, rejected, pageRejected⟩
        intro event member
        rcases List.mem_append.mp member with old | new
        · exact below event old
        · exact pageBelow event new
      · rintro ⟨below, rejected, _⟩
        exact ⟨fun event member => below event (List.mem_append_left _ member), rejected⟩

private theorem writesFollow_start (before state : PollState Value) (prevLedger : Nat)
    (calls : state.upsertCalls = before.upsertCalls) (stored : state.db.stored = before.db.stored)
    (handed : state.handed = []) (fetched : state.fetched = []) :
    worker.WritesFollow contract before prevLedger state := by
  have writes : pollWrites contract state = [] := by
    rw [pollWrites, fetched]
    rfl
  constructor
  · rw [writes, calls]
    rfl
  · intro dto
    simp [writes, stored, WriteResolved]
  · intro ledger member
    rw [handed] at member
    cases member
  · intro event member
    rw [fetched] at member
    cases member
  · simp [handed, fetched, writes, EveryWriteRejected]

private theorem writesFollow_pollFailed (before state : PollState Value) (prevLedger : Nat)
    (input : PollInput ScVal) (initial : PageTotals)
    (earlier : worker.WritesFollow contract before prevLedger state) :
    worker.WritesFollow contract before prevLedger
      (worker.pollFailed contract input initial state).1 := by
  unfold pollFailed
  cases input.errorSaved with
  | false => exact earlier
  | true =>
      constructor
      · exact earlier.calls
      · intro dto
        simp only [if_true, IndexerDb.recordError_stored]
        exact earlier.stored dto
      · exact earlier.handedAbove
      · exact earlier.covered
      · exact earlier.silent

theorem pollOnce_writesFollow (input : PollInput ScVal) (before : PollState Value) :
    worker.WritesFollow contract before (worker.lastProcessedLedger contract before)
      (worker.pollOnce contract input before).1 := by
  have begun : worker.WritesFollow contract before (worker.lastProcessedLedger contract before)
      (worker.begin contract before) :=
    worker.writesFollow_start contract before _ _ rfl (IndexerDb.getCursor_stored _ _ _) rfl rfl
  rcases worker.pollOnce_cases contract input before with
    ⟨latestLedger, _, polled⟩ | ⟨start, failedAt, polled⟩
  · have step : worker.PageStep contract (worker.lastProcessedLedger contract before)
        (fun _ _ state => worker.WritesFollow contract before
          (worker.lastProcessedLedger contract before) state) := by
      intro answer rest paging opts page state earlier _ _ _
      exact worker.persistedPage_writesFollow contract before _ page _ state earlier
    have ends := worker.pollFrom_ends contract (worker.lastProcessedLedger contract before) _
      step input latestLedger (worker.begin contract before) begun
    rw [← polled] at ends
    generalize worker.pollOnce contract input before = result at ends
    obtain ⟨after, ended⟩ := result
    cases ends with
    | caughtUp _ reached _ => exact reached
    | stopped _ reached =>
        exact ⟨reached.calls, reached.stored, reached.handedAbove, reached.covered,
          reached.silent⟩
    | cut reached => exact reached
    | unanswered initial reached =>
        exact worker.writesFollow_pollFailed contract before _ _ input initial reached
    | unsaved initial reached _ _ _ =>
        exact worker.writesFollow_pollFailed contract before _ _ input initial
          (worker.persistedPage_writesFollow contract before _ _ _ _ reached)
  · rw [polled]
    apply worker.writesFollow_pollFailed contract before _ _ input noTotals
    rcases failedAt with rfl | rfl
    · exact begun
    · exact worker.writesFollow_start contract before _ _ rfl rfl rfl rfl

/-- After a poll the cursor is durable exactly when every decodable event the
poll fetched was stored before or has a write that resolved, or when the poll
fetched nothing above the prior cursor and every write rejected. -/
theorem pollOnce_durable_iff (input : PollInput ScVal) (before : PollState Value) :
    CursorDurable contract (worker.pollOnce contract input before).1 ↔
      (∀ dto ∈ pollWrites contract (worker.pollOnce contract input before).1,
        dto ∈ before.db.stored ∨
          WriteResolved worker.upsertEvent before.upsertCalls
            (pollWrites contract (worker.pollOnce contract input before).1) dto) ∨
      (∀ event ∈ (worker.pollOnce contract input before).1.fetched,
        event.ledger ≤ worker.lastProcessedLedger contract before) ∧
        EveryWriteRejected worker.upsertEvent before.upsertCalls
          (pollWrites contract (worker.pollOnce contract input before).1) := by
  have follows := worker.pollOnce_writesFollow contract input before
  generalize (worker.pollOnce contract input before).1 = after at follows
  rw [← follows.silent]
  constructor
  · intro durable
    by_cases silent : after.handed = []
    · exact Or.inr silent
    · left
      intro dto written
      obtain ⟨event, member, decoded⟩ := List.mem_filterMap.mp written
      have covered : ∃ ledger ∈ after.handed, event.ledger ≤ ledger := by
        by_cases above : worker.lastProcessedLedger contract before < event.ledger
        · exact follows.covered event member above
        · obtain ⟨ledger, handed⟩ := List.exists_mem_of_ne_nil _ silent
          have bound := follows.handedAbove ledger handed
          exact ⟨ledger, handed, by omega⟩
      obtain ⟨ledger, handed, bound⟩ := covered
      exact (follows.stored dto).mp (durable ledger handed event member dto decoded bound)
  · rintro (kept | silent) ledger handed event member dto decoded _
    · have written : dto ∈ pollWrites contract after :=
        List.mem_filterMap.mpr ⟨event, member, decoded⟩
      exact (follows.stored dto).mpr (kept dto written)
    · rw [silent] at handed
      cases handed

end IndexerWorker

/-! ### One page with one event whose write rejects -/

def rejectingWorker : IndexerWorker String String :=
  { network := "testnet", pageSize := 200, maxQueueSize := 1000, writeBatchSize := 100
    queuePositive := by decide
    batchPositive := by decide
    scValToNative := some
    upsertEvent := fun _ => false }

def nftContract : IndexerContract String :=
  { contractType := .nft, contractId := "CA", decoder := keepAll }

def idleState : PollState String :=
  { db := emptyDb, guard := { config := {}, cursor := none }, stopped := false, upsertCalls := 0
    handed := [], fetched := [] }

/-- The tip is 500 and the only page holds one event of ledger 480. -/
def oneEventPoll : PollInput String :=
  { cursorRead := true
    latestLedger := some 500
    pages :=
      [{ stopRequested := false
         getEvents := fun _ =>
           some { events := [some (plainEvent "evt-err-1" 480).raw], cursor := some "" }
         progressSaved := true }]
    errorMessage := "unused"
    errorSaved := true }

theorem pollOnce_passes_rejected_write :
    ¬ IndexerWorker.CursorDurable nftContract
      (rejectingWorker.pollOnce nftContract oneEventPoll idleState).1 := by
  intro durable
  have handed : 480 ∈ (rejectingWorker.pollOnce nftContract oneEventPoll idleState).1.handed := by
    decide +kernel
  have fetched : (plainEvent "evt-err-1" 480).event ∈
      (rejectingWorker.pollOnce nftContract oneEventPoll idleState).1.fetched := by
    decide +kernel
  have stored : (rejectingWorker.pollOnce nftContract oneEventPoll idleState).1.db.stored = [] := by
    decide +kernel
  have kept := durable 480 handed _ fetched _ rfl (Nat.le_refl _)
  rw [stored] at kept
  cases kept

end AudioBlock.Indexer
