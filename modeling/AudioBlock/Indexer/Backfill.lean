/-
Embedding of src/services/Soroban/BackfillService.ts, with the cursor and
backfill rows of the indexer service.

`BackfillEnv` answers what lies outside: whether the `n`-th `upsertEvent` call of
the run resolves, and whether the cursor and status writes after the `n`-th
page resolve.  The registry of decoders is a field, so that the results hold
for any decoders.  A run that rejects is an `Except.error`; its effect on the
database is not kept, since every result here starts from an arbitrary
database.
-/

import AudioBlock.Indexer.EventStore
import AudioBlock.Indexer.RangePaging

namespace AudioBlock.Indexer

open AudioBlock.Foundation

variable {ScVal Value : Type} {scValToNative : ScVal → Option Value}

structure BackfillOptions where
  contractId : String
  contractType : ContractType
  network : String
  startLedger : Nat
  endLedger : Nat
  batchSize : Option Nat := none
deriving DecidableEq, Repr

structure BackfillProgress where
  contractId : String
  network : String
  startLedger : Nat
  endLedger : Nat
  eventsImported : Nat
  currentLedger : Nat
deriving DecidableEq, Repr

structure BackfillEnv (Value : Type) where
  eventDecoders : ContractType → SorobanEventDecoder Value
  upsertEvent : Nat → Bool
  checkpoint : Nat → Bool

structure BackfillRunState (Value : Type) where
  db : IndexerDb Value
  upsertCalls : Nat
  batches : Nat
  imported : Nat
  currentLedger : Nat

inductive BackfillError
  | alreadyCompleted (message : String)
  | rejected
deriving DecidableEq, Repr

def assertNotCompleted (db : IndexerDb Value) (opts : BackfillOptions) :
    Except BackfillError Unit :=
  if db.isBackfillCompleted opts.contractId opts.network then
    .error (.alreadyCompleted
      ("Backfill already completed for " ++ opts.contractId ++ " on " ++ opts.network ++ ". " ++
        "Delete the backfill_status record manually if a re-run is intentional."))
  else .ok ()

def processBatch (env : BackfillEnv Value) (opts : BackfillOptions)
    (decoder : SorobanEventDecoder Value) (page : EventsPage Value) (nextStart : Nat)
    (state : BackfillRunState Value) : Option (BackfillRunState Value) :=
  let tally := upsertEach env.upsertEvent
    { stored := state.db.stored, calls := state.upsertCalls, processed := 0, errors := 0 }
    (page.events.filterMap decoder.decode)
  let imported := state.imported + tally.processed
  let currentLedger :=
    max state.currentLedger (highestLedger state.currentLedger page.events).toNat
  if env.checkpoint state.batches then
    some
      { db := (IndexerDb.recordProgress { state.db with stored := tally.stored } opts.contractId
          opts.network (max currentLedger (nextStart - 1)) tally.processed none)
            |>.updateBackfillProgress opts.contractId opts.network imported
        upsertCalls := tally.calls
        batches := state.batches + 1
        imported
        currentLedger }
  else none

def finalize (opts : BackfillOptions) (state : BackfillRunState Value) (resumeFrom : Nat) :
    BackfillProgress × IndexerDb Value :=
  ({ contractId := opts.contractId
     network := opts.network
     startLedger := resumeFrom
     endLedger := opts.endLedger
     eventsImported := state.imported
     currentLedger := state.currentLedger },
    state.db.completeBackfill opts.contractId opts.network)

def resumeFrom (db : IndexerDb Value) (opts : BackfillOptions) : Nat :=
  max opts.startLedger ((db.cursorOf opts.contractId opts.network).lastProcessedLedger + 1)

/-- `BackfillService.run`.  The `n`-th page request of the run is answered by `reader n`. -/
def runBackfill (reader : Nat → FetchEventsOptions → Option (EventsPage Value))
    (env : BackfillEnv Value) (db : IndexerDb Value) (opts : BackfillOptions) :
    Except BackfillError (BackfillProgress × IndexerDb Value) :=
  let decoder := env.eventDecoders opts.contractType
  let batchSize := opts.batchSize.getD 200
  match assertNotCompleted db opts with
  | .error refused => .error refused
  | .ok () =>
      let (_, created) := db.getCursor opts.contractId opts.network
      let start := resumeFrom db opts
      match fetchAllInRange reader [opts.contractId] start opts.endLedger batchSize
          (processBatch env opts decoder)
          { db := created, upsertCalls := 0, batches := 0, imported := 0,
            currentLedger := start - 1 } with
      | none => .error .rejected
      | some (_, state) => .ok (finalize opts state start)

/-- The decoded events that a run passes to `upsertEvent`, in call order. -/
def backfillWrites (log : EventLog scValToNative) (env : BackfillEnv Value)
    (db : IndexerDb Value) (opts : BackfillOptions) : List (InsertIndexedEventDTO Value) :=
  ((log.reached (opts.batchSize.getD 200) (resumeFrom db opts) opts.endLedger).map
    (ChainEvent.delivered [opts.contractId])).filterMap
      (env.eventDecoders opts.contractType).decode

/-- Every decodable on-chain event of the requested range satisfies `kept`. -/
def EveryDecodable (log : EventLog scValToNative) (env : BackfillEnv Value)
    (opts : BackfillOptions) (kept : InsertIndexedEventDTO Value → Prop) : Prop :=
  ∀ item ∈ log.between opts.startLedger opts.endLedger, ∀ dto,
    (env.eventDecoders opts.contractType).decode (item.delivered [opts.contractId]) = some dto →
      kept dto

theorem processBatch_writes (env : BackfillEnv Value) (opts : BackfillOptions)
    (decoder : SorobanEventDecoder Value) (page : EventsPage Value) (nextStart : Nat)
    (state after : BackfillRunState Value)
    (accepted : processBatch env opts decoder page nextStart state = some after) :
    after.upsertCalls = state.upsertCalls + (page.events.filterMap decoder.decode).length ∧
      ∀ dto, dto ∈ after.db.stored ↔
        dto ∈ state.db.stored ∨
          WriteResolved env.upsertEvent state.upsertCalls
            (page.events.filterMap decoder.decode) dto := by
  unfold processBatch at accepted
  by_cases checkpointed : env.checkpoint state.batches = true
  · simp only [if_pos checkpointed, Option.some.injEq] at accepted
    subst after
    refine ⟨upsertEach_calls _ _ _, ?_⟩
    intro dto
    simp only [IndexerDb.updateBackfillProgress_stored, IndexerDb.recordProgress_stored]
    exact mem_upsertEach_stored _ _ _ dto
  · simp only [if_neg checkpointed] at accepted
    cases accepted

private structure WritesPages (env : BackfillEnv Value) (db : IndexerDb Value)
    (decoder : SorobanEventDecoder Value) (low high : Nat)
    (pages : List (EventsPage Value)) (state : BackfillRunState Value) : Prop where
  inside : inRangeEvents low high pages = pages.flatMap fun page => page.events
  calls : state.upsertCalls =
    ((pages.flatMap fun page => page.events).filterMap decoder.decode).length
  stored : ∀ dto, dto ∈ state.db.stored ↔
    dto ∈ db.stored ∨
      WriteResolved env.upsertEvent 0
        ((pages.flatMap fun page => page.events).filterMap decoder.decode) dto

private theorem writesPages_snoc (env : BackfillEnv Value) (db : IndexerDb Value)
    (opts : BackfillOptions) (decoder : SorobanEventDecoder Value) (low high : Nat)
    (pages : List (EventsPage Value)) (state after : BackfillRunState Value)
    (page : EventsPage Value) (nextStart : Nat)
    (earlier : WritesPages env db decoder low high pages state)
    (pageInside : ∀ event ∈ page.events, low ≤ event.ledger ∧ event.ledger ≤ high)
    (accepted : processBatch env opts decoder page nextStart state = some after) :
    WritesPages env db decoder low high (pages ++ [page]) after := by
  obtain ⟨calls, stored⟩ := processBatch_writes env opts decoder page nextStart state after accepted
  have events : (pages ++ [page]).flatMap (fun page => page.events) =
      (pages.flatMap fun page => page.events) ++ page.events := by
    simp
  constructor
  · have kept : page.events.filter (fun event =>
        decide (low ≤ event.ledger) && decide (event.ledger ≤ high)) = page.events := by
      apply List.filter_eq_self.mpr
      intro event member
      obtain ⟨above, below⟩ := pageInside event member
      rw [decide_eq_true above, decide_eq_true below]
      rfl
    rw [inRangeEvents_snoc, earlier.inside, kept, events]
  · rw [events, List.filterMap_append, List.length_append, calls, earlier.calls]
  · intro dto
    rw [events, List.filterMap_append, writeResolved_append, stored dto, earlier.stored dto,
      earlier.calls, Nat.zero_add, or_assoc]

theorem runBackfill_inversion (reader : Nat → FetchEventsOptions → Option (EventsPage Value))
    (env : BackfillEnv Value) (db : IndexerDb Value) (opts : BackfillOptions)
    (progress : BackfillProgress) (after : IndexerDb Value)
    (returned : runBackfill reader env db opts = .ok (progress, after)) :
    db.isBackfillCompleted opts.contractId opts.network = false ∧
      ∃ pages state, fetchAllInRange reader [opts.contractId] (resumeFrom db opts)
          opts.endLedger (opts.batchSize.getD 200)
          (processBatch env opts (env.eventDecoders opts.contractType))
          { db := (db.getCursor opts.contractId opts.network).2, upsertCalls := 0, batches := 0,
            imported := 0, currentLedger := resumeFrom db opts - 1 } = some (pages, state) ∧
        finalize opts state (resumeFrom db opts) = (progress, after) := by
  unfold runBackfill assertNotCompleted at returned
  cases completed : db.isBackfillCompleted opts.contractId opts.network with
  | true =>
      rw [completed] at returned
      cases returned
  | false =>
      refine ⟨rfl, ?_⟩
      simp only [completed, Bool.false_eq_true, if_false] at returned
      split at returned
      · cases returned
      · rename_i pages state fetched
        exact ⟨pages, state, fetched, Except.ok.inj returned⟩

theorem runBackfill_stored (log : EventLog scValToNative) (up : Nat → Bool)
    (env : BackfillEnv Value) (db : IndexerDb Value) (opts : BackfillOptions)
    (progress : BackfillProgress) (after : IndexerDb Value)
    (returned : runBackfill (log.rangeReader true up) env db opts = .ok (progress, after))
    (dto : InsertIndexedEventDTO Value) :
    dto ∈ after.stored ↔
      dto ∈ db.stored ∨
        WriteResolved env.upsertEvent 0 (backfillWrites log env db opts) dto := by
  obtain ⟨_, pages, state, fetched, finished⟩ := runBackfill_inversion _ env db opts progress after
    returned
  have initially : WritesPages env db (env.eventDecoders opts.contractType) (resumeFrom db opts)
      opts.endLedger []
      { db := (db.getCursor opts.contractId opts.network).2, upsertCalls := 0, batches := 0,
        imported := 0, currentLedger := resumeFrom db opts - 1 } := by
    constructor
    · rfl
    · rfl
    · intro dto
      simp [WriteResolved]
  have writes := fetchAllInRangeLoop_invariant (log.rangeReader true up) [opts.contractId]
    (resumeFrom db opts) opts.endLedger (opts.batchSize.getD 200)
    (processBatch env opts (env.eventDecoders opts.contractType))
    (WritesPages env db (env.eventDecoders opts.contractType) (resumeFrom db opts) opts.endLedger)
    (by
      intro pages state start page nextStart after earlier lowBound answered accepted
      refine writesPages_snoc env db opts _ _ _ pages state after page nextStart earlier ?_ accepted
      intro event member
      have inside := log.rangeReader_inside up pages.length [opts.contractId] start opts.endLedger
        (opts.batchSize.getD 200) page answered event member
      exact ⟨Nat.le_trans lowBound inside.1, inside.2⟩)
    (resumeFrom db opts) 0 (Nat.le_refl _) [] _ initially pages state fetched
  have events := fetchAllInRangeLoop_events log true up [opts.contractId] (resumeFrom db opts)
    opts.endLedger (opts.batchSize.getD 200) _ (resumeFrom db opts) 0 (Nat.le_refl _) [] _
    pages state fetched
  rw [writes.inside] at events
  have same : after = state.db.completeBackfill opts.contractId opts.network :=
    (congrArg Prod.snd finished).symm
  rw [same, IndexerDb.completeBackfill_stored, writes.stored dto, events]
  rfl

def oneEventLog : EventLog (some : String → Option String) :=
  { events := [plainEvent "a" 5]
    ordered := by simp }

def everyWrite (resolves : Bool) : BackfillEnv String :=
  { eventDecoders := fun _ => keepAll
    upsertEvent := fun _ => resolves
    checkpoint := fun _ => true }

def ledgerFive : BackfillOptions :=
  { contractId := "CA", contractType := .nft, network := "testnet", startLedger := 5,
    endLedger := 5 }

end AudioBlock.Indexer
