/-
The reindex command (src/cli/reindex.ts) with the write that it makes of each event
(`upsertEvent` of src/services/IndexedEventService.ts).

The RPC answers the `n`-th request by `getEvents n`, and the database the `n`-th call of
`upsertEvent` by `database n`.  The contracts of a network are configuration.  A run keeps
the pages that were fetched and the events that were processed.  The loop has no bound of
its own, so it takes fuel.  Connections, timestamps and log lines are left out.
-/
import AudioBlock.Foundation.KeyedTally
import AudioBlock.Indexer.EventStore

namespace AudioBlock.Indexer

open AudioBlock.Foundation

variable {ScVal Value State : Type}

structure ReindexOptions where
  contract : String
  network : String
  fromLedger : Int
  toLedger : Int
  dryRun : Bool
deriving DecidableEq, Repr

structure ReindexSummary where
  fetched : Nat
  inserted : Nat
  alreadyPresent : Nat
  failed : Nat
  skipped : Nat
  perType : List (TallyEntry String String)
deriving DecidableEq, Repr

def MAX_SAFE_INTEGER : Int := 9007199254740991

def isSafeInteger (number : Int) : Bool :=
  decide (-MAX_SAFE_INTEGER ≤ number ∧ number ≤ MAX_SAFE_INTEGER)

def createReindexContext (contracts : String → List (IndexerContract Value))
    (options : ReindexOptions) : Except String (IndexerContract Value) :=
  if !isSafeInteger options.fromLedger || decide (options.fromLedger < 0) then
    .error "Start ledger (--from) must be >= 0 and an integer"
  else if !isSafeInteger options.toLedger || decide (options.toLedger < options.fromLedger) ||
      decide (options.toLedger = MAX_SAFE_INTEGER) then
    .error "End ledger (--to) must be >= start ledger (--from) and an integer"
  else if options.network ≠ "testnet" ∧ options.network ≠ "mainnet" then
    .error "Network must be testnet or mainnet"
  else
    match (contracts options.network).find? fun entry => entry.contractId = options.contract with
    | none => .error "Contract is not in IndexerContractRegistry"
    | some registered => .ok registered

/-! ### The write of one event -/

inductive SaveAnswer
  | saved
  | duplicate
  | rejected
deriving DecidableEq, Repr

/-- The answers to one `upsertEvent`: whether each lookup finds a row (`none` where it
rejects), and what becomes of the save. -/
structure UpsertAnswers where
  existing : Option Bool
  save : SaveAnswer
  raceExisting : Option Bool
deriving DecidableEq, Repr

/-- The state after the callbacks, and whether the call resolves. -/
def upsertEvent (answers : UpsertAnswers) (onResult : Bool → State → State) (state : State) :
    State × Bool :=
  match answers.existing with
  | none => (state, false)
  | some true => (onResult false state, true)
  | some false =>
      match answers.save with
      | .saved => (onResult true state, true)
      | .duplicate =>
          match answers.raceExisting with
          | some true => (onResult false state, true)
          | some false | none => (state, false)
      | .rejected => (state, false)

namespace ReindexSummary

def empty : ReindexSummary :=
  { fetched := 0, inserted := 0, alreadyPresent := 0, failed := 0, skipped := 0, perType := [] }

def onResult (inserted : Bool) (summary : ReindexSummary) : ReindexSummary :=
  if inserted then { summary with inserted := summary.inserted + 1 }
  else { summary with alreadyPresent := summary.alreadyPresent + 1 }

/-- What every event was counted as. -/
def accounted (summary : ReindexSummary) : Nat :=
  summary.inserted + summary.alreadyPresent + summary.failed + summary.skipped

end ReindexSummary

/-! ### The loop -/

structure ReindexRun (Value : Type) where
  summary : ReindexSummary
  processed : List (NormalizedContractEvent Value)
  upserts : Nat
  cursor : Option String
  cursors : List String
  pages : List (EventsPage Value)
deriving DecidableEq, Repr

def ReindexRun.start : ReindexRun Value :=
  { summary := ReindexSummary.empty, processed := [], upserts := 0, cursor := none, cursors := [],
    pages := [] }

/-- How a run ends; `rejected` where a request fails. -/
inductive ReindexEnd
  | returned
  | notAdvanced
  | rejected
deriving DecidableEq, Repr

/-- What a run meets outside the command. -/
structure ReindexWorld (ScVal Value : Type) where
  scValToNative : ScVal → Option Value
  contracts : String → List (IndexerContract Value)
  getEvents : Nat → GetEventsRequest → Option (GetEventsResponse ScVal)
  database : Nat → InsertIndexedEventDTO Value → UpsertAnswers

namespace ReindexWorld

variable (world : ReindexWorld ScVal Value) (options : ReindexOptions)
  (registered : IndexerContract Value)

def processReindexEvent (run : ReindexRun Value) (event : NormalizedContractEvent Value) :
    ReindexRun Value :=
  let run :=
    { run with
      processed := run.processed ++ [event]
      summary := { run.summary with fetched := run.summary.fetched + 1 } }
  match registered.decoder.decode event with
  | none => { run with summary := { run.summary with skipped := run.summary.skipped + 1 } }
  | some dto =>
      let run :=
        { run with
          summary := { run.summary with perType := tallyItem id run.summary.perType dto.eventType } }
      if options.dryRun then run
      else
        let answers := world.database run.upserts { dto with network := some options.network }
        let (summary, resolved) := upsertEvent answers ReindexSummary.onResult run.summary
        { run with
          upserts := run.upserts + 1
          summary := if resolved then summary else { summary with failed := summary.failed + 1 } }

def processPage (run : ReindexRun Value) (events : List (NormalizedContractEvent Value)) :
    ReindexRun Value × Bool :=
  events.foldl (fun (run, pastEnd) event =>
    if options.toLedger < event.ledger then (run, true)
    else if (event.ledger : Int) < options.fromLedger then (run, pastEnd)
    else (world.processReindexEvent options registered run event, pastEnd)) (run, false)

def pageOptions (cursor : Option String) : FetchEventsOptions :=
  if truthy cursor then { contractIds := [options.contract], cursor, limit := some 200 }
  else
    { contractIds := [options.contract], startLedger := some options.fromLedger.toNat,
      endLedger := some (options.toLedger + 1).toNat, limit := some 200 }

def fetchPage (call : Nat) (cursor : Option String) : Option (EventsPage Value) :=
  fetchEvents world.scValToNative (world.getEvents call) (pageOptions options cursor)

def reindexTurn (run : ReindexRun Value) : ReindexRun Value × Option ReindexEnd :=
  match world.fetchPage options run.pages.length run.cursor with
  | none => (run, some .rejected)
  | some page =>
      let (run, pastEnd) :=
        world.processPage options registered { run with pages := run.pages ++ [page] } page.events
      if pastEnd || page.cursor = "" then (run, some .returned)
      else if page.cursor ∈ run.cursors then
        (run, some (if page.events.length = 0 then .returned else .notAdvanced))
      else ({ run with cursors := run.cursors ++ [page.cursor], cursor := some page.cursor }, none)

def reindexLoop : Nat → ReindexRun Value → Option (ReindexRun Value × ReindexEnd)
  | 0, _ => none
  | fuel + 1, run =>
      match world.reindexTurn options registered run with
      | (after, some ending) => some (after, ending)
      | (after, none) => reindexLoop fuel after

/-- The run with its ending, `none` where the fuel is used up; the summary is returned only
where the ending is `returned`. -/
def reindexRange (fuel : Nat) : Except String (Option (ReindexRun Value × ReindexEnd)) :=
  match createReindexContext world.contracts options with
  | .error message => .error message
  | .ok registered => .ok (world.reindexLoop options registered fuel ReindexRun.start)

end ReindexWorld

end AudioBlock.Indexer
