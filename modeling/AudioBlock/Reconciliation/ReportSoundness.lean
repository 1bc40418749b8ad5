/-
Transaction logs held against the indexed events of their transactions.

Both are scanned from a date on, by the columns of their own creation, and joined by the hash.
-/
import AudioBlock.Songs.Song
import Mathlib.Data.List.Infix

namespace AudioBlock.Reconciliation

open AudioBlock.Songs (truthy)

structure TransactionLog where
  id : String
  user_id : String
  userId : Option String
  txHash : Option String
  action : String
  description : Option String
  createdAt : Int
  deriving DecidableEq

structure IndexedEvent where
  id : String
  eventType : String
  contractType : Option String
  address : Option String
  txHash : Option String
  createdAt : Int
  deriving DecidableEq

inductive MismatchType
  | missingOnChain
  | statusMismatch
  | untrackedOnChain
  deriving DecidableEq

structure ReconciliationMismatch where
  type : MismatchType
  txHash : String
  transactionLogId : Option String
  indexedEventId : Option String
  description : String
  details : List (String × Option String)
  deriving DecidableEq

structure ReconciliationReport where
  scannedLogs : Nat
  scannedEvents : Nat
  matched : Nat
  mismatches : List ReconciliationMismatch
  deriving DecidableEq

/-- What the pattern of a failed log finds, in either case of its letters. -/
def failureWords : List String :=
  ["timedout", "timed-out", "timed_out", "timed out", "timeout", "fail", "error", "revert",
    "rejected"]

def failurePattern (text : String) : Bool :=
  failureWords.any fun word => decide (word.toList <:+: text.toList.map Char.toLower)

def isLogMarkedFailed (log : TransactionLog) : Bool :=
  failurePattern log.action || failurePattern ((truthy log.description).getD "")

/-- The hash of a scanned row. -/
def hashText (txHash : Option String) : String := txHash.getD ""

def missingOnChain (log : TransactionLog) : ReconciliationMismatch where
  type := .missingOnChain
  txHash := hashText log.txHash
  transactionLogId := some log.id
  indexedEventId := none
  description := "TransactionLog " ++ log.id ++ " has txHash " ++ hashText log.txHash ++
    " but no corresponding IndexedEvent was found on-chain."
  details :=
    [("action", some log.action), ("userId", (truthy (some log.user_id)).or log.userId),
      ("description", log.description)]

def statusMismatch (log : TransactionLog) (event : IndexedEvent) : ReconciliationMismatch where
  type := .statusMismatch
  txHash := hashText log.txHash
  transactionLogId := some log.id
  indexedEventId := some event.id
  description := "TransactionLog " ++ log.id ++ " marked as failed/timed out, but on-chain event " ++
    event.id ++ " landed successfully."
  details :=
    [("logAction", some log.action), ("logDescription", log.description),
      ("onChainEventType", some event.eventType)]

/-- `none` is a log that matches. -/
def evaluateLog (log : TransactionLog) (onChainEvents : List IndexedEvent) :
    Option ReconciliationMismatch :=
  match onChainEvents with
  | [] => some (missingOnChain log)
  | event :: _ => if isLogMarkedFailed log then some (statusMismatch log event) else none

def untrackedOnChain (event : IndexedEvent) (txHash : String) : ReconciliationMismatch where
  type := .untrackedOnChain
  txHash := txHash
  transactionLogId := none
  indexedEventId := some event.id
  description := "IndexedEvent " ++ event.id ++ " (" ++ event.eventType ++ ") has txHash " ++ txHash ++
    " with no backend TransactionLog entry."
  details :=
    [("eventType", some event.eventType), ("contractType", event.contractType),
      ("address", event.address)]

def evaluateUntrackedEvent (event : IndexedEvent) (logExists : Bool) :
    Option ReconciliationMismatch :=
  if logExists then none else (truthy event.txHash).map (untrackedOnChain event)

/-- `txHash IS NOT NULL`, `txHash != ''` and `createdAt >= :sinceDate`. -/
def scanned (sinceDate : Int) (txHash : Option String) (createdAt : Int) : Bool :=
  (truthy txHash).isSome && decide (sinceDate ≤ createdAt)

def scanLogs (sinceDate : Int) (logs : List TransactionLog) : List TransactionLog :=
  logs.filter fun log => scanned sinceDate log.txHash log.createdAt

def scanEvents (sinceDate : Int) (events : List IndexedEvent) : List IndexedEvent :=
  events.filter fun event => scanned sinceDate event.txHash event.createdAt

/-- The entry of `eventMapByTxHash`, in the order of the rows. -/
def eventsOfHash (events : List IndexedEvent) (txHash : Option String) : List IndexedEvent :=
  events.filter fun event => decide (event.txHash = txHash)

/-- `logMapByTxHash.has` -/
def hasLog (logs : List TransactionLog) (txHash : Option String) : Bool :=
  logs.any fun log => decide (log.txHash = txHash)

def tallyLog (events : List IndexedEvent) (tally : Nat × List ReconciliationMismatch)
    (log : TransactionLog) : Nat × List ReconciliationMismatch :=
  match evaluateLog log (eventsOfHash events log.txHash) with
  | none => (tally.1 + 1, tally.2)
  | some mismatch => (tally.1, tally.2 ++ [mismatch])

def tallyEvent (logs : List TransactionLog) (mismatches : List ReconciliationMismatch)
    (event : IndexedEvent) : List ReconciliationMismatch :=
  match evaluateUntrackedEvent event (hasLog logs event.txHash) with
  | none => mismatches
  | some mismatch => mismatches ++ [mismatch]

/-- The report from the date on that lies the lookback behind the clock. -/
def reconcile (sinceDate : Int) (transactionLogs : List TransactionLog)
    (indexedEvents : List IndexedEvent) : ReconciliationReport :=
  let logs := scanLogs sinceDate transactionLogs
  let events := scanEvents sinceDate indexedEvents
  let tally := logs.foldl (tallyLog events) (0, [])
  { scannedLogs := logs.length
    scannedEvents := events.length
    matched := tally.1
    mismatches := events.foldl (tallyEvent logs) tally.2 }

/-!
### What a report says

What a reconciliation report says of the rows, and how it accounts for the logs.

A scanned log matches, misses its event, or is marked as failed beside an event.  What is missing
or untracked has no counterpart since the date of the scan; an earlier one is not looked at.
-/

/-! ### The law -/

def countOf (type : MismatchType) (report : ReconciliationReport) : Nat :=
  report.mismatches.countP fun mismatch => decide (mismatch.type = type)

def TrulyMissing (sinceDate : Int) (logs : List TransactionLog) (events : List IndexedEvent)
    (mismatch : ReconciliationMismatch) : Prop :=
  ∃ log ∈ scanLogs sinceDate logs, mismatch = missingOnChain log ∧
    ∀ event ∈ events, event.txHash = log.txHash → event.createdAt < sinceDate

def TrulyUntracked (sinceDate : Int) (logs : List TransactionLog) (events : List IndexedEvent)
    (mismatch : ReconciliationMismatch) : Prop :=
  ∃ event ∈ scanEvents sinceDate events,
    (∃ txHash, event.txHash = some txHash ∧ mismatch = untrackedOnChain event txHash) ∧
      ∀ log ∈ logs, log.txHash = event.txHash → log.createdAt < sinceDate

structure ReportSound (sinceDate : Int) (logs : List TransactionLog) (events : List IndexedEvent)
    (report : ReconciliationReport) : Prop where
  missing : ∀ mismatch ∈ report.mismatches, mismatch.type = .missingOnChain →
    TrulyMissing sinceDate logs events mismatch
  untracked : ∀ mismatch ∈ report.mismatches, mismatch.type = .untrackedOnChain →
    TrulyUntracked sinceDate logs events mismatch
  scanned : report.scannedLogs = (scanLogs sinceDate logs).length
  accounted : report.matched + countOf .missingOnChain report + countOf .statusMismatch report =
    report.scannedLogs

/-! ### The loops -/

section Loops

variable {sinceDate : Int} {logs : List TransactionLog} {events : List IndexedEvent}
  {mismatch : ReconciliationMismatch}

def logMismatches (events : List IndexedEvent) (logs : List TransactionLog) :
    List ReconciliationMismatch :=
  logs.filterMap fun log => evaluateLog log (eventsOfHash events log.txHash)

def eventMismatches (logs : List TransactionLog) (events : List IndexedEvent) :
    List ReconciliationMismatch :=
  events.filterMap fun event => evaluateUntrackedEvent event (hasLog logs event.txHash)

theorem tallyLog_foldl (events : List IndexedEvent) (logs : List TransactionLog)
    (tally : Nat × List ReconciliationMismatch) :
    (logs.foldl (tallyLog events) tally).2 = tally.2 ++ logMismatches events logs ∧
      (logs.foldl (tallyLog events) tally).1 + (logMismatches events logs).length =
        tally.1 + logs.length := by
  induction logs generalizing tally with
  | nil => exact ⟨(List.append_nil tally.2).symm, rfl⟩
  | cons log rest ih =>
      obtain ⟨mismatches, count⟩ := ih (tallyLog events tally log)
      rw [List.foldl_cons, mismatches]
      unfold logMismatches at mismatches count ⊢
      rw [List.filterMap_cons, List.length_cons]
      unfold tallyLog at count ⊢
      split
      · rename_i matched
        simp only [matched] at count ⊢
        exact ⟨trivial, by omega⟩
      · rename_i other found
        simp only [found] at count ⊢
        refine ⟨by rw [List.append_assoc]; rfl, ?_⟩
        rw [List.length_cons]
        omega

theorem tallyEvent_foldl (logs : List TransactionLog) (events : List IndexedEvent)
    (mismatches : List ReconciliationMismatch) :
    events.foldl (tallyEvent logs) mismatches = mismatches ++ eventMismatches logs events := by
  induction events generalizing mismatches with
  | nil => exact (List.append_nil mismatches).symm
  | cons event rest ih =>
      rw [List.foldl_cons, ih]
      unfold eventMismatches tallyEvent
      rw [List.filterMap_cons]
      split
      · rename_i tracked
        simp only [tracked]
      · rename_i other found
        simp only [found]
        rw [List.append_assoc]
        rfl

theorem reconcile_mismatches (sinceDate : Int) (logs : List TransactionLog)
    (events : List IndexedEvent) :
    (reconcile sinceDate logs events).mismatches =
      logMismatches (scanEvents sinceDate events) (scanLogs sinceDate logs) ++
        eventMismatches (scanLogs sinceDate logs) (scanEvents sinceDate events) := by
  unfold reconcile
  dsimp only
  rw [tallyEvent_foldl, (tallyLog_foldl _ _ _).1, List.nil_append]

/-! ### The verdicts -/

theorem evaluateLog_type {log : TransactionLog} {found : List IndexedEvent}
    (evaluated : evaluateLog log found = some mismatch) :
    mismatch.type = .missingOnChain ∧ found = [] ∧ mismatch = missingOnChain log ∨
      mismatch.type = .statusMismatch := by
  unfold evaluateLog at evaluated
  split at evaluated
  · cases evaluated
    exact Or.inl ⟨rfl, rfl, rfl⟩
  · split at evaluated
    · cases evaluated
      exact Or.inr rfl
    · cases evaluated

theorem evaluateUntrackedEvent_some {event : IndexedEvent} {logExists : Bool}
    (evaluated : evaluateUntrackedEvent event logExists = some mismatch) :
    logExists = false ∧ ∃ txHash, event.txHash = some txHash ∧
      mismatch = untrackedOnChain event txHash := by
  unfold evaluateUntrackedEvent at evaluated
  split at evaluated
  · cases evaluated
  · rename_i absent
    obtain ⟨txHash, named, same⟩ := Option.map_eq_some_iff.mp evaluated
    exact ⟨Bool.eq_false_iff.mpr absent, txHash, (Option.filter_eq_some_iff.mp named).1, same.symm⟩

theorem mem_logMismatches (member : mismatch ∈ logMismatches events logs) :
    ∃ log ∈ logs, evaluateLog log (eventsOfHash events log.txHash) = some mismatch :=
  List.mem_filterMap.mp member

theorem mem_eventMismatches (member : mismatch ∈ eventMismatches logs events) :
    ∃ event ∈ events, evaluateUntrackedEvent event (hasLog logs event.txHash) = some mismatch :=
  List.mem_filterMap.mp member

theorem eventMismatches_type (member : mismatch ∈ eventMismatches logs events) :
    mismatch.type = .untrackedOnChain := by
  obtain ⟨event, _, evaluated⟩ := mem_eventMismatches member
  obtain ⟨_, txHash, _, same⟩ := evaluateUntrackedEvent_some evaluated
  subst same
  rfl

theorem logMismatches_type (member : mismatch ∈ logMismatches events logs) :
    mismatch.type = .missingOnChain ∨ mismatch.type = .statusMismatch := by
  obtain ⟨log, _, evaluated⟩ := mem_logMismatches member
  exact (evaluateLog_type evaluated).imp_left And.left

theorem older_of_unscanned {txHash : Option String} {createdAt otherAt : Int}
    (isScanned : scanned sinceDate txHash createdAt = true)
    (unscanned : ¬ scanned sinceDate txHash otherAt = true) : otherAt < sinceDate := by
  unfold scanned at isScanned unscanned
  rw [(Bool.and_eq_true_iff.mp isScanned).1, Bool.true_and, decide_eq_true_eq] at unscanned
  exact Int.not_le.mp unscanned

theorem reported_missing (member : mismatch ∈ (reconcile sinceDate logs events).mismatches)
    (type : mismatch.type = .missingOnChain) : TrulyMissing sinceDate logs events mismatch := by
  rw [reconcile_mismatches] at member
  cases List.mem_append.mp member with
  | inr ofEvent =>
      rw [eventMismatches_type ofEvent] at type
      cases type
  | inl ofLog =>
      obtain ⟨log, scannedLog, evaluated⟩ := mem_logMismatches ofLog
      rcases evaluateLog_type evaluated with ⟨_, none, same⟩ | status
      · refine ⟨log, scannedLog, same, ?_⟩
        intro event present sameHash
        apply older_of_unscanned (List.mem_filter.mp scannedLog).2
        intro isScanned
        rw [← sameHash] at isScanned
        have found : event ∈ eventsOfHash (scanEvents sinceDate events) log.txHash :=
          List.mem_filter.mpr ⟨List.mem_filter.mpr ⟨present, isScanned⟩, decide_eq_true sameHash⟩
        rw [none] at found
        cases found
      · rw [status] at type
        cases type

theorem reported_untracked (member : mismatch ∈ (reconcile sinceDate logs events).mismatches)
    (type : mismatch.type = .untrackedOnChain) : TrulyUntracked sinceDate logs events mismatch := by
  rw [reconcile_mismatches] at member
  cases List.mem_append.mp member with
  | inl ofLog =>
      rcases logMismatches_type ofLog with missing | status
      · rw [missing] at type
        cases type
      · rw [status] at type
        cases type
  | inr ofEvent =>
      obtain ⟨event, scannedEvent, evaluated⟩ := mem_eventMismatches ofEvent
      obtain ⟨none, named⟩ := evaluateUntrackedEvent_some evaluated
      refine ⟨event, scannedEvent, named, ?_⟩
      intro log present sameHash
      apply older_of_unscanned (List.mem_filter.mp scannedEvent).2
      intro isScanned
      rw [← sameHash] at isScanned
      have found : hasLog (scanLogs sinceDate logs) event.txHash = true :=
        List.any_eq_true.mpr
          ⟨log, List.mem_filter.mpr ⟨present, isScanned⟩, decide_eq_true sameHash⟩
      rw [none] at found
      cases found

theorem logMismatches_count (mismatches : List ReconciliationMismatch)
    (types : ∀ mismatch ∈ mismatches,
      mismatch.type = .missingOnChain ∨ mismatch.type = .statusMismatch) :
    (mismatches.countP fun mismatch => decide (mismatch.type = .missingOnChain)) +
        (mismatches.countP fun mismatch => decide (mismatch.type = .statusMismatch)) =
      mismatches.length := by
  rw [List.length_eq_countP_add_countP fun mismatch : ReconciliationMismatch =>
    decide (mismatch.type = .missingOnChain)]
  congr 1
  apply List.countP_congr
  intro mismatch member
  rcases types mismatch member with missing | status
  · simp [missing]
  · simp [status]

theorem countOf_logs {type : MismatchType} (ofLogs : type ≠ .untrackedOnChain) :
    countOf type (reconcile sinceDate logs events) =
      (logMismatches (scanEvents sinceDate events) (scanLogs sinceDate logs)).countP
        fun mismatch => decide (mismatch.type = type) := by
  have none : (eventMismatches (scanLogs sinceDate logs) (scanEvents sinceDate events)).countP
      (fun mismatch => decide (mismatch.type = type)) = 0 := by
    apply List.countP_eq_zero.mpr
    intro mismatch member same
    exact ofLogs ((of_decide_eq_true same).symm.trans (eventMismatches_type member))
  unfold countOf
  rw [reconcile_mismatches, List.countP_append, none, Nat.add_zero]

theorem reconcile_accounted (sinceDate : Int) (logs : List TransactionLog)
    (events : List IndexedEvent) :
    (reconcile sinceDate logs events).matched +
          countOf .missingOnChain (reconcile sinceDate logs events) +
        countOf .statusMismatch (reconcile sinceDate logs events) =
      (reconcile sinceDate logs events).scannedLogs := by
  have counted := (tallyLog_foldl (scanEvents sinceDate events) (scanLogs sinceDate logs) (0, [])).2
  have parts := logMismatches_count
    (logMismatches (scanEvents sinceDate events) (scanLogs sinceDate logs))
    fun mismatch member => logMismatches_type member
  rw [countOf_logs (by decide), countOf_logs (by decide), Nat.add_assoc, parts]
  exact counted.trans (Nat.zero_add _)

end Loops

/-- A report is right about what it calls missing or untracked since the date of its scan, and it
accounts for every scanned log as matched, missing or failed. -/
theorem reconcile_sound (sinceDate : Int) (logs : List TransactionLog)
    (events : List IndexedEvent) :
    ReportSound sinceDate logs events (reconcile sinceDate logs events) where
  missing _ := reported_missing
  untracked _ := reported_untracked
  scanned := rfl
  accounted := reconcile_accounted sinceDate logs events

def mintLog (action : String) (createdAt : Int) : TransactionLog where
  id := "log-1"
  user_id := "user-1"
  userId := none
  txHash := some "0xtx"
  action := action
  description := none
  createdAt := createdAt

def mintedEvent (createdAt : Int) : IndexedEvent where
  id := "evt-1"
  eventType := "mint"
  contractType := some "nft"
  address := none
  txHash := some "0xtx"
  createdAt := createdAt

def timedOutReport : ReconciliationReport :=
  reconcile 1000 [mintLog "TRANSACTION_TIMED_OUT" 1000] [mintedEvent 1000]

/-- A log marked as failed is neither matched nor missing, and rows on both sides of the date are
reported each as if the other one did not exist. -/
theorem failed_or_straddling_reported :
    timedOutReport.matched + countOf .missingOnChain timedOutReport ≠ timedOutReport.scannedLogs ∧
      countOf .missingOnChain (reconcile 1000 [mintLog "MINT_SONG" 1000] [mintedEvent 999]) = 1 ∧
      countOf .untrackedOnChain (reconcile 1000 [mintLog "MINT_SONG" 999] [mintedEvent 1000]) = 1 := by
  decide +kernel

end AudioBlock.Reconciliation
