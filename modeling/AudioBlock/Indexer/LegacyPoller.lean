/-
The range poller (src/workers/IndexerWorker.ts, `pollContractEvents`): one turn of its loop,
and how far its turns come.

A turn asks for the ledgers from the cursor less the overlap to a batch further, and moves
the cursor to the end of the window only if the window has events.  The client is a stub in
the source; here it answers with the events of the window, both ends included.
-/
import AudioBlock.Indexer.EventStore
import Mathlib.Logic.Function.Iterate

namespace AudioBlock.Indexer

variable {Value : Type}

structure SorobanEvent (Value : Type) where
  id : String
  ledger : Nat
  contractId : String
  type : String
  value : List (String × Value)
  txHash : Option String

structure PollSettings where
  batchSize : Nat
  overlapWindow : Nat

/-- What the calls of one turn answer, `none` and `false` where they reject with `error`;
`handles` is of the calls of `upsertEvent`, one after another. -/
structure TurnAnswers (Value : Type) where
  latestLedger : Option Nat
  getEvents : String → Nat → Nat → Option (List (SorobanEvent Value))
  handles : Nat → Bool
  recordsProgress : Bool
  updatesLag : Bool
  error : String

/-- `handed` has the events that `processEvent` has carried out. -/
structure PollerState (Value : Type) where
  db : IndexerDb Value
  handed : List (SorobanEvent Value)

def processEventDto (network : String) (event : SorobanEvent Value) :
    InsertIndexedEventDTO Value :=
  { eventId := some event.id
    network := some network
    contractId := some event.contractId
    ledger := some event.ledger
    eventType := event.type
    payload := some event.value
    txHash := event.txHash }

/-- The events up to the first that is rejected, and whether none is. -/
def processEvents (network : String) (handles : Nat → Bool) :
    Nat → List (SorobanEvent Value) → PollerState Value → PollerState Value × Bool
  | _, [], state => (state, true)
  | call, event :: rest, state =>
      if handles call then
        processEvents network handles (call + 1) rest
          { db := { state.db with stored := state.db.stored ++ [processEventDto network event] }
            handed := state.handed ++ [event] }
      else (state, false)

namespace PollSettings

variable (settings : PollSettings)

def startLedger (lastProcessedLedger : Nat) : Nat := lastProcessedLedger - settings.overlapWindow

def endLedger (lastProcessedLedger latestLedger : Nat) : Nat :=
  min (settings.startLedger lastProcessedLedger + settings.batchSize) latestLedger

def pollContractEvents (contractId network : String) (answers : TurnAnswers Value)
    (state : PollerState Value) : PollerState Value :=
  let cursor := (state.db.getCursor contractId network).1
  let state := { state with db := (state.db.getCursor contractId network).2 }
  let failed (state : PollerState Value) : PollerState Value :=
    { state with db := state.db.recordError contractId network answers.error }
  let updateLagMetrics (state : PollerState Value) : PollerState Value :=
    if answers.updatesLag then state else failed state
  match answers.latestLedger with
  | none => failed state
  | some latestLedger =>
      let startLedger := settings.startLedger cursor.lastProcessedLedger
      let endLedger := settings.endLedger cursor.lastProcessedLedger latestLedger
      if latestLedger ≤ startLedger then state
      else
        match answers.getEvents contractId startLedger endLedger with
        | none => failed state
        | some events =>
            if events.length = 0 then updateLagMetrics state
            else
              let batch := processEvents network answers.handles 0 events state
              if batch.2 && answers.recordsProgress then
                updateLagMetrics { batch.1 with
                  db := batch.1.db.recordProgress contractId network endLedger events.length none }
              else failed batch.1

end PollSettings

/-! ### Turns against a log -/

structure ContractLog (Value : Type) where
  events : List (SorobanEvent Value)
  numbered : ∀ event ∈ events, 1 ≤ event.ledger

namespace ContractLog

variable (log : ContractLog Value)

def window (startLedger endLedger : Nat) : List (SorobanEvent Value) :=
  log.events.filter fun event =>
    decide (startLedger ≤ event.ledger ∧ event.ledger ≤ endLedger)

/-- Every call succeeds, and the tip stays where it is. -/
def answers (tip : Nat) : TurnAnswers Value where
  latestLedger := some tip
  getEvents _contractId startLedger endLedger := some (log.window startLedger endLedger)
  handles _ := true
  recordsProgress := true
  updatesLag := true
  error := ""

end ContractLog

section Turns

variable (settings : PollSettings) (contractId network : String) (log : ContractLog Value)
  (tip : Nat)

def turn (state : PollerState Value) : PollerState Value :=
  settings.pollContractEvents contractId network (log.answers tip) state

def PollerState.ledger (state : PollerState Value) : Nat :=
  (state.db.cursorOf contractId network).lastProcessedLedger

theorem processEvents_handed (call : Nat) (events : List (SorobanEvent Value))
    (state : PollerState Value) :
    (processEvents network (fun _ => true) call events state).2 = true ∧
      (processEvents network (fun _ => true) call events state).1.handed =
        state.handed ++ events := by
  induction events generalizing call state with
  | nil => simp [processEvents]
  | cons event rest ih =>
      obtain ⟨done, handed⟩ := ih (call + 1)
        { db := { state.db with stored := state.db.stored ++ [processEventDto network event] }
          handed := state.handed ++ [event] }
      rw [processEvents, if_pos rfl]
      exact ⟨done, by rw [handed, List.append_assoc]; rfl⟩

theorem turn_cases (state : PollerState Value) :
    let start := settings.startLedger (state.ledger contractId network)
    let stop := settings.endLedger (state.ledger contractId network) tip
    let after := turn settings contractId network log tip state
    ((tip ≤ start ∨ log.window start stop = []) ∧
        after.ledger contractId network = state.ledger contractId network ∧
        after.handed = state.handed) ∨
      (start < tip ∧ log.window start stop ≠ [] ∧ after.ledger contractId network = stop ∧
        after.handed = state.handed ++ log.window start stop) := by
  intro start stop after
  have cursor : (state.db.getCursor contractId network).1.lastProcessedLedger =
      state.ledger contractId network := by
    rw [IndexerDb.getCursor_fst]
    rfl
  have same : (state.db.getCursor contractId network).2.cursorOf contractId network =
      state.db.cursorOf contractId network :=
    IndexerDb.getCursor_cursorOf state.db contractId network
  by_cases caught : tip ≤ start
  · have stays : after = { state with db := (state.db.getCursor contractId network).2 } := by
      change PollSettings.pollContractEvents _ _ _ _ _ = _
      unfold PollSettings.pollContractEvents
      simp only [ContractLog.answers, cursor]
      exact if_pos caught
    rw [stays]
    exact Or.inl ⟨Or.inl caught, congrArg IndexerCursor.lastProcessedLedger same, rfl⟩
  · by_cases empty : log.window start stop = []
    · have stays : after = { state with db := (state.db.getCursor contractId network).2 } := by
        change PollSettings.pollContractEvents _ _ _ _ _ = _
        unfold PollSettings.pollContractEvents
        simp only [ContractLog.answers, cursor]
        rw [if_neg caught]
        exact if_pos (congrArg List.length empty)
      rw [stays]
      exact Or.inl ⟨Or.inr empty, congrArg IndexerCursor.lastProcessedLedger same, rfl⟩
    · obtain ⟨done, handed⟩ := processEvents_handed network 0 (log.window start stop)
        { state with db := (state.db.getCursor contractId network).2 }
      have moves : after =
          { (processEvents network (fun _ => true) 0 (log.window start stop)
              { state with db := (state.db.getCursor contractId network).2 }).1 with
            db := (processEvents network (fun _ => true) 0 (log.window start stop)
              { state with db := (state.db.getCursor contractId network).2 }).1.db.recordProgress
                contractId network stop (log.window start stop).length none } := by
        change PollSettings.pollContractEvents _ _ _ _ _ = _
        unfold PollSettings.pollContractEvents
        simp only [ContractLog.answers, cursor]
        rw [if_neg caught, if_neg fun none => empty (List.length_eq_zero_iff.mp none)]
        exact if_pos (by rw [done]; rfl)
      refine Or.inr ⟨Nat.lt_of_not_le caught, empty, ?_, ?_⟩
      · rw [moves]
        unfold PollerState.ledger
        exact IndexerDb.recordProgress_ledger _ contractId network stop _ none
      · rw [moves]
        exact handed

/-! ### How far the turns come -/

def Covers (state : PollerState Value) : Prop :=
  ∀ event ∈ log.events, event.ledger ≤ tip → event ∈ state.handed

/-- The `k`-th window begins where the one before it ends, less the overlap. -/
def windowStart (k : Nat) : Nat := k * (settings.batchSize - settings.overlapWindow)

def NoGap : Prop :=
  ∀ k, (∃ event ∈ log.events, windowStart settings k + settings.batchSize < event.ledger ∧
      event.ledger ≤ tip) →
    ∃ event ∈ log.events, windowStart settings k ≤ event.ledger ∧
      event.ledger ≤ windowStart settings k + settings.batchSize

structure Placed (state : PollerState Value) : Prop where
  handed : ∀ event ∈ log.events, (event ∈ state.handed ↔
    event.ledger ≤ state.ledger contractId network)
  place : state.ledger contractId network = 0 ∨ state.ledger contractId network = tip ∨
    ∃ k, state.ledger contractId network = windowStart settings k + settings.batchSize

variable {settings contractId network log tip}

theorem mem_window {start stop : Nat} {event : SorobanEvent Value} :
    event ∈ log.window start stop ↔
      event ∈ log.events ∧ start ≤ event.ledger ∧ event.ledger ≤ stop := by
  unfold ContractLog.window
  rw [List.mem_filter, decide_eq_true_eq]

variable {state : PollerState Value}

section

variable (larger : settings.overlapWindow < settings.batchSize)
  (placed : Placed settings contractId network log tip state)
include larger placed

theorem Placed.window (short : state.ledger contractId network < tip) :
    ∃ k, settings.startLedger (state.ledger contractId network) = windowStart settings k ∧
      state.ledger contractId network < windowStart settings k + settings.batchSize ∧
      windowStart settings k ≤ state.ledger contractId network := by
  unfold PollSettings.startLedger
  rcases placed.place with zero | atTip | ⟨k, ended⟩
  · refine ⟨0, ?_⟩
    unfold windowStart
    omega
  · omega
  · refine ⟨k + 1, ?_⟩
    unfold windowStart at ended ⊢
    rw [Nat.add_mul, Nat.one_mul]
    omega

theorem Placed.turn (short : state.ledger contractId network ≤ tip) :
    Placed settings contractId network log tip
        (Indexer.turn settings contractId network log tip state) ∧
      (Indexer.turn settings contractId network log tip state).ledger contractId network ≤ tip := by
  have moved := turn_cases settings contractId network log tip state
  simp only at moved
  rcases moved with ⟨_still, ledger, handed⟩ | ⟨below, _events, ledger, handed⟩
  · refine ⟨⟨?_, ?_⟩, ?_⟩
    · rw [ledger, handed]
      exact placed.handed
    · rw [ledger]
      exact placed.place
    · rw [ledger]
      exact short
  · rcases Nat.lt_or_eq_of_le short with short | atTip
    · obtain ⟨k, start, ahead, behind⟩ := placed.window larger short
      unfold PollSettings.endLedger at ledger handed
      rw [start] at ledger handed below
      refine ⟨⟨?_, ?_⟩, ?_⟩
      · intro event among
        rw [ledger, handed, List.mem_append, placed.handed event among, mem_window]
        constructor
        · rintro (before | ⟨_among, _above, within⟩)
          · omega
          · exact within
        · intro within
          by_cases before : event.ledger ≤ state.ledger contractId network
          · exact Or.inl before
          · exact Or.inr ⟨among, by omega, within⟩
      · rw [ledger]
        rcases Nat.le_total (windowStart settings k + settings.batchSize) tip with inside | cut
        · exact Or.inr (Or.inr ⟨k, Nat.min_eq_left inside⟩)
        · exact Or.inr (Or.inl (Nat.min_eq_right cut))
      · rw [ledger]
        exact Nat.min_le_right _ _
    · -- At the tip a turn fetches the overlap again.
      have stop : settings.endLedger (state.ledger contractId network) tip = tip := by
        unfold PollSettings.endLedger PollSettings.startLedger
        omega
      rw [stop] at ledger handed
      refine ⟨⟨?_, Or.inr (Or.inl ledger)⟩, Nat.le_of_eq ledger⟩
      intro event among
      rw [ledger, handed, List.mem_append, placed.handed event among, mem_window, atTip]
      constructor
      · rintro (before | ⟨_among, _above, within⟩)
        · exact before
        · exact within
      · exact Or.inl

theorem Placed.progress (noGap : NoGap settings log tip) (uncovered : ¬ Covers log tip state) :
    state.ledger contractId network <
      (Indexer.turn settings contractId network log tip state).ledger contractId network := by
  simp only [Covers, not_forall] at uncovered
  obtain ⟨event, among, below, missing⟩ := uncovered
  rw [placed.handed event among, Nat.not_le] at missing
  obtain ⟨k, start, ahead, behind⟩ := placed.window larger (Nat.lt_of_lt_of_le missing below)
  have moved := turn_cases settings contractId network log tip state
  simp only [PollSettings.endLedger, start] at moved
  rcases moved with ⟨still, _ledger, _handed⟩ | ⟨_below, _events, ledger, _handed⟩
  · exfalso
    rcases still with caught | empty
    · omega
    · -- The window reaches the event, or has one because the event lies behind it.
      have reached : ∃ other ∈ log.events, windowStart settings k ≤ other.ledger ∧
          other.ledger ≤ min (windowStart settings k + settings.batchSize) tip := by
        by_cases inside : event.ledger ≤ windowStart settings k + settings.batchSize
        · exact ⟨event, among, by omega, by omega⟩
        · obtain ⟨other, present, above, within⟩ := noGap k ⟨event, among, by omega, below⟩
          exact ⟨other, present, above, by omega⟩
      obtain ⟨other, present, above, within⟩ := reached
      have member := mem_window.mpr ⟨present, above, within⟩
      rw [empty] at member
      cases member
  · rw [ledger]
    omega

end

theorem covers_of_noGap (larger : settings.overlapWindow < settings.batchSize)
    (noGap : NoGap settings log tip) (state : PollerState Value)
    (placed : Placed settings contractId network log tip state)
    (short : state.ledger contractId network ≤ tip) :
    ∃ turns, Covers log tip ((turn settings contractId network log tip)^[turns] state) := by
  induction rest : tip - state.ledger contractId network using Nat.strongRecOn
      generalizing state with
  | ind rest ih =>
      by_cases covered : Covers log tip state
      · exact ⟨0, covered⟩
      · have progress := placed.progress larger noGap covered
        obtain ⟨placedAfter, shortAfter⟩ := placed.turn larger short
        obtain ⟨turns, covers⟩ := ih _ (by omega) _ placedAfter shortAfter rfl
        exact ⟨turns + 1, by rw [Function.iterate_succ_apply]; exact covers⟩

def Before (settings : PollSettings) (contractId network : String) (k : Nat)
    (state : PollerState Value) : Prop :=
  state.ledger contractId network = 0 ∨
    ∃ earlier < k, state.ledger contractId network =
      windowStart settings earlier + settings.batchSize

theorem Before.turn (larger : settings.overlapWindow < settings.batchSize) {k : Nat}
    (empty : ∀ event ∈ log.events, windowStart settings k ≤ event.ledger →
      windowStart settings k + settings.batchSize < event.ledger)
    (inside : windowStart settings k + settings.batchSize < tip)
    (before : Before settings contractId network k state) :
    Before settings contractId network k
      (Indexer.turn settings contractId network log tip state) := by
  have starts : ∃ window ≤ k,
      settings.startLedger (state.ledger contractId network) = windowStart settings window := by
    unfold PollSettings.startLedger
    rcases before with zero | ⟨earlier, order, ended⟩
    · refine ⟨0, Nat.zero_le k, ?_⟩
      unfold windowStart
      omega
    · refine ⟨earlier + 1, order, ?_⟩
      unfold windowStart at ended ⊢
      rw [Nat.add_mul, Nat.one_mul]
      omega
  obtain ⟨window, order, start⟩ := starts
  have fits : windowStart settings window ≤ windowStart settings k := Nat.mul_le_mul_right _ order
  have moved := turn_cases settings contractId network log tip state
  simp only [PollSettings.endLedger, start] at moved
  rcases moved with ⟨_still, ledger, _handed⟩ | ⟨_below, events, ledger, _handed⟩
  · unfold Before
    rw [ledger]
    exact before
  · refine Or.inr ⟨window, ?_, by omega⟩
    rcases Nat.lt_or_eq_of_le order with earlier | same
    · exact earlier
    · subst same
      obtain ⟨event, member⟩ := List.exists_mem_of_ne_nil _ events
      obtain ⟨among, above, within⟩ := mem_window.mp member
      have beyond := empty event among above
      omega

theorem Placed.start {db : IndexerDb Value}
    (unmoved : (db.cursorOf contractId network).lastProcessedLedger = 0) :
    Placed settings contractId network log tip { db, handed := [] } := by
  have ledger : PollerState.ledger contractId network { db, handed := [] } = 0 := unmoved
  refine ⟨?_, Or.inl ledger⟩
  intro event among
  have first := log.numbered event among
  rw [ledger]
  refine iff_of_false List.not_mem_nil ?_
  omega

theorem uncovered_of_gap (larger : settings.overlapWindow < settings.batchSize)
    {db : IndexerDb Value}
    (unmoved : (db.cursorOf contractId network).lastProcessedLedger = 0) {k : Nat}
    (empty : ∀ event ∈ log.events, windowStart settings k ≤ event.ledger →
      windowStart settings k + settings.batchSize < event.ledger)
    {event : SorobanEvent Value} (among : event ∈ log.events)
    (beyond : windowStart settings k + settings.batchSize < event.ledger)
    (below : event.ledger ≤ tip) (turns : Nat) :
    ¬ Covers log tip ((turn settings contractId network log tip)^[turns] { db, handed := [] }) := by
  have ledger : PollerState.ledger contractId network { db, handed := [] } = 0 := unmoved
  have stuck : ∀ count state, Before settings contractId network k state →
      Placed settings contractId network log tip state → state.ledger contractId network ≤ tip →
      Before settings contractId network k
          ((turn settings contractId network log tip)^[count] state) ∧
        Placed settings contractId network log tip
          ((turn settings contractId network log tip)^[count] state) := by
    intro count
    induction count with
    | zero => exact fun state before placed _short => ⟨before, placed⟩
    | succ count ih =>
        intro state before placed short
        obtain ⟨next, shortNext⟩ := placed.turn larger short
        rw [Function.iterate_succ_apply]
        exact ih _ (before.turn larger empty (by omega)) next shortNext
  obtain ⟨before, final⟩ := stuck turns _ (Or.inl ledger) (Placed.start unmoved)
    (Nat.le_trans (Nat.le_of_eq ledger) (Nat.zero_le tip))
  intro covers
  have handed := (final.handed event among).mp (covers event among below)
  rcases before with zero | ⟨earlier, order, ended⟩
  · omega
  · have fits : windowStart settings earlier ≤ windowStart settings k :=
      Nat.mul_le_mul_right _ (Nat.le_of_lt order)
    omega

end Turns

/-- From a cursor that has not moved, the turns come to hand over every event up to the tip
exactly if no window without events has an event behind it. -/
theorem pollContractEvents_covers_iff (settings : PollSettings) (contractId network : String)
    (log : ContractLog Value) (tip : Nat)
    (larger : settings.overlapWindow < settings.batchSize) (db : IndexerDb Value)
    (unmoved : (db.cursorOf contractId network).lastProcessedLedger = 0) :
    (∃ turns, Covers log tip ((turn settings contractId network log tip)^[turns]
      { db, handed := [] })) ↔ NoGap settings log tip := by
  constructor
  · rintro ⟨turns, covers⟩ k ⟨event, among, beyond, below⟩
    by_contra none
    have empty : ∀ other ∈ log.events, windowStart settings k ≤ other.ledger →
        windowStart settings k + settings.batchSize < other.ledger := by
      intro other present above
      by_contra within
      exact none ⟨other, present, above, Nat.le_of_not_lt within⟩
    exact uncovered_of_gap larger unmoved empty among beyond below turns covers
  · intro noGap
    have ledger : PollerState.ledger contractId network { db, handed := [] } = 0 := unmoved
    exact covers_of_noGap larger noGap _ (Placed.start unmoved)
      (Nat.le_trans (Nat.le_of_eq ledger) (Nat.zero_le tip))

def defaultSettings : PollSettings := { batchSize := 100, overlapWindow := 10 }

def eventAt (ledger : Nat) : SorobanEvent Unit :=
  { id := "e", ledger, contractId := "C", type := "mint", value := [], txHash := none }

def oneEvent (ledger : Nat) (counted : 1 ≤ ledger) : ContractLog Unit where
  events := [eventAt ledger]
  numbered event member := by
    rw [List.mem_singleton.mp member]
    exact counted

def newDb : IndexerDb Unit :=
  { cursors := fun _ _ => none, backfills := fun _ _ => none, stored := [] }

theorem earlyEvent_covered :
    ∃ turns, Covers (oneEvent 50 (by decide)) 1000
      ((turn defaultSettings "C" "testnet" (oneEvent 50 (by decide)) 1000)^[turns]
        { db := newDb, handed := [] }) := by
  apply (pollContractEvents_covers_iff defaultSettings "C" "testnet" _ 1000 (by decide) newDb
    rfl).mpr
  rintro k ⟨event, member, beyond, _below⟩
  rw [List.mem_singleton.mp member] at beyond
  have first : (eventAt 50).ledger = 50 := rfl
  simp only [defaultSettings, first] at beyond
  omega

/-- The first window is empty, and the cursor stays before it. -/
theorem lateEvent_uncovered :
    ¬ ∃ turns, Covers (oneEvent 500 (by decide)) 1000
      ((turn defaultSettings "C" "testnet" (oneEvent 500 (by decide)) 1000)^[turns]
        { db := newDb, handed := [] }) := by
  rintro ⟨turns, covers⟩
  have ahead : windowStart defaultSettings 0 + defaultSettings.batchSize < 500 := by decide
  have empty : ∀ event ∈ (oneEvent 500 (by decide)).events,
      windowStart defaultSettings 0 ≤ event.ledger →
        windowStart defaultSettings 0 + defaultSettings.batchSize < event.ledger := by
    intro event member _above
    rw [List.mem_singleton.mp member]
    exact ahead
  exact uncovered_of_gap (by decide) rfl empty (List.mem_singleton_self _) ahead (by decide) turns
    covers

end AudioBlock.Indexer
