/-
The identity of an indexed event (src/services/IndexedEventService.ts).

`upsertEvent` looks a row up by a `where` that leaves missing fields out, saves its own
where there is none, and looks again where the unique index refuses it.  A column that is
NULL equals nothing in the index.  A submission is a DTO with the on-chain event that it
describes; the interleavings are those of find and insert.  Timestamps, the generated
columns and logging are left out; a save that fails otherwise leaves nothing.
-/
import AudioBlock.Foundation.FindOrInsert
import AudioBlock.Indexer.Worker

namespace AudioBlock.Indexer

open AudioBlock.Foundation

variable {Value Event : Type}

structure IndexedEvent (Value : Type) where
  network : String
  contractId : Option String
  contractType : Option String
  eventType : String
  eventId : String
  address : Option String
  txHash : Option String
  ledger : Option Nat
  payload : List (String × Value)
  data : List (String × Value)

namespace InsertIndexedEventDTO

variable (dto : InsertIndexedEventDTO Value)

def storedNetwork : String := (dto.network.bind nonEmpty).getD "stellar-testnet"

def storedPayload : List (String × Value) := (dto.payload.or dto.data).getD []

def storedEventId : String :=
  (dto.eventId.bind nonEmpty).getD
    ((dto.txHash.bind nonEmpty).getD "event" ++ "-" ++ toString (dto.ledger.getD 0))

/-- What `upsertEvent` saves. -/
def row : IndexedEvent Value :=
  { network := dto.storedNetwork
    contractId := dto.contractId
    contractType := dto.contractType
    eventType := dto.eventType
    eventId := dto.storedEventId
    address := dto.address
    txHash := dto.txHash
    ledger := dto.ledger
    payload := dto.storedPayload
    data := dto.storedPayload }

end InsertIndexedEventDTO

structure EventWhere where
  network : String
  eventId : String
  contractId : Option String
  ledger : Option Nat

def buildWhere (network eventId : String) (contractId : Option String) (ledger : Option Nat) :
    EventWhere :=
  { network, eventId, contractId, ledger }

/-- Conditions that are undefined are dropped. -/
def EventWhere.matchesRow (condition : EventWhere) (row : IndexedEvent Value) : Bool :=
  decide (row.network = condition.network) && decide (row.eventId = condition.eventId) &&
    condition.contractId.all (fun contractId => decide (row.contractId = some contractId)) &&
      condition.ledger.all fun ledger => decide (row.ledger = some ledger)

/-- `UQ_indexed_events_dedup`. -/
def IndexedEvent.duplicates (one other : IndexedEvent Value) : Bool :=
  decide (one.network = other.network) && decide (one.eventId = other.eventId) &&
    (one.contractId.isSome && decide (one.contractId = other.contractId)) &&
      (one.ledger.isSome && decide (one.ledger = other.ledger))

def InsertIndexedEventDTO.condition (dto : InsertIndexedEventDTO Value) : EventWhere :=
  buildWhere dto.storedNetwork dto.storedEventId dto.contractId dto.ledger

structure EventSubmission (Value Event : Type) where
  dto : InsertIndexedEventDTO Value
  event : Event

structure EventKey where
  network : String
  contractId : Option String
  ledger : Option Nat
  eventId : String
  deriving DecidableEq

def EventSubmission.key (submission : EventSubmission Value Event) : EventKey :=
  { network := submission.dto.storedNetwork
    contractId := submission.dto.contractId
    ledger := submission.dto.ledger
    eventId := submission.dto.storedEventId }

/-! ### What the lookup and the index compare -/

section Comparisons

variable {one other : InsertIndexedEventDTO Value}

theorem all_given_iff {Column : Type} [DecidableEq Column] (given stored : Option Column) :
    given.all (fun value => decide (stored = some value)) = true ↔
      ∀ value ∈ given, stored = some value := by
  cases given with
  | none => simp
  | some value =>
      rw [Option.all_some, decide_eq_true_iff]
      constructor
      · intro same other member
        cases Option.mem_some_iff.mp member
        exact same
      · exact fun holds => holds value rfl

theorem matchesRow_iff :
    one.condition.matchesRow other.row = true ↔
      other.storedNetwork = one.storedNetwork ∧ other.storedEventId = one.storedEventId ∧
        (∀ contractId ∈ one.contractId, other.contractId = some contractId) ∧
          ∀ ledger ∈ one.ledger, other.ledger = some ledger := by
  change (decide (other.storedNetwork = one.storedNetwork) &&
    decide (other.storedEventId = one.storedEventId) &&
      one.contractId.all (fun contractId => decide (other.contractId = some contractId)) &&
        one.ledger.all fun ledger => decide (other.ledger = some ledger)) = true ↔ _
  simp only [Bool.and_eq_true, decide_eq_true_eq, all_given_iff, and_assoc]

theorem duplicates_iff :
    one.row.duplicates other.row = true ↔
      one.storedNetwork = other.storedNetwork ∧ one.storedEventId = other.storedEventId ∧
        (one.contractId.isSome = true ∧ one.contractId = other.contractId) ∧
          one.ledger.isSome = true ∧ one.ledger = other.ledger := by
  change (decide (one.storedNetwork = other.storedNetwork) &&
    decide (one.storedEventId = other.storedEventId) &&
      (one.contractId.isSome && decide (one.contractId = other.contractId)) &&
        (one.ledger.isSome && decide (one.ledger = other.ledger))) = true ↔ _
  simp only [Bool.and_eq_true, decide_eq_true_eq, and_assoc]

theorem duplicates_matchesRow (duplicate : one.row.duplicates other.row = true) :
    one.condition.matchesRow other.row = true := by
  obtain ⟨network, eventId, ⟨_, contractId⟩, _, ledger⟩ := duplicates_iff.mp duplicate
  exact matchesRow_iff.mpr ⟨network.symm, eventId.symm, fun _ member => contractId ▸ member,
    fun _ member => ledger ▸ member⟩

end Comparisons

/-- `upsertEvent` as find and insert. -/
def upsertRules : InsertRules (EventSubmission Value Event) where
  matched one other := one.dto.condition.matchesRow other.dto.row
  refused one other := one.dto.row.duplicates other.dto.row
  refused_matched _ _ := duplicates_matchesRow

def upsertMachine : Machine (InsertState (EventSubmission Value Event))
    (InsertLabel (EventSubmission Value Event)) :=
  insertMachine upsertRules

structure KeepsIdentity (state : InsertState (EventSubmission Value Event)) : Prop where
  duplicate : ∀ own row, .existing own row ∈ state.calls →
    ∃ stored ∈ state.stored, stored.key = own.key
  apart : ∀ own row, .existing own row ∈ state.calls → row.event = own.event
  once : (state.stored.map EventSubmission.event).Nodup
  kept : ∀ own, (.inserted own ∈ state.calls ∨ ∃ row, .existing own row ∈ state.calls) →
    own.event ∈ state.stored.map EventSubmission.event

structure Identifies (submitted : Set (EventSubmission Value Event)) : Prop where
  present : ∀ submission ∈ submitted,
    submission.dto.contractId.isSome = true ∧ submission.dto.ledger.isSome = true
  keyed : ∀ one ∈ submitted, ∀ other ∈ submitted, one.key = other.key ↔ one.event = other.event

section Identity

variable {submitted : Set (EventSubmission Value Event)}

variable {one other : EventSubmission Value Event}

theorem key_eq_iff :
    one.key = other.key ↔ one.dto.storedNetwork = other.dto.storedNetwork ∧
      one.dto.contractId = other.dto.contractId ∧ one.dto.ledger = other.dto.ledger ∧
        one.dto.storedEventId = other.dto.storedEventId := by
  simp [EventSubmission.key]

theorem matchesRow_iff_key
    (present : one.dto.contractId.isSome = true ∧ one.dto.ledger.isSome = true) :
    one.dto.condition.matchesRow other.dto.row = true ↔ one.key = other.key := by
  obtain ⟨contractId, hasContract⟩ := Option.isSome_iff_exists.mp present.1
  obtain ⟨ledger, hasLedger⟩ := Option.isSome_iff_exists.mp present.2
  rw [matchesRow_iff, key_eq_iff, hasContract, hasLedger]
  constructor
  · rintro ⟨network, eventId, contracts, ledgers⟩
    exact ⟨network.symm, (contracts contractId rfl).symm, (ledgers ledger rfl).symm, eventId.symm⟩
  · rintro ⟨network, contracts, ledgers, eventId⟩
    refine ⟨network.symm, eventId.symm, ?_, ?_⟩
    · intro other same
      cases Option.mem_some_iff.mp same
      exact contracts.symm
    · intro other same
      cases Option.mem_some_iff.mp same
      exact ledgers.symm

theorem duplicates_iff_key :
    one.dto.row.duplicates other.dto.row = true ↔
      (one.dto.contractId.isSome = true ∧ one.dto.ledger.isSome = true) ∧ one.key = other.key := by
  rw [duplicates_iff, key_eq_iff]
  tauto

theorem tellsApart_iff :
    TellsApart upsertRules EventSubmission.event submitted ↔ Identifies submitted := by
  constructor
  · intro apart
    have present : ∀ submission ∈ submitted, submission.dto.contractId.isSome = true ∧
        submission.dto.ledger.isSome = true :=
      fun submission member =>
        (duplicates_iff_key.mp (apart.refuses submission member submission member rfl)).1
    refine ⟨present, ?_⟩
    intro one isOne other isOther
    constructor
    · intro same
      exact apart.same one isOne other isOther ((matchesRow_iff_key (present one isOne)).mpr same)
    · exact fun same => (duplicates_iff_key.mp (apart.refuses one isOne other isOther same)).2
  · intro identifies
    refine ⟨?_, ?_⟩
    · intro one isOne other isOther isMatch
      exact (identifies.keyed one isOne other isOther).mp
        ((matchesRow_iff_key (identifies.present one isOne)).mp isMatch)
    · intro one isOne other isOther same
      exact duplicates_iff_key.mpr
        ⟨identifies.present one isOne, (identifies.keyed one isOne other isOther).mpr same⟩

theorem keepsIdentity_of_rows {state : InsertState (EventSubmission Value Event)}
    (rows : OneRowEach EventSubmission.event state)
    (identified : ∀ own row, .existing own row ∈ state.calls → row.key = own.key) :
    KeepsIdentity state := by
  refine ⟨?_, fun own row member => (rows.answered own row member).2, rows.once, ?_⟩
  · exact fun own row member => ⟨row, (rows.answered own row member).1, identified own row member⟩
  · rintro own (inserted | ⟨row, existing⟩)
    · exact List.mem_map_of_mem (rows.kept own inserted)
    · obtain ⟨stored, same⟩ := rows.answered own row existing
      exact same ▸ List.mem_map_of_mem stored

/-- Every interleaving of `upsertEvent` calls keeps the events apart exactly when the
submitted DTOs identify them. -/
theorem upsertMachine_keepsIdentity_iff (submitted : Set (EventSubmission Value Event)) :
    (∀ state, upsertMachine.Reachable (Submits submitted) state → KeepsIdentity state) ↔
      Identifies submitted := by
  rw [← tellsApart_iff, ← insertMachine_oneRowEach_iff upsertRules submitted]
  constructor
  · intro always state reached
    have sound := insertMachine_sound reached
    have keeps := always state reached
    refine ⟨?_, fun own member => sound.fits _ member, keeps.once⟩
    exact fun own row member => ⟨(sound.fits _ member).1, keeps.apart own row member⟩
  · intro rows state reached
    have identifies := tellsApart_iff.mp ((insertMachine_oneRowEach_iff _ _ _).mp rows)
    have sound := insertMachine_sound reached
    refine keepsIdentity_of_rows (rows state reached) ?_
    intro own row member
    have isOwn : own ∈ submitted := sound.called _ member
    obtain ⟨stored, matched⟩ := sound.fits _ member
    exact ((matchesRow_iff_key (identifies.present own isOwn)).mp matched).symm

end Identity

/-! Two sales of one transaction without an event id, and one sale without a contract. -/

def saleOfTransaction (event : Nat) : EventSubmission String Nat :=
  { dto := { eventType := "sale", contractId := some "CA_MARKETPLACE_123"
             txHash := some "0xhash123", ledger := some 45000 }
    event }

def saleOfNoContract : EventSubmission String Nat :=
  { dto := { eventType := "sale", eventId := some "evt-001", ledger := some 45000 }, event := 0 }

theorem upsertMachine_collapses_and_repeats :
    (∃ state, upsertMachine.Reachable (Submits {saleOfTransaction 0, saleOfTransaction 1}) state ∧
        .existing (saleOfTransaction 1) (saleOfTransaction 0) ∈ state.calls ∧
          ¬KeepsIdentity state) ∧
      ∃ state, upsertMachine.Reachable (Submits {saleOfNoContract}) state ∧
        state.stored = [saleOfNoContract, saleOfNoContract] ∧ ¬KeepsIdentity state := by
  have isMatch : upsertRules.matched (saleOfTransaction 1) (saleOfTransaction 0) = true := by
    decide +kernel
  have unrefused : upsertRules.refused saleOfNoContract saleOfNoContract = false := by
    decide +kernel
  have collapsed : upsertMachine.Reachable
      (Submits {saleOfTransaction 0, saleOfTransaction 1}) _ :=
    existing_reached (Or.inr rfl) (Or.inl rfl) isMatch
  have repeated : upsertMachine.Reachable (Submits {saleOfNoContract}) _ :=
    concurrent_reached rfl rfl unrefused
  refine ⟨⟨_, collapsed, by simp, fun keeps => ?_⟩, _, repeated, rfl, fun keeps => ?_⟩
  · have same := keeps.apart (saleOfTransaction 1) (saleOfTransaction 0) (by simp)
    cases same
  · have once := keeps.once
    simp at once

end AudioBlock.Indexer
