/-
Networks of indexed events: the live worker beside `reindexRange`
(src/cli/reindex.ts).

A component runs on the network that SOROBAN_NETWORK or `--network` names and reads the
events of one contract.  The worker hands the decoded DTO on as it is; `reindexRange` adds
its network.  Which events a run fetches, and in which order, is left open.
-/
import AudioBlock.Indexer.EventDecoders
import AudioBlock.Indexer.EventIdentity

namespace AudioBlock.Indexer

open AudioBlock.Foundation

inductive SorobanNetwork
  | testnet
  | mainnet
  deriving DecidableEq

def SorobanNetwork.name : SorobanNetwork → String
  | .testnet => "testnet"
  | .mainnet => "mainnet"

inductive Component
  | live (network : SorobanNetwork)
  | reindex (network : SorobanNetwork)
  deriving DecidableEq

def Component.network : Component → SorobanNetwork
  | .live network | .reindex network => network

structure Fetch where
  component : Component
  contractType : ContractType
  contractId : String
  event : NormalizedContractEvent NativeValue

namespace Fetch

variable (fetch : Fetch)

/-- The event as `fetchEvents` answers it to a request for one contract. -/
def read : NormalizedContractEvent NativeValue := fillContract [fetch.contractId] fetch.event

def onChain : SorobanNetwork × NormalizedContractEvent NativeValue :=
  (fetch.component.network, fetch.read)

/-- What the component passes to `upsertEvent`. -/
def dto : Option (InsertIndexedEventDTO NativeValue) :=
  ((eventDecoders fetch.contractType).decode fetch.read).map fun dto =>
    match fetch.component with
    | .live _ => dto
    | .reindex network => { dto with network := some network.name }

end Fetch

def submissionsOf (fetches : Set Fetch) : Set (EventSubmission NativeValue Fetch) :=
  { submission | submission.event ∈ fetches ∧ submission.event.dto = some submission.dto }

def EventSubmission.onChain (submission : EventSubmission NativeValue Fetch) :
    SorobanNetwork × NormalizedContractEvent NativeValue :=
  submission.event.onChain

def EventSubmission.rowNetwork (submission : EventSubmission NativeValue Fetch) : String :=
  submission.dto.row.network

structure SeparatesNetworks (state : InsertState (EventSubmission NativeValue Fetch)) : Prop where
  carried : ∀ stored ∈ state.stored,
    stored.rowNetwork = stored.event.component.network.name
  unsuppressed : ∀ own row, .existing own row ∈ state.calls →
    row.event.component.network = own.event.component.network
  once : (state.stored.map EventSubmission.onChain).Nodup
  kept : ∀ own, (.inserted own ∈ state.calls ∨ ∃ row, .existing own row ∈ state.calls) →
    ∃ stored ∈ state.stored, stored.key = own.key

/-- No live worker fetches an event that it decodes. -/
def ReindexOnly (fetches : Set Fetch) : Prop :=
  ∀ fetch ∈ fetches, fetch.dto.isSome = true → ∃ network, fetch.component = .reindex network

/-! ### What a component submits -/

section Submissions

variable {fetches : Set Fetch} {one other : EventSubmission NativeValue Fetch}

def Component.storedNetwork : Component → String
  | .live _ => "stellar-testnet"
  | .reindex network => network.name

theorem fillContract_isSome (contractId : String) (event : NormalizedContractEvent NativeValue) :
    (fillContract [contractId] event).contractId.isSome = true := by
  unfold fillContract
  split
  · rename_i given
    cases present : event.contractId with
    | none =>
        rw [present] at given
        cases given
    | some text => rfl
  · rfl

structure Submitted (submission : EventSubmission NativeValue Fetch) : Prop where
  network : submission.dto.storedNetwork = submission.event.component.storedNetwork
  contractId : submission.dto.contractId = submission.event.read.contractId
  eventId : submission.dto.eventId = some submission.event.read.id
  txHash : submission.dto.txHash = nonEmpty submission.event.read.txHash
  ledger : submission.dto.ledger = some submission.event.read.ledger

theorem submitted_of_mem (member : one ∈ submissionsOf fetches) : Submitted one := by
  obtain ⟨_, made⟩ := member
  obtain ⟨dto, isDecoded, same⟩ := Option.map_eq_some_iff.mp made
  have base := eventDecoders_ofEvent isDecoded
  cases component : one.event.component with
  | live network =>
      rw [component] at same
      have whole : one.dto = dto := same.symm
      refine ⟨?_, whole ▸ base.contractId, whole ▸ base.eventId, whole ▸ base.txHash,
        whole ▸ base.ledger⟩
      rw [component, whole, InsertIndexedEventDTO.storedNetwork, base.network]
      rfl
  | reindex network =>
      rw [component] at same
      have whole : one.dto = { dto with network := some network.name } := same.symm
      refine ⟨?_, whole ▸ base.contractId, whole ▸ base.eventId, whole ▸ base.txHash,
        whole ▸ base.ledger⟩
      rw [component, whole]
      cases network with
      | testnet | mainnet => rfl

theorem Submitted.present (submitted : Submitted one) :
    one.dto.contractId.isSome = true ∧ one.dto.ledger.isSome = true := by
  rw [submitted.contractId, submitted.ledger]
  exact ⟨fillContract_isSome _ _, rfl⟩

section

variable (first : Submitted one) (second : Submitted other)
  (same : one.event.read = other.event.read)
include first second same

theorem storedEventId_of_read :
    one.dto.storedEventId = other.dto.storedEventId := by
  unfold InsertIndexedEventDTO.storedEventId
  rw [first.eventId, second.eventId, first.txHash, second.txHash, first.ledger, second.ledger, same]

theorem key_iff_of_read :
    one.key = other.key ↔ one.event.component.storedNetwork = other.event.component.storedNetwork := by
  rw [key_eq_iff, first.network, second.network, first.contractId, second.contractId, first.ledger,
    second.ledger, same]
  constructor
  · exact fun equal => equal.1
  · exact fun equal => ⟨equal, rfl, rfl, storedEventId_of_read first second same⟩

end

theorem SorobanNetwork.name_injective {one other : SorobanNetwork} (same : one.name = other.name) :
    one = other := by
  cases one <;> cases other <;> first | rfl | exact absurd same (by decide)

theorem SorobanNetwork.name_ne (network : SorobanNetwork) : "stellar-testnet" ≠ network.name := by
  cases network with
  | testnet => decide
  | mainnet => decide

theorem storedNetwork_eq_iff {one other : Component} :
    one.storedNetwork = other.storedNetwork ↔
      match one, other with
      | .live _, .live _ => True
      | .reindex first, .reindex second => first = second
      | _, _ => False := by
  cases one with
  | live first =>
      cases other with
      | live second => simp [Component.storedNetwork]
      | reindex second => simp [Component.storedNetwork, SorobanNetwork.name_ne second]
  | reindex first =>
      cases other with
      | live second => simp [Component.storedNetwork, (SorobanNetwork.name_ne first).symm]
      | reindex second =>
          constructor
          · exact SorobanNetwork.name_injective
          · rintro rfl
            rfl

end Submissions

/-! ### Every interleaving -/

section Runs

variable (fetches : Set Fetch)

theorem unsuppressed_iff :
    (∀ state, upsertMachine.Reachable (Submits (submissionsOf fetches)) state →
        ∀ own row, .existing own row ∈ state.calls →
          row.event.component.network = own.event.component.network) ↔
      ∀ one ∈ submissionsOf fetches, ∀ other ∈ submissionsOf fetches, one.key = other.key →
        other.event.component.network = one.event.component.network := by
  refine (insertMachine_existing_iff upsertRules _ _).trans ?_
  constructor
  · intro holds one isOne other isOther same
    exact holds one isOne other isOther
      ((matchesRow_iff_key (submitted_of_mem isOne).present).mpr same)
  · intro holds one isOne other isOther isMatch
    exact holds one isOne other isOther
      ((matchesRow_iff_key (submitted_of_mem isOne).present).mp isMatch)

theorem oneRow_iff :
    (∀ state, upsertMachine.Reachable (Submits (submissionsOf fetches)) state →
        (state.stored.map EventSubmission.onChain).Nodup) ↔
      ∀ one ∈ submissionsOf fetches, ∀ other ∈ submissionsOf fetches,
        one.onChain = other.onChain →
          one.event.component = other.event.component := by
  refine (insertMachine_once_iff upsertRules _ EventSubmission.onChain).trans ?_
  have step : ∀ one ∈ submissionsOf fetches, ∀ other ∈ submissionsOf fetches,
      one.onChain = other.onChain →
        (upsertRules.refused one other = true ↔
          one.event.component = other.event.component) := by
    intro one isOne other isOther same
    have first := submitted_of_mem isOne
    obtain ⟨network, read⟩ := Prod.mk.inj same
    change one.dto.row.duplicates other.dto.row = true ↔ _
    rw [duplicates_iff_key, and_iff_right first.present,
      key_iff_of_read first (submitted_of_mem isOther) read, storedNetwork_eq_iff]
    cases isOneOf : one.event.component with
    | live first =>
        cases isOtherOf : other.event.component with
        | live second =>
            rw [isOneOf, isOtherOf] at network
            exact iff_of_true trivial (congrArg Component.live network)
        | reindex second => exact iff_of_false id nofun
    | reindex first =>
        cases isOtherOf : other.event.component with
        | live second => exact iff_of_false id nofun
        | reindex second => exact ⟨congrArg Component.reindex, Component.reindex.inj⟩
  constructor
  · exact fun refuses one isOne other isOther same =>
      (step one isOne other isOther same).mp (refuses one isOne other isOther same)
  · exact fun alike one isOne other isOther same =>
      (step one isOne other isOther same).mpr (alike one isOne other isOther same)

theorem member_of_fetch {fetch : Fetch} {dto : InsertIndexedEventDTO NativeValue}
    (member : fetch ∈ fetches) (made : fetch.dto = some dto) :
    ⟨dto, fetch⟩ ∈ submissionsOf fetches := ⟨member, made⟩

/-- The three laws hold of every interleaving exactly when only `reindexRange` stores events. -/
theorem separatesNetworks_iff :
    (∀ state, upsertMachine.Reachable (Submits (submissionsOf fetches)) state →
        SeparatesNetworks state) ↔ ReindexOnly fetches := by
  constructor
  · intro always fetch member isSome
    obtain ⟨dto, made⟩ := Option.isSome_iff_exists.mp isSome
    have isMember := member_of_fetch fetches member made
    have submitted := submitted_of_mem isMember
    have reached : upsertMachine.Reachable (Submits (submissionsOf fetches)) _ :=
      existing_reached isMember isMember ((matchesRow_iff_key submitted.present).mpr rfl)
    have carried := (always _ reached).carried ⟨dto, fetch⟩ List.mem_cons_self
    cases component : fetch.component with
    | reindex network => exact ⟨network, rfl⟩
    | live network =>
        have stored : EventSubmission.rowNetwork ⟨dto, fetch⟩ = fetch.component.storedNetwork :=
          submitted.network
        change EventSubmission.rowNetwork ⟨dto, fetch⟩ = fetch.component.network.name at carried
        rw [stored, component] at carried
        exact absurd carried (SorobanNetwork.name_ne network)
  · intro only state reached
    have sound := insertMachine_sound reached
    have reindexed : ∀ one ∈ submissionsOf fetches, ∃ network,
        one.event.component = .reindex network := by
      intro one member
      exact only one.event member.1 (Option.isSome_iff_exists.mpr ⟨one.dto, member.2⟩)
    refine ⟨?_, ?_, ?_, ?_⟩
    · intro stored member
      have listed := sound.listed stored member
      obtain ⟨network, component⟩ := reindexed stored listed
      have written : stored.rowNetwork = stored.event.component.storedNetwork :=
        (submitted_of_mem listed).network
      rw [written, component]
      rfl
    · refine (unsuppressed_iff fetches).mpr ?_ state reached
      intro one isOne other isOther same
      obtain ⟨first, isFirst⟩ := reindexed one isOne
      obtain ⟨second, isSecond⟩ := reindexed other isOther
      have networks := (key_eq_iff.mp same).1
      rw [(submitted_of_mem isOne).network, (submitted_of_mem isOther).network,
        storedNetwork_eq_iff, isFirst, isSecond] at networks
      rw [isFirst, isSecond]
      exact Eq.symm networks
    · refine (oneRow_iff fetches).mpr ?_ state reached
      intro one isOne other isOther same
      obtain ⟨first, isFirst⟩ := reindexed one isOne
      obtain ⟨second, isSecond⟩ := reindexed other isOther
      have networks := (Prod.mk.inj same).1
      rw [isFirst, isSecond] at networks ⊢
      exact congrArg Component.reindex networks
    · rintro own (inserted | ⟨row, existing⟩)
      · exact ⟨own, sound.fits _ inserted, rfl⟩
      · obtain ⟨stored, isMatch⟩ := sound.fits _ existing
        have isOwn : own ∈ submissionsOf fetches := sound.called _ existing
        exact ⟨row, stored, ((matchesRow_iff_key (submitted_of_mem isOwn).present).mp isMatch).symm⟩

end Runs

/-! One mint on testnet, fetched by the live worker and by `reindexRange`. -/

def mintEvent : NormalizedContractEvent NativeValue :=
  { id := "0000001-0000000001", ledger := 45000, txHash := "0xhash123", contractId := some "CNFT"
    topic := [.text "mint", .text "GOWNER"], value := some (.number 7) }

def fetchedMint (component : Component) : Fetch :=
  { component, contractType := .nft, contractId := "CNFT", event := mintEvent }

theorem fetchedMint_dto (component : Component) : ∃ dto, (fetchedMint component).dto = some dto := by
  simp [Fetch.dto, Fetch.read, fetchedMint, fillContract, truthy, mintEvent, eventDecoders,
    nftDecoder, eventSymbol, decoded]

theorem separatesNetworks_fails :
    ∃ state, upsertMachine.Reachable (Submits (submissionsOf
          {fetchedMint (.live .testnet), fetchedMint (.reindex .testnet)})) state ∧
      state.stored.map (fun stored => (stored.event.component, stored.rowNetwork)) =
        [(.reindex .testnet, "testnet"), (.live .testnet, "stellar-testnet")] ∧
          ¬SeparatesNetworks state := by
  obtain ⟨liveDto, live⟩ := fetchedMint_dto (.live .testnet)
  obtain ⟨reindexDto, reindex⟩ := fetchedMint_dto (.reindex .testnet)
  have isLive := member_of_fetch {fetchedMint (.live .testnet), fetchedMint (.reindex .testnet)}
    (Or.inl rfl) live
  have isReindex := member_of_fetch
    {fetchedMint (.live .testnet), fetchedMint (.reindex .testnet)} (Or.inr rfl) reindex
  have first := submitted_of_mem isLive
  have second := submitted_of_mem isReindex
  have unrefused : upsertRules.refused ⟨liveDto, fetchedMint (.live .testnet)⟩
      ⟨reindexDto, fetchedMint (.reindex .testnet)⟩ = false := by
    refine Bool.eq_false_iff.mpr fun refused => ?_
    have same := (duplicates_iff_key.mp refused).2
    exact storedNetwork_eq_iff.mp ((key_iff_of_read first second rfl).mp same)
  have reached : upsertMachine.Reachable _ _ := concurrent_reached isLive isReindex unrefused
  refine ⟨_, reached, ?_, fun separates => ?_⟩
  · have liveRow : EventSubmission.rowNetwork ⟨liveDto, fetchedMint (.live .testnet)⟩ =
        "stellar-testnet" := first.network
    have reindexRow : EventSubmission.rowNetwork ⟨reindexDto, fetchedMint (.reindex .testnet)⟩ =
        "testnet" := second.network
    rw [List.map_cons, List.map_singleton, liveRow, reindexRow]
    rfl
  · have once := separates.once
    simp [EventSubmission.onChain, Fetch.onChain, Fetch.read, fetchedMint, Component.network] at once

end AudioBlock.Indexer
