/-
Embedding of src/services/Soroban/SorobanEventReader.ts.

`RawEvent` is one entry of a `getEvents` response: a field that has the wrong
JavaScript type is `none`.  An entry that is not an object at all is the outer
`none` of the response list.  `scValToNative` belongs to the Stellar SDK and is
a parameter; it answers `none` where it throws.  A rejected request is `none`.
The `latestLedger` of a page is read by no function embedded here and is left
out.
-/

namespace AudioBlock.Indexer

structure RawEvent (ScVal : Type) where
  id : Option String
  ledger : Option Nat
  txHash : Option String
  contractId : Option String
  topic : Option (List ScVal)
  value : Option ScVal
deriving DecidableEq, Repr

structure NormalizedContractEvent (Value : Type) where
  id : String
  ledger : Nat
  txHash : String
  contractId : Option String
  topic : List Value
  value : Option Value
deriving DecidableEq, Repr

structure EventsPage (Value : Type) where
  events : List (NormalizedContractEvent Value)
  cursor : String
deriving DecidableEq, Repr

structure FetchEventsOptions where
  contractIds : List String
  cursor : Option String := none
  startLedger : Option Nat := none
  endLedger : Option Nat := none
  limit : Option Nat := none
deriving DecidableEq, Repr

structure GetEventsRequest where
  contractIds : List String
  limit : Nat
  cursor : Option String
  startLedger : Option Nat
  endLedger : Option Nat
deriving DecidableEq, Repr

structure GetEventsResponse (ScVal : Type) where
  events : List (Option (RawEvent ScVal))
  cursor : Option String
deriving DecidableEq, Repr

variable {ScVal Value State : Type}

/-- JavaScript truthiness of an optional string: `null`, `undefined` and `''` are false. -/
def truthy : Option String → Bool
  | none => false
  | some text => text != ""

def normalizeEvent (scValToNative : ScVal → Option Value) :
    Option (RawEvent ScVal) → Option (NormalizedContractEvent Value)
  | none => none
  | some raw =>
      match raw.id, raw.ledger with
      | some id, some ledger =>
          let topic := match raw.topic with
            | none => some []
            | some entries => entries.mapM scValToNative
          let value := match raw.value with
            | none => some none
            | some entry => (scValToNative entry).map some
          match topic, value with
          | some topic, some value =>
              some { id, ledger, txHash := raw.txHash.getD "", contractId := raw.contractId,
                     topic, value }
          | _, _ => none
      | _, _ => none

def fillContract (contractIds : List String) (event : NormalizedContractEvent Value) :
    NormalizedContractEvent Value :=
  if truthy event.contractId then event
  else
    match contractIds with
    | [contractId] => { event with contractId := some contractId }
    | _ => event

def getEventsRequest (opts : FetchEventsOptions) : GetEventsRequest :=
  if truthy opts.cursor then
    { contractIds := opts.contractIds
      limit := opts.limit.getD 200
      cursor := opts.cursor
      startLedger := none
      endLedger := none }
  else
    { contractIds := opts.contractIds
      limit := opts.limit.getD 200
      cursor := none
      startLedger := some (opts.startLedger.getD 1)
      endLedger := opts.endLedger }

def fetchEvents (scValToNative : ScVal → Option Value)
    (getEvents : GetEventsRequest → Option (GetEventsResponse ScVal))
    (opts : FetchEventsOptions) : Option (EventsPage Value) :=
  match getEvents (getEventsRequest opts) with
  | none => none
  | some response =>
      some
        { events := (response.events.filterMap (normalizeEvent scValToNative)).map
            (fillContract opts.contractIds)
          cursor := response.cursor.getD "" }

/-- `page.events.reduce((max, ev) => Math.max(max, ev.ledger), floor)`. -/
def highestLedger (floor : Int) (events : List (NormalizedContractEvent Value)) : Int :=
  events.foldl (fun highest event => max highest event.ledger) floor

/-- The loop of `fetchAllInRange`.  The `n`-th request of the call is answered
by `reader n`; `onPage` threads the caller's state and answers `none` where the
callback rejects. -/
def fetchAllInRangeLoop (reader : Nat → FetchEventsOptions → Option (EventsPage Value))
    (contractIds : List String) (endLedger limit : Nat)
    (onPage : EventsPage Value → Nat → State → Option State)
    (fromLedger stalePages : Nat) (pages : List (EventsPage Value)) (state : State) :
    Option (List (EventsPage Value) × State) :=
  if endLedger < fromLedger then some (pages, state)
  else
    match reader pages.length
        { contractIds, startLedger := some fromLedger, endLedger := some endLedger,
          limit := some limit } with
    | none => none
    | some page =>
        let highest := highestLedger (fromLedger - 1) page.events
        let nextFrom := if fromLedger ≤ highest then highest.toNat + 1 else fromLedger + limit
        match onPage page nextFrom state with
        | none => none
        | some after =>
            if highest < fromLedger then
              if 3 ≤ stalePages + 1 then some (pages ++ [page], after)
              else if endLedger < nextFrom then some (pages ++ [page], after)
              else fetchAllInRangeLoop reader contractIds endLedger limit onPage
                nextFrom (stalePages + 1) (pages ++ [page]) after
            else if endLedger < nextFrom then some (pages ++ [page], after)
            else fetchAllInRangeLoop reader contractIds endLedger limit onPage
              nextFrom 0 (pages ++ [page]) after
termination_by 4 * (endLedger + 1 - fromLedger) + (3 - stalePages)
decreasing_by
  · split <;> omega
  · split <;> omega

def fetchAllInRange (reader : Nat → FetchEventsOptions → Option (EventsPage Value))
    (contractIds : List String) (startLedger endLedger limit : Nat)
    (onPage : EventsPage Value → Nat → State → Option State) (state : State) :
    Option (List (EventsPage Value) × State) :=
  fetchAllInRangeLoop reader contractIds endLedger limit onPage startLedger 0 [] state

theorem fillContract_ledger (contractIds : List String) (event : NormalizedContractEvent Value) :
    (fillContract contractIds event).ledger = event.ledger := by
  unfold fillContract
  split
  · rfl
  · split <;> rfl

variable (floor : Int) (events : List (NormalizedContractEvent Value))

theorem floor_le_highestLedger :
    floor ≤ highestLedger floor events := by
  induction events generalizing floor with
  | nil => exact Int.le_refl floor
  | cons event rest ih =>
      have tailBound := ih (max floor event.ledger)
      have headBound : floor ≤ max floor (event.ledger : Int) := Int.le_max_left _ _
      exact Int.le_trans headBound tailBound

theorem ledger_le_highestLedger (event : NormalizedContractEvent Value) (member : event ∈ events) :
    (event.ledger : Int) ≤ highestLedger floor events := by
  induction events generalizing floor with
  | nil => cases member
  | cons head tail ih =>
      rcases List.mem_cons.mp member with same | later
      · subst same
        have reached := floor_le_highestLedger (max floor event.ledger) tail
        exact Int.le_trans (Int.le_max_right _ _) reached
      · exact ih (max floor head.ledger) later

theorem highestLedger_attained :
    highestLedger floor events = floor ∨
      ∃ event ∈ events, highestLedger floor events = event.ledger := by
  induction events generalizing floor with
  | nil => exact Or.inl rfl
  | cons head tail ih =>
      rcases ih (max floor head.ledger) with atFloor | ⟨event, member, attained⟩
      · rcases Int.le_total floor head.ledger with below | above
        · right
          refine ⟨head, List.mem_cons_self, ?_⟩
          rw [Int.max_eq_right below] at atFloor
          change highestLedger (max floor head.ledger) tail = _
          rw [Int.max_eq_right below]
          exact atFloor
        · left
          rw [Int.max_eq_left above] at atFloor
          change highestLedger (max floor head.ledger) tail = _
          rw [Int.max_eq_left above]
          exact atFloor
      · exact Or.inr ⟨event, List.mem_cons_of_mem head member, attained⟩

theorem highestLedger_le_iff (bound : Int) (events : List (NormalizedContractEvent Value)) :
    highestLedger floor events ≤ bound ↔
      floor ≤ bound ∧ ∀ event ∈ events, (event.ledger : Int) ≤ bound := by
  constructor
  · intro below
    refine ⟨Int.le_trans (floor_le_highestLedger floor events) below, ?_⟩
    intro event member
    exact Int.le_trans (ledger_le_highestLedger floor events event member) below
  · rintro ⟨floorBelow, eventsBelow⟩
    rcases highestLedger_attained floor events with atFloor | ⟨event, member, attained⟩
    · rw [atFloor]
      exact floorBelow
    · rw [attained]
      exact eventsBelow event member

theorem not_lt_highestLedger_iff (floor : Nat) (events : List (NormalizedContractEvent Value)) :
    ¬floor < (highestLedger (floor : Int) events).toNat ↔
      ∀ event ∈ events, event.ledger ≤ floor := by
  have bound := highestLedger_le_iff (floor : Int) floor events
  constructor
  · intro notAbove event member
    have below := (bound.mp (by omega)).2 event member
    omega
  · intro below above
    have atMost := bound.mpr ⟨Int.le_refl _, fun event member => Int.ofNat_le.mpr (below event member)⟩
    omega

theorem fetchAllInRangeLoop_invariant
    (reader : Nat → FetchEventsOptions → Option (EventsPage Value))
    (contractIds : List String) (low endLedger limit : Nat)
    (onPage : EventsPage Value → Nat → State → Option State)
    (holds : List (EventsPage Value) → State → Prop)
    (preserved : ∀ pages state start page nextStart after, holds pages state → low ≤ start →
      reader pages.length
        { contractIds, startLedger := some start, endLedger := some endLedger,
          limit := some limit } = some page →
      onPage page nextStart state = some after → holds (pages ++ [page]) after)
    (fromLedger stalePages : Nat) (lowBound : low ≤ fromLedger)
    (pages : List (EventsPage Value)) (state : State) (initially : holds pages state)
    (result : List (EventsPage Value)) (final : State)
    (returned : fetchAllInRangeLoop reader contractIds endLedger limit onPage
      fromLedger stalePages pages state = some (result, final)) :
    holds result final := by
  have rises : ∀ (start : Nat) (highest : Int),
      start ≤ if (start : Int) ≤ highest then highest.toNat + 1 else start + limit := by
    intro start highest
    split <;> omega
  fun_induction fetchAllInRangeLoop reader contractIds endLedger limit onPage
    fromLedger stalePages pages state with
  | case1 =>
      cases returned
      exact initially
  | case2 => cases returned
  | case3 => cases returned
  | case4 _ _ _ _ _ _ answered _ _ _ handled | case5 _ _ _ _ _ _ answered _ _ _ handled
  | case7 _ _ _ _ _ _ answered _ _ _ handled =>
      cases returned
      exact preserved _ _ _ _ _ _ initially lowBound answered handled
  | case6 _ _ _ _ _ _ answered _ _ _ handled _ _ _ ih
  | case8 _ _ _ _ _ _ answered _ _ _ handled _ _ ih =>
      exact ih (Nat.le_trans lowBound (rises _ _))
        (preserved _ _ _ _ _ _ initially lowBound answered handled) returned

end AudioBlock.Indexer
