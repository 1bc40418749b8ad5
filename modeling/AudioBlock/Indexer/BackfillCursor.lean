/-
The cursor row that a backfill leaves to the live poller.

`processBatch` records the ledger before the reader's next start.  After a page with events
that is the highest ledger of the page; after an empty one it is the last of as many ledgers
as the page has room for events, whether or not the range reaches so far.  Three empty pages
in a row, or a next start beyond the range, end the paging.  The RPC serves the range that a
request asks for; a run may also end at a request or a write that rejects.
-/
import AudioBlock.Indexer.Backfill
import AudioBlock.Indexer.ReorgGuard

namespace AudioBlock.Indexer

open AudioBlock.Foundation

variable {ScVal Value State : Type} {scValToNative : ScVal → Option Value}

/-- The state that the loop of `fetchAllInRange` leaves, also where a request or the callback
rejects. -/
def pageLoopLeaves (reader : Nat → FetchEventsOptions → Option (EventsPage Value))
    (contractIds : List String) (endLedger limit : Nat)
    (onPage : EventsPage Value → Nat → State → Option State)
    (fromLedger stalePages call : Nat) (state : State) : State :=
  if endLedger < fromLedger then state
  else
    match reader call
        { contractIds, startLedger := some fromLedger, endLedger := some endLedger,
          limit := some limit } with
    | none => state
    | some page =>
        let highest := highestLedger (fromLedger - 1) page.events
        let nextFrom := if fromLedger ≤ highest then highest.toNat + 1 else fromLedger + limit
        match onPage page nextFrom state with
        | none => state
        | some after =>
            if highest < fromLedger then
              if 3 ≤ stalePages + 1 then after
              else if endLedger < nextFrom then after
              else pageLoopLeaves reader contractIds endLedger limit onPage
                nextFrom (stalePages + 1) (call + 1) after
            else if endLedger < nextFrom then after
            else pageLoopLeaves reader contractIds endLedger limit onPage
              nextFrom 0 (call + 1) after
termination_by 4 * (endLedger + 1 - fromLedger) + (3 - stalePages)
decreasing_by
  · split <;> omega
  · split <;> omega

/-- The database that `BackfillService.run` leaves before its marker is set. -/
def backfillLeaves (reader : Nat → FetchEventsOptions → Option (EventsPage Value))
    (env : BackfillEnv Value) (db : IndexerDb Value) (opts : BackfillOptions) : IndexerDb Value :=
  match assertNotCompleted db opts with
  | .error _ => db
  | .ok () =>
      (pageLoopLeaves reader [opts.contractId] opts.endLedger (opts.batchSize.getD 200)
        (processBatch env opts (env.eventDecoders opts.contractType)) (resumeFrom db opts) 0 0
        { db := (db.getCursor opts.contractId opts.network).2, upsertCalls := 0, batches := 0,
          imported := 0, currentLedger := resumeFrom db opts - 1 }).db

def rowLedger (db : IndexerDb Value) (opts : BackfillOptions) : Nat :=
  (db.cursorOf opts.contractId opts.network).lastProcessedLedger

structure NothingSkipped (bound cursor : Nat) : Prop where
  within : cursor ≤ bound
  started : ∀ config tip start,
    IndexerReorgGuard.getOverlapStart { config, cursor := some cursor } tip = some start →
      start ≤ bound + 1
  caughtUp : ∀ config tip,
    IndexerReorgGuard.getOverlapStart { config, cursor := some cursor } tip = none → tip ≤ bound

def LeavesInRange (log : EventLog scValToNative) (db : IndexerDb Value) (opts : BackfillOptions) :
    Prop :=
  ∀ (env : BackfillEnv Value) (up : Nat → Bool),
    NothingSkipped (max (rowLedger db opts) opts.endLedger)
      (rowLedger (backfillLeaves (log.rangeReader true up) env db opts) opts)

def lastLedger (log : EventLog scValToNative) (low high : Nat) : Nat :=
  match (log.between low high).getLast? with
  | some item => item.ledger
  | none => low - 1

def Room (limit last stalePages endLedger : Nat) : Prop :=
  last + (3 - stalePages) * limit ≤ endLedger ∨ limit ∣ endLedger - last

/-- The run pages through nothing, or has room for the empty pages at its end. -/
def StopsAtEnd (log : EventLog scValToNative) (db : IndexerDb Value) (opts : BackfillOptions) :
    Prop :=
  db.isBackfillCompleted opts.contractId opts.network = true ∨
    opts.endLedger < resumeFrom db opts ∨
      Room (opts.batchSize.getD 200) (lastLedger log (resumeFrom db opts) opts.endLedger) 0
        opts.endLedger

/-! ### Empty pages -/

variable {limit stalePages endLedger : Nat} {log : EventLog scValToNative} {low high : Nat}
  {item : ChainEvent scValToNative} {start : Nat} {opts : BackfillOptions}
  {decoder : SorobanEventDecoder Value} {next : Nat} {highest : Int}

theorem room_step {last : Nat} (positive : 0 < limit) (inside : last < endLedger)
    (few : stalePages < 3) :
    Room limit last stalePages endLedger ↔
      last + limit = endLedger ∨
        last + limit < endLedger ∧
          (stalePages = 2 ∨ Room limit (last + limit) (stalePages + 1) endLedger) := by
  have divides : limit ∣ endLedger - last ↔
      last + limit ≤ endLedger ∧ limit ∣ endLedger - (last + limit) := by
    constructor
    · intro whole
      have bound := Nat.le_of_dvd (by omega) whole
      refine ⟨by omega, ?_⟩
      rw [Nat.sub_add_eq]
      exact Nat.dvd_sub whole (Nat.dvd_refl limit)
    · rintro ⟨bound, rest⟩
      have split : endLedger - last = endLedger - (last + limit) + limit := by omega
      rw [split]
      exact Nat.dvd_add rest (Nat.dvd_refl limit)
  have level : last + limit = endLedger → limit ∣ endLedger - (last + limit) := by
    intro same
    rw [same, Nat.sub_self]
    exact Nat.dvd_zero limit
  have pages : stalePages = 0 ∨ stalePages = 1 ∨ stalePages = 2 := by omega
  unfold Room
  rw [divides]
  rcases pages with rfl | rfl | rfl
  · omega
  · omega
  · omega

theorem room_end (limit stalePages endLedger : Nat) : Room limit endLedger stalePages endLedger := by
  right
  rw [Nat.sub_self]
  exact Nat.dvd_zero limit

/-! ### The last ledger -/

theorem mem_between :
    item ∈ log.between low high ↔ item ∈ log.events ∧ low ≤ item.ledger ∧ item.ledger ≤ high := by
  unfold EventLog.between
  rw [List.mem_filter, Bool.and_eq_true, decide_eq_true_eq, decide_eq_true_eq]

theorem lastLedger_cases (log : EventLog scValToNative) (low high : Nat) :
    (log.between low high = [] ∧ lastLedger log low high = low - 1) ∨
      ∃ item ∈ log.between low high, lastLedger log low high = item.ledger ∧
        ∀ other ∈ log.between low high, other.ledger ≤ item.ledger := by
  unfold lastLedger
  cases finalAt : (log.between low high).getLast? with
  | none => exact Or.inl ⟨List.getLast?_eq_none_iff.mp finalAt, rfl⟩
  | some final =>
      obtain ⟨front, whole⟩ := List.getLast?_eq_some_iff.mp finalAt
      refine Or.inr ⟨final, List.mem_of_getLast? finalAt, rfl, ?_⟩
      have ordered := log.between_ordered low high
      rw [whole] at ordered
      intro other member
      rw [whole] at member
      rcases List.mem_append.mp member with earlier | same
      · exact (List.pairwise_append.mp ordered).2.2 other earlier final (List.mem_singleton_self _)
      · rw [List.mem_singleton.mp same]

theorem lastLedger_le (log : EventLog scValToNative) (range : low ≤ high) :
    lastLedger log low high ≤ high := by
  rcases lastLedger_cases log low high with ⟨_, before⟩ | ⟨item, member, isLast, _⟩
  · omega
  · rw [isLast]
    exact (mem_between.mp member).2.2

theorem lastLedger_after (log : EventLog scValToNative) (member : item ∈ log.between low high) :
    lastLedger log (item.ledger + 1) high = lastLedger log low high := by
  obtain ⟨_, above, _⟩ := mem_between.mp member
  rcases lastLedger_cases log low high with ⟨empty, _⟩ | ⟨final, isIn, isLast, highest⟩
  · rw [empty] at member
    cases member
  · have bound := highest item member
    rcases lastLedger_cases log (item.ledger + 1) high with
      ⟨empty, before⟩ | ⟨later, laterIn, laterLast, laterHighest⟩
    · rw [before, isLast]
      by_cases same : final.ledger = item.ledger
      · omega
      · obtain ⟨isEvent, _, inRange⟩ := mem_between.mp isIn
        have left : final ∈ log.between (item.ledger + 1) high :=
          mem_between.mpr ⟨isEvent, by omega, inRange⟩
        rw [empty] at left
        cases left
    · obtain ⟨isEvent, _, inRange⟩ := mem_between.mp laterIn
      have below := highest later (mem_between.mpr ⟨isEvent, by omega, inRange⟩)
      obtain ⟨finalEvent, _, finalRange⟩ := mem_between.mp isIn
      have finalBound := laterHighest final
        (mem_between.mpr ⟨finalEvent, by omega, finalRange⟩)
      rw [laterLast, isLast]
      omega

/-! ### One page -/

theorem page_cases (log : EventLog scValToNative) (up : Nat → Bool) (call : Nat)
    (contractIds : List String) (page : EventsPage Value)
    (answered : log.rangeReader true up call
      { contractIds, startLedger := some start, endLedger := some high,
        limit := some limit } = some page) :
    (highestLedger ((start : Int) - 1) page.events = (start : Int) - 1 ∧
        (limit = 0 ∨ log.between start high = [])) ∨
      0 < limit ∧ ∃ item ∈ log.between start high,
        highestLedger ((start : Int) - 1) page.events = item.ledger := by
  have events := log.rangeReader_events true up call contractIds start high limit page answered
  change page.events = ((log.between start high).take limit).map _ at events
  rw [events]
  cases finalAt : ((log.between start high).take limit).getLast? with
  | none =>
      have empty := List.getLast?_eq_none_iff.mp finalAt
      left
      rw [empty]
      exact ⟨rfl, List.take_eq_nil_iff.mp empty⟩
  | some final =>
      have taken := List.mem_of_getLast? finalAt
      right
      refine ⟨?_, final, List.mem_of_mem_take taken, ?_⟩
      · rcases Nat.eq_zero_or_pos limit with zero | positive
        · subst zero
          cases taken
        · exact positive
      · apply highestLedger_page contractIds start _ _ _ final finalAt
        · exact (log.between_ordered start high).sublist (List.take_sublist limit _)
        · exact fun item member => (mem_between.mp (List.mem_of_mem_take member)).2.1

theorem processBatch_cursor {env : BackfillEnv Value} {page : EventsPage Value} {nextStart : Nat}
    {state after : BackfillRunState Value}
    (accepted : processBatch env opts decoder page nextStart state = some after) :
    after.currentLedger =
        max state.currentLedger (highestLedger state.currentLedger page.events).toNat ∧
      rowLedger after.db opts = max after.currentLedger (nextStart - 1) := by
  unfold processBatch at accepted
  by_cases checkpointed : env.checkpoint state.batches = true
  · simp only [if_pos checkpointed, Option.some.injEq] at accepted
    subst after
    refine ⟨rfl, ?_⟩
    unfold rowLedger
    rw [IndexerDb.updateBackfillProgress_cursorOf, IndexerDb.recordProgress_ledger]
  · simp only [if_neg checkpointed] at accepted
    cases accepted

theorem processBatch_current {env : BackfillEnv Value} {page : EventsPage Value} {nextStart : Nat}
    {state after : BackfillRunState Value}
    (accepted : processBatch env opts decoder page nextStart state = some after)
    (current : state.currentLedger ≤ endLedger)
    (inside : ∀ event ∈ page.events, event.ledger ≤ endLedger) :
    after.currentLedger ≤ endLedger := by
  have highest : highestLedger (state.currentLedger : Int) page.events ≤ endLedger :=
    (highestLedger_le_iff _ _ _).mpr
      ⟨Int.ofNat_le.mpr current, fun event member => Int.ofNat_le.mpr (inside event member)⟩
  rw [(processBatch_cursor accepted).1]
  omega

inductive PageLeads (log : EventLog scValToNative) (limit start high : Nat) : Int → Nat → Prop
  | empty {highest : Int} (below : highest < start)
      (nothing : limit = 0 ∨ ∀ later, start ≤ later → lastLedger log later high = later - 1) :
      PageLeads log limit start high highest (start + limit)
  | reached {highest : Int} {next : Nat} (positive : 0 < limit) (above : ¬highest < start)
      (later : start < next) (inside : next ≤ high + 1)
      (same : lastLedger log next high = lastLedger log start high) :
      PageLeads log limit start high highest next

theorem page_leads (log : EventLog scValToNative) (up : Nat → Bool) (call : Nat)
    (contractIds : List String) (page : EventsPage Value)
    (answered : log.rangeReader true up call
      { contractIds, startLedger := some start, endLedger := some high,
        limit := some limit } = some page) :
    PageLeads log limit start high (highestLedger ((start : Int) - 1) page.events)
      (if (start : Int) ≤ highestLedger ((start : Int) - 1) page.events then
        (highestLedger ((start : Int) - 1) page.events).toNat + 1 else start + limit) := by
  rcases page_cases log up call contractIds page answered with
    ⟨atFloor, nothing⟩ | ⟨positive, item, member, isHighest⟩
  · rw [atFloor, if_neg (by omega)]
    refine .empty (by omega) (nothing.imp_right fun none later order => ?_)
    have noneLater := log.between_nil_mono start later high order none
    rcases lastLedger_cases log later high with ⟨_, before⟩ | ⟨other, isIn, _⟩
    · exact before
    · rw [noneLater] at isIn
      cases isIn
  · obtain ⟨_, above, below⟩ := mem_between.mp member
    rw [isHighest, if_pos (by omega), Int.toNat_natCast]
    exact .reached positive (by omega) (by omega) (by omega) (lastLedger_after log member)

/-- Where the loop stands; after an empty page nothing is left of the range. -/
structure Position (log : EventLog scValToNative) (limit fromLedger stalePages endLedger : Nat) :
    Prop where
  positive : 1 ≤ fromLedger
  few : stalePages < 3
  stale : 0 < stalePages →
    limit = 0 ∨ ∀ later, fromLedger ≤ later → lastLedger log later endLedger = later - 1

theorem Position.reached (position : Position log limit start stalePages endLedger)
    (positive : 0 < limit) (later : start < next)
    (same : lastLedger log next endLedger = lastLedger log start endLedger) : stalePages = 0 := by
  rcases Nat.eq_zero_or_pos stalePages with none | some
  · exact none
  · rcases position.stale some with zero | nothing
    · omega
    · have atNext := nothing next (Nat.le_of_lt later)
      have atStart := nothing start (Nat.le_refl start)
      have first := position.positive
      omega

theorem Position.next_empty (position : Position log limit start stalePages endLedger)
    (leads : PageLeads log limit start endLedger highest next) (below : highest < start)
    (more : ¬3 ≤ stalePages + 1) : Position log limit next (stalePages + 1) endLedger := by
  have positive := position.positive
  cases leads with
  | empty _ nothing =>
      refine ⟨by omega, by omega, fun _ => nothing.imp_right fun all later order => ?_⟩
      exact all later (by omega)
  | reached _ above _ _ _ => exact absurd below above

theorem Position.next_reached (leads : PageLeads log limit start endLedger highest next)
    (above : ¬highest < start) :
    Position log limit next 0 endLedger := by
  cases leads with
  | empty below _ => exact absurd below above
  | reached _ _ later _ _ => exact ⟨by omega, by decide, fun stale => absurd stale (by decide)⟩

theorem Position.room_iff (position : Position log limit start stalePages endLedger)
    (range : start ≤ endLedger) (leads : PageLeads log limit start endLedger highest next) :
    Room limit (lastLedger log start endLedger) stalePages endLedger ↔
      next - 1 ≤ endLedger ∧
        (next ≤ endLedger → (highest < start ∧ 3 ≤ stalePages + 1) ∨
          Room limit (lastLedger log next endLedger)
            (if highest < start then stalePages + 1 else 0) endLedger) := by
  have positive := position.positive
  have few := position.few
  cases leads with
  | empty below nothing =>
      rw [if_pos below]
      rcases Nat.eq_zero_or_pos limit with zero | some
      · subst zero
        have last := lastLedger_le log range
        exact iff_of_true (Or.inl (by omega)) ⟨by omega, fun _ => Or.inr (Or.inl (by omega))⟩
      · have all := nothing.resolve_left (Nat.ne_of_gt some)
        rw [all start (Nat.le_refl start), all (start + limit) (Nat.le_add_right _ _),
          room_step some (by omega) few,
          show start - 1 + limit = start + limit - 1 by omega]
        constructor
        · rintro (level | ⟨inside, last | room⟩)
          · exact ⟨by omega, fun more => by omega⟩
          · exact ⟨by omega, fun _ => Or.inl ⟨below, by omega⟩⟩
          · exact ⟨by omega, fun _ => Or.inr room⟩
        · rintro ⟨inside, room⟩
          by_cases level : start + limit - 1 = endLedger
          · exact Or.inl level
          · rcases room (by omega) with ⟨_, last⟩ | room
            · exact Or.inr ⟨by omega, Or.inl (by omega)⟩
            · exact Or.inr ⟨by omega, Or.inr room⟩
  | reached some above later inside same =>
      rw [if_neg above, position.reached some later same, same]
      constructor
      · exact fun room => ⟨by omega, fun _ => Or.inr room⟩
      · rintro ⟨_, room⟩
        by_cases more : next ≤ endLedger
        · exact (room more).resolve_left fun stale => above stale.1
        · have past : next = endLedger + 1 := by omega
          have last : lastLedger log next endLedger = endLedger := by
            rcases lastLedger_cases log next endLedger with ⟨_, before⟩ | ⟨item, member, _⟩
            · omega
            · rw [past, log.between_empty_range _ _ (Nat.lt_succ_self _)] at member
              cases member
          rw [← same, last]
          exact room_end limit 0 endLedger

/-! ### The page loop -/

section Loop

variable {log : EventLog scValToNative} {env : BackfillEnv Value} {opts : BackfillOptions}
  {decoder : SorobanEventDecoder Value} {endLedger limit bound : Nat}

theorem page_stays {up : Nat → Bool} {contractIds : List String}
    {fromLedger call nextFrom : Nat} {state after : BackfillRunState Value}
    {page : EventsPage Value}
    (answered : log.rangeReader true up call
      { contractIds, startLedger := some fromLedger, endLedger := some endLedger,
        limit := some limit } = some page)
    (accepted : processBatch env opts decoder page nextFrom state = some after)
    (within : endLedger ≤ bound) (next : nextFrom - 1 ≤ endLedger)
    (current : state.currentLedger ≤ endLedger) :
    after.currentLedger ≤ endLedger ∧ rowLedger after.db opts ≤ bound := by
  have inside := log.rangeReader_inside up call contractIds fromLedger endLedger limit page answered
  have currentAfter := processBatch_current accepted current fun event member =>
    (inside event member).2
  refine ⟨currentAfter, ?_⟩
  rw [(processBatch_cursor accepted).2]
  omega

theorem pageLoopLeaves_stays (up : Nat → Bool) (contractIds : List String)
    (fromLedger stalePages call : Nat) (state : BackfillRunState Value)
    (position : Position log limit fromLedger stalePages endLedger) (within : endLedger ≤ bound)
    (room : fromLedger ≤ endLedger →
      Room limit (lastLedger log fromLedger endLedger) stalePages endLedger)
    (current : fromLedger ≤ endLedger → state.currentLedger ≤ endLedger)
    (row : rowLedger state.db opts ≤ bound) :
    rowLedger (pageLoopLeaves (log.rangeReader true up) contractIds endLedger limit
      (processBatch env opts decoder) fromLedger stalePages call state).db opts ≤ bound := by
  fun_induction pageLoopLeaves (log.rangeReader true up) contractIds endLedger limit
    (processBatch env opts decoder) fromLedger stalePages call state with
  | case1 => exact row
  | case2 => exact row
  | case3 => exact row
  | case4 fromLedger stalePages call state past page answered highest nextFrom after accepted
  | case5 fromLedger stalePages call state past page answered highest nextFrom after accepted
  | case7 fromLedger stalePages call state past page answered highest nextFrom after accepted =>
      have range := Nat.le_of_not_lt past
      have leads := page_leads log up call contractIds page answered
      obtain ⟨next, _⟩ := (position.room_iff range leads).mp (room range)
      exact (page_stays answered accepted within next (current range)).2
  | case6 fromLedger stalePages call state past page answered highest nextFrom after accepted
      below more _ ih =>
      have range := Nat.le_of_not_lt past
      have leads := page_leads log up call contractIds page answered
      obtain ⟨next, later⟩ := (position.room_iff range leads).mp (room range)
      obtain ⟨currentAfter, rowAfter⟩ := page_stays answered accepted within next (current range)
      refine ih (position.next_empty leads below more) (fun inside => ?_) (fun _ => currentAfter)
        rowAfter
      have room := (later inside).resolve_left fun stale => more stale.2
      rwa [if_pos below] at room
  | case8 fromLedger stalePages call state past page answered highest nextFrom after accepted
      above _ ih =>
      have range := Nat.le_of_not_lt past
      have leads := page_leads log up call contractIds page answered
      obtain ⟨next, later⟩ := (position.room_iff range leads).mp (room range)
      obtain ⟨currentAfter, rowAfter⟩ := page_stays answered accepted within next (current range)
      refine ih (Position.next_reached leads above) (fun inside => ?_) (fun _ => currentAfter)
        rowAfter
      have room := (later inside).resolve_left fun stale => above stale.1
      rwa [if_neg above] at room

theorem pageLoopLeaves_passes (contractIds : List String) (fromLedger stalePages call : Nat)
    (state : BackfillRunState Value) (succeeds : ∀ batch, env.checkpoint batch = true)
    (position : Position log limit fromLedger stalePages endLedger)
    (range : fromLedger ≤ endLedger)
    (noRoom : ¬Room limit (lastLedger log fromLedger endLedger) stalePages endLedger) :
    endLedger < rowLedger (pageLoopLeaves (log.rangeReader true fun _ => true) contractIds
      endLedger limit (processBatch env opts decoder) fromLedger stalePages call state).db opts := by
  have recorded {page : EventsPage Value} {nextStart : Nat} {state after : BackfillRunState Value}
      (accepted : processBatch env opts decoder page nextStart state = some after)
      (beyond : ¬nextStart - 1 ≤ endLedger) : endLedger < rowLedger after.db opts := by
    rw [(processBatch_cursor accepted).2]
    omega
  fun_induction pageLoopLeaves (log.rangeReader true fun _ => true) contractIds endLedger limit
    (processBatch env opts decoder) fromLedger stalePages call state with
  | case1 => omega
  | case2 fromLedger stalePages call state past rejected => cases rejected
  | case3 fromLedger stalePages call state past page answered highest nextFrom rejected =>
      unfold processBatch at rejected
      rw [succeeds] at rejected
      cases rejected
  | case4 fromLedger stalePages call state past page answered highest nextFrom after accepted
      below last =>
      have leads : PageLeads log limit fromLedger endLedger highest nextFrom :=
        page_leads log _ call contractIds page answered
      have beyond := mt (position.room_iff range leads).mpr noRoom
      exact recorded accepted fun next => beyond ⟨next, fun _ => Or.inl ⟨below, last⟩⟩
  | case5 fromLedger stalePages call state past page answered highest nextFrom after accepted
      below more passed =>
      have leads : PageLeads log limit fromLedger endLedger highest nextFrom :=
        page_leads log _ call contractIds page answered
      have beyond := mt (position.room_iff range leads).mpr noRoom
      exact recorded accepted fun next => beyond ⟨next, fun inside => absurd inside (Nat.not_le_of_lt passed)⟩
  | case6 fromLedger stalePages call state past page answered highest nextFrom after accepted
      below more inside ih =>
      have leads : PageLeads log limit fromLedger endLedger highest nextFrom :=
        page_leads log _ call contractIds page answered
      have beyond := mt (position.room_iff range leads).mpr noRoom
      rw [if_pos below] at beyond
      have order : nextFrom ≤ endLedger := Nat.le_of_not_lt inside
      exact ih (position.next_empty leads below more) order
        fun room => beyond ⟨by omega, fun _ => Or.inr room⟩
  | case7 fromLedger stalePages call state past page answered highest nextFrom after accepted
      above passed =>
      have leads : PageLeads log limit fromLedger endLedger highest nextFrom :=
        page_leads log _ call contractIds page answered
      have beyond := mt (position.room_iff range leads).mpr noRoom
      exact recorded accepted fun next => beyond ⟨next, fun inside => absurd inside (Nat.not_le_of_lt passed)⟩
  | case8 fromLedger stalePages call state past page answered highest nextFrom after accepted
      above inside ih =>
      have leads : PageLeads log limit fromLedger endLedger highest nextFrom :=
        page_leads log _ call contractIds page answered
      have beyond := mt (position.room_iff range leads).mpr noRoom
      rw [if_neg above] at beyond
      have order : nextFrom ≤ endLedger := Nat.le_of_not_lt inside
      exact ih (Position.next_reached leads above) order
        fun room => beyond ⟨by omega, fun _ => Or.inr room⟩

end Loop

/-! ### The run -/

theorem nothingSkipped_iff (bound cursor : Nat) : NothingSkipped bound cursor ↔ cursor ≤ bound := by
  constructor
  · exact fun skipped => skipped.within
  · intro within
    refine ⟨within, fun config tip start returned => ?_, fun config tip returned => ?_⟩
    · obtain ⟨_, next, _⟩ := IndexerReorgGuard.getOverlapStart_bounds returned
      omega
    · rcases IndexerReorgGuard.getOverlapStart_cases { config, cursor := none } cursor tip with
        ⟨_, level⟩ | ⟨started, _⟩ | ⟨start, started, _⟩
      · omega
      · exact nomatch returned.symm.trans started
      · exact nomatch returned.symm.trans started

def everyCall : BackfillEnv Value where
  eventDecoders contractType := { contractType, decode := fun _ => none }
  upsertEvent _ := true
  checkpoint _ := true

variable (reader : Nat → FetchEventsOptions → Option (EventsPage Value))

theorem backfillLeaves_marked (env : BackfillEnv Value) {db : IndexerDb Value}
    (completed : db.isBackfillCompleted opts.contractId opts.network = true) :
    backfillLeaves reader env db opts = db := by
  unfold backfillLeaves assertNotCompleted
  rw [completed]
  rfl

theorem backfillLeaves_pages (env : BackfillEnv Value) {db : IndexerDb Value}
    (unmarked : db.isBackfillCompleted opts.contractId opts.network = false) :
    backfillLeaves reader env db opts =
      (pageLoopLeaves reader [opts.contractId] opts.endLedger (opts.batchSize.getD 200)
        (processBatch env opts (env.eventDecoders opts.contractType)) (resumeFrom db opts) 0 0
        { db := (db.getCursor opts.contractId opts.network).2, upsertCalls := 0, batches := 0,
          imported := 0, currentLedger := resumeFrom db opts - 1 }).db := by
  unfold backfillLeaves assertNotCompleted
  rw [unmarked]
  rfl

theorem lt_resumeFrom (db : IndexerDb Value) (opts : BackfillOptions) :
    rowLedger db opts < resumeFrom db opts := by
  unfold rowLedger resumeFrom
  omega

/-- An event in ledger 5 of the range 5 to 10. -/
def ledgersFiveToTen : BackfillOptions :=
  { ledgerFive with endLedger := 10 }

end AudioBlock.Indexer
