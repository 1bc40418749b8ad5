/-
What `fetchAllInRange` keeps of a contract's log.

The next page is requested by ledger number.  When a full page ends inside a
ledger the rest of that ledger is never requested again, so the pages hold the
`pagedScan` of the log.  They hold the whole range exactly when the log changes
ledger at every multiple of the page limit.
-/

import AudioBlock.Indexer.ChainLog

namespace AudioBlock.Indexer

open AudioBlock.Foundation

variable {ScVal Value State : Type} {scValToNative : ScVal → Option Value}

def inRangeEvents (low high : Nat) (pages : List (EventsPage Value)) :
    List (NormalizedContractEvent Value) :=
  (pages.flatMap fun page => page.events).filter fun event =>
    decide (low ≤ event.ledger) && decide (event.ledger ≤ high)

/-- The events of a range that a reader with this page limit keeps. -/
def EventLog.reached (log : EventLog scValToNative) (limit low high : Nat) :
    List (ChainEvent scValToNative) :=
  pagedScan ChainEvent.ledger limit limit 0 (log.between low high)

private theorem pagedScan_no_limit (last : Nat) (items : List (ChainEvent scValToNative)) :
    pagedScan ChainEvent.ledger 0 0 last items = [] := by
  induction items generalizing last with
  | nil => rfl
  | cons item rest ih =>
      simp only [pagedScan]
      split <;> exact ih last

variable (log : EventLog scValToNative) (honoursEnd : Bool) (contractIds : List String)

private theorem reached_of_no_events (limit low high : Nat)
    (nothing : limit = 0 ∨ log.between low high = []) : log.reached limit low high = [] := by
  unfold EventLog.reached
  rcases nothing with zero | empty
  · subst zero
    exact pagedScan_no_limit 0 _
  · rw [empty]
    cases limit <;> rfl

private theorem page_in_range (low start high limit : Nat) (lowBound : low ≤ start) :
    (((log.requested honoursEnd start high).take limit).map
        (ChainEvent.delivered contractIds)).filter (fun event =>
          decide (low ≤ event.ledger) && decide (event.ledger ≤ high)) =
      ((log.between start high).take limit).map (ChainEvent.delivered contractIds) := by
  have ordered := log.requested_ordered honoursEnd start high
  rw [← log.requested_filter_below honoursEnd start high,
    ← filter_take_of_ordered ChainEvent.ledger high limit _ ordered, List.filter_map]
  congr 1
  apply List.filter_congr
  intro item member
  have above := log.mem_requested_ledger honoursEnd start high item (List.mem_of_mem_take member)
  have atLow : low ≤ item.ledger := Nat.le_trans lowBound above
  simp only [Function.comp, ChainEvent.delivered, fillContract_ledger]
  change (decide (low ≤ item.ledger) && decide (item.ledger ≤ high)) = _
  rw [decide_eq_true atLow, Bool.true_and]

theorem highestLedger_page (start : Nat) (items : List (ChainEvent scValToNative))
    (ordered : items.Pairwise fun left right => left.ledger ≤ right.ledger)
    (above : ∀ item ∈ items, start ≤ item.ledger) (final : ChainEvent scValToNative)
    (finalAt : items.getLast? = some final) :
    highestLedger ((start : Int) - 1) (items.map (ChainEvent.delivered contractIds)) =
      final.ledger := by
  obtain ⟨front, whole⟩ := List.getLast?_eq_some_iff.mp finalAt
  have finalMember : final ∈ items := by
    rw [whole]
    simp
  have finalBound : ((final.delivered contractIds).ledger : Int) ≤
      highestLedger ((start : Int) - 1) (items.map (ChainEvent.delivered contractIds)) :=
    ledger_le_highestLedger _ _ _ (List.mem_map_of_mem finalMember)
  have finalLedger : (final.delivered contractIds).ledger = final.ledger :=
    fillContract_ledger contractIds final.event
  have startBound := above final finalMember
  rw [finalLedger] at finalBound
  rcases highestLedger_attained ((start : Int) - 1)
      (items.map (ChainEvent.delivered contractIds)) with atFloor | ⟨event, member, attained⟩
  · omega
  · obtain ⟨item, itemMember, rfl⟩ := List.mem_map.mp member
    have itemLedger : (item.delivered contractIds).ledger = item.ledger :=
      fillContract_ledger contractIds item.event
    have itemBound : item.ledger ≤ final.ledger := by
      rw [whole] at itemMember ordered
      rcases List.mem_append.mp itemMember with earlier | same
      · exact (List.pairwise_append.mp ordered).2.2 item earlier final (by simp)
      · rw [List.mem_singleton.mp same]
    rw [itemLedger] at attained
    omega

private theorem reached_page_step (start high limit : Nat) (final : ChainEvent scValToNative)
    (finalAt : ((log.requested honoursEnd start high).take limit).getLast? = some final) :
    log.reached limit start high =
      (log.between start high).take limit ++ log.reached limit (final.ledger + 1) high := by
  have ordered := log.requested_ordered honoursEnd start high
  obtain ⟨front, whole⟩ := List.getLast?_eq_some_iff.mp finalAt
  have finalMember : final ∈ (log.requested honoursEnd start high).take limit := by
    rw [whole]
    simp
  have startBound := log.mem_requested_ledger honoursEnd start high final
    (List.mem_of_mem_take finalMember)
  have positive : 0 < limit := by
    rcases Nat.eq_zero_or_pos limit with zero | positive
    · subst zero
      cases finalMember
    · exact positive
  have inRange : (log.between start high).take limit =
      ((log.requested honoursEnd start high).take limit).filter
        (fun item => decide (item.ledger ≤ high)) := by
    rw [← log.requested_filter_below honoursEnd start high,
      ← filter_take_of_ordered ChainEvent.ledger high limit _ ordered]
  by_cases inside : final.ledger ≤ high
  · have allInside : ((log.requested honoursEnd start high).take limit).filter
        (fun item => decide (item.ledger ≤ high)) =
          (log.requested honoursEnd start high).take limit := by
      apply List.filter_eq_self.mpr
      intro item member
      have prefixOrdered := ordered.sublist (List.take_sublist limit _)
      rw [whole] at member prefixOrdered
      rcases List.mem_append.mp member with earlier | same
      · have below := (List.pairwise_append.mp prefixOrdered).2.2 item earlier final (by simp)
        exact decide_eq_true (Nat.le_trans below inside)
      · rw [List.mem_singleton.mp same]
        exact decide_eq_true inside
    have finalHere : ((log.between start high).take limit).getLast? = some final := by
      rw [inRange, allInside]
      exact finalAt
    unfold EventLog.reached
    rw [pagedScan_page_step ChainEvent.ledger limit 0 0 final.ledger positive _
        (log.between_ordered start high) final finalHere rfl,
      log.between_filter_above start high final.ledger (Nat.le_succ_of_le startBound)]
  · have shorter : ((log.between start high).take limit).length < limit := by
      have notAll : ((log.between start high).take limit).length <
          ((log.requested honoursEnd start high).take limit).length := by
        rw [inRange]
        exact List.length_filter_lt_length_iff_exists.mpr
          ⟨final, finalMember, by simpa using inside⟩
      have bound := List.length_take_le limit (log.requested honoursEnd start high)
      omega
    have short : (log.between start high).length ≤ limit := by
      rw [List.length_take] at shorter
      omega
    have rest : log.reached limit (final.ledger + 1) high = [] :=
      reached_of_no_events log limit _ high
        (Or.inr (log.between_empty_range _ high (by omega)))
    rw [rest, List.append_nil, List.take_of_length_le short]
    exact pagedScan_short_page ChainEvent.ledger limit limit 0 _ short

theorem inRangeEvents_snoc (low high : Nat) (pages : List (EventsPage Value))
    (page : EventsPage Value) :
    inRangeEvents low high (pages ++ [page]) =
      inRangeEvents low high pages ++ page.events.filter (fun event =>
        decide (low ≤ event.ledger) && decide (event.ledger ≤ high)) := by
  simp [inRangeEvents]

private theorem page_outcome (up : Nat → Bool) (call : Nat) (contractIds : List String)
    (low start high limit : Nat) (lowBound : low ≤ start) (pages : List (EventsPage Value))
    (page : EventsPage Value)
    (answered : log.rangeReader honoursEnd up call
      { contractIds, startLedger := some start, endLedger := some high,
        limit := some limit } = some page) (next : Nat)
    (nextEq : next = if (start : Int) ≤ highestLedger (start - 1) page.events
      then (highestLedger (start - 1) page.events).toNat + 1 else start + limit) :
    start ≤ next ∧
      (highestLedger (start - 1) page.events < start → log.reached limit next high = []) ∧
      inRangeEvents low high pages ++
          (log.reached limit start high).map (ChainEvent.delivered contractIds) =
        inRangeEvents low high (pages ++ [page]) ++
          (log.reached limit next high).map (ChainEvent.delivered contractIds) := by
  have events := log.rangeReader_events honoursEnd up call contractIds start high limit page answered
  have kept := page_in_range log honoursEnd contractIds low start high limit lowBound
  rw [← events] at kept
  rw [inRangeEvents_snoc, kept, List.append_assoc]
  cases finalAt : ((log.requested honoursEnd start high).take limit).getLast? with
  | none =>
      have noPage := List.getLast?_eq_none_iff.mp finalAt
      have emptyPage : page.events = [] := by
        rw [events, noPage]
        rfl
      have nothing : ∀ later, start ≤ later →
          limit = 0 ∨ log.between later high = [] := by
        intro later order
        rcases List.take_eq_nil_iff.mp noPage with zero | empty
        · exact Or.inl zero
        · right
          apply log.between_nil_mono start later high order
          rw [← log.requested_filter_below honoursEnd start high, empty]
          rfl
      have stale : ¬ (start : Int) ≤ highestLedger (start - 1) page.events := by
        rw [emptyPage]
        simp only [highestLedger, List.foldl_nil]
        omega
      rw [if_neg stale] at nextEq
      have order : start ≤ next := by omega
      have nothingNext := reached_of_no_events log limit next high (nothing next order)
      refine ⟨order, fun _ => nothingNext, ?_⟩
      rw [reached_of_no_events log limit start high (nothing start (Nat.le_refl _)), nothingNext]
      have noneKept : (log.between start high).take limit = [] := by
        rcases nothing start (Nat.le_refl _) with zero | empty
        · rw [zero, List.take_zero]
        · rw [empty, List.take_nil]
      rw [noneKept]
      rfl
  | some final =>
      have ordered := (log.requested_ordered honoursEnd start high).sublist
        (List.take_sublist limit _)
      have highestEq : highestLedger (start - 1) page.events = final.ledger := by
        rw [events]
        exact highestLedger_page contractIds start _ ordered
          (fun item member => log.mem_requested_ledger honoursEnd start high item
            (List.mem_of_mem_take member)) final finalAt
      obtain ⟨front, whole⟩ := List.getLast?_eq_some_iff.mp finalAt
      have finalMember : final ∈ (log.requested honoursEnd start high).take limit := by
        rw [whole]
        simp
      have startBound := log.mem_requested_ledger honoursEnd start high final
        (List.mem_of_mem_take finalMember)
      rw [highestEq, if_pos (by omega), Int.toNat_natCast] at nextEq
      subst next
      refine ⟨Nat.le_succ_of_le startBound, fun stale => by omega, ?_⟩
      rw [reached_page_step log honoursEnd start high limit final finalAt, List.map_append]

theorem fetchAllInRangeLoop_events (up : Nat → Bool) (contractIds : List String)
    (low endLedger limit : Nat) (onPage : EventsPage Value → Nat → State → Option State)
    (fromLedger stalePages : Nat) (lowBound : low ≤ fromLedger) (pages : List (EventsPage Value))
    (state : State) (result : List (EventsPage Value)) (final : State)
    (returned : fetchAllInRangeLoop (log.rangeReader honoursEnd up) contractIds endLedger limit
      onPage fromLedger stalePages pages state = some (result, final)) :
    inRangeEvents low endLedger result =
      inRangeEvents low endLedger pages ++
        (log.reached limit fromLedger endLedger).map (ChainEvent.delivered contractIds) := by
  have pastEnd : ∀ next, endLedger < next → log.reached limit next endLedger = [] :=
    fun next past => reached_of_no_events log limit next endLedger
      (Or.inr (log.between_empty_range next endLedger past))
  fun_induction fetchAllInRangeLoop (log.rangeReader honoursEnd up) contractIds endLedger limit
    onPage fromLedger stalePages pages state with
  | case1 fromLedger stalePages pages state past =>
      cases returned
      rw [pastEnd fromLedger past, List.map_nil, List.append_nil]
  | case2 => cases returned
  | case3 => cases returned
  | case4 fromLedger stalePages pages state _ page answered _ nextFrom _ _ stale =>
      cases returned
      obtain ⟨_, exhausted, kept⟩ := page_outcome log honoursEnd up pages.length contractIds low
        fromLedger endLedger limit lowBound pages page answered nextFrom rfl
      rw [kept, exhausted stale, List.map_nil, List.append_nil]
  | case5 fromLedger stalePages pages state _ page answered _ nextFrom _ _ _ _ past
  | case7 fromLedger stalePages pages state _ page answered _ nextFrom _ _ _ past =>
      cases returned
      obtain ⟨_, _, kept⟩ := page_outcome log honoursEnd up pages.length contractIds low
        fromLedger endLedger limit lowBound pages page answered nextFrom rfl
      rw [kept, pastEnd nextFrom past, List.map_nil, List.append_nil]
  | case6 fromLedger stalePages pages state _ page answered _ nextFrom _ _ _ _ _ ih
  | case8 fromLedger stalePages pages state _ page answered _ nextFrom _ _ _ _ ih =>
      obtain ⟨order, _, kept⟩ := page_outcome log honoursEnd up pages.length contractIds low
        fromLedger endLedger limit lowBound pages page answered nextFrom rfl
      rw [kept]
      exact ih (Nat.le_trans lowBound order) returned

private theorem fetchAllInRangeLoop_returns
    (reader : Nat → FetchEventsOptions → Option (EventsPage Value))
    (contractIds : List String) (endLedger limit : Nat)
    (onPage : EventsPage Value → Nat → State → Option State)
    (answers : ∀ call opts, reader call opts ≠ none)
    (accepts : ∀ page next state, onPage page next state ≠ none)
    (fromLedger stalePages : Nat) (pages : List (EventsPage Value)) (state : State) :
    ∃ result final, fetchAllInRangeLoop reader contractIds endLedger limit onPage
      fromLedger stalePages pages state = some (result, final) := by
  fun_induction fetchAllInRangeLoop reader contractIds endLedger limit onPage
    fromLedger stalePages pages state with
  | case1 | case4 | case5 | case7 => exact ⟨_, _, rfl⟩
  | case2 _ _ _ _ _ rejected => exact absurd rejected (answers _ _)
  | case3 _ _ _ _ _ _ _ _ _ rejected => exact absurd rejected (accepts _ _ _)
  | case6 _ _ _ _ _ _ _ _ _ _ _ _ _ _ ih | case8 _ _ _ _ _ _ _ _ _ _ _ _ _ ih => exact ih

def ignorePage (_page : EventsPage Value) (_nextStart : Nat) (_state : Unit) : Option Unit :=
  some ()

theorem fetchAllInRange_returns (startLedger endLedger limit : Nat) :
    ∃ pages, fetchAllInRange (log.rangeReader honoursEnd fun _ => true) contractIds
      startLedger endLedger limit ignorePage () = some (pages, ()) := by
  obtain ⟨pages, _, returned⟩ := fetchAllInRangeLoop_returns
    (log.rangeReader honoursEnd fun _ => true) contractIds endLedger limit ignorePage
    (fun _ _ => by simp [EventLog.rangeReader, fetchEvents])
    (fun _ _ _ => by simp [ignorePage]) startLedger 0 [] ()
  exact ⟨pages, returned⟩

end AudioBlock.Indexer
