/-
The calls that `drainPages` makes, page by page: which cursors it asks for, and which pages it
hands on.  Each round adds a cursor to those it has seen, so no server can keep it going with
cursors of a finite set.
-/
import AudioBlock.Indexer.Worker
import Mathlib.Data.Finset.Card

namespace AudioBlock.Indexer

variable {ScVal Value : Type}

inductive DrainCall (Value : Type)
  | fetchEvents (cursor : String) (answer : Option (EventsPage Value))
  | persistProgress (page : EventsPage Value)
deriving DecidableEq, Repr

namespace DrainCall

def requested : DrainCall Value → Option String
  | .fetchEvents cursor _ => some cursor
  | .persistProgress _ => none

def answered : DrainCall Value → Option (EventsPage Value)
  | .fetchEvents _ answer => answer
  | .persistProgress _ => none

def handed : DrainCall Value → Option (EventsPage Value)
  | .fetchEvents _ _ => none
  | .persistProgress page => some page

end DrainCall

namespace IndexerWorker

variable (worker : IndexerWorker ScVal Value) (contract : IndexerContract Value)

/-- `drainPages`, with its calls in order. -/
def tracedDrain (prevLedger : Nat) :
    List (PageAnswer ScVal) → List String → Option String →
    BoundedEventQueue (InsertIndexedEventDTO Value) → PageTotals → PollState Value →
    List (DrainCall Value) × PollState Value × PollEnd PageTotals
  | _, _, none, queue, totals, state => ([], worker.finishDrain queue totals state)
  | [], _, some _, _, _, state => ([], state, .cut)
  | answer :: rest, seenCursors, some pageCursor, queue, totals, state =>
      if answer.stopRequested then
        ([], worker.finishDrain queue totals { state with stopped := true })
      else if pageCursor ∈ seenCursors then ([], worker.finishDrain queue totals state)
      else
        let (tally, queue) :=
          if queue.isFull then worker.flushQueue (tallyOf state) queue
          else (tallyOf state, queue)
        let state := withTally state tally
        match fetchEvents worker.scValToNative answer.getEvents
            { contractIds := [contract.contractId], cursor := some pageCursor,
              limit := some worker.pageSize } with
        | none => ([.fetchEvents pageCursor none], state, .rejected)
        | some page =>
            match worker.persistProgress contract prevLedger page answer.progressSaved queue
                (seePage page state) with
            | (state, _, none) =>
                ([.fetchEvents pageCursor (some page), .persistProgress page], state, .rejected)
            | (state, queue, some outcome) =>
                let later := tracedDrain prevLedger rest (pageCursor :: seenCursors)
                  (nonEmpty page.cursor) queue
                  { fetched := totals.fetched + page.events.length
                    processed := totals.processed + tally.processed + outcome.processed
                    skipped := totals.skipped + outcome.skipped
                    errors := totals.errors + tally.errors + outcome.errors
                    cursor := (nonEmpty page.cursor).or totals.cursor } state
                (.fetchEvents pageCursor (some page) :: .persistProgress page :: later.1, later.2)

theorem tracedDrain_end (prevLedger : Nat) (pages : List (PageAnswer ScVal)) :
    ∀ seenCursors pageCursor queue totals (state : PollState Value),
      (worker.tracedDrain contract prevLedger pages seenCursors pageCursor queue totals state).2 =
        worker.drainPages contract prevLedger pages seenCursors pageCursor queue totals state := by
  induction pages with
  | nil =>
      intro seenCursors pageCursor queue totals state
      cases pageCursor with
      | none => rfl
      | some cursor => rfl
  | cons answer rest ih =>
      intro seenCursors pageCursor queue totals state
      cases pageCursor with
      | none => rfl
      | some cursor =>
          simp only [tracedDrain, drainPages]
          generalize (if queue.isFull = true then worker.flushQueue (tallyOf state) queue
            else (tallyOf state, queue)) = drained
          generalize fetchEvents worker.scValToNative answer.getEvents _ = answered
          by_cases stop : answer.stopRequested = true
          · rw [if_pos stop, if_pos stop]
          · rw [if_neg stop, if_neg stop]
            by_cases seen : cursor ∈ seenCursors
            · rw [if_pos seen, if_pos seen]
            · rw [if_neg seen, if_neg seen]
              cases answered with
              | none => rfl
              | some page =>
                  dsimp only
                  generalize worker.persistProgress contract prevLedger page answer.progressSaved
                    drained.2 (seePage page (withTally state drained.1)) = persisted
                  obtain ⟨after, left, outcome⟩ := persisted
                  cases outcome with
                  | none => rfl
                  | some outcome => exact ih _ _ _ _ _

/-! ### Rounds -/

inductive DrainRun : List (PageAnswer ScVal) → List String → Option String →
    List (DrainCall Value) → PollEnd PageTotals → Prop
  | finished {pages seenCursors pageCursor} (totals : PageTotals) :
      DrainRun pages seenCursors pageCursor [] (.returned totals)
  | cut {seenCursors cursor} : DrainRun [] seenCursors (some cursor) [] .cut
  | unanswered {answer rest seenCursors cursor} (fresh : cursor ∉ seenCursors) :
      DrainRun (answer :: rest) seenCursors (some cursor) [.fetchEvents cursor none] .rejected
  | unsaved {answer rest seenCursors cursor} (page : EventsPage Value)
      (fresh : cursor ∉ seenCursors) :
      DrainRun (answer :: rest) seenCursors (some cursor)
        [.fetchEvents cursor (some page), .persistProgress page] .rejected
  | round {answer rest seenCursors cursor opts page calls ending} (fresh : cursor ∉ seenCursors)
      (answered : fetchEvents worker.scValToNative answer.getEvents opts = some page)
      (later : DrainRun rest (cursor :: seenCursors) (nonEmpty page.cursor) calls ending) :
      DrainRun (answer :: rest) seenCursors (some cursor)
        (.fetchEvents cursor (some page) :: .persistProgress page :: calls) ending

theorem tracedDrain_run (prevLedger : Nat) (pages : List (PageAnswer ScVal)) :
    ∀ seenCursors pageCursor queue totals (state : PollState Value),
      worker.DrainRun pages seenCursors pageCursor
        (worker.tracedDrain contract prevLedger pages seenCursors pageCursor queue totals state).1
        (worker.tracedDrain contract prevLedger pages seenCursors pageCursor queue totals
          state).2.2 := by
  induction pages with
  | nil =>
      intro seenCursors pageCursor queue totals state
      cases pageCursor with
      | none => exact .finished _
      | some cursor => exact .cut
  | cons answer rest ih =>
      intro seenCursors pageCursor queue totals state
      cases pageCursor with
      | none => exact .finished _
      | some cursor =>
          simp only [tracedDrain]
          split
          · exact .finished _
          · split
            · exact .finished _
            · rename_i fresh
              split
              · exact .unanswered fresh
              · rename_i answered
                split
                · exact .unsaved _ fresh
                · exact .round fresh answered (ih _ _ _ _ _)

namespace DrainRun

variable {worker}

theorem once {pages seenCursors pageCursor} {calls : List (DrainCall Value)} {ending}
    (run : worker.DrainRun pages seenCursors pageCursor calls ending) :
    (calls.filterMap DrainCall.requested).Nodup ∧
      ∀ cursor ∈ calls.filterMap DrainCall.requested, cursor ∉ seenCursors := by
  induction run with
  | finished totals => exact ⟨List.nodup_nil, fun _cursor member => (List.not_mem_nil member).elim⟩
  | cut => exact ⟨List.nodup_nil, fun _cursor member => (List.not_mem_nil member).elim⟩
  | unanswered fresh =>
      refine ⟨List.nodup_singleton _, ?_⟩
      intro cursor member
      rw [List.mem_singleton.mp member]
      exact fresh
  | unsaved page fresh =>
      refine ⟨List.nodup_singleton _, ?_⟩
      intro cursor member
      rw [List.mem_singleton.mp member]
      exact fresh
  | round fresh answered later ih =>
      obtain ⟨distinct, unseen⟩ := ih
      constructor
      · refine List.nodup_cons.mpr ⟨?_, distinct⟩
        intro again
        exact unseen _ again List.mem_cons_self
      · intro cursor member
        cases List.mem_cons.mp member with
        | inl here =>
            rw [here]
            exact fresh
        | inr there =>
            intro before
            exact unseen cursor there (List.mem_cons_of_mem _ before)

theorem handsEachPage {pages seenCursors pageCursor} {calls : List (DrainCall Value)} {ending}
    (run : worker.DrainRun pages seenCursors pageCursor calls ending) :
    calls.filterMap DrainCall.handed = calls.filterMap DrainCall.answered := by
  induction run with
  | finished totals => rfl
  | cut => rfl
  | unanswered fresh => rfl
  | unsaved page fresh => rfl
  | round fresh answered later ih => exact congrArg (List.cons _) ih

end DrainRun

def CursorsWithin (cursors : Finset String) (pages : List (PageAnswer ScVal)) : Prop :=
  ∀ answer ∈ pages, ∀ request response, answer.getEvents request = some response →
    ∀ cursor ∈ response.cursor, cursor ∈ cursors

theorem nonEmpty_within {cursors : Finset String} {answer : PageAnswer ScVal}
    {rest : List (PageAnswer ScVal)} {opts : FetchEventsOptions} {page : EventsPage Value}
    (within : CursorsWithin cursors (answer :: rest))
    (answered : fetchEvents worker.scValToNative answer.getEvents opts = some page) :
    ∀ cursor ∈ nonEmpty page.cursor, cursor ∈ cursors := by
  intro cursor next
  unfold fetchEvents at answered
  cases sent : answer.getEvents (getEventsRequest opts) with
  | none =>
      rw [sent] at answered
      cases answered
  | some response =>
      rw [sent] at answered
      have carried := congrArg EventsPage.cursor (Option.some.inj answered)
      change response.cursor.getD "" = page.cursor at carried
      unfold nonEmpty at next
      by_cases blank : page.cursor = ""
      · rw [if_pos blank] at next
        cases next
      · rw [if_neg blank] at next
        cases next
        cases shown : response.cursor with
        | none =>
            rw [shown] at carried
            exact absurd carried.symm blank
        | some text =>
            rw [shown] at carried
            exact carried ▸ within answer List.mem_cons_self _ _ sent text shown

theorem DrainRun.ends {cursors : Finset String} {pages seenCursors pageCursor}
    {calls : List (DrainCall Value)} {ending}
    (run : worker.DrainRun pages seenCursors pageCursor calls ending)
    (within : CursorsWithin cursors pages) (known : ∀ cursor ∈ pageCursor, cursor ∈ cursors)
    (distinct : seenCursors.Nodup) (seen : ∀ cursor ∈ seenCursors, cursor ∈ cursors)
    (long : cursors.card < pages.length + seenCursors.length) : ending ≠ .cut := by
  induction run with
  | finished totals =>
      intro impossible
      cases impossible
  | cut =>
      rename_i seenCursors cursor
      intro _same
      have subset : seenCursors.toFinset ⊆ cursors :=
        fun cursor member => seen cursor (List.mem_toFinset.mp member)
      have few := Finset.card_le_card subset
      rw [List.toFinset_card_of_nodup distinct] at few
      rw [List.length_nil] at long
      omega
  | unanswered fresh =>
      intro impossible
      cases impossible
  | unsaved page fresh =>
      intro impossible
      cases impossible
  | round fresh answered later ih =>
      apply ih
      · exact fun answer member => within answer (List.mem_cons_of_mem _ member)
      · exact worker.nonEmpty_within within answered
      · exact List.nodup_cons.mpr ⟨fresh, distinct⟩
      · intro cursor member
        cases List.mem_cons.mp member with
        | inl here => exact here ▸ known _ rfl
        | inr there => exact seen cursor there
      · rw [List.length_cons] at long ⊢
        omega

/-- Whatever a server answers, a drain asks for no cursor twice and hands on each page once; with
more answers than there are cursors it ends. -/
theorem drainPages_terminates (prevLedger : Nat) (startCursor : Option String)
    (pages : List (PageAnswer ScVal)) (state : PollState Value) :
    ∃ calls, worker.tracedDrain contract prevLedger pages [] startCursor worker.freshQueue noTotals
        state = (calls, worker.drainPages contract prevLedger pages [] startCursor
          worker.freshQueue noTotals state) ∧
      (calls.filterMap DrainCall.requested).Nodup ∧
      calls.filterMap DrainCall.handed = calls.filterMap DrainCall.answered ∧
      ∀ cursors : Finset String, (∀ cursor ∈ startCursor, cursor ∈ cursors) →
        CursorsWithin cursors pages → cursors.card < pages.length →
          (worker.drainPages contract prevLedger pages [] startCursor worker.freshQueue noTotals
            state).2 ≠ .cut := by
  have ended := worker.tracedDrain_end contract prevLedger pages [] startCursor worker.freshQueue
    noTotals state
  have run := worker.tracedDrain_run contract prevLedger pages [] startCursor worker.freshQueue
    noTotals state
  refine ⟨_, Prod.ext rfl ended, run.once.1, run.handsEachPage, ?_⟩
  intro cursors known within long
  rw [← ended]
  exact run.ends worker within known List.nodup_nil
    (fun _cursor member => (List.not_mem_nil member).elim) long

end IndexerWorker

end AudioBlock.Indexer
