/-
Embedding of src/services/EventProjector.ts for one projection, as a machine.

A step is the commit of an ingested row, the passing of time, one batch
transaction of `catchUp`, or one part of a rebuild transaction.  The advisory
lock keeps catch-up batches out while a rebuild is open; ingestion is never
locked out, and each batch query of a rebuild sees the rows committed so far.
A missing checkpoint row reads as zeros.  `eventsApplied` is a natural number,
which the source's `Number` is exactly below 2^53.

`applied` and `current` are ghosts: the rows applied since the last reset, and
whether nothing was ingested and no time passed since the last batch query.
-/

import AudioBlock.Foundation.Machine
import AudioBlock.Projection.OnChainEventCounts

namespace AudioBlock.Projection

open AudioBlock.Foundation

variable {Model : Type}

structure ProjectionCheckpoint where
  lastIngestSeq : Nat
  eventsApplied : Nat
deriving DecidableEq

structure Progress (Model : Type) where
  checkpoint : ProjectionCheckpoint
  model : Model
  /-- `applied < this.batchSize` held for the last batch. -/
  shortBatch : Bool
  applied : List IndexedEvent
  current : Bool

structure ProjectorState (Model : Type) where
  rows : List IndexedEvent
  now : Nat
  committed : Progress Model
  /-- The uncommitted part of an open rebuild transaction. -/
  rebuild : Option (Progress Model)

inductive ProjectorLabel
  | ingest (row : IndexedEvent)
  | elapse (milliseconds : Nat)
  | catchUpBatch (batchSize : Nat)
  | beginRebuild
  | rebuildBatch (batchSize : Nat)
  | commitRebuild
  | abortRebuild

namespace Progress

def start (model : Model) : Progress Model :=
  { checkpoint := { lastIngestSeq := 0, eventsApplied := 0 }, model, shortBatch := false
    applied := [], current := false }

def outdated (progress : Progress Model) : Progress Model := { progress with current := false }

/-- The last batch query found the end of the settled rows, and it still is the end. -/
def caughtUp (progress : Progress Model) : Bool := progress.shortBatch && progress.current

end Progress

/-- `applyNextBatch`; none where the projection rejects. -/
def applyNextBatch (projection : EventProjection Model) (settleMs now batchSize : Nat)
    (rows : List IndexedEvent) (progress : Progress Model) : Option (Progress Model) :=
  let events := nextBatch settleMs now progress.checkpoint.lastIngestSeq batchSize rows
  if events = [] then
    some { progress with shortBatch := decide (0 < batchSize), current := true }
  else
    (projection.apply events progress.model).map fun model =>
      { checkpoint :=
          { lastIngestSeq := lastSeq progress.checkpoint.lastIngestSeq events
            eventsApplied := progress.checkpoint.eventsApplied + events.length }
        model
        shortBatch := decide (events.length < batchSize)
        applied := progress.applied ++ events
        current := true }

def ProjectorState.outdated (state : ProjectorState Model) : ProjectorState Model :=
  { state with
    committed := state.committed.outdated
    rebuild := state.rebuild.map Progress.outdated }

/-- `ingestSeq` values start at one and are unique. -/
def Fresh (rows : List IndexedEvent) (row : IndexedEvent) : Prop :=
  0 < row.ingestSeq ∧ ∀ other ∈ rows, other.ingestSeq ≠ row.ingestSeq

instance (rows : List IndexedEvent) (row : IndexedEvent) : Decidable (Fresh rows row) :=
  inferInstanceAs (Decidable (_ ∧ _))

def projectorStep (projection : EventProjection Model) (settleMs : Nat)
    (state : ProjectorState Model) : ProjectorLabel → Option (ProjectorState Model)
  | .ingest row =>
      if Fresh state.rows row then some { state.outdated with rows := state.rows ++ [row] }
      else none
  | .elapse milliseconds => some { state.outdated with now := state.now + milliseconds }
  | .catchUpBatch batchSize =>
      match state.rebuild with
      | some _ => none
      | none =>
          match applyNextBatch projection settleMs state.now batchSize state.rows
              state.committed with
          | none => some state
          | some progress => some { state with committed := progress }
  | .beginRebuild =>
      match state.rebuild with
      | some _ => none
      | none =>
          some { state with rebuild := some (.start (projection.reset state.committed.model)) }
  | .rebuildBatch batchSize =>
      match state.rebuild with
      | none => none
      | some progress =>
          if progress.shortBatch then none
          else
            some { state with
              rebuild := applyNextBatch projection settleMs state.now batchSize state.rows
                progress }
  | .commitRebuild =>
      match state.rebuild with
      | none => none
      | some progress =>
          if progress.shortBatch then some { state with committed := progress, rebuild := none }
          else none
  | .abortRebuild =>
      match state.rebuild with
      | none => none
      | some _ => some { state with rebuild := none }

def projectorMachine (projection : EventProjection Model) (settleMs : Nat) (empty : Model) :
    Machine (ProjectorState Model) ProjectorLabel where
  initial state :=
    state.rows = [] ∧ state.committed = .start empty ∧ state.rebuild = none
  step := projectorStep projection settleMs

/-! ### What one batch does -/

variable (projection : EventProjection Model) (settleMs : Nat)

theorem applyNextBatch_cases (now batchSize : Nat) (rows : List IndexedEvent)
    (progress after : Progress Model)
    (applied : applyNextBatch projection settleMs now batchSize rows progress = some after) :
    (nextBatch settleMs now progress.checkpoint.lastIngestSeq batchSize rows = [] ∧
        after = { progress with shortBatch := decide (0 < batchSize), current := true }) ∨
      ∃ model,
        projection.apply (nextBatch settleMs now progress.checkpoint.lastIngestSeq batchSize rows)
          progress.model = some model ∧
        after =
          { checkpoint :=
              { lastIngestSeq := lastSeq progress.checkpoint.lastIngestSeq
                  (nextBatch settleMs now progress.checkpoint.lastIngestSeq batchSize rows)
                eventsApplied := progress.checkpoint.eventsApplied +
                  (nextBatch settleMs now progress.checkpoint.lastIngestSeq batchSize rows).length }
            model
            shortBatch := decide ((nextBatch settleMs now progress.checkpoint.lastIngestSeq
              batchSize rows).length < batchSize)
            applied := progress.applied ++
              nextBatch settleMs now progress.checkpoint.lastIngestSeq batchSize rows
            current := true } := by
  unfold applyNextBatch at applied
  by_cases nothing : nextBatch settleMs now progress.checkpoint.lastIngestSeq batchSize rows = []
  · rw [if_pos nothing] at applied
    exact Or.inl ⟨nothing, (Option.some.inj applied).symm⟩
  · rw [if_neg nothing] at applied
    obtain ⟨model, accepted, same⟩ := Option.map_eq_some_iff.mp applied
    exact Or.inr ⟨model, accepted, same.symm⟩

theorem applyNextBatch_applied (now batchSize : Nat) (rows : List IndexedEvent)
    (progress after : Progress Model)
    (applied : applyNextBatch projection settleMs now batchSize rows progress = some after) :
    after.applied = progress.applied ++
        nextBatch settleMs now progress.checkpoint.lastIngestSeq batchSize rows ∧
      after.checkpoint.lastIngestSeq = lastSeq progress.checkpoint.lastIngestSeq
        (nextBatch settleMs now progress.checkpoint.lastIngestSeq batchSize rows) ∧
      after.checkpoint.eventsApplied = progress.checkpoint.eventsApplied +
        (nextBatch settleMs now progress.checkpoint.lastIngestSeq batchSize rows).length ∧
      (after.shortBatch = true → (nextBatch settleMs now progress.checkpoint.lastIngestSeq
        batchSize rows).length < batchSize) := by
  rcases applyNextBatch_cases projection settleMs now batchSize rows progress after applied with
    ⟨nothing, rfl⟩ | ⟨model, _, rfl⟩
  · rw [nothing]
    refine ⟨(List.append_nil _).symm, rfl, rfl, fun short => ?_⟩
    exact of_decide_eq_true short
  · exact ⟨rfl, rfl, rfl, fun short => of_decide_eq_true short⟩

/-! ### What every step preserves -/

/-- The steps that are possible, with their guards. -/
inductive ProjectorMove (projection : EventProjection Model) (settleMs : Nat)
    (state : ProjectorState Model) : ProjectorLabel → ProjectorState Model → Prop
  | ingest (row : IndexedEvent) (fresh : Fresh state.rows row) :
      ProjectorMove projection settleMs state (.ingest row)
        { state.outdated with rows := state.rows ++ [row] }
  | elapse (milliseconds : Nat) :
      ProjectorMove projection settleMs state (.elapse milliseconds)
        { state.outdated with now := state.now + milliseconds }
  | rolledBack (batchSize : Nat) (unlocked : state.rebuild = none) :
      ProjectorMove projection settleMs state (.catchUpBatch batchSize) state
  | catchUpBatch (batchSize : Nat) (next : Progress Model) (unlocked : state.rebuild = none)
      (applied : applyNextBatch projection settleMs state.now batchSize state.rows
        state.committed = some next) :
      ProjectorMove projection settleMs state (.catchUpBatch batchSize)
        { state with committed := next }
  | beginRebuild (unlocked : state.rebuild = none) :
      ProjectorMove projection settleMs state .beginRebuild
        { state with rebuild := some (.start (projection.reset state.committed.model)) }
  | rebuildBatch (batchSize : Nat) (progress : Progress Model)
      (opened : state.rebuild = some progress) :
      ProjectorMove projection settleMs state (.rebuildBatch batchSize)
        { state with
          rebuild := applyNextBatch projection settleMs state.now batchSize state.rows progress }
  | commitRebuild (progress : Progress Model) (opened : state.rebuild = some progress)
      (finished : progress.shortBatch = true) :
      ProjectorMove projection settleMs state .commitRebuild
        { state with committed := progress, rebuild := none }
  | abortRebuild : ProjectorMove projection settleMs state .abortRebuild
      { state with rebuild := none }

theorem projectorStep_move (state after : ProjectorState Model) (label : ProjectorLabel)
    (moved : projectorStep projection settleMs state label = some after) :
    ProjectorMove projection settleMs state label after := by
  cases label with
  | ingest row =>
      simp only [projectorStep] at moved
      split at moved
      · cases moved
        exact .ingest row ‹_›
      · cases moved
  | elapse milliseconds =>
      cases moved
      exact .elapse milliseconds
  | catchUpBatch batchSize =>
      cases opened : state.rebuild with
      | some progress =>
          simp only [projectorStep, opened] at moved
          cases moved
      | none =>
          simp only [projectorStep, opened] at moved
          split at moved
          · cases moved
            exact .rolledBack batchSize opened
          · rename_i next applied
            cases moved
            exact opened ▸ .catchUpBatch batchSize next opened applied
  | beginRebuild =>
      cases opened : state.rebuild with
      | some progress =>
          simp only [projectorStep, opened] at moved
          cases moved
      | none =>
          simp only [projectorStep, opened] at moved
          cases moved
          exact .beginRebuild opened
  | rebuildBatch batchSize =>
      cases opened : state.rebuild with
      | none =>
          simp only [projectorStep, opened] at moved
          cases moved
      | some progress =>
          simp only [projectorStep, opened] at moved
          split at moved
          · cases moved
          · cases moved
            exact .rebuildBatch batchSize progress opened
  | commitRebuild =>
      cases opened : state.rebuild with
      | none =>
          simp only [projectorStep, opened] at moved
          cases moved
      | some progress =>
          simp only [projectorStep, opened] at moved
          split at moved
          · cases moved
            exact .commitRebuild progress opened ‹_›
          · cases moved
  | abortRebuild =>
      cases opened : state.rebuild with
      | none =>
          simp only [projectorStep, opened] at moved
          cases moved
      | some progress =>
          simp only [projectorStep, opened] at moved
          cases moved
          exact .abortRebuild

def HoldsThroughout (holds : List IndexedEvent → Nat → Progress Model → Prop)
    (state : ProjectorState Model) : Prop :=
  holds state.rows state.now state.committed ∧
    ∀ progress, state.rebuild = some progress → holds state.rows state.now progress

def WorksOn (state : ProjectorState Model) (progress : Progress Model) :
    ProjectorLabel → Prop
  | .ingest _ => progress = state.committed ∨ state.rebuild = some progress
  | .catchUpBatch _ => progress = state.committed
  | .rebuildBatch _ => state.rebuild = some progress
  | _ => False

theorem projectorStep_preserves (holds : List IndexedEvent → Nat → Progress Model → Prop)
    (state after : ProjectorState Model) (label : ProjectorLabel)
    (started : ∀ model, holds state.rows state.now (.start (projection.reset model)))
    (ingested : ∀ row progress, label = .ingest row → Fresh state.rows row →
      WorksOn state progress label → holds state.rows state.now progress →
        holds (state.rows ++ [row]) state.now progress.outdated)
    (elapsed : ∀ milliseconds progress, holds state.rows state.now progress →
      holds state.rows (state.now + milliseconds) progress.outdated)
    (batched : ∀ batchSize progress next,
      label = .catchUpBatch batchSize ∨ label = .rebuildBatch batchSize →
      WorksOn state progress label → holds state.rows state.now progress →
      applyNextBatch projection settleMs state.now batchSize state.rows progress = some next →
        holds state.rows state.now next) (earlier : HoldsThroughout holds state)
    (moved : projectorStep projection settleMs state label = some after) :
    HoldsThroughout holds after := by
  obtain ⟨committed, rebuilding⟩ := earlier
  cases projectorStep_move projection settleMs state after label moved with
  | ingest row fresh =>
      refine ⟨ingested row _ rfl fresh (Or.inl rfl) committed, ?_⟩
      intro progress opened
      obtain ⟨before, beforeOpened, rfl⟩ := Option.map_eq_some_iff.mp opened
      exact ingested row before rfl fresh (Or.inr beforeOpened) (rebuilding before beforeOpened)
  | elapse milliseconds =>
      refine ⟨elapsed milliseconds _ committed, ?_⟩
      intro progress opened
      obtain ⟨before, beforeOpened, rfl⟩ := Option.map_eq_some_iff.mp opened
      exact elapsed milliseconds before (rebuilding before beforeOpened)
  | rolledBack batchSize unlocked => exact ⟨committed, rebuilding⟩
  | catchUpBatch batchSize next unlocked applied =>
      exact ⟨batched batchSize _ next (Or.inl rfl) rfl committed applied, rebuilding⟩
  | beginRebuild unlocked =>
      refine ⟨committed, ?_⟩
      intro progress opened
      cases opened
      exact started _
  | rebuildBatch batchSize progress opened =>
      refine ⟨committed, ?_⟩
      intro next applied
      exact batched batchSize progress next (Or.inr rfl) opened (rebuilding progress opened) applied
  | commitRebuild progress opened finished =>
      exact ⟨rebuilding progress opened, fun _ impossible => by cases impossible⟩
  | abortRebuild => exact ⟨committed, fun _ impossible => by cases impossible⟩

theorem projectorStep_rows (state after : ProjectorState Model) (label : ProjectorLabel)
    (moved : projectorStep projection settleMs state label = some after) :
    after.rows = state.rows ∨
      ∃ row, label = .ingest row ∧ Fresh state.rows row ∧ after.rows = state.rows ++ [row] := by
  cases projectorStep_move projection settleMs state after label moved with
  | ingest row fresh => exact Or.inr ⟨row, rfl, fresh, rfl⟩
  | elapse | rolledBack | catchUpBatch | beginRebuild | rebuildBatch | commitRebuild
  | abortRebuild => exact Or.inl rfl

end AudioBlock.Projection
