/-
The incremental read model is the rebuilt one.

Rows are ingested in the order of their sequence numbers, or become visible
late but before they settle, and `indexedAt` does not fall as the sequence number
rises.  Then no batch overtakes a row, the table holds the counts of exactly the
rows at or below the checkpoint, and it is the table that a reset and one replay
of these rows would give, however the rows were batched and rebuilt.
-/

import AudioBlock.Projection.SettleSafety

namespace AudioBlock.Projection

open AudioBlock.Foundation

/-- `indexedAt` is nondecreasing in `ingestSeq`, and a row becomes visible as the
last one or before it settles. -/
def InSequence (settleMs : Nat) (state : ProjectorState CountTable) : ProjectorLabel → Prop
  | .ingest row =>
      (∀ other ∈ state.rows,
        (other.ingestSeq < row.ingestSeq → other.indexedAt ≤ row.indexedAt) ∧
          (row.ingestSeq < other.ingestSeq → row.indexedAt ≤ other.indexedAt)) ∧
        ((∀ other ∈ state.rows, other.ingestSeq < row.ingestSeq) ∨
          ¬ row.Settled settleMs state.now)
  | _ => True

instance (settleMs : Nat) (state : ProjectorState CountTable) (label : ProjectorLabel) :
    Decidable (InSequence settleMs state label) :=
  match label with
  | .ingest _ => inferInstanceAs (Decidable (_ ∧ _))
  | .elapse _ | .catchUpBatch _ | .beginRebuild | .rebuildBatch _ | .commitRebuild
  | .abortRebuild => isTrue trivial

def TimeOrdered (rows : List IndexedEvent) : Prop :=
  ∀ left ∈ rows, ∀ right ∈ rows, left.ingestSeq < right.ingestSeq →
    left.indexedAt ≤ right.indexedAt

def AtSettledRow (settleMs : Nat) (rows : List IndexedEvent) (now : Nat)
    (progress : Progress CountTable) : Prop :=
  progress.checkpoint.lastIngestSeq = 0 ∨
    ∃ row ∈ rows, progress.checkpoint.lastIngestSeq = row.ingestSeq ∧ row.Settled settleMs now

def CountsApplied (_rows : List IndexedEvent) (_now : Nat) (progress : Progress CountTable) :
    Prop :=
  progress.model = countsOf progress.applied

structure InTime (settleMs : Nat) (state : ProjectorState CountTable) : Prop where
  inOrder : InOrder settleMs state
  timeOrdered : TimeOrdered state.rows
  atSettledRow : HoldsThroughout (AtSettledRow settleMs) state
  countsApplied : HoldsThroughout CountsApplied state

variable (settleMs : Nat) (state after : ProjectorState CountTable) (label : ProjectorLabel)

private theorem ingest_beyond (row : IndexedEvent) (fresh : Fresh state.rows row)
    (permitted : InSequence settleMs state (.ingest row)) (progress : Progress CountTable)
    (settled : AtSettledRow settleMs state.rows state.now progress) :
    progress.checkpoint.lastIngestSeq < row.ingestSeq := by
  obtain ⟨times, visible⟩ := permitted
  rcases settled with zero | ⟨last, member, same, lastSettled⟩
  · rw [zero]
    exact fresh.1
  · rw [same]
    rcases visible with above | unsettled
    · exact above last member
    · have different := fresh.2 last member
      have order := (times last member).2
      unfold IndexedEvent.Settled at lastSettled unsettled
      by_contra lower
      have earlier := order (by omega)
      omega

private theorem overtakes_nothing (batchSize : Nat) (state : ProjectorState CountTable)
    (progress : Progress CountTable) (timeOrdered : TimeOrdered state.rows) :
    ¬ Overtakes settleMs batchSize state progress := by
  rintro ⟨row, member, _, unsettled, taken, takenMember, lower⟩
  obtain ⟨present, _, settled⟩ := mem_nextBatch settleMs state.now _ batchSize state.rows taken
    takenMember
  have order := timeOrdered row member taken present lower
  unfold IndexedEvent.Settled at settled unsettled
  omega

theorem settlesInOrder_of_inSequence (inTime : InTime settleMs state)
    (permitted : InSequence settleMs state label)
    (moved : projectorStep onChainEventCountProjection settleMs state label = some after) :
    SettlesInOrder settleMs state label := by
  cases projectorStep_move onChainEventCountProjection settleMs state after label moved with
  | ingest row fresh =>
      refine ⟨ingest_beyond settleMs state row fresh permitted _ inTime.atSettledRow.1, ?_⟩
      intro progress opened
      exact ingest_beyond settleMs state row fresh permitted progress
        (inTime.atSettledRow.2 progress opened)
  | rolledBack batchSize => exact overtakes_nothing settleMs batchSize state _ inTime.timeOrdered
  | catchUpBatch batchSize => exact overtakes_nothing settleMs batchSize state _ inTime.timeOrdered
  | rebuildBatch batchSize =>
      exact fun progress _ => overtakes_nothing settleMs batchSize state progress inTime.timeOrdered
  | elapse | beginRebuild | commitRebuild | abortRebuild => trivial

private theorem timeOrdered_step (earlier : TimeOrdered state.rows)
    (permitted : InSequence settleMs state label)
    (moved : projectorStep onChainEventCountProjection settleMs state label = some after) :
    TimeOrdered after.rows := by
  rcases projectorStep_rows onChainEventCountProjection settleMs state after label moved with
    same | ⟨row, rfl, _, rows⟩
  · rw [same]
    exact earlier
  · rw [rows]
    intro left leftMember right rightMember lower
    rcases List.mem_append.mp leftMember with leftOld | leftNew
    · rcases List.mem_append.mp rightMember with rightOld | rightNew
      · exact earlier left leftOld right rightOld lower
      · rw [List.mem_singleton.mp rightNew] at lower ⊢
        exact (permitted.1 left leftOld).1 lower
    · rw [List.mem_singleton.mp leftNew] at lower ⊢
      rcases List.mem_append.mp rightMember with rightOld | rightNew
      · exact (permitted.1 right rightOld).2 lower
      · rw [List.mem_singleton.mp rightNew] at lower
        exact absurd lower (Nat.lt_irrefl _)

private theorem atSettledRow_step (earlier : HoldsThroughout (AtSettledRow settleMs) state)
    (moved : projectorStep onChainEventCountProjection settleMs state label = some after) :
    HoldsThroughout (AtSettledRow settleMs) after := by
  apply projectorStep_preserves onChainEventCountProjection settleMs (AtSettledRow settleMs) state
    after label _ _ _ _ earlier moved
  · exact fun _ => Or.inl rfl
  · rintro row progress _ _ _ (zero | ⟨last, member, same, settled⟩)
    · exact Or.inl zero
    · exact Or.inr ⟨last, List.mem_append_left _ member, same, settled⟩
  · rintro milliseconds progress (zero | ⟨last, member, same, settled⟩)
    · exact Or.inl zero
    · refine Or.inr ⟨last, member, same, ?_⟩
      unfold IndexedEvent.Settled at settled ⊢
      omega
  · intro batchSize progress next _ _ settled applied
    obtain ⟨_, seqEq, _, _⟩ := applyNextBatch_applied onChainEventCountProjection settleMs state.now
      batchSize state.rows progress next applied
    unfold AtSettledRow
    rw [seqEq]
    rcases lastSeq_attained progress.checkpoint.lastIngestSeq
        (nextBatch settleMs state.now progress.checkpoint.lastIngestSeq batchSize state.rows) with
      ⟨_, same⟩ | ⟨taken, member, same⟩
    · rw [same]
      exact settled
    · obtain ⟨present, _, takenSettled⟩ := mem_nextBatch settleMs state.now _ batchSize state.rows
        taken member
      exact Or.inr ⟨taken, present, same, takenSettled⟩

private theorem countsApplied_step (earlier : HoldsThroughout CountsApplied state)
    (moved : projectorStep onChainEventCountProjection settleMs state label = some after) :
    HoldsThroughout CountsApplied after := by
  apply projectorStep_preserves onChainEventCountProjection settleMs CountsApplied state after
    label _ _ _ _ earlier moved
  · exact fun _ => rfl
  · exact fun _ _ _ _ _ counted => counted
  · exact fun _ _ counted => counted
  · intro batchSize progress next _ _ counted applied
    rcases applyNextBatch_cases onChainEventCountProjection settleMs state.now batchSize state.rows
        progress next applied with ⟨_, rfl⟩ | ⟨model, accepted, rfl⟩
    · exact counted
    · unfold CountsApplied at counted ⊢
      rw [counted] at accepted
      exact (Option.some.inj ((applyCounts_countsOf _ _).symm.trans accepted)).symm

theorem projectorMachine_inTime
    (reached : (projectorMachine onChainEventCountProjection settleMs fun _ => none).Reachable
      (InSequence settleMs) state) : InTime settleMs state := by
  apply reached.invariant (InTime settleMs)
  · rintro state ⟨rows, committed, rebuild⟩
    refine ⟨inOrder_initial settleMs _ state ⟨rows, committed, rebuild⟩, ?_, ?_, ?_⟩
    · rw [rows]
      intro left absent
      cases absent
    · constructor
      · rw [committed]
        exact Or.inl rfl
      · rw [rebuild]
        exact fun _ absent => by cases absent
    · constructor
      · rw [committed]
        rfl
      · rw [rebuild]
        exact fun _ absent => by cases absent
  · intro before label after earlier permitted moved
    have inOrder := settlesInOrder_of_inSequence settleMs before after label earlier permitted moved
    exact
      ⟨inOrder_step _ settleMs before after label earlier.inOrder inOrder moved,
        timeOrdered_step settleMs before after label earlier.timeOrdered permitted moved,
        atSettledRow_step settleMs before after label earlier.atSettledRow moved,
        countsApplied_step settleMs before after label earlier.countsApplied moved⟩

def passedRows (state : ProjectorState CountTable) : List IndexedEvent :=
  state.rows.filter fun row =>
    decide (row.ingestSeq ≤ state.committed.checkpoint.lastIngestSeq)

theorem applied_perm_passedRows (inOrder : InOrder settleMs state) :
    state.committed.applied.Perm (passedRows state) := by
  have applied := inOrder.applied.1
  apply (List.perm_ext_iff_of_nodup applied.distinct (inOrder.distinct.nodup.filter _)).mpr
  intro row
  rw [List.mem_filter, decide_eq_true_eq]
  exact ⟨applied.sound row, fun both => applied.complete row both.1 both.2⟩

theorem replay_eq_countsOf (rows : List IndexedEvent) (model : CountTable) :
    onChainEventCountProjection.apply rows (onChainEventCountProjection.reset model) =
      some (countsOf rows) :=
  applyCounts_countsOf [] rows

/-- The read model holds the counts of exactly the rows at or below the
checkpoint and `eventsApplied` their number; it is what a reset and a replay of
these rows give, and when catch-up or rebuild ends over settled rows it is what a
replay of all rows gives. -/
theorem projectorMachine_equals_replay (settleMs : Nat) (state : ProjectorState CountTable)
    (reached : (projectorMachine onChainEventCountProjection settleMs fun _ => none).Reachable
      (InSequence settleMs) state) :
    state.committed.model = countsOf (passedRows state) ∧
      state.committed.checkpoint.eventsApplied = (passedRows state).length ∧
      onChainEventCountProjection.apply (passedRows state)
          (onChainEventCountProjection.reset state.committed.model) =
        some state.committed.model ∧
      (state.committed.caughtUp = true →
        (∀ row ∈ state.rows, row.Settled settleMs state.now) →
          onChainEventCountProjection.apply state.rows
              (onChainEventCountProjection.reset state.committed.model) =
            some state.committed.model) := by
  have inTime := projectorMachine_inTime settleMs state reached
  have same := applied_perm_passedRows settleMs state inTime.inOrder
  have counted : state.committed.model = countsOf (passedRows state) := by
    rw [← countsOf_perm same]
    exact inTime.countsApplied.1
  refine ⟨counted, ?_, ?_, ?_⟩
  · rw [inTime.inOrder.applied.1.counted, same.length_eq]
  · rw [replay_eq_countsOf, ← counted]
  · intro caughtUp settled
    have all : passedRows state = state.rows := by
      apply List.filter_eq_self.mpr
      intro row member
      exact decide_eq_true
        (inTime.inOrder.applied.1.reachesEnd caughtUp row member (settled row member))
    rw [replay_eq_countsOf, counted, all]

def rebuiltRun : List ProjectorLabel :=
  [.ingest (rawRow 1 0), .ingest (rawRow 2 0), .elapse 5000, .catchUpBatch 1, .beginRebuild,
    .rebuildBatch 1, .rebuildBatch 1, .rebuildBatch 1, .commitRebuild]

theorem countsMachine_rebuild_equals_replay :
    ∃ state, countsMachine.run emptyProjector rebuiltRun = some state ∧
      state.committed.model = countsOf (passedRows state) ∧
      state.committed.checkpoint.eventsApplied = (passedRows state).length ∧
      onChainEventCountProjection.apply (passedRows state)
          (onChainEventCountProjection.reset state.committed.model) =
        some state.committed.model ∧
      (state.committed.caughtUp = true →
        (∀ row ∈ state.rows, row.Settled 5000 state.now) →
          onChainEventCountProjection.apply state.rows
              (onChainEventCountProjection.reset state.committed.model) =
            some state.committed.model) := by
  have permitted : countsMachine.Permits (InSequence 5000) emptyProjector rebuiltRun := by
    decide +kernel
  exact ⟨_, rfl, projectorMachine_equals_replay 5000 _
    (Machine.Reachable.of_run rebuiltRun (.start ⟨rfl, rfl, rfl⟩) permitted rfl)⟩

end AudioBlock.Projection
