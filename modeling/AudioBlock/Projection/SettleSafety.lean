/-
When the projection checkpoint passes only applied rows.

A batch filters by sequence number and by settle age and then moves the
checkpoint to its last row, so a row that is still unsettled, or not yet
visible, can be overtaken by a settled row with a higher number and is then
never applied.  The checkpoint is safe in the runs in which no batch overtakes
an unsettled row and no row becomes visible at or below a checkpoint.
-/

import AudioBlock.Projection.Projector

namespace AudioBlock.Projection

open AudioBlock.Foundation

variable {Model : Type}

def Overtakes (settleMs batchSize : Nat) (state : ProjectorState Model)
    (progress : Progress Model) : Prop :=
  ∃ row ∈ state.rows, progress.checkpoint.lastIngestSeq < row.ingestSeq ∧
    ¬ row.Settled settleMs state.now ∧
      ∃ taken ∈ nextBatch settleMs state.now progress.checkpoint.lastIngestSeq batchSize state.rows,
        row.ingestSeq < taken.ingestSeq

instance (settleMs batchSize : Nat) (state : ProjectorState Model) (progress : Progress Model) :
    Decidable (Overtakes settleMs batchSize state progress) :=
  inferInstanceAs (Decidable (∃ row ∈ state.rows, _ ∧ _))

def SettlesInOrder (settleMs : Nat) (state : ProjectorState Model) : ProjectorLabel → Prop
  | .ingest row =>
      state.committed.checkpoint.lastIngestSeq < row.ingestSeq ∧
        ∀ progress ∈ state.rebuild, progress.checkpoint.lastIngestSeq < row.ingestSeq
  | .catchUpBatch batchSize => ¬ Overtakes settleMs batchSize state state.committed
  | .rebuildBatch batchSize =>
      ∀ progress ∈ state.rebuild, ¬ Overtakes settleMs batchSize state progress
  | _ => True

instance (settleMs : Nat) (state : ProjectorState Model) (label : ProjectorLabel) :
    Decidable (SettlesInOrder settleMs state label) :=
  match label with
  | .ingest _ => inferInstanceAs (Decidable (_ ∧ _))
  | .catchUpBatch _ => inferInstanceAs (Decidable (¬ _))
  | .rebuildBatch _ => inferInstanceAs (Decidable (∀ progress ∈ state.rebuild, _))
  | .elapse _ | .beginRebuild | .commitRebuild | .abortRebuild => isTrue trivial

def SeqDistinct (rows : List IndexedEvent) : Prop :=
  rows.Pairwise fun left right => left.ingestSeq ≠ right.ingestSeq

variable {rows : List IndexedEvent} {settleMs : Nat} {progress : Progress Model}

theorem SeqDistinct.nodup (distinct : SeqDistinct rows) : rows.Nodup :=
  distinct.imp fun different same => different (congrArg IndexedEvent.ingestSeq same)

theorem SeqDistinct.eq (distinct : SeqDistinct rows) {left right : IndexedEvent}
    (leftMember : left ∈ rows) (rightMember : right ∈ rows)
    (same : left.ingestSeq = right.ingestSeq) : left = right :=
  List.inj_on_of_nodup_map (List.pairwise_map.mpr distinct) leftMember rightMember same

theorem SeqDistinct.snoc (distinct : SeqDistinct rows) (row : IndexedEvent)
    (fresh : Fresh rows row) : SeqDistinct (rows ++ [row]) := by
  apply List.pairwise_append.mpr
  refine ⟨distinct, List.pairwise_singleton _ _, ?_⟩
  intro other member final finalMember
  rw [List.mem_singleton.mp finalMember]
  exact fresh.2 other member

structure AppliedBelow (settleMs : Nat) (rows : List IndexedEvent) (now : Nat)
    (progress : Progress Model) : Prop where
  complete : ∀ row ∈ rows, row.ingestSeq ≤ progress.checkpoint.lastIngestSeq →
    row ∈ progress.applied
  sound : ∀ row ∈ progress.applied,
    row ∈ rows ∧ row.ingestSeq ≤ progress.checkpoint.lastIngestSeq
  distinct : progress.applied.Nodup
  counted : progress.checkpoint.eventsApplied = progress.applied.length
  reachesEnd : progress.caughtUp = true → ∀ row ∈ rows, row.Settled settleMs now →
    row.ingestSeq ≤ progress.checkpoint.lastIngestSeq

theorem appliedBelow_start (settleMs : Nat) (rows : List IndexedEvent) (now : Nat)
    (model : Model) (positive : ∀ row ∈ rows, 0 < row.ingestSeq) :
    AppliedBelow settleMs rows now (Progress.start model) := by
  constructor
  · intro row member below
    have above := positive row member
    change row.ingestSeq ≤ 0 at below
    omega
  · intro row absent
    cases absent
  · exact List.nodup_nil
  · rfl
  · intro caughtUp
    cases caughtUp

theorem AppliedBelow.ingest {now : Nat} (earlier : AppliedBelow settleMs rows now progress)
    (row : IndexedEvent) (beyond : progress.checkpoint.lastIngestSeq < row.ingestSeq) :
    AppliedBelow settleMs (rows ++ [row]) now progress.outdated := by
  constructor
  · intro other member below
    rcases List.mem_append.mp member with old | new
    · exact earlier.complete other old below
    · rw [List.mem_singleton.mp new] at below
      change row.ingestSeq ≤ progress.checkpoint.lastIngestSeq at below
      omega
  · intro other member
    obtain ⟨old, below⟩ := earlier.sound other member
    exact ⟨List.mem_append_left _ old, below⟩
  · exact earlier.distinct
  · exact earlier.counted
  · intro caughtUp
    simp [Progress.caughtUp, Progress.outdated] at caughtUp

theorem AppliedBelow.elapse {now : Nat} (earlier : AppliedBelow settleMs rows now progress)
    (milliseconds : Nat) :
    AppliedBelow settleMs rows (now + milliseconds) progress.outdated := by
  refine ⟨earlier.complete, earlier.sound, earlier.distinct, earlier.counted, ?_⟩
  intro caughtUp
  simp [Progress.caughtUp, Progress.outdated] at caughtUp

variable (projection : EventProjection Model)

theorem AppliedBelow.batch {state : ProjectorState Model} {next : Progress Model}
    (batchSize : Nat) (distinct : SeqDistinct state.rows)
    (earlier : AppliedBelow settleMs state.rows state.now progress)
    (inOrder : ¬ Overtakes settleMs batchSize state progress)
    (applied : applyNextBatch projection settleMs state.now batchSize state.rows progress =
      some next) :
    AppliedBelow settleMs state.rows state.now next := by
  obtain ⟨appliedEq, seqEq, countEq, short⟩ := applyNextBatch_applied projection settleMs state.now
    batchSize state.rows progress next applied
  generalize batchEq : nextBatch settleMs state.now progress.checkpoint.lastIngestSeq batchSize
    state.rows = batch at appliedEq seqEq countEq short
  have batchMember : ∀ row ∈ batch, row ∈ state.rows ∧
      progress.checkpoint.lastIngestSeq < row.ingestSeq ∧ row.Settled settleMs state.now := by
    intro row member
    exact mem_nextBatch settleMs state.now _ batchSize state.rows row (batchEq ▸ member)
  have batchOrdered := nextBatch_ordered settleMs state.now progress.checkpoint.lastIngestSeq
    batchSize state.rows
  rw [batchEq] at batchOrdered
  have grown : progress.checkpoint.lastIngestSeq ≤
      lastSeq progress.checkpoint.lastIngestSeq batch := by
    rcases lastSeq_attained progress.checkpoint.lastIngestSeq batch with
      ⟨_, same⟩ | ⟨taken, member, same⟩
    · exact Nat.le_of_eq same.symm
    · rw [same]
      exact Nat.le_of_lt (batchMember taken member).2.1
  constructor
  · intro row member below
    rw [appliedEq]
    by_cases old : row.ingestSeq ≤ progress.checkpoint.lastIngestSeq
    · exact List.mem_append_left _ (earlier.complete row member old)
    · rw [seqEq] at below
      rcases lastSeq_attained progress.checkpoint.lastIngestSeq batch with
        ⟨_, same⟩ | ⟨taken, takenMember, same⟩
      · rw [same] at below
        exact absurd below old
      · rw [same] at below
        have atTaken : taken.ingestSeq ≤ row.ingestSeq → row ∈ progress.applied ++ batch := by
          intro above
          have equal := distinct.eq member (batchMember taken takenMember).1 (by omega)
          rw [equal]
          exact List.mem_append_right _ takenMember
        by_cases settled : row.Settled settleMs state.now
        · have waiting := (mem_pending settleMs state.now progress.checkpoint.lastIngestSeq
            state.rows row).mpr ⟨member, Nat.lt_of_not_le old, settled⟩
          rcases nextBatch_reaches settleMs state.now _ batchSize state.rows row waiting with
            inside | above
          · exact List.mem_append_right _ (batchEq ▸ inside)
          · exact atTaken (above taken (batchEq ▸ takenMember))
        · apply atTaken
          by_contra lower
          exact inOrder ⟨row, member, Nat.lt_of_not_le old, settled, taken,
            batchEq ▸ takenMember, Nat.lt_of_not_le lower⟩
  · intro row member
    rw [appliedEq] at member
    rw [seqEq]
    rcases List.mem_append.mp member with old | new
    · obtain ⟨present, below⟩ := earlier.sound row old
      exact ⟨present, Nat.le_trans below grown⟩
    · exact ⟨(batchMember row new).1, le_lastSeq _ batch batchOrdered row new⟩
  · rw [appliedEq]
    have batchDistinct := nextBatch_nodup settleMs state.now progress.checkpoint.lastIngestSeq
      batchSize state.rows distinct.nodup
    rw [batchEq] at batchDistinct
    apply List.nodup_append.mpr
    refine ⟨earlier.distinct, batchDistinct, ?_⟩
    intro old oldMember new newMember same
    have below := (earlier.sound old oldMember).2
    have above := (batchMember new newMember).2.1
    rw [same] at below
    omega
  · rw [countEq, appliedEq, List.length_append, earlier.counted]
  · intro caughtUp row member settled
    rw [seqEq]
    by_cases old : row.ingestSeq ≤ progress.checkpoint.lastIngestSeq
    · exact Nat.le_trans old grown
    · have waiting := (mem_pending settleMs state.now progress.checkpoint.lastIngestSeq
        state.rows row).mpr ⟨member, Nat.lt_of_not_le old, settled⟩
      have finished := short (Bool.and_eq_true_iff.mp caughtUp).1
      have inside := nextBatch_short settleMs state.now progress.checkpoint.lastIngestSeq batchSize
        state.rows row (by rw [batchEq]; exact finished) waiting
      exact le_lastSeq _ batch batchOrdered row (batchEq ▸ inside)

/-- The invariant of the runs. -/
structure InOrder (settleMs : Nat) (state : ProjectorState Model) : Prop where
  distinct : SeqDistinct state.rows
  positive : ∀ row ∈ state.rows, 0 < row.ingestSeq
  applied : HoldsThroughout (AppliedBelow settleMs) state

theorem inOrder_initial (settleMs : Nat) (empty : Model) (state : ProjectorState Model)
    (begins : state.rows = [] ∧ state.committed = .start empty ∧ state.rebuild = none) :
    InOrder settleMs state := by
  obtain ⟨rows, committed, rebuild⟩ := begins
  refine ⟨?_, ?_, ?_, ?_⟩
  · rw [rows]
    exact List.Pairwise.nil
  · rw [rows]
    intro row absent
    cases absent
  · rw [committed, rows]
    exact appliedBelow_start settleMs [] state.now empty (fun _ absent => by cases absent)
  · rw [rebuild]
    intro progress absent
    cases absent

theorem inOrder_step (settleMs : Nat) (state after : ProjectorState Model)
    (label : ProjectorLabel) (earlier : InOrder settleMs state)
    (permitted : SettlesInOrder settleMs state label)
    (moved : projectorStep projection settleMs state label = some after) :
    InOrder settleMs after := by
  refine ⟨?_, ?_, ?_⟩
  · rcases projectorStep_rows projection settleMs state after label moved with
      same | ⟨row, _, fresh, rows⟩
    · rw [same]
      exact earlier.distinct
    · rw [rows]
      exact earlier.distinct.snoc row fresh
  · rcases projectorStep_rows projection settleMs state after label moved with
      same | ⟨row, _, fresh, rows⟩
    · rw [same]
      exact earlier.positive
    · rw [rows]
      intro other member
      rcases List.mem_append.mp member with old | new
      · exact earlier.positive other old
      · rw [List.mem_singleton.mp new]
        exact fresh.1
  · apply projectorStep_preserves projection settleMs (AppliedBelow settleMs) state after label
      _ _ _ _ earlier.applied moved
    · exact fun model => appliedBelow_start settleMs state.rows state.now _ earlier.positive
    · rintro row progress rfl _ works holds
      apply holds.ingest row
      rcases works with rfl | opened
      · exact permitted.1
      · exact permitted.2 progress opened
    · exact fun milliseconds progress holds => holds.elapse milliseconds
    · rintro batchSize progress next (rfl | rfl) works holds applied
      · cases works
        exact holds.batch projection batchSize earlier.distinct permitted applied
      · exact holds.batch projection batchSize earlier.distinct (permitted progress works) applied

theorem projectorMachine_inOrder (settleMs : Nat) (empty : Model) (state : ProjectorState Model)
    (reached : (projectorMachine projection settleMs empty).Reachable
      (SettlesInOrder settleMs) state) : InOrder settleMs state :=
  reached.invariant (InOrder settleMs) (inOrder_initial settleMs empty)
    fun before label after earlier permitted moved =>
      inOrder_step projection settleMs before after label earlier permitted moved

/-- The checkpoint passes only rows that were applied exactly once, and when
`catchUp` returns over settled rows every row was. -/
theorem projectorMachine_applies_once (projection : EventProjection Model) (settleMs : Nat)
    (empty : Model) (state : ProjectorState Model)
    (reached : (projectorMachine projection settleMs empty).Reachable
      (SettlesInOrder settleMs) state) :
    (∀ row ∈ state.rows, row.ingestSeq ≤ state.committed.checkpoint.lastIngestSeq →
        state.committed.applied.count row = 1) ∧
      (state.committed.caughtUp = true →
        (∀ row ∈ state.rows, row.Settled settleMs state.now) →
          ∀ row ∈ state.rows, state.committed.applied.count row = 1) := by
  have applied := (projectorMachine_inOrder projection settleMs empty state reached).applied.1
  have once : ∀ row ∈ state.rows,
      row.ingestSeq ≤ state.committed.checkpoint.lastIngestSeq →
        state.committed.applied.count row = 1 := by
    intro row member below
    exact List.count_eq_one_of_mem applied.distinct (applied.complete row member below)
  refine ⟨once, ?_⟩
  intro caughtUp settled row member
  exact once row member (applied.reachesEnd caughtUp row member (settled row member))

/-! ### A row overtaken while it was unsettled -/

def shortText (text : String) (noNul : nul ∉ text.toList) : PgText := { text, noNul }

def rawRow (ingestSeq indexedAt : Nat) : IndexedEvent :=
  { ingestSeq
    network := shortText "testnet" (by decide)
    contractType := some (shortText "marketplace" (by decide))
    eventType := shortText "sale" (by decide)
    indexedAt }

def emptyProjector : ProjectorState CountTable :=
  { rows := [], now := 0, committed := .start fun _ => none, rebuild := none }

/-- Row 2 settles five seconds before row 1. -/
def overtakingRun : List ProjectorLabel :=
  [.ingest (rawRow 2 0), .ingest (rawRow 1 5000), .elapse 5000, .catchUpBatch 500, .elapse 5000,
    .catchUpBatch 500]

/-- The run with the two sequence numbers exchanged. -/
def inOrderRun : List ProjectorLabel :=
  [.ingest (rawRow 1 0), .ingest (rawRow 2 5000), .elapse 5000, .catchUpBatch 500, .elapse 5000,
    .catchUpBatch 500]

def countsMachine : Machine (ProjectorState CountTable) ProjectorLabel :=
  projectorMachine onChainEventCountProjection 5000 fun _ => none

theorem countsMachine_overtakes_row :
    ∃ state, countsMachine.Reachable (fun _ _ => True) state ∧
      state.committed.caughtUp = true ∧
      (∀ row ∈ state.rows, row.Settled 5000 state.now) ∧
      rawRow 1 5000 ∈ state.rows ∧
      (rawRow 1 5000).ingestSeq ≤ state.committed.checkpoint.lastIngestSeq ∧
      state.committed.applied.count (rawRow 1 5000) = 0 := by
  have executed : ∃ state, countsMachine.run emptyProjector overtakingRun = some state ∧
      state.committed.caughtUp = true ∧
      (∀ row ∈ state.rows, row.Settled 5000 state.now) ∧
      rawRow 1 5000 ∈ state.rows ∧
      (rawRow 1 5000).ingestSeq ≤ state.committed.checkpoint.lastIngestSeq ∧
      state.committed.applied.count (rawRow 1 5000) = 0 :=
    ⟨_, rfl, by decide +kernel, by decide +kernel, by decide +kernel, by decide +kernel,
      by decide +kernel⟩
  obtain ⟨state, ran, outcome⟩ := executed
  exact ⟨state, Machine.Reachable.of_run overtakingRun (.start ⟨rfl, rfl, rfl⟩)
    (countsMachine.permits_always _ _) ran, outcome⟩

theorem countsMachine_applies_both_rows :
    ∃ state, countsMachine.run emptyProjector inOrderRun = some state ∧
      (∀ row ∈ state.rows, row.ingestSeq ≤ state.committed.checkpoint.lastIngestSeq →
        state.committed.applied.count row = 1) ∧
      (state.committed.caughtUp = true →
        (∀ row ∈ state.rows, row.Settled 5000 state.now) →
          ∀ row ∈ state.rows, state.committed.applied.count row = 1) := by
  have permitted : countsMachine.Permits (SettlesInOrder 5000) emptyProjector inOrderRun := by
    decide +kernel
  exact ⟨_, rfl, projectorMachine_applies_once onChainEventCountProjection 5000 (fun _ => none) _
    (Machine.Reachable.of_run inOrderRun (.start ⟨rfl, rfl, rfl⟩) permitted rfl)⟩

end AudioBlock.Projection
