/-
Raw event rows (src/entities/IndexedEvent.ts, as far as projections read them)
and the batch query of src/services/EventProjector.ts.

PostgreSQL text holds no NUL character, which `PgText` keeps as a field.  A
clock reading and a row's `indexedAt` are milliseconds.  TypeORM puts no limit
on the query when `take` is zero.
-/

import AudioBlock.Foundation.KeyedTally
import Mathlib.Data.List.Sort
import Mathlib.Logic.Function.Basic

namespace AudioBlock.Projection

open AudioBlock.Foundation

def nul : Char := Char.ofNat 0

structure PgText where
  text : String
  noNul : nul ∉ text.toList
deriving DecidableEq

structure IndexedEvent where
  ingestSeq : Nat
  network : PgText
  contractType : Option PgText
  eventType : PgText
  indexedAt : Nat
deriving DecidableEq

/-- `indexedAt <= Date.now() - settleMs`. -/
def IndexedEvent.Settled (settleMs now : Nat) (row : IndexedEvent) : Prop :=
  row.indexedAt + settleMs ≤ now

instance (settleMs now : Nat) (row : IndexedEvent) : Decidable (row.Settled settleMs now) :=
  inferInstanceAs (Decidable (_ ≤ _))

def pending (settleMs now lastIngestSeq : Nat) (rows : List IndexedEvent) : List IndexedEvent :=
  rows.filter fun row => decide (lastIngestSeq < row.ingestSeq ∧ row.Settled settleMs now)

/-- The query of `applyNextBatch`. -/
def nextBatch (settleMs now lastIngestSeq batchSize : Nat) (rows : List IndexedEvent) :
    List IndexedEvent :=
  let ordered := (pending settleMs now lastIngestSeq rows).insertionSort fun left right =>
    left.ingestSeq ≤ right.ingestSeq
  if batchSize = 0 then ordered else ordered.take batchSize

def lastSeq (before : Nat) (batch : List IndexedEvent) : Nat :=
  (batch.getLast?.map IndexedEvent.ingestSeq).getD before

theorem mem_pending (settleMs now lastIngestSeq : Nat) (rows : List IndexedEvent)
    (row : IndexedEvent) :
    row ∈ pending settleMs now lastIngestSeq rows ↔
      row ∈ rows ∧ lastIngestSeq < row.ingestSeq ∧ row.Settled settleMs now := by
  unfold pending
  rw [List.mem_filter, decide_eq_true_eq]

section Batch

variable (settleMs now lastIngestSeq batchSize : Nat) (rows : List IndexedEvent)

private theorem nextBatch_isPrefix :
    nextBatch settleMs now lastIngestSeq batchSize rows <+:
      (pending settleMs now lastIngestSeq rows).insertionSort fun left right =>
        left.ingestSeq ≤ right.ingestSeq := by
  unfold nextBatch
  split
  · exact List.prefix_refl _
  · exact List.take_prefix _ _

private theorem ordered_pending :
    ((pending settleMs now lastIngestSeq rows).insertionSort fun left right =>
      left.ingestSeq ≤ right.ingestSeq).Pairwise fun left right =>
        left.ingestSeq ≤ right.ingestSeq :=
  have : Std.Total fun left right : IndexedEvent => left.ingestSeq ≤ right.ingestSeq :=
    ⟨fun left right => Nat.le_total left.ingestSeq right.ingestSeq⟩
  have : IsTrans IndexedEvent fun left right => left.ingestSeq ≤ right.ingestSeq :=
    ⟨fun _ _ _ first second => Nat.le_trans first second⟩
  List.pairwise_insertionSort _ _

variable (row : IndexedEvent)

theorem mem_nextBatch (member : row ∈ nextBatch settleMs now lastIngestSeq batchSize rows) :
    row ∈ rows ∧ lastIngestSeq < row.ingestSeq ∧ row.Settled settleMs now := by
  have inside := (nextBatch_isPrefix settleMs now lastIngestSeq batchSize rows).mem member
  rw [List.mem_insertionSort] at inside
  exact (mem_pending settleMs now lastIngestSeq rows row).mp inside

theorem nextBatch_ordered :
    (nextBatch settleMs now lastIngestSeq batchSize rows).Pairwise fun left right =>
      left.ingestSeq ≤ right.ingestSeq :=
  (ordered_pending settleMs now lastIngestSeq rows).sublist
    (nextBatch_isPrefix settleMs now lastIngestSeq batchSize rows).sublist

theorem nextBatch_nodup (distinct : rows.Nodup) :
    (nextBatch settleMs now lastIngestSeq batchSize rows).Nodup := by
  apply (nextBatch_isPrefix settleMs now lastIngestSeq batchSize rows).sublist.nodup
  exact (List.perm_insertionSort _ _).nodup_iff.mpr (distinct.filter _)

theorem nextBatch_reaches (waiting : row ∈ pending settleMs now lastIngestSeq rows) :
    row ∈ nextBatch settleMs now lastIngestSeq batchSize rows ∨
      ∀ taken ∈ nextBatch settleMs now lastIngestSeq batchSize rows,
        taken.ingestSeq ≤ row.ingestSeq := by
  obtain ⟨rest, whole⟩ := nextBatch_isPrefix settleMs now lastIngestSeq batchSize rows
  have ordered := ordered_pending settleMs now lastIngestSeq rows
  have member := (List.mem_insertionSort
    (fun left right : IndexedEvent => left.ingestSeq ≤ right.ingestSeq)).mpr waiting
  rw [← whole] at ordered member
  rcases List.mem_append.mp member with inside | beyond
  · exact Or.inl inside
  · exact Or.inr fun taken takenMember =>
      (List.pairwise_append.mp ordered).2.2 taken takenMember row beyond

theorem nextBatch_short
    (short : (nextBatch settleMs now lastIngestSeq batchSize rows).length < batchSize)
    (waiting : row ∈ pending settleMs now lastIngestSeq rows) :
    row ∈ nextBatch settleMs now lastIngestSeq batchSize rows := by
  unfold nextBatch at short ⊢
  have limited : batchSize ≠ 0 := by omega
  rw [if_neg limited] at short ⊢
  rw [List.length_take] at short
  rw [List.take_of_length_le (by omega), List.mem_insertionSort]
  exact waiting

end Batch

theorem le_lastSeq (before : Nat) (batch : List IndexedEvent)
    (ordered : batch.Pairwise fun left right => left.ingestSeq ≤ right.ingestSeq)
    (row : IndexedEvent) (member : row ∈ batch) : row.ingestSeq ≤ lastSeq before batch := by
  unfold lastSeq
  cases final : batch.getLast? with
  | none =>
      rw [List.getLast?_eq_none_iff.mp final] at member
      cases member
  | some last =>
      obtain ⟨front, whole⟩ := List.getLast?_eq_some_iff.mp final
      rw [whole] at member ordered
      rcases List.mem_append.mp member with earlier | same
      · exact (List.pairwise_append.mp ordered).2.2 row earlier last (by simp)
      · rw [List.mem_singleton.mp same]
        exact Nat.le_refl _

theorem lastSeq_attained (before : Nat) (batch : List IndexedEvent) :
    (batch = [] ∧ lastSeq before batch = before) ∨
      ∃ row ∈ batch, lastSeq before batch = row.ingestSeq := by
  unfold lastSeq
  cases final : batch.getLast? with
  | none => exact Or.inl ⟨List.getLast?_eq_none_iff.mp final, rfl⟩
  | some last =>
      obtain ⟨front, whole⟩ := List.getLast?_eq_some_iff.mp final
      refine Or.inr ⟨last, ?_, rfl⟩
      rw [whole]
      simp

/-!
### The counts

Embedding of src/services/projections/OnChainEventCountProjection.ts.

`apply` totals a batch in a map keyed by the three columns joined with NUL
characters and merges the totals into the table with one
`INSERT ... ON CONFLICT DO UPDATE`, which PostgreSQL refuses when one statement
names the same row twice.  Because no column holds a NUL the joined keys stand
for the column triples, so the statement is never refused and applying two
batches is applying them as one.
-/

/-- The interface of src/services/projections/EventProjection.ts; `apply` is
`none` where it rejects. -/
structure EventProjection (Model : Type) where
  apply : List IndexedEvent → Model → Option Model
  reset : Model → Model

/-- The unique columns of `onchain_event_counts`. -/
structure CountTarget where
  network : PgText
  contractType : PgText
  eventType : PgText
deriving DecidableEq

structure CountRow extends CountTarget where
  count : Nat
deriving DecidableEq

abbrev CountTable := CountTarget → Option Nat

def unknownContractType : PgText := { text := "unknown", noNul := by decide }

/-- `event.contractType || UNKNOWN_CONTRACT_TYPE`. -/
def contractTypeOf (event : IndexedEvent) : PgText :=
  match event.contractType with
  | none => unknownContractType
  | some contractType =>
      if contractType.text = "" then unknownContractType else contractType

def targetOf (event : IndexedEvent) : CountTarget :=
  { network := event.network, contractType := contractTypeOf event, eventType := event.eventType }

def joinKey (target : CountTarget) : String :=
  target.network.text ++ String.singleton nul ++ target.contractType.text ++
    String.singleton nul ++ target.eventType.text

def countKey (event : IndexedEvent) : String := joinKey (targetOf event)

def countRows (events : List IndexedEvent) : List CountRow :=
  (tally countKey events).map fun entry => { targetOf entry.first with count := entry.count }

def upsertCount (table : CountTable) (row : CountRow) : CountTable :=
  Function.update table row.toCountTarget
    (some (match table row.toCountTarget with
      | none => row.count
      | some count => count + row.count))

def insertOnConflict (table : CountTable) (rows : List CountRow) : Option CountTable :=
  if (rows.map CountRow.toCountTarget).Nodup then some (rows.foldl upsertCount table) else none

def applyCounts (events : List IndexedEvent) (table : CountTable) : Option CountTable :=
  let rows := countRows events
  if rows = [] then some table else insertOnConflict table rows

def onChainEventCountProjection : EventProjection CountTable where
  apply := applyCounts
  reset _ := fun _ => none

/-- The table that holds a row for every key that was counted at least once. -/
def storedCount (count : Nat) : Option Nat := if count = 0 then none else some count

def countsOf (events : List IndexedEvent) : CountTable := fun target =>
  storedCount (events.countP fun event => decide (targetOf event = target))

private theorem marked_inj {α : Type} (mark : α) (left right leftRest rightRest : List α)
    (leftFree : mark ∉ left) (rightFree : mark ∉ right)
    (same : left ++ mark :: leftRest = right ++ mark :: rightRest) :
    left = right ∧ leftRest = rightRest := by
  induction left generalizing right with
  | nil =>
      cases right with
      | nil => exact ⟨rfl, (List.cons.inj same).2⟩
      | cons item rest =>
          rw [(List.cons.inj same).1] at rightFree
          exact absurd List.mem_cons_self rightFree
  | cons item rest ih =>
      cases right with
      | nil =>
          rw [(List.cons.inj same).1] at leftFree
          exact absurd List.mem_cons_self leftFree
      | cons other others =>
          obtain ⟨sameItem, sameRest⟩ := List.cons.inj same
          obtain ⟨tails, rests⟩ := ih others (fun member => leftFree (List.mem_cons_of_mem _ member))
            (fun member => rightFree (List.mem_cons_of_mem _ member)) sameRest
          exact ⟨by rw [sameItem, tails], rests⟩

theorem joinKey_injective : Function.Injective joinKey := by
  intro left right same
  have letters := congrArg String.toList same
  simp only [joinKey, String.toList_append, String.toList_singleton, List.append_assoc,
    List.cons_append, List.nil_append] at letters
  have first := marked_inj nul _ _ _ _ left.network.noNul right.network.noNul letters
  have second := marked_inj nul _ _ _ _ left.contractType.noNul right.contractType.noNul first.2
  obtain ⟨⟨leftNetwork, _⟩, ⟨leftType, _⟩, ⟨leftEvent, _⟩⟩ := left
  obtain ⟨⟨rightNetwork, _⟩, ⟨rightType, _⟩, ⟨rightEvent, _⟩⟩ := right
  have network : leftNetwork = rightNetwork := String.toList_inj.mp first.1
  have contractType : leftType = rightType := String.toList_inj.mp second.1
  have eventType : leftEvent = rightEvent := String.toList_inj.mp second.2
  subst network contractType eventType
  rfl

variable (events : List IndexedEvent)

private theorem entry_key (entry : TallyEntry String IndexedEvent)
    (member : entry ∈ tally countKey events) : entry.key = joinKey (targetOf entry.first) :=
  (tally_wellTallied countKey events entry member).1.symm

theorem countRows_nodup :
    ((countRows events).map CountRow.toCountTarget).Nodup := by
  have keys := tally_keys_nodup countKey events
  have joined : (tally countKey events).map TallyEntry.key =
      ((countRows events).map CountRow.toCountTarget).map joinKey := by
    rw [countRows, List.map_map, List.map_map]
    exact List.map_congr_left fun entry member => entry_key events entry member
  rw [joined] at keys
  exact keys.of_map joinKey

theorem countRows_positive (row : CountRow) (member : row ∈ countRows events) : 0 < row.count := by
  obtain ⟨entry, entryMember, rfl⟩ := List.mem_map.mp member
  exact (tally_wellTallied countKey events entry entryMember).2

theorem countRows_total (target : CountTarget) :
    ((countRows events).map fun row =>
        if row.toCountTarget = target then row.count else 0).sum =
      events.countP fun event => decide (targetOf event = target) := by
  have total := tally_counted countKey (fun key => decide (key = joinKey target)) events
  have sameKey : ∀ event : IndexedEvent, decide (countKey event = joinKey target) =
      decide (targetOf event = target) := by
    intro event
    exact decide_eq_decide.mpr joinKey_injective.eq_iff
  simp only [sameKey] at total
  rw [← total, countedIf, countRows, List.map_map]
  congr 1
  apply List.map_congr_left
  intro entry member
  simp only [Function.comp, entry_key events entry member, decide_eq_true_eq,
    joinKey_injective.eq_iff]

private theorem upsertCount_storedCount (table : CountTable) (row : CountRow)
    (target : CountTarget) (count : Nat) (before : table target = storedCount count)
    (positive : 0 < row.count) :
    upsertCount table row target =
      storedCount (count + if row.toCountTarget = target then row.count else 0) := by
  unfold upsertCount
  by_cases same : row.toCountTarget = target
  · subst same
    rw [Function.update_self, before, if_pos rfl]
    unfold storedCount
    by_cases zero : count = 0
    · subst zero
      rw [if_pos rfl, if_neg (by omega), Nat.zero_add]
    · rw [if_neg zero, if_neg (by omega)]
  · rw [Function.update_of_ne (Ne.symm same), before, if_neg same, Nat.add_zero]

private theorem foldl_upsertCount (rows : List CountRow) (table : CountTable)
    (target : CountTarget) (count : Nat) (before : table target = storedCount count)
    (positive : ∀ row ∈ rows, 0 < row.count) :
    rows.foldl upsertCount table target =
      storedCount (count + (rows.map fun row =>
        if row.toCountTarget = target then row.count else 0).sum) := by
  induction rows generalizing table count with
  | nil => exact before
  | cons row rest ih =>
      have step := upsertCount_storedCount table row target count before
        (positive row List.mem_cons_self)
      rw [List.foldl_cons, ih (upsertCount table row) _ step
        (fun later member => positive later (List.mem_cons_of_mem row member)),
        List.map_cons, List.sum_cons, Nat.add_assoc]

theorem applyCounts_countsOf (earlier events : List IndexedEvent) :
    applyCounts events (countsOf earlier) = some (countsOf (earlier ++ events)) := by
  have merged : (countRows events).foldl upsertCount (countsOf earlier) =
      countsOf (earlier ++ events) := by
    funext target
    rw [foldl_upsertCount (countRows events) (countsOf earlier) target _ rfl
      (countRows_positive events), countRows_total, countsOf, List.countP_append]
  unfold applyCounts
  by_cases nothing : countRows events = []
  · rw [nothing] at merged
    rw [if_pos nothing, ← merged]
    rfl
  · rw [if_neg nothing, insertOnConflict, if_pos (countRows_nodup events), merged]

theorem countsOf_perm {left right : List IndexedEvent} (same : left.Perm right) :
    countsOf left = countsOf right := by
  funext target
  rw [countsOf, countsOf, same.countP_eq]

end AudioBlock.Projection
