/-
The bounded queue of `persistProgress`, against a loop without one.

The loop is generic in what `upsertEvent` does: it answers on a state of any kind, and
resolves or rejects.  `passed` records the events it was called for, and `depths` the
length of the queue after each of its changes, as `queueDepth` has it.  The pages of a
drain share one queue.
-/
import AudioBlock.Indexer.PollRule
import Mathlib.Data.List.Forall2

namespace AudioBlock.Indexer

variable {ScVal Value State : Type}

structure PageWrites (Value State : Type) where
  state : State
  passed : List (InsertIndexedEventDTO Value)
  processed : Nat
  skipped : Nat
  errors : Nat

def noWrites (state : State) : PageWrites Value State :=
  { state, passed := [], processed := 0, skipped := 0, errors := 0 }

namespace PageWrites

/-- One awaited call, and the `catch` around it. -/
def upsert (upsertEvent : State → InsertIndexedEventDTO Value → State × Bool)
    (writes : PageWrites Value State) (dto : InsertIndexedEventDTO Value) :
    PageWrites Value State :=
  let answer := upsertEvent writes.state dto
  if answer.2 then
    { writes with
      state := answer.1, passed := writes.passed ++ [dto], processed := writes.processed + 1 }
  else
    { writes with
      state := answer.1, passed := writes.passed ++ [dto], errors := writes.errors + 1 }

def skip (writes : PageWrites Value State) : PageWrites Value State :=
  { writes with skipped := writes.skipped + 1 }

end PageWrites

structure WriteBuffer (Value : Type) where
  queue : BoundedEventQueue (InsertIndexedEventDTO Value)
  depths : List Nat

def WriteBuffer.changed (buffer : WriteBuffer Value)
    (queue : BoundedEventQueue (InsertIndexedEventDTO Value)) : WriteBuffer Value :=
  { queue, depths := buffer.depths ++ [queue.items.length] }

namespace IndexerWorker

section Loops

variable (worker : IndexerWorker ScVal Value) (contract : IndexerContract Value)
  (upsertEvent : State → InsertIndexedEventDTO Value → State × Bool)

def flushWrites (writes : PageWrites Value State) (buffer : WriteBuffer Value) :
    PageWrites Value State × WriteBuffer Value :=
  if _waiting : buffer.queue.isEmpty = false then
    let batch := buffer.queue.dequeueBatch worker.writeBatchSize
    flushWrites (batch.1.foldl (PageWrites.upsert upsertEvent) writes) (buffer.changed batch.2)
  else (writes, buffer)
termination_by buffer.queue.items.length
decreasing_by exact buffer.queue.dequeueBatch_shorter _ worker.batchPositive _waiting

def bufferWrites : List (NormalizedContractEvent Value) → PageWrites Value State →
    WriteBuffer Value → PageWrites Value State × WriteBuffer Value
  | [], writes, buffer => (writes, buffer)
  | event :: rest, writes, buffer =>
      match contract.decoder.decode event with
      | none => bufferWrites rest writes.skip buffer
      | some dto =>
          let (writes, buffer) :=
            if buffer.queue.isFull then worker.flushWrites upsertEvent writes buffer
            else (writes, buffer)
          bufferWrites rest writes (buffer.changed (buffer.queue.tryEnqueue dto).2)

def pageWrites (events : List (NormalizedContractEvent Value)) (state : State)
    (buffer : WriteBuffer Value) : PageWrites Value State × WriteBuffer Value :=
  let (writes, buffer) := worker.bufferWrites contract upsertEvent events (noWrites state) buffer
  worker.flushWrites upsertEvent writes buffer

/-- The pages of a drain, with the queue that they share. -/
def drainWrites : List (List (NormalizedContractEvent Value)) → State → WriteBuffer Value →
    List (PageWrites Value State) × WriteBuffer Value
  | [], _, buffer => ([], buffer)
  | events :: rest, state, buffer =>
      let (writes, buffer) := worker.pageWrites contract upsertEvent events state buffer
      let (others, buffer) := drainWrites rest writes.state buffer
      (writes :: others, buffer)

def freshBuffer : WriteBuffer Value := { queue := worker.freshQueue, depths := [] }

end Loops

end IndexerWorker

/-! ### The loop without a queue -/

section Direct

variable (contract : IndexerContract Value)
  (upsertEvent : State → InsertIndexedEventDTO Value → State × Bool)

def directWrites : List (NormalizedContractEvent Value) → PageWrites Value State →
    PageWrites Value State
  | [], writes => writes
  | event :: rest, writes =>
      match contract.decoder.decode event with
      | none => directWrites rest writes.skip
      | some dto => directWrites rest (writes.upsert upsertEvent dto)

def directPages : List (List (NormalizedContractEvent Value)) → State →
    List (PageWrites Value State)
  | [], _ => []
  | events :: rest, state =>
      let writes := directWrites contract upsertEvent events (noWrites state)
      writes :: directPages rest writes.state

structure PageAccounted (events : List (NormalizedContractEvent Value))
    (writes : PageWrites Value State) : Prop where
  passed : writes.passed = events.filterMap contract.decoder.decode
  counted : writes.processed + writes.skipped + writes.errors = events.length

end Direct

section Facts

variable {contract : IndexerContract Value}
  {upsertEvent : State → InsertIndexedEventDTO Value → State × Bool}

variable (writes : PageWrites Value State) (events : List (NormalizedContractEvent Value))
  (dto : InsertIndexedEventDTO Value)

@[simp] theorem upsert_passed :
    (writes.upsert upsertEvent dto).passed = writes.passed ++ [dto] := by
  unfold PageWrites.upsert
  dsimp only
  split
  · rfl
  · rfl

theorem upsert_counted :
    (writes.upsert upsertEvent dto).processed + (writes.upsert upsertEvent dto).skipped +
        (writes.upsert upsertEvent dto).errors =
      writes.processed + writes.skipped + writes.errors + 1 := by
  unfold PageWrites.upsert
  dsimp only
  split
  · dsimp only
    omega
  · dsimp only
    omega

theorem upsert_skip :
    writes.skip.upsert upsertEvent dto = (writes.upsert upsertEvent dto).skip := by
  unfold PageWrites.upsert
  change (if (upsertEvent writes.state dto).2 then _ else _) = _
  dsimp only
  split
  · rfl
  · rfl

theorem upserts_skip (items : List (InsertIndexedEventDTO Value)) :
    items.foldl (PageWrites.upsert upsertEvent) writes.skip =
      (items.foldl (PageWrites.upsert upsertEvent) writes).skip := by
  induction items generalizing writes with
  | nil => rfl
  | cons dto rest ih =>
      rw [List.foldl_cons, List.foldl_cons, upsert_skip]
      exact ih _

theorem directWrites_passed (writes : PageWrites Value State) :
    (directWrites contract upsertEvent events writes).passed =
      writes.passed ++ events.filterMap contract.decoder.decode := by
  induction events generalizing writes with
  | nil => exact (List.append_nil _).symm
  | cons event rest ih =>
      cases decoded : contract.decoder.decode event with
      | none =>
          simp only [directWrites, decoded, List.filterMap_cons]
          exact ih writes.skip
      | some dto =>
          simp only [directWrites, decoded, List.filterMap_cons]
          rw [ih, upsert_passed, List.append_assoc]
          rfl

theorem directWrites_counted (writes : PageWrites Value State) :
    (directWrites contract upsertEvent events writes).processed +
        (directWrites contract upsertEvent events writes).skipped +
          (directWrites contract upsertEvent events writes).errors =
      writes.processed + writes.skipped + writes.errors + events.length := by
  induction events generalizing writes with
  | nil => rfl
  | cons event rest ih =>
      cases decoded : contract.decoder.decode event with
      | none =>
          simp only [directWrites, decoded, List.length_cons]
          rw [ih]
          change writes.processed + (writes.skipped + 1) + writes.errors + rest.length = _
          omega
      | some dto =>
          simp only [directWrites, decoded, List.length_cons]
          rw [ih, upsert_counted]
          omega

theorem directWrites_accounted (state : State) :
    PageAccounted contract events (directWrites contract upsertEvent events (noWrites state)) := by
  refine ⟨directWrites_passed events (noWrites state), ?_⟩
  rw [directWrites_counted]
  exact Nat.zero_add _

end Facts

/-! ### The queue changes nothing -/

namespace IndexerWorker

variable (worker : IndexerWorker ScVal Value) {contract : IndexerContract Value}
  {upsertEvent : State → InsertIndexedEventDTO Value → State × Bool}

structure Bounded (buffer : WriteBuffer Value) : Prop where
  capacity : buffer.queue.maxSize = worker.maxQueueSize
  depths : ∀ depth ∈ buffer.depths, depth ≤ worker.maxQueueSize

variable {worker}

theorem Bounded.changed {buffer : WriteBuffer Value} (bounded : worker.Bounded buffer)
    {queue : BoundedEventQueue (InsertIndexedEventDTO Value)}
    (same : queue.maxSize = buffer.queue.maxSize) : worker.Bounded (buffer.changed queue) := by
  have capacity := same.trans bounded.capacity
  refine ⟨capacity, ?_⟩
  intro depth member
  rcases List.mem_append.mp member with before | new
  · exact bounded.depths depth before
  · rw [List.mem_singleton.mp new, ← capacity]
    exact queue.bounded

theorem tryEnqueue_maxSize {Item : Type} (queue : BoundedEventQueue Item) (item : Item) :
    (queue.tryEnqueue item).2.maxSize = queue.maxSize := by
  unfold BoundedEventQueue.tryEnqueue
  split
  · rfl
  · rfl

/-- A flush calls `upsertEvent` for what the queue holds, in order, and empties it. -/
structure Flushed (worker : IndexerWorker ScVal Value)
    (upsertEvent : State → InsertIndexedEventDTO Value → State × Bool)
    (writes : PageWrites Value State) (items : List (InsertIndexedEventDTO Value))
    (result : PageWrites Value State × WriteBuffer Value) : Prop where
  writes : result.1 = items.foldl (PageWrites.upsert upsertEvent) writes
  empty : result.2.queue.items = []
  bounded : worker.Bounded result.2

variable (contract upsertEvent)

variable (pages : List (List (NormalizedContractEvent Value)))
  (events : List (NormalizedContractEvent Value)) (writes : PageWrites Value State) (state : State)
  (buffer : WriteBuffer Value)

section

variable (bounded : worker.Bounded buffer)
include bounded

theorem flushWrites_flushed :
    Flushed worker upsertEvent writes buffer.queue.items
      (worker.flushWrites upsertEvent writes buffer) := by
  fun_induction flushWrites worker upsertEvent writes buffer with
  | case1 writes buffer waiting batch ih =>
      obtain ⟨written, empty, still⟩ := ih (bounded.changed rfl)
      refine ⟨?_, empty, still⟩
      rw [written, ← List.foldl_append]
      change (buffer.queue.items.take _ ++ buffer.queue.items.drop _).foldl _ _ = _
      rw [List.take_append_drop]
  | case2 writes buffer drained =>
      have nothing : buffer.queue.items = [] := by
        cases items : buffer.queue.items with
        | nil => rfl
        | cons item rest => simp [BoundedEventQueue.isEmpty, items] at drained
      refine ⟨?_, nothing, bounded⟩
      rw [nothing]
      rfl

theorem bufferWrites_direct :
    (worker.bufferWrites contract upsertEvent events writes buffer).2.queue.items.foldl
        (PageWrites.upsert upsertEvent)
        (worker.bufferWrites contract upsertEvent events writes buffer).1 =
      directWrites contract upsertEvent events
        (buffer.queue.items.foldl (PageWrites.upsert upsertEvent) writes) ∧
    worker.Bounded (worker.bufferWrites contract upsertEvent events writes buffer).2 := by
  induction events generalizing writes buffer with
  | nil => exact ⟨rfl, bounded⟩
  | cons event rest ih =>
      cases decoded : contract.decoder.decode event with
      | none =>
          simp only [bufferWrites, directWrites, decoded]
          rw [← upserts_skip]
          exact ih writes.skip buffer bounded
      | some dto =>
          simp only [bufferWrites, directWrites, decoded]
          cases full : buffer.queue.isFull with
          | true =>
              have flushed : Flushed worker upsertEvent writes buffer.queue.items _ :=
                flushWrites_flushed upsertEvent writes buffer bounded
              have room := BoundedEventQueue.isFull_of_items_nil _ flushed.empty
              have one := BoundedEventQueue.tryEnqueue_items _ dto room
              rw [flushed.empty, List.nil_append] at one
              obtain ⟨direct, still⟩ := ih (worker.flushWrites upsertEvent writes buffer).1 _
                (flushed.bounded.changed (tryEnqueue_maxSize _ dto))
              refine ⟨direct.trans ?_, still⟩
              change directWrites contract upsertEvent rest
                (List.foldl _ _ (BoundedEventQueue.tryEnqueue _ dto).2.items) = _
              rw [one, flushed.writes]
              rfl
          | false =>
              have one := BoundedEventQueue.tryEnqueue_items buffer.queue dto full
              obtain ⟨direct, still⟩ := ih writes _ (bounded.changed (tryEnqueue_maxSize _ dto))
              refine ⟨direct.trans ?_, still⟩
              change directWrites contract upsertEvent rest
                (List.foldl _ _ (buffer.queue.tryEnqueue dto).2.items) = _
              rw [one, List.foldl_append]
              rfl

structure Refines (worker : IndexerWorker ScVal Value) (contract : IndexerContract Value)
    (upsertEvent : State → InsertIndexedEventDTO Value → State × Bool)
    (events : List (NormalizedContractEvent Value)) (state : State)
    (result : PageWrites Value State × WriteBuffer Value) : Prop where
  direct : result.1 = directWrites contract upsertEvent events (noWrites state)
  empty : result.2.queue.items = []
  bounded : worker.Bounded result.2

theorem pageWrites_refines (empty : buffer.queue.items = []) :
    Refines worker contract upsertEvent events state
      (worker.pageWrites contract upsertEvent events state buffer) := by
  obtain ⟨direct, still⟩ :=
    bufferWrites_direct contract upsertEvent events (noWrites state) buffer bounded
  rw [empty] at direct
  have flushed : Flushed worker upsertEvent _ _ _ := flushWrites_flushed upsertEvent
    (worker.bufferWrites contract upsertEvent events (noWrites state) buffer).1 _ still
  exact ⟨flushed.writes.trans direct, flushed.empty, flushed.bounded⟩

theorem drainWrites_refines (empty : buffer.queue.items = []) :
    (worker.drainWrites contract upsertEvent pages state buffer).1 =
        directPages contract upsertEvent pages state ∧
      worker.Bounded (worker.drainWrites contract upsertEvent pages state buffer).2 := by
  induction pages generalizing state buffer with
  | nil => exact ⟨rfl, bounded⟩
  | cons events rest ih =>
      have page : Refines worker contract upsertEvent events state _ :=
        pageWrites_refines contract upsertEvent events state buffer bounded empty
      obtain ⟨others, still⟩ := ih
        (worker.pageWrites contract upsertEvent events state buffer).1.state _ page.bounded page.empty
      refine ⟨?_, still⟩
      simp only [drainWrites, directPages]
      rw [others, page.direct]

end

theorem directPages_accounted :
    List.Forall₂ (PageAccounted contract) pages (directPages contract upsertEvent pages state) := by
  induction pages generalizing state with
  | nil => exact .nil
  | cons events rest ih => exact .cons (directWrites_accounted events state) (ih _)

/-- For every capacity, batch size and sequence of pages with one queue. -/
theorem drainWrites_accounted (worker : IndexerWorker ScVal Value)
    (contract : IndexerContract Value)
    (upsertEvent : State → InsertIndexedEventDTO Value → State × Bool)
    (pages : List (List (NormalizedContractEvent Value))) (state : State) :
    (worker.drainWrites contract upsertEvent pages state worker.freshBuffer).1 =
        directPages contract upsertEvent pages state ∧
      List.Forall₂ (PageAccounted contract) pages
        (worker.drainWrites contract upsertEvent pages state worker.freshBuffer).1 ∧
      ∀ depth ∈ (worker.drainWrites contract upsertEvent pages state worker.freshBuffer).2.depths,
        depth ≤ worker.maxQueueSize := by
  have fresh : worker.Bounded worker.freshBuffer := by
    refine ⟨rfl, ?_⟩
    intro depth member
    cases member
  obtain ⟨direct, bounded⟩ :=
    drainWrites_refines contract upsertEvent pages state worker.freshBuffer fresh rfl
  refine ⟨direct, ?_, bounded.depths⟩
  rw [direct]
  exact directPages_accounted contract upsertEvent pages state

/-! ### The worker's own loops -/

end IndexerWorker

namespace IndexerWorker

variable (worker : IndexerWorker ScVal Value) (contract : IndexerContract Value)

end IndexerWorker

end AudioBlock.Indexer
