/-
`BoundedEventQueue` under any order of its calls.

A call of `enqueue` that finds the queue full is parked.  Its promise is resolved when room is
made, and it reads the queue again when it resumes, in a later microtask: other calls may have
filled it by then.
-/
import AudioBlock.Foundation.Machine
import AudioBlock.Indexer.Worker

namespace AudioBlock.Indexer

open AudioBlock.Foundation

variable {α : Type}

/-- How an accepted item left the queue. -/
inductive Removal
  | returned
  | cleared
deriving DecidableEq, Repr

/-- A queue, the items of the calls that are parked and of those whose promise is resolved, and
two records: the items pushed, and those that left. -/
structure SharedQueue (α : Type) where
  queue : BoundedEventQueue α
  waiters : List α
  resolved : List α
  accepted : List α
  removed : List (α × Removal)

/-- A call, or the next turn of a resolved call of `enqueue`. -/
inductive QueueLabel (α : Type)
  | enqueue (item : α)
  | tryEnqueue (item : α)
  | dequeueBatch (batchSize : Int)
  | drain
  | clear
  | resume (place : Nat)
deriving DecidableEq, Repr

namespace SharedQueue

def fresh (maxSize : Nat) (positive : 0 < maxSize) : SharedQueue α :=
  { queue := BoundedEventQueue.empty maxSize positive, waiters := [], resolved := [], accepted := []
    removed := [] }

def tryEnqueue (shared : SharedQueue α) (item : α) : Bool × SharedQueue α :=
  if shared.queue.isFull = true then (false, shared)
  else
    (true,
      { shared with
        queue := (shared.queue.tryEnqueue item).2
        accepted := shared.accepted ++ [item] })

/-- One turn of `enqueue`: the loop ends where there is room, and parks the call otherwise. -/
def enqueue (shared : SharedQueue α) (item : α) : SharedQueue α :=
  if shared.queue.isFull = true then { shared with waiters := shared.waiters ++ [item] }
  else (shared.tryEnqueue item).2

def notifySpaceAvailable (shared : SharedQueue α) : SharedQueue α :=
  { shared with waiters := [], resolved := shared.resolved ++ shared.waiters }

def dequeueBatch (shared : SharedQueue α) (batchSize : Int) : List α × SharedQueue α :=
  if batchSize ≤ 0 ∨ shared.queue.isEmpty = true then ([], shared)
  else
    let (batch, queue) :=
      shared.queue.dequeueBatch (min batchSize.toNat shared.queue.items.length)
    (batch,
      { shared with
        queue
        removed := shared.removed ++ batch.map fun item => (item, Removal.returned) }.notifySpaceAvailable)

def drain (shared : SharedQueue α) : List α × SharedQueue α :=
  shared.dequeueBatch shared.queue.items.length

def clear (shared : SharedQueue α) : SharedQueue α :=
  { shared with
    queue := BoundedEventQueue.empty shared.queue.maxSize shared.queue.positive
    removed := shared.removed ++ shared.queue.items.map fun item => (item, Removal.cleared) }
  |>.notifySpaceAvailable

/-- The microtask of a resolved call. -/
def resume (shared : SharedQueue α) (place : Nat) : Option (SharedQueue α) :=
  match shared.resolved[place]? with
  | none => none
  | some item => some ({ shared with resolved := shared.resolved.eraseIdx place }.enqueue item)

def step (shared : SharedQueue α) : QueueLabel α → Option (SharedQueue α)
  | .enqueue item => some (shared.enqueue item)
  | .tryEnqueue item => some (shared.tryEnqueue item).2
  | .dequeueBatch batchSize => some (shared.dequeueBatch batchSize).2
  | .drain => some shared.drain.2
  | .clear => some shared.clear
  | .resume place => shared.resume place

end SharedQueue

def queueMachine (maxSize : Nat) (positive : 0 < maxSize) :
    Machine (SharedQueue α) (QueueLabel α) where
  initial shared := shared = SharedQueue.fresh maxSize positive
  step := SharedQueue.step

/-! ### What every call keeps -/

structure Backpressured (maxSize : Nat) (shared : SharedQueue α) : Prop where
  capacity : shared.queue.maxSize = maxSize
  order : shared.accepted = shared.removed.map Prod.fst ++ shared.queue.items
  parked : shared.waiters ≠ [] → shared.queue.isFull = true

namespace Backpressured

variable {maxSize : Nat} {shared : SharedQueue α}

theorem fresh (positive : 0 < maxSize) :
    Backpressured maxSize (SharedQueue.fresh (α := α) maxSize positive) :=
  ⟨rfl, rfl, fun parked => absurd rfl parked⟩

section

variable (holds : Backpressured maxSize shared)
include holds

theorem tryEnqueue (item : α) :
    Backpressured maxSize (shared.tryEnqueue item).2 := by
  unfold SharedQueue.tryEnqueue
  by_cases full : shared.queue.isFull = true
  · rw [if_pos full]
    exact holds
  · have room : shared.queue.isFull = false := Bool.eq_false_iff.mpr full
    have pushed := shared.queue.tryEnqueue_items item room
    rw [if_neg full]
    refine ⟨?_, ?_, ?_⟩
    · have same : (shared.queue.tryEnqueue item).2.maxSize = shared.queue.maxSize := by
        unfold BoundedEventQueue.tryEnqueue
        split <;> rfl
      exact same.trans holds.capacity
    · change shared.accepted ++ [item] = _ ++ (shared.queue.tryEnqueue item).2.items
      rw [pushed, holds.order, List.append_assoc]
    · intro parked
      exact absurd (holds.parked parked) full

theorem enqueue (item : α) :
    Backpressured maxSize (shared.enqueue item) := by
  unfold SharedQueue.enqueue
  by_cases full : shared.queue.isFull = true
  · rw [if_pos full]
    exact ⟨holds.capacity, holds.order, fun _parked => full⟩
  · rw [if_neg full]
    exact holds.tryEnqueue item

theorem dequeueBatch (batchSize : Int) :
    Backpressured maxSize (shared.dequeueBatch batchSize).2 := by
  unfold SharedQueue.dequeueBatch
  by_cases nothing : batchSize ≤ 0 ∨ shared.queue.isEmpty = true
  · rw [if_pos nothing]
    exact holds
  · rw [if_neg nothing]
    refine ⟨holds.capacity, ?_, fun parked => absurd rfl parked⟩
    have returned : ∀ batch : List α,
        (batch.map fun item => (item, Removal.returned)).map Prod.fst = batch := by
      intro batch
      rw [List.map_map]
      exact List.map_id batch
    change shared.accepted = (shared.removed ++ _).map Prod.fst ++ shared.queue.items.drop _
    rw [List.map_append, returned, holds.order, List.append_assoc]
    exact congrArg (shared.removed.map Prod.fst ++ ·) (List.take_append_drop _ _).symm

theorem clear : Backpressured maxSize shared.clear := by
  refine ⟨holds.capacity, ?_, fun parked => absurd rfl parked⟩
  have cleared : (shared.queue.items.map fun item => (item, Removal.cleared)).map Prod.fst =
      shared.queue.items := by
    rw [List.map_map]
    exact List.map_id _
  change shared.accepted = (shared.removed ++ _).map Prod.fst ++ []
  rw [List.map_append, cleared, holds.order, List.append_nil]

theorem resume {place : Nat} {after : SharedQueue α} (moved : shared.resume place = some after) :
    Backpressured maxSize after := by
  unfold SharedQueue.resume at moved
  cases found : shared.resolved[place]? with
  | none =>
      rw [found] at moved
      cases moved
  | some item =>
      rw [found] at moved
      cases moved
      have less : Backpressured maxSize
          { shared with resolved := shared.resolved.eraseIdx place } :=
        ⟨holds.capacity, holds.order, holds.parked⟩
      exact less.enqueue item

theorem step {label : QueueLabel α} {after : SharedQueue α}
    (moved : shared.step label = some after) :
    Backpressured maxSize after := by
  cases label with
  | enqueue item => exact Option.some.inj moved ▸ holds.enqueue item
  | tryEnqueue item => exact Option.some.inj moved ▸ holds.tryEnqueue item
  | dequeueBatch batchSize => exact Option.some.inj moved ▸ holds.dequeueBatch batchSize
  | drain => exact Option.some.inj moved ▸ holds.dequeueBatch _
  | clear => exact Option.some.inj moved ▸ holds.clear
  | resume place => exact holds.resume moved

end

end Backpressured

/-- The queue never outgrows its capacity, its items leave once and in order, and calls are parked
only while it is full. -/
theorem sharedQueue_backpressure (maxSize : Nat) (positive : 0 < maxSize)
    (labels : List (QueueLabel α)) (after : SharedQueue α)
    (ran : (queueMachine maxSize positive).run (SharedQueue.fresh maxSize positive) labels =
      some after) :
    after.queue.items.length ≤ maxSize ∧
      after.accepted = after.removed.map Prod.fst ++ after.queue.items ∧
      (after.waiters ≠ [] → after.queue.items.length = maxSize) := by
  have holds : Backpressured maxSize after :=
    Machine.run_preserves (Backpressured maxSize)
      (fun _before _label _after holds _allowed moved => holds.step moved) labels
      (Backpressured.fresh positive) (Machine.permits_always _ _ _) ran
  have bounded := after.queue.bounded
  rw [holds.capacity] at bounded
  refine ⟨bounded, holds.order, ?_⟩
  intro parked
  have full := of_decide_eq_true (holds.parked parked)
  rw [holds.capacity] at full
  exact Nat.le_antisymm bounded full

/-- Another call takes the room before the parked one resumes, which is parked again. -/
def overtaken : List (QueueLabel Nat) :=
  [.enqueue 1, .enqueue 2, .dequeueBatch 1, .tryEnqueue 3, .resume 0]

theorem sharedQueue_backpressure_overtaken : ∃ after : SharedQueue Nat,
    (queueMachine 1 (by decide)).run (SharedQueue.fresh 1 (by decide)) overtaken = some after ∧
      after.waiters = [2] ∧ after.queue.items.length = 1 := by
  refine ⟨_, rfl, rfl, ?_⟩
  exact (sharedQueue_backpressure 1 (by decide) overtaken _ rfl).2.2 (by decide)

end AudioBlock.Indexer
