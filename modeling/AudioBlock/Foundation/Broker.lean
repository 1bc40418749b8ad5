/-
A queue whose messages are held by consumers until they are settled.

A message that is settled leaves the queue.  One that is rejected without being requeued, or
that expires, goes to the dead letters if its queue was declared with them, and is dropped
otherwise.  The work of a consumer may go on after it has lost its message.
-/
import Mathlib.Algebra.GroupWithZero.Nat

namespace AudioBlock.Foundation

universe u v

structure Consumption (Message : Type u) (Work : Type v) where
  message : Message
  work : Option Work
  holds : Bool
  deriving DecidableEq

structure QueueOptions where
  deadLetters : Bool

structure Broker (Message : Type u) (Work : Type v) where
  waiting : List Message
  consumed : List (Consumption Message Work)
  dead : List Message
  deriving DecidableEq

namespace Broker

variable {Message : Type u} {Work : Type v}

def publish (broker : Broker Message Work) (message : Message) : Broker Message Work :=
  { broker with waiting := broker.waiting ++ [message] }

def deliver (broker : Broker Message Work) (index : Nat) (message : Message)
    (work : Option Work) : Broker Message Work :=
  { broker with
    waiting := broker.waiting.eraseIdx index
    consumed := broker.consumed ++ [{ message := message, work := work, holds := true }] }

def withConsumption (broker : Broker Message Work) (index : Nat)
    (consumption : Consumption Message Work) : Broker Message Work :=
  { broker with consumed := broker.consumed.set index consumption }

def release (broker : Broker Message Work) (index : Nat)
    (consumption : Consumption Message Work) : Broker Message Work :=
  broker.withConsumption index { consumption with holds := false }

def requeue (broker : Broker Message Work) (index : Nat)
    (consumption : Consumption Message Work) : Broker Message Work :=
  (broker.release index consumption).publish consumption.message

def discard (options : QueueOptions) (broker : Broker Message Work) (message : Message) :
    Broker Message Work :=
  if options.deadLetters then { broker with dead := broker.dead ++ [message] } else broker

/-- A `nack` without requeue. -/
def reject (options : QueueOptions) (broker : Broker Message Work) (index : Nat)
    (consumption : Consumption Message Work) : Broker Message Work :=
  (broker.release index consumption).discard options consumption.message

def expire (options : QueueOptions) (broker : Broker Message Work) (index : Nat)
    (message : Message) : Broker Message Work :=
  discard options { broker with waiting := broker.waiting.eraseIdx index } message

def copies (broker : Broker Message Work) : Nat :=
  broker.waiting.length + broker.consumed.countP Consumption.holds + broker.dead.length

/-! ### Counting the copies -/

variable {broker : Broker Message Work} {index : Nat} {message : Message}
  {consumption : Consumption Message Work}

@[simp] theorem copies_publish :
    (broker.publish message).copies = broker.copies + 1 := by
  simp only [copies, publish, List.length_append, List.length_singleton]
  omega

theorem length_eraseIdx_of_found {Element : Type u} {list : List Element} {element : Element}
    (found : list[index]? = some element) :
    (list.eraseIdx index).length + 1 = list.length := by
  obtain ⟨inside, _⟩ := List.getElem?_eq_some_iff.mp found
  rw [List.length_eraseIdx_of_lt inside]
  omega

theorem copies_deliver {work : Option Work} (found : broker.waiting[index]? = some message) :
    (broker.deliver index message work).copies = broker.copies := by
  have shorter := length_eraseIdx_of_found found
  simp only [copies, deliver, List.countP_append, List.countP_singleton, if_true]
  omega

theorem countP_set_of_found {Element : Type u} {list : List Element} {element : Element}
    (counts : Element → Bool) (other : Element) (found : list[index]? = some element) :
    (list.set index other).countP counts + (if counts element then 1 else 0) =
      list.countP counts + (if counts other then 1 else 0) := by
  obtain ⟨inside, same⟩ := List.getElem?_eq_some_iff.mp found
  have counted : counts element → 0 < list.countP counts := fun counts =>
    List.countP_pos_iff.mpr ⟨element, List.mem_of_getElem? found, counts⟩
  rw [List.countP_set inside, same]
  split
  · rename_i holds
    have positive := counted holds
    omega
  · omega

variable {other : Consumption Message Work}

/-- A consumer that holds its message as before keeps the number of copies. -/
theorem copies_withConsumption (found : broker.consumed[index]? = some consumption)
    (same : other.holds = consumption.holds) :
    (broker.withConsumption index other).copies = broker.copies := by
  have counted := countP_set_of_found Consumption.holds other found
  rw [same] at counted
  simp only [copies, withConsumption]
  omega

theorem consumed_withConsumption (found : broker.consumed[index]? = some consumption) :
    (broker.withConsumption index other).consumed[index]? = some other := by
  obtain ⟨inside, _⟩ := List.getElem?_eq_some_iff.mp found
  exact List.getElem?_set_self inside

theorem copies_release (found : broker.consumed[index]? = some consumption)
    (holds : consumption.holds = true) :
    (broker.release index other).copies + 1 = broker.copies := by
  have counted := countP_set_of_found Consumption.holds { other with holds := false } found
  simp only [holds, if_true, Bool.false_eq_true, if_false] at counted
  simp only [copies, release, withConsumption]
  omega

theorem copies_requeue (found : broker.consumed[index]? = some consumption)
    (holds : consumption.holds = true) :
    (broker.requeue index other).copies = broker.copies := by
  have released : (broker.release index other).copies + 1 = broker.copies :=
    copies_release found holds
  simp only [requeue, copies_publish]
  omega

theorem copies_discard (options : QueueOptions) :
    (broker.discard options message).copies =
      broker.copies + (if options.deadLetters then 1 else 0) := by
  unfold discard
  split
  · simp only [copies, List.length_append, List.length_singleton]
    omega
  · rfl

/-- A rejected message is a dead letter or lost. -/
theorem copies_reject (options : QueueOptions)
    (found : broker.consumed[index]? = some consumption) (holds : consumption.holds = true) :
    (broker.reject options index other).copies + 1 =
      broker.copies + (if options.deadLetters then 1 else 0) := by
  have released : (broker.release index other).copies + 1 = broker.copies :=
    copies_release found holds
  rw [reject, copies_discard]
  omega

theorem copies_expire (options : QueueOptions) (found : broker.waiting[index]? = some message) :
    (broker.expire options index message).copies + 1 =
      broker.copies + (if options.deadLetters then 1 else 0) := by
  have shorter := length_eraseIdx_of_found found
  rw [expire, copies_discard]
  simp only [copies]
  omega

/-! ### What every message that can still be delivered satisfies -/

structure Every (property : Message → Option Work → Prop) (broker : Broker Message Work) :
    Prop where
  waiting : ∀ message ∈ broker.waiting, property message none
  consumed : ∀ consumption ∈ broker.consumed, consumption.holds →
    property consumption.message consumption.work

variable {property : Message → Option Work → Prop}

theorem Every.publish (every : Every property broker) (good : property message none) :
    Every property (broker.publish message) where
  waiting other member := by
    rcases List.mem_append.mp member with earlier | added
    · exact every.waiting other earlier
    · exact List.mem_singleton.mp added ▸ good
  consumed := every.consumed

theorem Every.deliver {work : Option Work} (every : Every property broker)
    (good : property message work) : Every property (broker.deliver index message work) where
  waiting other member := every.waiting other (List.mem_of_mem_eraseIdx member)
  consumed other member holds := by
    rcases List.mem_append.mp member with earlier | added
    · exact every.consumed other earlier holds
    · exact List.mem_singleton.mp added ▸ good

theorem Every.withConsumption (every : Every property broker)
    (good : consumption.holds → property consumption.message consumption.work) :
    Every property (broker.withConsumption index consumption) where
  waiting := every.waiting
  consumed other member holds := by
    rcases List.mem_or_eq_of_mem_set member with earlier | same
    · exact every.consumed other earlier holds
    · exact same ▸ good (same ▸ holds)

theorem Every.release (every : Every property broker) :
    Every property (broker.release index consumption) :=
  every.withConsumption fun holds => absurd holds Bool.false_ne_true

theorem Every.requeue (every : Every property broker) (good : property consumption.message none) :
    Every property (broker.requeue index consumption) :=
  every.release.publish good

theorem Every.discard (options : QueueOptions) (every : Every property broker) :
    Every property (broker.discard options message) := by
  unfold Broker.discard
  split
  · exact ⟨every.waiting, every.consumed⟩
  · exact every

theorem Every.reject (options : QueueOptions) (every : Every property broker) :
    Every property (broker.reject options index consumption) :=
  every.release.discard options

theorem Every.expire (options : QueueOptions) (every : Every property broker) :
    Every property (broker.expire options index message) :=
  Every.discard options ⟨fun other member => every.waiting other (List.mem_of_mem_eraseIdx member),
    every.consumed⟩

theorem copies_pos_of_held (found : broker.consumed[index]? = some consumption)
    (holds : consumption.holds = true) : 0 < broker.copies := by
  have released : (broker.release index consumption).copies + 1 = broker.copies :=
    copies_release found holds
  omega

theorem copies_pos_of_waiting (found : broker.waiting[index]? = some message) :
    0 < broker.copies := by
  have shorter := length_eraseIdx_of_found found
  unfold copies
  omega

/-- Without copies there is nothing that could fail the property. -/
theorem Every.of_no_copies (empty : broker.copies = 0) : Every property broker where
  waiting other member := by
    obtain ⟨index, found⟩ := List.getElem?_of_mem member
    exact absurd empty (Nat.ne_of_gt (copies_pos_of_waiting found))
  consumed other member holds := by
    obtain ⟨index, found⟩ := List.getElem?_of_mem member
    exact absurd empty (Nat.ne_of_gt (copies_pos_of_held found holds))

end Broker

end AudioBlock.Foundation
