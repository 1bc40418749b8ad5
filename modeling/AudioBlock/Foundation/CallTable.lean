/-
One call among the calls that are under way.

A call that goes on is placed at its own index.  What a call marks, the table of calls marks,
and the other calls mark the same before and after the step.
-/
import Mathlib.Data.List.Perm.Basic

namespace AudioBlock.Foundation

universe u v

/-- What holds of every answer, where there is one answer. -/
theorem only_answer {Answer : Type u} {holds : Answer → Prop} (answer : Answer) :
    (∀ given ∈ some answer, holds given) ↔ holds answer := by
  constructor
  · exact fun all => all answer rfl
  · intro held given member
    cases member
    exact held

variable {Call : Type u} {Mark : Type v} {calls : List Call} {index : Nat} {call : Call}

/-- What holds of every state that a call's answer leads to holds of every answer. -/
theorem lawful_call_iff {State : Type v} {Answer : Type u} {reply : Call → Option Answer}
    {leads : Answer → State} (holds : State → Prop) :
    (∀ after, (calls[index]?.bind fun call => (reply call).map leads) = some after → holds after) ↔
      ∀ call ∈ calls[index]?, ∀ answer ∈ reply call, holds (leads answer) := by
  constructor
  · intro lawful call present answer answered
    apply lawful
    rw [Option.mem_def.mp present, Option.bind_some, Option.mem_def.mp answered, Option.map_some]
  · intro lawful after moved
    obtain ⟨call, present, answered⟩ := Option.bind_eq_some_iff.mp moved
    obtain ⟨answer, member, same⟩ := Option.map_eq_some_iff.mp answered
    subst same
    exact lawful call present answer member

theorem mem_of_present (present : calls[index]? = some call) (other : Call) :
    other ∈ calls ↔ other = call ∨ other ∈ calls.eraseIdx index := by
  obtain ⟨inside, same⟩ := List.getElem?_eq_some_iff.mp present
  rw [← (List.getElem_cons_eraseIdx_perm inside).mem_iff, same, List.mem_cons]

theorem mem_placed (present : calls[index]? = some call) (next other : Call) :
    other ∈ calls.set index next ↔ other = next ∨ other ∈ calls.eraseIdx index := by
  obtain ⟨inside, _⟩ := List.getElem?_eq_some_iff.mp present
  rw [(List.set_perm_cons_eraseIdx inside next).mem_iff, List.mem_cons]

theorem marked_present (marks : Call → Option Mark) (present : calls[index]? = some call)
    {mark : Mark} :
    mark ∈ calls.filterMap marks ↔
      marks call = some mark ∨ mark ∈ (calls.eraseIdx index).filterMap marks := by
  simp only [List.mem_filterMap, mem_of_present present, or_and_right, exists_or, exists_eq_left]

theorem marked_placed (marks : Call → Option Mark) (present : calls[index]? = some call)
    (next : Call) {mark : Mark} :
    mark ∈ (calls.set index next).filterMap marks ↔
      marks next = some mark ∨ mark ∈ (calls.eraseIdx index).filterMap marks := by
  simp only [List.mem_filterMap, mem_placed present, or_and_right, exists_or, exists_eq_left]

/-- A mark stays where the call had another one, or none. -/
theorem marked_kept (marks : Call → Option Mark) (present : calls[index]? = some call)
    (next : Call) {mark : Mark} (other : marks call ≠ some mark)
    (marked : mark ∈ calls.filterMap marks) :
    mark ∈ (calls.set index next).filterMap marks := by
  apply (marked_placed marks present next).mpr
  exact Or.inr (((marked_present marks present).mp marked).resolve_left other)

end AudioBlock.Foundation
