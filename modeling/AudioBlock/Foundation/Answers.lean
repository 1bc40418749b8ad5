/-
Operations that may throw.

An operation answers with a failure or with the state that it leaves.  One that
throws leaves the state as it was, and one that succeeds in two steps succeeds in
each of them.
-/

namespace AudioBlock.Foundation

universe u v w

def commit {State : Type u} {Failure : Type v} (state : State) (answer : Except Failure State) :
    State :=
  match answer with
  | .error _ => state
  | .ok saved => saved

/-- What holds before an operation and after its success holds of what it leaves. -/
theorem commit_keeps {State : Type u} {Failure : Type v} (holds : State → Prop) {state : State}
    {answer : Except Failure State} (before : holds state)
    (keeps : ∀ saved, answer = .ok saved → holds saved) : holds (commit state answer) := by
  cases answer with
  | error failure => exact before
  | ok saved => exact keeps saved rfl

theorem ok_of_bind {Failure : Type u} {Value Result : Type v} {first : Except Failure Value}
    {next : Value → Except Failure Result} {result : Result}
    (done : (first >>= next) = .ok result) :
    ∃ value, first = .ok value ∧ next value = .ok result := by
  cases first with
  | error failure => cases done
  | ok value => exact ⟨value, rfl, done⟩

end AudioBlock.Foundation
