/-
Circuit breakers by the states that they pass through.

A breaker opens, probes after a timeout, and closes or opens again by what the probe
shows.  `Follows` lists these changes, and `Cooled` says that a moment comes at least
the timeout after every opening.
-/
import Mathlib.Data.List.Basic

namespace AudioBlock.Foundation

inductive CircuitState
  | closed
  | opened
  | halfOpen
  deriving DecidableEq

namespace CircuitState

/-- The changes that a breaker is meant to make. -/
def Follows : CircuitState → CircuitState → Prop
  | closed, opened | opened, halfOpen | halfOpen, closed | halfOpen, opened => True
  | _, _ => False

instance : (before after : CircuitState) → Decidable (before.Follows after)
  | closed, opened | opened, halfOpen | halfOpen, closed | halfOpen, opened => isTrue trivial
  | closed, closed | closed, halfOpen | opened, closed | opened, opened
  | halfOpen, halfOpen => isFalse id

/-- A step leaves the state, or changes it as it is meant to. -/
def Keeps (before after : CircuitState) : Prop := before = after ∨ before.Follows after

instance (before after : CircuitState) : Decidable (before.Keeps after) :=
  inferInstanceAs (Decidable (_ ∨ _))

theorem Keeps.refl (state : CircuitState) : state.Keeps state := Or.inl rfl

end CircuitState

/-- Every opening lies at least the timeout back. -/
def Cooled (openings : List Nat) (timeout now : Nat) : Prop :=
  ∀ opening ∈ openings, opening + timeout ≤ now

instance (openings : List Nat) (timeout now : Nat) : Decidable (Cooled openings timeout now) :=
  inferInstanceAs (Decidable (∀ opening ∈ openings, _))

namespace Cooled

variable {openings : List Nat} {timeout now : Nat}

theorem later (cooled : Cooled openings timeout now) (more : Nat) :
    Cooled openings timeout (now + more) :=
  fun opening member => Nat.le_add_right_of_le (cooled opening member)

/-- What is the timeout after the latest opening is so after all of them. -/
theorem of_latest {latest : Nat} (before : ∀ opening ∈ openings, opening ≤ latest)
    (passed : latest + timeout ≤ now) : Cooled openings timeout now := by
  intro opening member
  have early := before opening member
  omega

end Cooled

end AudioBlock.Foundation
