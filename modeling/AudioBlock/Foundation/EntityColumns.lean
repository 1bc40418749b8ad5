/-
Entities whose properties may be undefined.

Saving an entity writes the properties that have a value, null included, and leaves the
columns of the others as they are stored.
-/

namespace AudioBlock.Foundation

universe u

inductive Property (Value : Type u)
  | undefined
  | value (value : Value)
  deriving DecidableEq

namespace Property

variable {Value : Type u}

/-- The column after the save. -/
def column (stored : Value) : Property Value → Value
  | undefined => stored
  | value written => written

@[simp] theorem column_undefined (stored : Value) : column stored .undefined = stored := rfl

@[simp] theorem column_value (stored written : Value) :
    column stored (.value written) = written := rfl

/-- A save that writes what the column is to hold, or leaves a column that holds it. -/
theorem column_eq {stored wanted : Value} {property : Property Value} (kept : stored = wanted)
    (written : ∀ assigned, property = .value assigned → assigned = wanted) :
    column stored property = wanted := by
  cases property with
  | undefined => exact kept
  | value assigned => exact written assigned rfl

end Property

end AudioBlock.Foundation
