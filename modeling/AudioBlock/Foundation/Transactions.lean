/-
Statements with positional parameters, and transactions that refuse what follows a failure.

An update assigns the parameter `$n` to a column, on the rows whose key is a parameter; `$1`
is the first one.  A transaction works on a copy: once a statement has failed it refuses all
others, and it leaves the database as it was unless it is committed.
-/
import Mathlib.Data.List.Nodup

namespace AudioBlock.Foundation

universe u v w

/-! ### Updates -/

section Updates

variable {Column : Type u} {Value : Type v} [DecidableEq Column]

/-- `UPDATE … SET column = $position, … WHERE keyColumn = $keyPosition`. -/
structure Update (Column : Type u) where
  assignments : List (Column × Nat)
  keyColumn : Column
  keyPosition : Nat

def parameter (parameters : List Value) (position : Nat) : Option Value :=
  if position = 0 then none else parameters[position - 1]?

namespace Update

def assigned (update : Update Column) (column : Column) : Option Nat :=
  (update.assignments.find? fun assignment => decide (assignment.1 = column)).map Prod.snd

def assign (update : Update Column) (parameters : List Value) (row : Column → Value) :
    Column → Value := fun column =>
  ((update.assigned column).bind (parameter parameters)).getD (row column)

def selects [DecidableEq Value] (update : Update Column) (parameters : List Value)
    (row : Column → Value) : Bool :=
  decide (parameter parameters update.keyPosition = some (row update.keyColumn))

def execute [DecidableEq Value] (update : Update Column) (parameters : List Value)
    (rows : List (Column → Value)) : List (Column → Value) :=
  rows.map fun row => if update.selects parameters row then update.assign parameters row else row

end Update

theorem find?_zipIdx {columns : List Column} (distinct : columns.Nodup) (first index : Nat)
    (inside : index < columns.length) :
    ((columns.zipIdx first).find? fun assignment => decide (assignment.1 = columns[index])) =
      some (columns[index], first + index) := by
  induction columns generalizing first index with
  | nil => exact absurd inside (Nat.not_lt_zero index)
  | cons head rest ih =>
      obtain ⟨fresh, restDistinct⟩ := List.nodup_cons.mp distinct
      rw [List.zipIdx_cons]
      cases index with
      | zero => exact List.find?_cons_of_pos (decide_eq_true rfl)
      | succ index =>
          have within : index < rest.length := Nat.lt_of_succ_lt_succ inside
          have apart : head ≠ rest[index] := fun same => fresh (same ▸ List.getElem_mem within)
          have later := ih restDistinct (first + 1) index within
          rw [Nat.add_right_comm, Nat.add_assoc] at later
          simpa only [List.find?_cons, List.getElem_cons_succ, apart, decide_false] using later

/-- Columns that are numbered from a first position on take their parameters one by one. -/
theorem Update.assign_numbered {update : Update Column} {fixed : List (Column × Nat)}
    {columns : List Column} {first : Nat}
    (built : update.assignments = fixed ++ columns.zipIdx first) (distinct : columns.Nodup)
    (parameters : List Value) (row : Column → Value) (index : Nat) (inside : index < columns.length)
    (apart : ∀ assignment ∈ fixed, assignment.1 ≠ columns[index]) :
    update.assign parameters row columns[index] =
      (parameter parameters (first + index)).getD (row columns[index]) := by
  have skipped : (fixed.find? fun assignment => decide (assignment.1 = columns[index])) = none :=
    List.find?_eq_none.mpr fun assignment member same =>
      apart assignment member (of_decide_eq_true same)
  unfold Update.assign Update.assigned
  rw [built, List.find?_append, skipped, Option.none_or, find?_zipIdx distinct first index inside]
  rfl

end Updates

/-! ### Transactions -/

section Transactions

variable {Database : Type u}

inductive Transaction (Database : Type u)
  | running (working : Database)
  | aborted

def abortedMessage : String :=
  "current transaction is aborted, commands ignored until end of transaction block"

namespace Transaction

def execute (statement : Database → Except String Database) :
    Transaction Database → Transaction Database × Except String Unit
  | .aborted => (.aborted, .error abortedMessage)
  | .running working =>
      match statement working with
      | .ok after => (.running after, .ok ())
      | .error message => (.aborted, .error message)

/-- Commits what the body leaves, unless it throws; an aborted transaction is rolled back. -/
def transact {Failure : Type v} {Result : Type w} (before : Database)
    (body : Transaction Database → Transaction Database × Except Failure Result) :
    Database × Except Failure Result :=
  match body (.running before) with
  | (_, .error failure) => (before, .error failure)
  | (.running after, .ok result) => (after, .ok result)
  | (.aborted, .ok result) => (before, .ok result)

variable {statement : Database → Except String Database}

theorem execute_ok {working after : Database} (done : statement working = .ok after) :
    execute statement (.running working) = (.running after, .ok ()) := by
  unfold execute
  dsimp only
  rw [done]

theorem execute_error {working : Database} {message : String}
    (failed : statement working = .error message) :
    execute statement (.running working) = (.aborted, .error message) := by
  unfold execute
  dsimp only
  rw [failed]

/-- What is done if the body does not throw is what it leaves. -/
theorem transact_ok {Failure : Type v} {Result : Type w} {before after : Database}
    {body : Transaction Database → Transaction Database × Except Failure Result} {result : Result}
    (left : body (.running before) = (.running after, .ok result)) :
    transact before body = (after, .ok result) := by
  unfold transact
  rw [left]

theorem transact_error {Failure : Type v} {Result : Type w} {before : Database}
    {body : Transaction Database → Transaction Database × Except Failure Result}
    {transaction : Transaction Database} {failure : Failure}
    (left : body (.running before) = (transaction, .error failure)) :
    transact before body = (before, .error failure) := by
  unfold transact
  rw [left]

end Transaction

end Transactions

end AudioBlock.Foundation
