/-
Texts as lists of characters, with the white space and the lengths of the language.
-/
import Mathlib.Algebra.GroupWithZero.Nat
import Mathlib.Data.List.Basic

namespace AudioBlock.Foundation

/-- The white space that `trim` removes. -/
def isBlank (char : Char) : Bool :=
  char.toNat ∈ [9, 10, 11, 12, 13, 32, 0xA0, 0x1680, 0x2028, 0x2029, 0x202F, 0x205F, 0x3000, 0xFEFF] ∨
    0x2000 ≤ char.toNat ∧ char.toNat ≤ 0x200A

def trim (line : List Char) : List Char :=
  ((line.dropWhile isBlank).reverse.dropWhile isBlank).reverse

def utf16Length (text : List Char) : Nat :=
  (text.map fun char => if char.toNat < 0x10000 then 1 else 2).sum

theorem trim_of_no_blank {text : List Char} (none : ∀ char ∈ text, isBlank char = false) :
    trim text = text := by
  have kept : ∀ {chars : List Char}, (∀ char ∈ chars, isBlank char = false) →
      chars.dropWhile isBlank = chars := by
    intro chars none
    cases chars with
    | nil => rfl
    | cons head rest => exact List.dropWhile_cons_of_neg (by simp [none head List.mem_cons_self])
  unfold trim
  rw [kept none, kept fun char member => none char (List.mem_reverse.mp member), List.reverse_reverse]

/-- No piece holds the separator. -/
theorem not_mem_of_mem_splitOn {α : Type} [DecidableEq α] {separator : α} {text piece : List α}
    (member : piece ∈ text.splitOn separator) : separator ∉ piece := by
  induction text generalizing piece with
  | nil =>
      rw [List.splitOn_nil, List.mem_singleton] at member
      exact member ▸ List.not_mem_nil
  | cons head rest ih =>
      rw [List.splitOn_cons_eq_if_modifyHead] at member
      split at member
      · rcases List.mem_cons.mp member with rfl | later
        · exact List.not_mem_nil
        · exact ih later
      · rename_i different
        cases pieces : rest.splitOn separator with
        | nil => exact absurd pieces (List.splitOn_ne_nil separator rest)
        | cons first others =>
            rw [pieces] at member ih
            rcases List.mem_cons.mp member with rfl | later
            · intro within
              rcases List.mem_cons.mp within with same | inFirst
              · exact different (beq_iff_eq.mpr same.symm)
              · exact ih List.mem_cons_self inFirst
            · exact ih (List.mem_cons_of_mem _ later)

end AudioBlock.Foundation
