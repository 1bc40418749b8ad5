/-
Texts as lists of UTF-16 code units, with what the regular expressions read in them.
-/
import Mathlib.Data.List.Basic
import Mathlib.Data.List.TakeWhile

namespace AudioBlock.Foundation

/-! ### Code units -/

def units (text : String) : List UInt16 :=
  text.toList.flatMap fun char =>
    if char.toNat < 0x10000 then [char.toNat.toUInt16]
    else [(0xD800 + (char.toNat - 0x10000) / 0x400).toUInt16,
      (0xDC00 + (char.toNat - 0x10000) % 0x400).toUInt16]

/-- `slice(0, limit)`: a negative limit counts from the end. -/
def sliceTo (limit : Int) (text : List UInt16) : List UInt16 :=
  if 0 ≤ limit then text.take limit.toNat else text.take (text.length - (-limit).toNat)

/-- What `\s` matches. -/
def isSpace (unit : UInt16) : Bool :=
  unit.toNat ∈ [9, 10, 11, 12, 13, 32, 0xA0, 0x1680, 0x2028, 0x2029, 0x202F, 0x205F, 0x3000, 0xFEFF] ∨
    0x2000 ≤ unit.toNat ∧ unit.toNat ≤ 0x200A

/-- The comparison of the flag `i`.  No unit outside of ASCII folds to one of ASCII. -/
def foldCase (unit : UInt16) : Nat :=
  if 97 ≤ unit.toNat ∧ unit.toNat ≤ 122 then unit.toNat - 32 else unit.toNat

/-- What follows a literal, with the flag `i`. -/
def afterLiteral : List UInt16 → List UInt16 → Option (List UInt16)
  | [], text => some text
  | _ :: _, [] => none
  | letter :: literal, unit :: text =>
      if foldCase letter = foldCase unit then afterLiteral literal text else none

/-- What follows `\s*`, where no space may follow it. -/
def afterSpaces (text : List UInt16) : List UInt16 := text.dropWhile isSpace

def isNameLetter (unit : UInt16) : Bool :=
  decide (65 ≤ unit.toNat) && decide (unit.toNat ≤ 90) || decide (unit.toNat = 95)

theorem afterLiteral_iff {literal text rest : List UInt16} :
    afterLiteral literal text = some rest ↔
      ∃ spelled, spelled.map foldCase = literal.map foldCase ∧ text = spelled ++ rest := by
  induction literal generalizing text with
  | nil =>
      constructor
      · intro found
        exact ⟨[], rfl, Option.some.inj found⟩
      · rintro ⟨spelled, same, rfl⟩
        rw [List.map_nil, List.map_eq_nil_iff] at same
        rw [same]
        rfl
  | cons letter literal ih =>
      cases text with
      | nil =>
          constructor
          · intro found
            cases found
          · rintro ⟨spelled, same, cut⟩
            obtain ⟨rfl, _⟩ := List.append_eq_nil_iff.mp cut.symm
            cases same
      | cons unit text =>
          unfold afterLiteral
          split
          · rename_i folds
            rw [ih]
            constructor
            · rintro ⟨spelled, same, rfl⟩
              refine ⟨unit :: spelled, ?_, rfl⟩
              rw [List.map_cons, List.map_cons, same, folds]
            · rintro ⟨spelled, same, cut⟩
              cases spelled with
              | nil => cases same
              | cons first spelled =>
                  obtain ⟨rfl, tail⟩ := List.cons.inj cut
                  exact ⟨spelled, (List.cons.inj same).2, tail⟩
          · rename_i differs
            constructor
            · intro found
              cases found
            · rintro ⟨spelled, same, cut⟩
              cases spelled with
              | nil => cases same
              | cons first spelled =>
                  obtain ⟨rfl, _⟩ := List.cons.inj cut
                  exact absurd (List.cons.inj same).1.symm differs

theorem foldCase_low {letter unit : UInt16} (low : letter.toNat < 65)
    (same : foldCase unit = foldCase letter) : unit = letter := by
  unfold foldCase at same
  apply UInt16.toNat_inj.mp
  split at same <;> split at same <;> omega

/-- Without letters a literal has one spelling. -/
theorem afterLiteral_low {literal text rest : List UInt16}
    (low : ∀ letter ∈ literal, letter.toNat < 65) :
    afterLiteral literal text = some rest ↔ text = literal ++ rest := by
  rw [afterLiteral_iff]
  constructor
  · rintro ⟨spelled, same, rfl⟩
    have equal : spelled = literal := by
      induction literal generalizing spelled with
      | nil => exact List.map_eq_nil_iff.mp same
      | cons letter literal ih =>
          cases spelled with
          | nil => cases same
          | cons unit spelled =>
              have ⟨first, others⟩ := List.cons.inj same
              rw [foldCase_low (low letter List.mem_cons_self) first,
                ih (fun letter member => low letter (List.mem_cons_of_mem _ member)) spelled others]
    rw [equal]
  · intro cut
    exact ⟨literal, rfl, cut⟩

theorem afterSpaces_append {spaces rest : List UInt16} (allSpaces : ∀ unit ∈ spaces, isSpace unit)
    (ends : ∀ unit, rest.head? = some unit → isSpace unit = false) :
    afterSpaces (spaces ++ rest) = rest := by
  unfold afterSpaces
  induction spaces with
  | nil =>
      cases rest with
      | nil => rfl
      | cons unit rest => exact List.dropWhile_cons_of_neg (by rw [ends unit rfl]; decide)
  | cons space spaces ih =>
      rw [List.cons_append, List.dropWhile_cons_of_pos (allSpaces space List.mem_cons_self)]
      exact ih fun unit member => allSpaces unit (List.mem_cons_of_mem _ member)

theorem afterSpaces_split (text : List UInt16) :
    ∃ spaces, (∀ unit ∈ spaces, isSpace unit) ∧ text = spaces ++ afterSpaces text :=
  ⟨text.takeWhile isSpace, fun _ member => List.mem_takeWhile_imp member,
    List.takeWhile_append_dropWhile.symm⟩

/-- A spelling of a name has no space and no bracket. -/
theorem nameLetter_plain {letter unit : UInt16} (name : isNameLetter letter)
    (same : foldCase unit = foldCase letter) :
    isSpace unit = false ∧ unit ≠ 60 ∧ unit ≠ 62 := by
  have bounds : 65 ≤ unit.toNat ∧ unit.toNat ≤ 122 := by
    unfold isNameLetter at name
    unfold foldCase at same
    rw [Bool.or_eq_true, Bool.and_eq_true, decide_eq_true_eq, decide_eq_true_eq,
      decide_eq_true_eq] at name
    split at same <;> split at same <;> omega
  refine ⟨?_, ?_, ?_⟩
  · unfold isSpace
    rw [decide_eq_false_iff_not]
    simp only [List.mem_cons, List.not_mem_nil, or_false]
    omega
  · rintro rfl
    exact absurd bounds (by decide)
  · rintro rfl
    exact absurd bounds (by decide)

end AudioBlock.Foundation
