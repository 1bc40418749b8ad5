/-
Texts from which all matches of a pattern are erased, from left to right.

No match is empty.  What is left is a part of the text, letter by letter, and is all of it where
nothing matches.  Once letters come together over an erased match, the pattern can match again.
-/
import Mathlib.Data.List.Basic

namespace AudioBlock.Foundation

universe u

def eraseFrom {Letter : Type u} (after : List Letter → Option (List Letter)) :
    Nat → List Letter → List Letter
  | 0, text => text
  | _ + 1, [] => []
  | fuel + 1, letter :: text =>
      match after (letter :: text) with
      | some rest => eraseFrom after fuel rest
      | none => letter :: eraseFrom after fuel text

def eraseAll {Letter : Type u} (after : List Letter → Option (List Letter))
    (text : List Letter) : List Letter :=
  eraseFrom after text.length text

/-- What follows a match at the beginning of a text. -/
structure Pattern (Letter : Type u) where
  after : List Letter → Option (List Letter)
  consumes : ∀ text rest, after text = some rest → ∃ piece, piece ≠ [] ∧ text = piece ++ rest

namespace Pattern

variable {Letter : Type u} (pattern : Pattern Letter)

def erase (text : List Letter) : List Letter := eraseAll pattern.after text

/-- Nothing in the text matches. -/
def Free (text : List Letter) : Prop :=
  ∀ before rest, text = before ++ rest → pattern.after rest = none

variable {pattern} {text rest : List Letter} {letter : Letter}

theorem after_shorter (found : pattern.after text = some rest) : rest.length < text.length := by
  obtain ⟨piece, filled, rfl⟩ := pattern.consumes _ _ found
  have positive := List.length_pos_iff.mpr filled
  rw [List.length_append]
  omega

theorem after_nil : pattern.after [] = none := by
  cases found : pattern.after [] with
  | none => rfl
  | some rest => exact absurd (after_shorter found) (Nat.not_lt_zero _)

theorem eraseFrom_fuel {fuel : Nat} (enough : text.length ≤ fuel) :
    eraseFrom pattern.after fuel text = pattern.erase text := by
  unfold erase eraseAll
  induction fuel using Nat.strongRecOn generalizing text with
  | _ fuel ih =>
      cases text with
      | nil =>
          cases fuel with
          | zero => rfl
          | succ fuel => rfl
      | cons letter text =>
          cases fuel with
          | zero => exact absurd enough (by simp)
          | succ fuel =>
              rw [List.length_cons] at enough ⊢
              unfold eraseFrom
              cases found : pattern.after (letter :: text) with
              | none =>
                  exact congrArg (letter :: ·) (ih fuel (by omega) (by omega))
              | some rest =>
                  have shorter := after_shorter found
                  rw [List.length_cons] at shorter
                  dsimp only
                  rw [ih fuel (by omega) (by omega), ih text.length (by omega) (by omega)]

theorem erase_letter (absent : pattern.after (letter :: text) = none) :
    pattern.erase (letter :: text) = letter :: pattern.erase text := by
  unfold erase eraseAll
  rw [List.length_cons]
  conv_lhs => unfold eraseFrom
  rw [absent]

theorem erase_found (found : pattern.after text = some rest) :
    pattern.erase text = pattern.erase rest := by
  have shorter := after_shorter found
  cases text with
  | nil => exact absurd shorter (by simp)
  | cons letter text =>
      rw [List.length_cons] at shorter
      unfold erase eraseAll
      rw [List.length_cons]
      conv_lhs => unfold eraseFrom
      rw [found]
      exact eraseFrom_fuel (by omega)

/-- A text is empty, or begins with a match, or with a letter that stays. -/
@[elab_as_elim]
theorem erasing (pattern : Pattern Letter) {motive : List Letter → Prop} (nil : motive [])
    (found : ∀ text rest, pattern.after text = some rest → motive rest → motive text)
    (kept : ∀ letter text, pattern.after (letter :: text) = none → motive text →
      motive (letter :: text)) (text : List Letter) : motive text := by
  induction size : text.length using Nat.strongRecOn generalizing text with
  | _ length ih =>
      subst size
      cases text with
      | nil => exact nil
      | cons letter text =>
          cases matched : pattern.after (letter :: text) with
          | none => exact kept letter text matched (ih _ (Nat.lt_succ_self _) text rfl)
          | some rest => exact found _ rest matched (ih _ (after_shorter matched) rest rfl)

theorem erase_sublist (pattern : Pattern Letter) (text : List Letter) :
    (pattern.erase text).Sublist text := by
  induction text using erasing pattern with
  | nil => exact List.Sublist.refl []
  | found text rest matched ih =>
      obtain ⟨piece, _filled, rfl⟩ := pattern.consumes _ _ matched
      rw [erase_found matched]
      exact ih.trans (List.sublist_append_right piece rest)
  | kept letter text absent ih =>
      rw [erase_letter absent]
      exact ih.cons_cons letter

theorem erase_subset : pattern.erase text ⊆ text := (pattern.erase_sublist text).subset

/-! ### Letters that stay -/

/-- The first letter of what is left, where the text does not begin with a match. -/
theorem erase_kept {left : List Letter} (absent : pattern.after text = none)
    (erased : pattern.erase text = letter :: left) :
    ∃ rest, text = letter :: rest ∧ pattern.erase rest = left := by
  cases text with
  | nil => cases erased
  | cons first rest =>
      rw [erase_letter absent] at erased
      obtain ⟨rfl, tail⟩ := List.cons.inj erased
      exact ⟨rest, rfl, tail⟩

/-- A letter that is left was a letter of the text at which no match begins. -/
theorem erase_split {first last : List Letter}
    (erased : pattern.erase text = first ++ letter :: last) :
    ∃ before rest, text = before ++ letter :: rest ∧ pattern.after (letter :: rest) = none ∧
      pattern.erase rest = last := by
  induction text using erasing pattern generalizing first with
  | nil => exact absurd erased.symm (List.append_ne_nil_of_right_ne_nil _ (List.cons_ne_nil _ _))
  | found text rest matched ih =>
      rw [erase_found matched] at erased
      obtain ⟨piece, _filled, rfl⟩ := pattern.consumes _ _ matched
      obtain ⟨before, later, rfl, absent, tail⟩ := ih erased
      exact ⟨piece ++ before, later, (List.append_assoc _ _ _).symm, absent, tail⟩
  | kept next text absent ih =>
      rw [erase_letter absent] at erased
      cases first with
      | nil =>
          obtain ⟨rfl, tail⟩ := List.cons.inj erased
          exact ⟨[], text, rfl, absent, tail⟩
      | cons other first =>
          obtain ⟨before, later, rfl, absentLater, tail⟩ := ih (List.cons.inj erased).2
          exact ⟨next :: before, later, rfl, absentLater, tail⟩

/-! ### Texts without a match -/

theorem free_nil : pattern.Free [] := by
  intro before rest cut
  rw [(List.append_eq_nil_iff.mp cut.symm).2]
  exact after_nil

theorem free_cons_iff :
    pattern.Free (letter :: text) ↔ pattern.after (letter :: text) = none ∧ pattern.Free text := by
  constructor
  · intro free
    refine ⟨free [] _ rfl, fun before rest cut => ?_⟩
    exact free (letter :: before) rest (congrArg (letter :: ·) cut)
  · intro ⟨absent, free⟩ before rest cut
    cases before with
    | nil =>
        rw [List.nil_append] at cut
        rw [← cut]
        exact absent
    | cons first before => exact free before rest (List.cons.inj cut).2

theorem erase_eq_self_iff : pattern.erase text = text ↔ pattern.Free text := by
  induction text using erasing pattern with
  | nil => exact ⟨fun _ => free_nil, fun _ => rfl⟩
  | found text rest matched _ih =>
      constructor
      · intro same
        have shorter := after_shorter matched
        have left := (pattern.erase_sublist rest).length_le
        rw [← erase_found matched, same] at left
        exact absurd shorter (Nat.not_lt_of_le left)
      · intro free
        cases matched.symm.trans (free [] text rfl)
  | kept letter text absent ih =>
      rw [erase_letter absent, free_cons_iff, ← ih]
      constructor
      · intro same
        exact ⟨absent, (List.cons.inj same).2⟩
      · intro both
        rw [both.2]

/-! ### Erasing as a stage of several -/

def Shrinks (stage : List Letter → List Letter) : Prop :=
  ∀ text, (stage text).length ≤ text.length

theorem Shrinks.after_erase {later : List Letter → List Letter} (shrinks : Shrinks later)
    (pattern : Pattern Letter) : Shrinks (fun text => later (pattern.erase text)) :=
  fun text => Nat.le_trans (shrinks (pattern.erase text)) (pattern.erase_sublist text).length_le

/-- A text that comes out as it was has passed the first stage unchanged. -/
theorem Shrinks.erase_self {later : List Letter → List Letter} (shrinks : Shrinks later)
    (same : later (pattern.erase text) = text) : pattern.erase text = text := by
  have long := shrinks (pattern.erase text)
  rw [same] at long
  exact (pattern.erase_sublist text).eq_of_length_le long

end Pattern

end AudioBlock.Foundation
