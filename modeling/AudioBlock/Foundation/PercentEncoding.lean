/-
Percent-encoding of paths, for any choice of the characters that stay as they are.

Letters, digits and slashes always stay and white space never does.  Every other character
that does not stay becomes its UTF-8 bytes, each as two upper-case digits after a `%`.
-/
import AudioBlock.Foundation.ByteTexts
import AudioBlock.Foundation.Text

namespace AudioBlock.Foundation

structure PercentEncoding where
  keeps : Char → Bool
  alphanumeric : ∀ char, char.isAlphanum = true → keeps char = true
  slash : keeps '/' = true
  blank : ∀ char, isBlank char = true → keeps char = false

def escape (char : Char) : List Char :=
  (String.utf8EncodeChar char).flatMap fun byte => '%' :: (showHex [byte]).map Char.toUpper

theorem escape_long (char : Char) : 1 < (escape char).length := by
  unfold escape
  cases bytes : String.utf8EncodeChar char with
  | nil =>
      have length := String.length_utf8EncodeChar char
      have positive := char.utf8Size_pos
      rw [bytes, List.length_nil] at length
      omega
  | cons byte rest =>
      rw [List.flatMap_cons, List.length_append, List.length_cons, List.length_map, length_showHex,
        List.length_singleton]
      omega

theorem upperDigit_not_blank : ∀ digit < 16, isBlank (Nat.digitChar digit).toUpper = false := by
  decide

theorem escape_not_blank {char shown : Char} (member : shown ∈ escape char) :
    isBlank shown = false := by
  obtain ⟨byte, _among, within⟩ := List.mem_flatMap.mp member
  have bound := byte.toNat_lt
  rcases List.mem_cons.mp within with rfl | digit
  · decide
  · obtain ⟨lower, digits, rfl⟩ := List.mem_map.mp digit
    simp only [showHex, List.flatMap_cons, List.flatMap_nil, List.append_nil] at digits
    rcases List.mem_pair.mp digits with rfl | rfl
    · exact upperDigit_not_blank _ (by omega)
    · exact upperDigit_not_blank _ (by omega)

namespace PercentEncoding

variable (encoding : PercentEncoding)

def encode (text : List Char) : List Char :=
  text.flatMap fun char => if encoding.keeps char then [char] else escape char

theorem encode_cons_kept {char : Char} (kept : encoding.keeps char = true) (rest : List Char) :
    encoding.encode (char :: rest) = char :: encoding.encode rest := by
  simp only [encode, List.flatMap_cons, kept, if_true, List.cons_append, List.nil_append]

theorem encode_kept {text : List Char} (kept : ∀ char ∈ text, encoding.keeps char = true) :
    encoding.encode text = text := by
  induction text with
  | nil => rfl
  | cons head rest ih =>
      rw [encoding.encode_cons_kept (kept head List.mem_cons_self),
        ih fun char member => kept char (List.mem_cons_of_mem head member)]

theorem length_le_encode (text : List Char) : text.length ≤ (encoding.encode text).length := by
  induction text with
  | nil => exact Nat.le_refl 0
  | cons head rest ih =>
      simp only [encode, List.flatMap_cons, List.length_append, List.length_cons] at ih ⊢
      split
      · simp only [List.length_cons, List.length_nil]
        omega
      · have long := escape_long head
        omega

/-- What does not stay makes the text longer. -/
theorem length_lt_encode {text : List Char} {char : Char} (member : char ∈ text)
    (changed : encoding.keeps char = false) : text.length < (encoding.encode text).length := by
  obtain ⟨before, after, rfl⟩ := List.append_of_mem member
  have head := encoding.length_le_encode before
  have tail := encoding.length_le_encode after
  have long := escape_long char
  simp only [encode, List.flatMap_append, List.flatMap_cons, List.length_append, List.length_cons,
    changed] at head tail ⊢
  simp only [Bool.false_eq_true, if_false]
  omega

theorem encode_not_blank (text : List Char) :
    ∀ char ∈ encoding.encode text, isBlank char = false := by
  intro char member
  obtain ⟨source, _among, shown⟩ := List.mem_flatMap.mp member
  split at shown
  · rename_i kept
    rw [List.mem_singleton.mp shown]
    cases blank : isBlank source with
    | false => rfl
    | true => cases (encoding.blank source blank).symm.trans kept
  · exact escape_not_blank shown

end PercentEncoding

/-! ### The unreserved characters -/

def isUnreserved (char : Char) : Bool :=
  char.isAlphanum || char == '-' || char == '.' || char == '_' || char == '~'

theorem unreserved_visible {char : Char} (kept : (isUnreserved char || char == '/') = true) :
    32 < char.toNat ∧ char.toNat < 127 := by
  have between : ∀ low high : UInt32, low ≤ char.val → char.val ≤ high →
      32 < low.toNat → high.toNat < 127 → 32 < char.toNat ∧ char.toNat < 127 :=
    fun low high above below visible ascii =>
      ⟨Nat.lt_of_lt_of_le visible above, Nat.lt_of_le_of_lt below ascii⟩
  delta isUnreserved Char.isAlphanum Char.isAlpha Char.isUpper Char.isLower Char.isDigit at kept
  simp only [Bool.or_eq_true, Bool.and_eq_true, decide_eq_true_eq, beq_iff_eq] at kept
  rcases kept with
    ((((((⟨above, below⟩ | ⟨above, below⟩) | ⟨above, below⟩) | rfl) | rfl) | rfl) | rfl) | rfl
  · exact between _ _ above below (by decide) (by decide)
  · exact between _ _ above below (by decide) (by decide)
  · exact between _ _ above below (by decide) (by decide)
  · decide
  · decide
  · decide
  · decide
  · decide

theorem blank_not_unreserved {char : Char} (blank : isBlank char = true) :
    (isUnreserved char || char == '/') = false := by
  cases kept : (isUnreserved char || char == '/') with
  | false => rfl
  | true =>
      have bounds := unreserved_visible kept
      simp only [isBlank, List.mem_cons, List.not_mem_nil, or_false, decide_eq_true_eq] at blank
      omega

def unreservedPaths : PercentEncoding where
  keeps char := isUnreserved char || char == '/'
  alphanumeric char alphanumeric := by simp [isUnreserved, alphanumeric]
  slash := rfl
  blank _char := blank_not_unreserved

end AudioBlock.Foundation
