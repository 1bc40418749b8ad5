/-
Bytes and the texts that stand for them: hexadecimal digits, and UTF-8 with the
replacement character for what is not UTF-8.
-/
import Mathlib.Data.List.Basic

namespace AudioBlock.Foundation

/-! ### Hexadecimal texts -/

def showHex (bytes : List UInt8) : List Char :=
  bytes.flatMap fun byte => [Nat.digitChar (byte.toNat / 16), Nat.digitChar (byte.toNat % 16)]

def hexValue (char : Char) : Option Nat :=
  if char.isDigit then some (char.toNat - 48)
  else if 97 ≤ char.toNat ∧ char.toNat ≤ 102 then some (char.toNat - 87)
  else if 65 ≤ char.toNat ∧ char.toNat ≤ 70 then some (char.toNat - 55)
  else none

/-- The bytes up to the first pair that is not of two digits. -/
def readHex : List Char → List UInt8
  | high :: low :: rest =>
      match hexValue high, hexValue low with
      | some upper, some lower => UInt8.ofNat (16 * upper + lower) :: readHex rest
      | _, _ => []
  | _ => []

def isLowerHex (char : Char) : Bool :=
  char.isDigit || (decide (97 ≤ char.toNat) && decide (char.toNat ≤ 102))

theorem hexValue_digitChar : ∀ digit < 16, hexValue (Nat.digitChar digit) = some digit := by
  decide

theorem isLowerHex_digitChar : ∀ digit < 16, isLowerHex (Nat.digitChar digit) = true := by
  decide

theorem readHex_showHex (bytes : List UInt8) : readHex (showHex bytes) = bytes := by
  induction bytes with
  | nil => rfl
  | cons byte rest ih =>
      have bound := byte.toNat_lt
      have upper := hexValue_digitChar (byte.toNat / 16) (by omega)
      have lower := hexValue_digitChar (byte.toNat % 16) (by omega)
      have whole : 16 * (byte.toNat / 16) + byte.toNat % 16 = byte.toNat := by omega
      unfold showHex at ih ⊢
      simp only [List.flatMap_cons, List.cons_append, List.nil_append, readHex, upper, lower, whole,
        ih, UInt8.ofNat_toNat]

theorem length_showHex (bytes : List UInt8) : (showHex bytes).length = 2 * bytes.length := by
  induction bytes with
  | nil => rfl
  | cons byte rest ih =>
      unfold showHex at ih ⊢
      simp only [List.flatMap_cons, List.length_append, List.length_cons, List.length_nil, ih]
      omega

theorem showHex_lower (bytes : List UInt8) : ∀ char ∈ showHex bytes, isLowerHex char = true := by
  intro char member
  unfold showHex at member
  obtain ⟨byte, _, digit⟩ := List.mem_flatMap.1 member
  have bound := byte.toNat_lt
  rcases List.mem_pair.1 digit with rfl | rfl
  · exact isLowerHex_digitChar _ (by omega)
  · exact isLowerHex_digitChar _ (by omega)

theorem isLowerHex_bound {char : Char} (lower : isLowerHex char = true) : char.toNat < 103 := by
  unfold isLowerHex at lower
  rcases Bool.or_eq_true_iff.1 lower with digit | letter
  · have digits := (Char.isDigit_iff_toNat.1 digit).2
    exact Nat.lt_of_le_of_lt digits (by decide)
  · exact Nat.lt_succ_of_le (of_decide_eq_true (Bool.and_eq_true_iff.1 letter).2)

/-- A lower-case digit is the one that its value shows. -/
theorem hexValue_lower {char : Char} (lower : isLowerHex char = true) :
    ∃ value < 16, hexValue char = some value ∧ Nat.digitChar value = char := by
  have table : ∀ code < 103, isLowerHex (Char.ofNat code) = true →
      ∃ value < 16, hexValue (Char.ofNat code) = some value ∧
        Nat.digitChar value = Char.ofNat code := by
    decide +kernel
  have entry := table char.toNat (isLowerHex_bound lower)
  rw [Char.ofNat_toNat] at entry
  exact entry lower

theorem showHex_readHex : ∀ {text : List Char}, text.length % 2 = 0 →
    (∀ char ∈ text, isLowerHex char = true) → showHex (readHex text) = text
  | [], _, _ => rfl
  | [_], odd, _ => absurd odd (by simp)
  | high :: low :: rest, even, lower => by
      obtain ⟨upper, upperBound, highValue, highDigit⟩ :=
        hexValue_lower (lower high List.mem_cons_self)
      obtain ⟨under, underBound, lowValue, lowDigit⟩ :=
        hexValue_lower (lower low (List.mem_cons_of_mem _ List.mem_cons_self))
      have rest_even : rest.length % 2 = 0 := by
        rw [List.length_cons, List.length_cons] at even
        omega
      have ih := showHex_readHex rest_even fun char member =>
        lower char (List.mem_cons_of_mem _ (List.mem_cons_of_mem _ member))
      have small : 16 * upper + under < 256 := by omega
      have upperDigit : (16 * upper + under) / 16 = upper := by omega
      have underDigit : (16 * upper + under) % 16 = under := by omega
      unfold showHex at ih ⊢
      simp only [readHex, highValue, lowValue, List.flatMap_cons, UInt8.toNat_ofNat_of_lt' small,
        upperDigit, underDigit, highDigit, lowDigit, ih, List.cons_append, List.nil_append]

/-! ### UTF-8 -/

def utf8 (text : List Char) : List UInt8 := text.flatMap String.utf8EncodeChar

def isContinuation (byte : UInt8) : Bool := decide (0x80 ≤ byte.toNat ∧ byte.toNat ≤ 0xBF)

/-- May the two bytes begin a character of three or four bytes? -/
def beginsLong (first second : UInt8) : Bool :=
  match first.toNat with
  | 0xE0 => decide (0xA0 ≤ second.toNat ∧ second.toNat ≤ 0xBF)
  | 0xED => decide (0x80 ≤ second.toNat ∧ second.toNat ≤ 0x9F)
  | 0xF0 => decide (0x90 ≤ second.toNat ∧ second.toNat ≤ 0xBF)
  | 0xF4 => decide (0x80 ≤ second.toNat ∧ second.toNat ≤ 0x8F)
  | lead => decide (0xE1 ≤ lead ∧ lead ≤ 0xF3) && isContinuation second

/-- The bytes that one replacement character stands for, where no character begins. -/
def maximalSubpart : List UInt8 → Nat
  | first :: second :: third :: _ =>
      if beginsLong first second then
        if 0xF0 ≤ first.toNat ∧ isContinuation third then 3 else 2
      else 1
  | [first, second] => if beginsLong first second then 2 else 1
  | _ => 1

/-- Decodes what follows the first `taken` bytes, which belong to a character read before. -/
def decodeAfter : Nat → List UInt8 → List Char
  | _, [] => []
  | taken + 1, _ :: rest => decodeAfter taken rest
  | 0, byte :: rest =>
      match (byte :: rest).toByteArray.utf8DecodeChar? 0 with
      | some char => char :: decodeAfter (char.utf8Size - 1) rest
      | none => '\uFFFD' :: decodeAfter (maximalSubpart (byte :: rest) - 1) rest

def decodeUtf8 (bytes : List UInt8) : List Char := decodeAfter 0 bytes

theorem decodeAfter_append (skipped rest : List UInt8) :
    decodeAfter skipped.length (skipped ++ rest) = decodeAfter 0 rest := by
  induction skipped with
  | nil => rfl
  | cons byte skipped ih =>
      rw [List.length_cons, List.cons_append, decodeAfter, ih]

theorem decodeUtf8_utf8 (text : List Char) : decodeUtf8 (utf8 text) = text := by
  unfold decodeUtf8 utf8
  induction text with
  | nil => rfl
  | cons char text ih =>
      rw [List.flatMap_cons]
      have size := String.length_utf8EncodeChar char
      cases encoded : String.utf8EncodeChar char with
      | nil =>
          rw [encoded] at size
          exact absurd size (Nat.ne_of_lt char.utf8Size_pos)
      | cons byte more =>
          have decoded : ((byte :: more) ++ text.flatMap String.utf8EncodeChar).toByteArray.utf8DecodeChar? 0
              = some char := by
            rw [← encoded, List.toByteArray_append]
            exact ByteArray.utf8DecodeChar?_utf8EncodeChar_append
          have left : char.utf8Size - 1 = more.length := by
            rw [encoded, List.length_cons] at size
            omega
          rw [List.cons_append] at decoded ⊢
          rw [decodeAfter, decoded]
          exact congrArg (char :: ·) (by rw [left, decodeAfter_append, ih])

/-- Only UTF-8 survives being read as a text. -/
theorem utf8_decodeUtf8_iff (bytes : List UInt8) :
    utf8 (decodeUtf8 bytes) = bytes ↔ ∃ text, bytes = utf8 text := by
  constructor
  · intro survives
    exact ⟨decodeUtf8 bytes, survives.symm⟩
  · rintro ⟨text, rfl⟩
    rw [decodeUtf8_utf8]

theorem utf8_append (left right : List Char) : utf8 (left ++ right) = utf8 left ++ utf8 right :=
  List.flatMap_append

end AudioBlock.Foundation
