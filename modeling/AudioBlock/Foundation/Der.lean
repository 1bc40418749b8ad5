/-
The DER encoding of an integer and of a sequence of two, with lengths below 128.

The content of an integer is the two's complement of its value, the highest byte first, in as few
bytes as possible.
-/
import Mathlib

namespace AudioBlock.Foundation.Der

def unsigned : List UInt8 → Nat
  | [] => 0
  | byte :: rest => byte.toNat * 256 ^ rest.length + unsigned rest

def signed (content : List UInt8) : Int :=
  if (content.headD 0).toNat < 128 then unsigned content
  else unsigned content - 256 ^ content.length

/-- The first nine bits are not all the same. -/
def minimal : List UInt8 → Bool
  | [] => false
  | [_] => true
  | first :: second :: _ =>
      !(decide (first = 0) && decide (second.toNat < 128)) &&
        !(decide (first = 0xff) && decide (128 ≤ second.toNat))

def element (tag : UInt8) (content : List UInt8) : List UInt8 :=
  tag :: UInt8.ofNat content.length :: content

inductive IsInteger : List UInt8 → Int → Prop
  | content (bytes : List UInt8) (short : bytes.length < 128) (shortest : minimal bytes = true) :
      IsInteger (element 0x02 bytes) (signed bytes)

inductive IsPair : List UInt8 → Int → Int → Prop
  | content {first second : List UInt8} {one other : Int} (left : IsInteger first one)
      (right : IsInteger second other) (short : (first ++ second).length < 128) :
      IsPair (element 0x30 (first ++ second)) one other

/-! ### A strict decoder -/

/-- The integer at the beginning, and what follows it. -/
def readInteger : List UInt8 → Option (Int × List UInt8)
  | tag :: size :: rest =>
      if tag = 0x02 ∧ size.toNat < 128 ∧ size.toNat ≤ rest.length ∧
          minimal (rest.take size.toNat) = true then
        some (signed (rest.take size.toNat), rest.drop size.toNat)
      else none
  | _ => none

def readPair : List UInt8 → Option (Int × Int)
  | tag :: size :: body =>
      if tag = 0x30 ∧ size.toNat < 128 ∧ size.toNat = body.length then
        match readInteger body with
        | none => none
        | some (one, rest) =>
            match readInteger rest with
            | some (other, []) => some (one, other)
            | _ => none
      else none
  | _ => none

theorem toNat_ofNat_short {length : Nat} (short : length < 128) :
    (UInt8.ofNat length).toNat = length := by
  rw [UInt8.toNat_ofNat']
  omega

theorem readInteger_append {der : List UInt8} {value : Int} (isInteger : IsInteger der value)
    (rest : List UInt8) : readInteger (der ++ rest) = some (value, rest) := by
  cases isInteger with
  | content bytes short shortest =>
      simp only [element, List.cons_append, readInteger, toNat_ofNat_short short,
        List.take_left, List.drop_left]
      rw [if_pos ⟨trivial, short, by rw [List.length_append]; omega, shortest⟩]

theorem readPair_of_isPair {der : List UInt8} {one other : Int} (isPair : IsPair der one other) :
    readPair der = some (one, other) := by
  cases isPair with
  | content left right short =>
      rename_i first second
      have last := readInteger_append right []
      rw [List.append_nil] at last
      simp only [element, readPair, toNat_ofNat_short short]
      rw [if_pos ⟨trivial, short, trivial⟩, readInteger_append left]
      simp only [last]

/-! ### Numbers of a length -/

theorem unsigned_lt (bytes : List UInt8) : unsigned bytes < 256 ^ bytes.length := by
  induction bytes with
  | nil => exact Nat.one_pos
  | cons byte rest ih =>
      have digit : byte.toNat < 256 := byte.toNat_lt
      have scaled : (byte.toNat + 1) * 256 ^ rest.length ≤ 256 * 256 ^ rest.length :=
        Nat.mul_le_mul_right _ digit
      rw [unsigned, List.length_cons, Nat.pow_succ]
      rw [Nat.add_mul, Nat.one_mul] at scaled
      omega

theorem unsigned_injective :
    ∀ {bytes other : List UInt8}, bytes.length = other.length → unsigned bytes = unsigned other →
      bytes = other := by
  intro bytes
  induction bytes with
  | nil =>
      intro other sized _same
      exact (List.eq_nil_of_length_eq_zero sized.symm).symm
  | cons byte rest ih =>
      intro other sized same
      cases other with
      | nil => cases sized
      | cons byte' rest' =>
          have length : rest.length = rest'.length := Nat.succ.inj sized
          have bound := unsigned_lt rest
          have bound' := unsigned_lt rest'
          rw [unsigned, unsigned, length] at same
          rw [length] at bound
          have high : byte.toNat = byte'.toNat := by
            have quotient := congrArg (· / 256 ^ rest'.length) same
            simpa only [Nat.mul_comm _ (256 ^ rest'.length), Nat.mul_add_div (Nat.pow_pos
              (by omega : 0 < 256)), Nat.div_eq_of_lt bound, Nat.div_eq_of_lt bound',
              Nat.add_zero] using quotient
          rw [high] at same
          rw [UInt8.toNat.inj high, ih length (Nat.add_left_cancel same)]

end AudioBlock.Foundation.Der
