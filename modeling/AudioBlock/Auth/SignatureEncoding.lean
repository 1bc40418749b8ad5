/-
Signatures of ES256 access tokens: two numbers side by side, encoded for the verification.
-/
import AudioBlock.Foundation.Der

namespace AudioBlock.Auth

open AudioBlock.Foundation.Der

/-- The loop over leading zeros, which keeps the last byte. -/
def dropZeros : List UInt8 → List UInt8
  | [] => []
  | [byte] => [byte]
  | byte :: next :: rest =>
      if byte = 0 then dropZeros (next :: rest) else byte :: next :: rest

def signPadded (bytes : List UInt8) : List UInt8 :=
  if bytes.headD 0 &&& 0x80 ≠ 0 then 0 :: bytes else bytes

def toInteger (slice : List UInt8) : List UInt8 := element 0x02 (signPadded (dropZeros slice))

def rawEcdsaToDer (raw : List UInt8) : List UInt8 :=
  let r := toInteger (raw.take 32)
  let s := toInteger (raw.drop 32)
  element 0x30 (r ++ s)

/-- `normalizeSignature` of the decoded bytes. -/
def normalizeSignature (alg : String) (signature : List UInt8) : Except String (List UInt8) :=
  if alg ≠ "ES256" then .ok signature
  else if signature.length = 64 then .ok (rawEcdsaToDer signature)
  else if signature.head? ≠ some 0x30 then .error "PRIVY_TOKEN_INVALID_SIGNATURE"
  else .ok signature

/-! ### Leading zeros -/

theorem unsigned_dropZeros (bytes : List UInt8) : unsigned (dropZeros bytes) = unsigned bytes := by
  fun_induction dropZeros bytes with
  | case1 => rfl
  | case2 byte => rfl
  | case3 next rest ih =>
      rw [ih, unsigned.eq_def (0 :: next :: rest)]
      simp
  | case4 byte next rest nonzero => rfl

theorem length_dropZeros (bytes : List UInt8) : (dropZeros bytes).length ≤ bytes.length := by
  fun_induction dropZeros bytes with
  | case1 => exact Nat.le_refl _
  | case2 byte => exact Nat.le_refl _
  | case3 next rest ih =>
      rw [List.length_cons]
      omega
  | case4 byte next rest nonzero => exact Nat.le_refl _

theorem dropZeros_shape {bytes : List UInt8} (nonempty : bytes ≠ []) :
    ∃ first rest, dropZeros bytes = first :: rest ∧ (rest ≠ [] → first ≠ 0) := by
  fun_induction dropZeros bytes with
  | case1 => exact absurd rfl nonempty
  | case2 byte => exact ⟨byte, [], rfl, fun more => absurd rfl more⟩
  | case3 next rest ih => exact ih (List.cons_ne_nil next rest)
  | case4 byte next rest nonzero => exact ⟨byte, next :: rest, rfl, fun _more => nonzero⟩

theorem highBit_iff (byte : UInt8) : byte &&& 0x80 ≠ 0 ↔ 128 ≤ byte.toNat := by
  have table : ∀ code < 256, (UInt8.ofNat code &&& 0x80 ≠ 0 ↔ 128 ≤ code) := by decide +kernel
  have entry := table byte.toNat byte.toNat_lt
  rwa [UInt8.ofNat_toNat] at entry

/-! ### One integer -/

theorem signPadded_minimal {first : UInt8} {rest : List UInt8} (shape : rest ≠ [] → first ≠ 0) :
    minimal (signPadded (first :: rest)) = true := by
  unfold signPadded
  by_cases high : first &&& 0x80 ≠ 0
  · have large := (highBit_iff first).mp high
    rw [List.headD_cons, if_pos high]
    simp only [minimal, Bool.and_eq_true, Bool.not_eq_true', Bool.and_eq_false_iff,
      decide_eq_false_iff_not]
    exact ⟨Or.inr (by omega), Or.inl (by decide)⟩
  · have small : first.toNat < 128 := by
      have bound := mt (highBit_iff first).mpr high
      omega
    rw [List.headD_cons, if_neg high]
    cases rest with
    | nil => rfl
    | cons second more =>
        have notOnes : first ≠ 0xff := by
          intro ones
          rw [ones] at small
          exact absurd small (by decide)
        simp only [minimal, Bool.and_eq_true, Bool.not_eq_true', Bool.and_eq_false_iff,
          decide_eq_false_iff_not]
        exact ⟨Or.inl (shape (List.cons_ne_nil second more)), Or.inl notOnes⟩

theorem signed_signPadded (bytes : List UInt8) : signed (signPadded bytes) = unsigned bytes := by
  unfold signPadded
  by_cases high : bytes.headD 0 &&& 0x80 ≠ 0
  · rw [if_pos high, signed, List.headD_cons, if_pos (by decide), unsigned]
    simp
  · have small : (bytes.headD 0).toNat < 128 := by
      have bound := mt (highBit_iff _).mpr high
      omega
    rw [if_neg high, signed, if_pos small]

theorem length_signPadded (bytes : List UInt8) : (signPadded bytes).length ≤ bytes.length + 1 := by
  unfold signPadded
  split
  · exact Nat.le_refl _
  · exact Nat.le_succ _

theorem length_toInteger (slice : List UInt8) : (toInteger slice).length ≤ slice.length + 3 := by
  have padded := length_signPadded (dropZeros slice)
  have dropped := length_dropZeros slice
  simp only [toInteger, element, List.length_cons]
  omega

theorem isInteger_toInteger {slice : List UInt8} (nonempty : slice ≠ [])
    (short : slice.length ≤ 32) : IsInteger (toInteger slice) (unsigned slice) := by
  obtain ⟨first, rest, dropped, shape⟩ := dropZeros_shape nonempty
  have padded := length_signPadded (dropZeros slice)
  have bound := length_dropZeros slice
  have encoded := IsInteger.content (signPadded (dropZeros slice)) (by omega)
    (dropped ▸ signPadded_minimal shape)
  rwa [signed_signPadded, unsigned_dropZeros] at encoded

/-! ### Both halves -/

theorem isPair_rawEcdsaToDer {raw : List UInt8} (sized : raw.length = 64) :
    IsPair (rawEcdsaToDer raw) (unsigned (raw.take 32)) (unsigned (raw.drop 32)) := by
  have first : (raw.take 32).length = 32 := by
    rw [List.length_take]
    omega
  have second : (raw.drop 32).length = 32 := by
    rw [List.length_drop]
    omega
  refine IsPair.content (isInteger_toInteger ?_ (by omega)) (isInteger_toInteger ?_ (by omega)) ?_
  · exact List.ne_nil_of_length_pos (by omega)
  · exact List.ne_nil_of_length_pos (by omega)
  · have left := length_toInteger (raw.take 32)
    have right := length_toInteger (raw.drop 32)
    rw [List.length_append]
    omega

/-- The encoding is strict, a strict decoder reads the two numbers from it, and no other signature
has it. -/
theorem rawEcdsaToDer_strict (raw : List UInt8) (sized : raw.length = 64) :
    IsPair (rawEcdsaToDer raw) (unsigned (raw.take 32)) (unsigned (raw.drop 32)) ∧
      readPair (rawEcdsaToDer raw) =
        some ((unsigned (raw.take 32) : Int), (unsigned (raw.drop 32) : Int)) ∧
      ∀ other : List UInt8, other.length = 64 → rawEcdsaToDer other = rawEcdsaToDer raw →
        other = raw := by
  have decoded := readPair_of_isPair (isPair_rawEcdsaToDer sized)
  refine ⟨isPair_rawEcdsaToDer sized, decoded, ?_⟩
  intro other sized' same
  have decoded' := readPair_of_isPair (isPair_rawEcdsaToDer sized')
  rw [same, decoded] at decoded'
  obtain ⟨left, right⟩ := Prod.mk.inj (Option.some.inj decoded')
  have first : other.take 32 = raw.take 32 :=
    unsigned_injective (by simp only [List.length_take, sized, sized']) (Int.ofNat.inj left).symm
  have second : other.drop 32 = raw.drop 32 :=
    unsigned_injective (by simp only [List.length_drop, sized, sized']) (Int.ofNat.inj right).symm
  rw [← List.take_append_drop 32 other, first, second, List.take_append_drop]

/-- One half is zero, and the other has its highest bit set. -/
def zeroAndLargest : List UInt8 := List.replicate 32 0 ++ List.replicate 32 0xff

theorem rawEcdsaToDer_zeroAndLargest : zeroAndLargest.length = 64 ∧
    readPair (rawEcdsaToDer zeroAndLargest) = some (0, 256 ^ 32 - 1) := by
  refine ⟨by decide, ?_⟩
  have read := (rawEcdsaToDer_strict zeroAndLargest (by decide)).2.1
  rw [read]
  decide +kernel

end AudioBlock.Auth
