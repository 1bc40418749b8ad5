/-
Numbers of JavaScript as binary64 floats.

Lean's `Float` has a logical model that computes: additions, products and
comparisons round as IEEE 754 asks.  `exactValue` reads the rational number that
a finite float stands for, and `roundHalfUp` is `Math.round`, which rounds ties
towards positive infinity.

A float between two positive ones is finite, and a product of two such floats
rounds to a finite number that is not negative, if their exponents stay far from
the limits of the format.
-/
import Mathlib

namespace AudioBlock.Foundation

open Float.Model Float.Model.UnpackedFloat

def exactValue (number : Float) : Option ℚ :=
  match number.toModel.unpack with
  | .zero _ => some 0
  | .finite sign mantissa exponent _ => some ((sign.apply mantissa : ℚ) * 2 ^ exponent)
  | .infinity _ | .notANumber => none

/-- `Math.round`, with `none` for a result that is not an integer. -/
def roundHalfUp (number : Float) : Option Int :=
  (exactValue number).map fun value => ⌊value + 1 / 2⌋

example : roundHalfUp (33.375 * 100) = some 3338 := by decide +kernel

example : roundHalfUp (-2.5) = some (-2) := by decide +kernel

/-! ### Rounding keeps the sign and stays finite -/

theorem shiftRight_mantissa_le (extended : ExtendedMantissa) (amount : Nat) :
    (extended >>> amount).mantissa ≤ extended.mantissa := by
  induction amount with
  | zero => exact Nat.le_refl _
  | succ amount ih =>
      change (extended >>> amount).mantissa / 2 ≤ extended.mantissa
      omega

theorem roundedMantissa_le (extended : ExtendedMantissa) :
    extended.roundedMantissa ≤ extended.mantissa + 1 := by
  obtain ⟨mantissa, roundBit, stickyBit⟩ := extended
  cases roundBit with
  | false =>
      cases stickyBit with
      | false => exact Nat.le_succ mantissa
      | true => exact Nat.le_succ mantissa
  | true =>
      cases stickyBit with
      | false =>
          change mantissa + mantissa % 2 ≤ mantissa + 1
          omega
      | true => exact Nat.le_refl _

theorem ofMantissaAndAccuracy_mantissa (mantissa : Nat) (accuracy : Accuracy) :
    (ExtendedMantissa.ofMantissaAndAccuracy mantissa accuracy).mantissa = mantissa := by
  unfold ExtendedMantissa.ofMantissaAndAccuracy
  split
  · rfl
  · rfl
  · rfl
  · rfl

/-- A shift drops bits and raises the exponent to its target at most. -/
theorem shiftToTargetExponent_bounds (mantissa bits : Nat) (exponent : Int) (accuracy : Accuracy)
    (below : mantissa < 2 ^ bits) :
    (shiftToTargetExponent Format.binary64 mantissa exponent accuracy).1.mantissa ≤ mantissa ∧
      (shiftToTargetExponent Format.binary64 mantissa exponent accuracy).2 ≤
        max exponent (max (bits + 1 + exponent - 53) (-1074)) := by
  constructor
  · have shifted := shiftRight_mantissa_le
      (ExtendedMantissa.ofMantissaAndAccuracy mantissa accuracy)
      (Format.binary64.targetExponent (totalExponent mantissa exponent) - exponent).toNat
    rw [ofMantissaAndAccuracy_mantissa] at shifted
    exact shifted
  · have length : mantissa.log2 ≤ bits := by
      by_cases zero : mantissa = 0
      · rw [zero, Nat.log2_zero]
        exact Nat.zero_le _
      · exact Nat.le_of_lt ((Nat.log2_lt zero).mpr below)
    change exponent + (((max ((mantissa.log2 : Int) + 1 + exponent - 53) (-1074)) - exponent).toNat :
      Int) ≤ _
    omega

/-- The result of rounding a number that is far from the largest floats. -/
theorem roundWithAccuracy_finite (sign : Sign) (mantissa : Nat) (exponent : Int)
    (accuracy : Accuracy) (below : mantissa < 2 ^ 200) (small : exponent ≤ 0) :
    roundWithAccuracy Format.binary64 sign mantissa exponent accuracy = .zero sign ∨
      ∃ rounded scale positive,
        roundWithAccuracy Format.binary64 sign mantissa exponent accuracy =
          .finite sign rounded scale positive ∧ scale ≤ 900 := by
  obtain ⟨firstMantissa, firstExponent⟩ :=
    shiftToTargetExponent_bounds mantissa 200 exponent accuracy below
  generalize first : shiftToTargetExponent Format.binary64 mantissa exponent accuracy = shifted
    at firstMantissa firstExponent
  have rounded := roundedMantissa_le shifted.1
  have stillBelow : shifted.1.roundedMantissa < 2 ^ 201 := by omega
  have second := (shiftToTargetExponent_bounds shifted.1.roundedMantissa 201 shifted.2 .exact
    stillBelow).2
  unfold roundWithAccuracy
  rw [first]
  dsimp only
  split
  · exact Or.inl rfl
  · rename_i nonzero
    right
    exact ⟨_, _, Nat.pos_of_ne_zero nonzero, rfl, by omega⟩

theorem ofBitVec_toBitVec (sign : Sign) : Sign.ofBitVec sign.toBitVec = sign := by
  cases sign with
  | negative => rfl
  | positive => rfl

def HasSign (sign : Sign) : UnpackedFloat → Prop
  | .zero own | .finite own _ _ _ => own = sign
  | .infinity _ | .notANumber => False

theorem unpack_packComponents {sign : Sign} (exponent : BitVec 11) (mantissa : BitVec 52)
    (finite : exponent ≠ -1#_) :
    HasSign sign (unpack Format.binary64 (packComponents Format.binary64 sign exponent mantissa)) := by
  unfold UnpackedFloat.unpack
  simp only [unpackExponent_packComponents, unpackMantissa_packComponents,
    unpackSign_packComponents, ofBitVec_toBitVec, if_neg finite]
  split
  · split
    · rfl
    · rfl
  · rfl

theorem unpack_pack {sign : Sign} (number : UnpackedFloat)
    (bounded : number = .zero sign ∨
      ∃ mantissa exponent positive, number = .finite sign mantissa exponent positive ∧
        exponent ≤ 900) :
    HasSign sign (unpack Format.binary64 (pack Format.binary64 number)) := by
  rcases bounded with rfl | ⟨mantissa, exponent, positive, rfl, small⟩
  · exact unpack_packComponents 0 0 (by decide)
  · unfold UnpackedFloat.pack
    dsimp only
    split
    · rename_i overflows
      simp only [Format.exponentBias] at overflows
      omega
    · split
      · apply unpack_packComponents
        intro same
        have value := congrArg BitVec.toNat same
        rw [BitVec.toNat_ofNat] at value
        simp only [Format.exponentBias] at value
        change _ = 2047 at value
        omega
      · exact unpack_packComponents 0 _ (by decide)

/-! ### Products -/

theorem mul_hasSign {left right : Float} {leftMantissa rightMantissa : Nat}
    {leftExponent rightExponent : Int} {leftPositive : 0 < leftMantissa}
    {rightPositive : 0 < rightMantissa}
    (isLeft : left.toModel.unpack = .finite .positive leftMantissa leftExponent leftPositive)
    (isRight : right.toModel.unpack = .finite .positive rightMantissa rightExponent rightPositive)
    (below : leftMantissa * rightMantissa < 2 ^ 200) (small : leftExponent + rightExponent ≤ 0) :
    HasSign .positive (left * right).toModel.unpack := by
  change HasSign .positive (unpack Format.binary64 (pack Format.binary64
    (UnpackedFloat.mul Format.binary64 left.toModel.unpack right.toModel.unpack)))
  rw [isLeft, isRight]
  exact unpack_pack _ (roundWithAccuracy_finite _ _ _ .exact below small)

theorem roundHalfUp_nonneg {number : Float} (signed : HasSign .positive number.toModel.unpack) :
    ∃ rounded : Nat, roundHalfUp number = some (rounded : Int) := by
  have floor : ∀ value : ℚ, 0 ≤ value → ∃ rounded : Nat, ⌊value + 1 / 2⌋ = (rounded : Int) := by
    intro value nonneg
    exact Int.eq_ofNat_of_zero_le (Int.floor_nonneg.mpr (by positivity))
  unfold roundHalfUp exactValue
  split
  · obtain ⟨rounded, same⟩ := floor 0 (le_refl 0)
    exact ⟨rounded, congrArg some same⟩
  · rename_i sign mantissa exponent positive shape
    rw [shape] at signed
    cases signed
    obtain ⟨rounded, same⟩ := floor ((mantissa : ℚ) * 2 ^ exponent) (by positivity)
    refine ⟨rounded, congrArg some ?_⟩
    rw [← same]
    rfl
  · rename_i sign shape
    rw [shape] at signed
    cases signed
  · rename_i shape
    rw [shape] at signed
    cases signed

/-! ### Floats between two others -/

theorem unpack_mantissa_lt {bits : BitVec 64} {sign : Sign} {mantissa : Nat} {exponent : Int}
    {positive : 0 < mantissa}
    (shape : unpack Format.binary64 bits = .finite sign mantissa exponent positive) :
    mantissa < 2 ^ 53 := by
  unfold UnpackedFloat.unpack at shape
  dsimp only at shape
  split at shape
  · split at shape
    · cases shape
    · cases shape
  · split at shape
    · split at shape
      · cases shape
      · cases shape
        exact Nat.lt_trans (BitVec.isLt _) (by decide)
    · cases shape
      exact BitVec.isLt _

/-- A float that a positive finite one does not exceed and that exceeds no other. -/
theorem between_positive {low number high : Float} {lowMantissa highMantissa : Nat}
    {lowExponent highExponent : Int} {lowPositive : 0 < lowMantissa}
    {highPositive : 0 < highMantissa}
    (isLow : low.toModel.unpack = .finite .positive lowMantissa lowExponent lowPositive)
    (isHigh : high.toModel.unpack = .finite .positive highMantissa highExponent highPositive)
    (above : low ≤ number) (below : number ≤ high) :
    ∃ mantissa exponent positive,
      number.toModel.unpack = .finite .positive mantissa exponent positive ∧
        mantissa < 2 ^ 53 ∧ exponent ≤ highExponent := by
  have above : low.toModel.unpack.le number.toModel.unpack = true := of_decide_eq_true above
  have below : number.toModel.unpack.le high.toModel.unpack = true := of_decide_eq_true below
  rw [isLow] at above
  rw [isHigh] at below
  cases shape : number.toModel.unpack with
  | notANumber =>
      rw [shape] at above
      cases above
  | infinity sign =>
      rw [shape] at above below
      cases sign with
      | negative => cases above
      | positive => cases below
  | zero sign =>
      rw [shape] at above
      cases above
  | finite sign mantissa exponent positive =>
      rw [shape] at above below
      cases sign with
      | negative => cases above
      | positive =>
          refine ⟨mantissa, exponent, positive, rfl, unpack_mantissa_lt shape, ?_⟩
          change ((compare exponent highExponent).then (compare mantissa highMantissa)).isLE = true
            at below
          by_contra higher
          have greater : compare exponent highExponent = .gt :=
            Int.compare_eq_gt.mpr (Int.not_le.mp higher)
          rw [greater] at below
          cases below

/-- What a positive float does not exceed is not negative. -/
theorem nonneg_of_positive_le {low number : Float} {mantissa : Nat} {exponent : Int}
    {positive : 0 < mantissa}
    (isLow : low.toModel.unpack = .finite .positive mantissa exponent positive)
    (above : low ≤ number) : 0 ≤ number := by
  have above : low.toModel.unpack.le number.toModel.unpack = true := of_decide_eq_true above
  have zero : (0 : Float).toModel.unpack = .zero .positive := rfl
  apply decide_eq_true
  change (0 : Float).toModel.unpack.le number.toModel.unpack = true
  rw [isLow] at above
  rw [zero]
  cases shape : number.toModel.unpack with
  | notANumber =>
      rw [shape] at above
      cases above
  | zero sign => rfl
  | infinity sign | finite sign =>
      rw [shape] at above
      cases sign with
      | negative => cases above
      | positive => rfl

end AudioBlock.Foundation
