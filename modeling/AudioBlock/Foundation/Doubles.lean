/-
Doubles that are at most another one.

A product with a factor below one does not exceed the other factor, also after rounding:
the other factor is a multiple of the last place to which the product is rounded.
-/
import AudioBlock.Foundation.Binary64

namespace AudioBlock.Foundation

open Float.Model Float.Model.UnpackedFloat

/-! ### The numbers that the format has -/

structure IsDouble (mantissa : Nat) (exponent : Int) : Prop where
  positive : 0 < mantissa
  below : mantissa < 2 ^ 53
  low : -1074 ≤ exponent
  high : exponent ≤ 971
  aligned : 2 ^ 52 ≤ mantissa ∨ exponent = -1074

theorem implicitBit_toNat (mantissa : BitVec 52) :
    (1#1 ++ mantissa).toNat = 2 ^ 52 + mantissa.toNat := by
  rw [BitVec.toNat_append, ← Nat.shiftLeft_add_eq_or_of_lt mantissa.isLt, Nat.shiftLeft_eq]
  rfl

variable {sign : Sign} {mantissa : Nat} {exponent : Int} {positive : 0 < mantissa}
  {first second : Nat} {firstExponent secondExponent : Int} {bound : Nat} {scale : Int}
  {number : Float} {limit : ℚ}

theorem unpack_isDouble {bits : BitVec 64}
    (shape : unpack Format.binary64 bits = .finite sign mantissa exponent positive) :
    IsDouble mantissa exponent := by
  have exponentBound : (@unpackExponent Format.binary64 bits).toNat < 2048 := BitVec.isLt _
  unfold UnpackedFloat.unpack at shape
  dsimp only at shape
  split at shape
  · split at shape
    · cases shape
    · cases shape
  · rename_i notTop
    split at shape
    · rename_i isZero
      split at shape
      · cases shape
      · cases shape
        refine ⟨positive, Nat.lt_trans (BitVec.isLt _) (by decide), ?_, ?_, .inr ?_⟩
        · rw [isZero]; decide
        · rw [isZero]; decide
        · rw [isZero]; decide
    · rename_i notZero
      cases shape
      have top : (@unpackExponent Format.binary64 bits).toNat ≠ 2047 :=
        fun same => notTop (BitVec.eq_of_toNat_eq same)
      have bottom : (@unpackExponent Format.binary64 bits).toNat ≠ 0 :=
        fun same => notZero (BitVec.eq_of_toNat_eq same)
      have bias : ((Format.binary64.exponentBias : Int) + (52 : Nat)) = 1075 := by decide
      have mantissaBits := implicitBit_toNat (@unpackMantissa Format.binary64 bits)
      have mantissaBound : (@unpackMantissa Format.binary64 bits).toNat < 2 ^ 52 :=
        BitVec.isLt _
      rw [bias]
      refine ⟨positive, ?_, by omega, by omega, .inl ?_⟩
      · exact lt_of_eq_of_lt mantissaBits (by omega)
      · exact le_of_le_of_eq (by omega) mantissaBits.symm

theorem finite_congr (firstPositive : 0 < first) (secondPositive : 0 < second)
    (mantissas : first = second) (exponents : firstExponent = secondExponent) :
    UnpackedFloat.finite sign first firstExponent firstPositive =
      .finite sign second secondExponent secondPositive := by
  subst mantissas exponents
  rfl

theorem unpack_pack_isDouble (double : IsDouble mantissa exponent) :
    unpack Format.binary64 (UnpackedFloat.pack Format.binary64
      (.finite sign mantissa exponent double.positive)) =
        .finite sign mantissa exponent double.positive := by
  have ⟨positive, below, low, high, aligned⟩ := double
  have biased : (exponent + (Format.binary64.exponentBias : Int) + ((52 : Nat) : Int)).toNat =
      (exponent + 1075).toNat := by
    change (exponent + ((2 ^ 10 - 1 : Nat) : Int) + ((52 : Nat) : Int)).toNat = _
    omega
  have bits : Format.binary64.mantissaBits = 53 := rfl
  unfold UnpackedFloat.pack
  dsimp only
  rw [biased, bits, if_neg (by omega)]
  by_cases normal : 2 ^ 52 ≤ mantissa
  · have log : mantissa.log2 = 52 := by
      have atLeast := (Nat.le_log2 (by omega)).mpr normal
      have below := (Nat.log2_lt (by omega)).mpr below
      omega
    have notTop : BitVec.ofNat 11 (exponent + 1075).toNat ≠ -1#11 := by
      intro same
      have value := congrArg BitVec.toNat same
      rw [BitVec.toNat_ofNat] at value
      change _ = 2047 at value
      omega
    have notZero : BitVec.ofNat 11 (exponent + 1075).toNat ≠ 0#11 := by
      intro same
      have value := congrArg BitVec.toNat same
      rw [BitVec.toNat_ofNat] at value
      change _ = 0 at value
      omega
    rw [log, if_pos rfl]
    unfold UnpackedFloat.unpack
    simp only [unpackMantissa_packComponents, unpackExponent_packComponents,
      unpackSign_packComponents, ofBitVec_toBitVec, if_neg notTop, if_neg notZero]
    apply finite_congr
    · rw [implicitBit_toNat, BitVec.toNat_ofNat]
      omega
    · rw [BitVec.toNat_ofNat]
      change ((exponent + 1075).toNat % 2048 : Nat) - (((2 ^ 10 - 1 : Nat) : Int) + (52 : Nat)) =
        exponent
      omega
  · have log : mantissa.log2 + 1 ≠ 53 := by
      intro same
      exact normal ((Nat.le_log2 (by omega)).mp (by omega))
    have isLow : exponent = -1074 := by omega
    have notZero : BitVec.ofNat 52 mantissa ≠ 0#52 := by
      intro same
      have value := congrArg BitVec.toNat same
      rw [BitVec.toNat_ofNat] at value
      change _ = 0 at value
      omega
    rw [if_neg log]
    unfold UnpackedFloat.unpack
    simp only [unpackMantissa_packComponents, unpackExponent_packComponents,
      unpackSign_packComponents, ofBitVec_toBitVec]
    rw [if_neg (by decide), if_pos trivial, dif_neg notZero]
    apply finite_congr
    · rw [BitVec.toNat_ofNat]
      omega
    · rw [isLow]
      decide

/-! ### Rounding below a double -/

theorem shiftRight_mantissa (extended : ExtendedMantissa) (amount : Nat) :
    (extended >>> amount).mantissa = extended.mantissa / 2 ^ amount := by
  induction amount with
  | zero => exact (Nat.div_one _).symm
  | succ amount ih =>
      change (extended >>> amount).mantissa / 2 = extended.mantissa / 2 ^ (amount + 1)
      rw [ih, Nat.div_div_eq_div_mul, Nat.pow_succ]

theorem le_roundedMantissa (extended : ExtendedMantissa) :
    extended.mantissa ≤ extended.roundedMantissa := by
  obtain ⟨mantissa, roundBit, stickyBit⟩ := extended
  cases roundBit with
  | false =>
      cases stickyBit with
      | false => exact Nat.le_refl _
      | true => exact Nat.le_refl _
  | true =>
      cases stickyBit with
      | false => exact Nat.le_add_right _ _
      | true => exact Nat.le_succ _

def lastPlace (mantissa : Nat) (exponent : Int) : Int :=
  max ((mantissa.log2 : Int) + 1 + exponent - 53) (-1074)

theorem shiftToTargetExponent_eq (coarse : exponent ≤ lastPlace mantissa exponent) :
    (shiftToTargetExponent Format.binary64 mantissa exponent .exact).1.mantissa =
        mantissa / 2 ^ (lastPlace mantissa exponent - exponent).toNat ∧
      (shiftToTargetExponent Format.binary64 mantissa exponent .exact).2 =
        lastPlace mantissa exponent := by
  constructor
  · change (ExtendedMantissa.ofMantissaAndAccuracy mantissa .exact >>>
      (lastPlace mantissa exponent - exponent).toNat).mantissa = _
    rw [shiftRight_mantissa, ofMantissaAndAccuracy_mantissa]
  · change exponent + ((lastPlace mantissa exponent - exponent).toNat : Int) = _
    omega

/-- Before rounding the mantissa has 53 bits, or fewer at the lowest place. -/
theorem shifted_bounds (positive : 0 < mantissa) (coarse : exponent ≤ lastPlace mantissa exponent) :
    mantissa / 2 ^ (lastPlace mantissa exponent - exponent).toNat < 2 ^ 53 ∧
      (2 ^ 52 ≤ mantissa / 2 ^ (lastPlace mantissa exponent - exponent).toNat ∨
        lastPlace mantissa exponent = -1074) := by
  have below := @Nat.lt_log2_self mantissa
  have atLeast := Nat.log2_self_le (Nat.ne_of_gt positive)
  unfold lastPlace at coarse ⊢
  generalize mantissa.log2 = log at *
  constructor
  · rw [Nat.div_lt_iff_lt_mul (Nat.two_pow_pos _), ← Nat.pow_add]
    exact Nat.lt_of_lt_of_le below (Nat.pow_le_pow_right (by decide) (by omega))
  · by_cases lowest : (log : Int) + 1 + exponent - 53 ≤ -1074
    · exact .inr (max_eq_right lowest)
    · left
      rw [Nat.le_div_iff_mul_le (Nat.two_pow_pos _), ← Nat.pow_add]
      exact Nat.le_trans (Nat.pow_le_pow_right (by decide) (by omega)) atLeast

/-- A double is a multiple of the last place of what is below it. -/
theorem lastPlace_le (positive : 0 < mantissa) (double : IsDouble bound scale)
    (fine : exponent ≤ scale) (less : mantissa < bound * 2 ^ (scale - exponent).toNat) :
    lastPlace mantissa exponent ≤ scale := by
  have low := double.low
  have below : mantissa < 2 ^ (53 + (scale - exponent).toNat) := by
    rw [Nat.pow_add]
    exact Nat.lt_trans less (Nat.mul_lt_mul_of_pos_right double.below (Nat.two_pow_pos _))
  have log := (Nat.log2_lt (Nat.ne_of_gt positive)).mpr below
  unfold lastPlace
  omega

theorem lastPlace_self (below : mantissa < 2 ^ 53) (low : -1074 ≤ exponent)
    (aligned : 2 ^ 52 ≤ mantissa ∨ exponent = -1074) :
    lastPlace mantissa exponent = exponent := by
  unfold lastPlace
  by_cases none : mantissa = 0
  · rw [none, Nat.log2_zero]
    omega
  · have upper := (Nat.log2_lt none).mpr below
    rcases aligned with normal | lowest
    · have lower := (Nat.le_log2 none).mpr normal
      omega
    · omega

theorem lastPlace_carried (low : -1074 ≤ exponent) :
    lastPlace (2 ^ 53) exponent = exponent + 1 := by
  unfold lastPlace
  rw [Nat.log2_two_pow]
  omega

/-- What `roundWithAccuracy` makes of a number: a zero, or a double that is at most the bound. -/
def RoundsBelow (sign : Sign) (bound : Nat) (scale : Int) (rounded : UnpackedFloat) : Prop :=
  rounded = .zero sign ∨
    ∃ mantissa exponent, ∃ double : IsDouble mantissa exponent,
      rounded = .finite sign mantissa exponent double.positive ∧
        exponent ≤ scale ∧ mantissa ≤ bound * 2 ^ (scale - exponent).toNat

theorem roundsBelow_of (final : ExtendedMantissa × Int)
    (double : 0 < final.1.mantissa → IsDouble final.1.mantissa final.2) (fine : final.2 ≤ scale)
    (atMost : final.1.mantissa ≤ bound * 2 ^ (scale - final.2).toNat) :
    RoundsBelow sign bound scale
      (if none : final.1.mantissa = 0 then .zero sign
      else .finite sign final.1.mantissa final.2 (Nat.pos_of_ne_zero none)) := by
  split
  · exact .inl rfl
  · rename_i some
    exact .inr ⟨_, _, double (Nat.pos_of_ne_zero some), rfl, fine, atMost⟩

theorem roundWithAccuracy_le (positive : 0 < mantissa)
    (coarse : exponent ≤ lastPlace mantissa exponent) (double : IsDouble bound scale)
    (fine : exponent ≤ scale) (less : mantissa < bound * 2 ^ (scale - exponent).toNat) :
    RoundsBelow sign bound scale
      (roundWithAccuracy Format.binary64 sign mantissa exponent .exact) := by
  have place := lastPlace_le positive double fine less
  have ⟨width, aligned⟩ := shifted_bounds positive coarse
  obtain ⟨shifted, firstExponent⟩ := shiftToTargetExponent_eq coarse
  have notBelow : -1074 ≤ lastPlace mantissa exponent := Int.le_max_right _ _
  have top := double.high
  have boundBelow := double.below
  -- The bound in units of the last place.
  have units : (scale - exponent).toNat = (scale - lastPlace mantissa exponent).toNat +
      (lastPlace mantissa exponent - exponent).toNat := by omega
  rw [units, Nat.pow_add, ← Nat.mul_assoc] at less
  have cut := (Nat.div_lt_iff_lt_mul (Nat.two_pow_pos _)).mpr less
  unfold roundWithAccuracy
  generalize shiftToTargetExponent Format.binary64 mantissa exponent .exact = first at *
  have upper := roundedMantissa_le first.1
  have lower := le_roundedMantissa first.1
  dsimp only
  rw [firstExponent]
  rw [shifted] at upper lower
  generalize first.1.roundedMantissa = rounded at *
  generalize lastPlace mantissa exponent = unit at *
  generalize mantissa / 2 ^ (unit - exponent).toNat = quotient at *
  have limit : rounded ≤ bound * 2 ^ (scale - unit).toNat := Nat.le_trans upper cut
  have atMost : rounded ≤ 2 ^ 53 := Nat.le_trans upper width
  by_cases carried : rounded = 2 ^ 53
  · subst carried
    have nextPlace := lastPlace_carried notBelow
    have coarseNext : unit ≤ lastPlace (2 ^ 53) unit := by omega
    obtain ⟨last, lastExponent⟩ := shiftToTargetExponent_eq coarseNext
    have half : 2 ^ 53 / 2 ^ (unit + 1 - unit).toNat = 2 ^ 52 := by
      rw [show (unit + 1 - unit).toNat = 1 by omega]
      rfl
    rw [nextPlace, half] at last
    rw [nextPlace] at lastExponent
    have room : unit < scale := by
      by_contra full
      rw [show (scale - unit).toNat = 0 by omega] at limit
      omega
    have doubled : bound * 2 ^ (scale - unit).toNat =
        bound * 2 ^ (scale - (unit + 1)).toNat * 2 := by
      rw [show (scale - unit).toNat = (scale - (unit + 1)).toNat + 1 by omega, Nat.mul_assoc,
        ← Nat.pow_succ]
    rw [doubled] at limit
    apply roundsBelow_of
    · intro positive
      rw [last, lastExponent] at *
      exact ⟨positive, by decide, by omega, by omega, .inl (Nat.le_refl _)⟩
    · rw [lastExponent]
      exact room
    · rw [last, lastExponent]
      omega
  · have someAligned : 2 ^ 52 ≤ rounded ∨ unit = -1074 :=
      aligned.imp (fun normal => Nat.le_trans normal lower) id
    have samePlace := lastPlace_self (by omega : rounded < 2 ^ 53) notBelow someAligned
    obtain ⟨last, lastExponent⟩ := shiftToTargetExponent_eq (Int.le_of_eq samePlace.symm)
    rw [samePlace, Int.sub_self, Int.toNat_zero, Nat.pow_zero, Nat.div_one] at last
    rw [samePlace] at lastExponent
    apply roundsBelow_of
    · intro positive
      rw [last, lastExponent] at *
      exact ⟨positive, by omega, notBelow, by omega, someAligned⟩
    · rw [lastExponent]
      exact place
    · rw [last, lastExponent]
      exact limit

/-! ### Products with a factor below one -/

/-- A number that is not negative, as it is unpacked. -/
inductive Nonnegative : UnpackedFloat → Prop
  | zero (sign : Sign) : Nonnegative (.zero sign)
  | finite {mantissa : Nat} {exponent : Int} (double : IsDouble mantissa exponent) :
      Nonnegative (.finite .positive mantissa exponent double.positive)
  | infinity : Nonnegative (.infinity .positive)

theorem unpack_nonnegative (nonneg : 0 ≤ number) :
    Nonnegative number.toModel.unpack := by
  have atLeast : (0 : Float).toModel.unpack.le number.toModel.unpack = true :=
    of_decide_eq_true nonneg
  have isZero : (0 : Float).toModel.unpack = .zero .positive := rfl
  rw [isZero] at atLeast
  cases shape : number.toModel.unpack with
  | notANumber =>
      rw [shape] at atLeast
      cases atLeast
  | zero sign => exact .zero sign
  | infinity sign =>
      rw [shape] at atLeast
      cases sign with
      | negative => cases atLeast
      | positive => exact .infinity
  | finite sign mantissa exponent positive =>
      rw [shape] at atLeast
      cases sign with
      | negative => cases atLeast
      | positive => exact .finite (unpack_isDouble shape)

theorem below_one (shape : number.toModel.unpack = .finite .positive mantissa exponent positive)
    (less : number < 1) : exponent ≤ -52 ∧ mantissa < 2 ^ (-exponent).toNat := by
  have below : number.toModel.unpack.lt (1 : Float).toModel.unpack = true := of_decide_eq_true less
  have isOne : (1 : Float).toModel.unpack = .finite .positive (2 ^ 52) (-52) (by decide) := rfl
  rw [shape, isOne] at below
  have double := unpack_isDouble shape
  have compared : (compare exponent (-52)).then (compare mantissa (2 ^ 52)) = .lt :=
    Option.some.inj (eq_of_beq below)
  rcases Int.lt_trichotomy exponent (-52) with lower | same | higher
  · refine ⟨by omega, Nat.lt_of_lt_of_le double.below ?_⟩
    exact Nat.pow_le_pow_right (by decide) (by omega)
  · rw [same] at compared ⊢
    exact ⟨Int.le_refl _, Nat.compare_eq_lt.mp compared⟩
  · rw [Int.compare_eq_gt.mpr higher] at compared
    cases compared

theorem infinity_not_below_one (shape : number.toModel.unpack = .infinity .positive) :
    ¬ number < 1 := by
  intro less
  have below : number.toModel.unpack.lt (1 : Float).toModel.unpack = true := of_decide_eq_true less
  rw [shape] at below
  cases below

/-- The exponent of a product of doubles is not above the place to which it is rounded. -/
theorem product_coarse (left : IsDouble first firstExponent)
    (right : IsDouble second secondExponent) :
    firstExponent + secondExponent ≤
      lastPlace (first * second) (firstExponent + secondExponent) := by
  have some : first * second ≠ 0 := Nat.ne_of_gt (Nat.mul_pos left.positive right.positive)
  have wide : 2 ^ 52 ≤ first * second →
      firstExponent + secondExponent ≤
        lastPlace (first * second) (firstExponent + secondExponent) := by
    intro normal
    have log := (Nat.le_log2 some).mpr normal
    unfold lastPlace
    omega
  rcases left.aligned with normal | lowest
  · exact wide (Nat.le_trans normal (Nat.le_mul_of_pos_right _ right.positive))
  · rcases right.aligned with normal | alsoLowest
    · exact wide (Nat.le_trans normal (Nat.le_mul_of_pos_left _ left.positive))
    · unfold lastPlace
      omega

theorem mul_unpack (left right : Float) :
    (left * right).toModel.unpack = unpack Format.binary64 (UnpackedFloat.pack Format.binary64
      (UnpackedFloat.mul Format.binary64 left.toModel.unpack right.toModel.unpack)) := rfl

theorem value_le (fine : exponent ≤ scale)
    (atMost : mantissa ≤ bound * 2 ^ (scale - exponent).toNat) :
    (mantissa : ℚ) * 2 ^ exponent ≤ (bound : ℚ) * 2 ^ scale := by
  have units : (2 : ℚ) ^ scale = 2 ^ (scale - exponent).toNat * 2 ^ exponent := by
    rw [← zpow_natCast, ← zpow_add₀ (by norm_num)]
    congr 1
    omega
  have cast : (mantissa : ℚ) ≤ bound * 2 ^ (scale - exponent).toNat := by exact_mod_cast atMost
  rw [units, ← mul_assoc]
  exact mul_le_mul_of_nonneg_right cast (by positivity)

theorem unpack_packedZero (sign : Sign) :
    unpack Format.binary64 (UnpackedFloat.pack Format.binary64 (.zero sign)) = .zero sign := by
  cases sign with
  | negative => rfl
  | positive => rfl

theorem exactValue_finite
    (shape : number.toModel.unpack = .finite sign mantissa exponent positive) :
    exactValue number = some ((sign.apply mantissa : ℚ) * 2 ^ exponent) := by
  unfold exactValue
  rw [shape]

theorem exactValue_zero (shape : number.toModel.unpack = .zero sign) :
    exactValue number = some 0 := by
  unfold exactValue
  rw [shape]

theorem exactValue_infinity (shape : number.toModel.unpack = .infinity sign) :
    exactValue number = none := by
  unfold exactValue
  rw [shape]

theorem exactValue_nonneg {value : ℚ} (nonneg : 0 ≤ number)
    (isValue : exactValue number = some value) : 0 ≤ value := by
  have cases := unpack_nonnegative nonneg
  generalize shape : number.toModel.unpack = unpacked at cases
  cases cases with
  | zero sign =>
      rw [exactValue_zero shape] at isValue
      cases isValue
      exact le_refl 0
  | finite double =>
      rw [exactValue_finite shape] at isValue
      cases isValue
      exact mul_nonneg (Int.cast_nonneg (Int.natCast_nonneg _)) (by positivity)
  | infinity =>
      rw [exactValue_infinity shape] at isValue
      cases isValue

/-- A product with a factor below one does not exceed the other factor. -/
theorem mul_fraction_le {fraction bound : Float} (fractionNonneg : 0 ≤ fraction)
    (less : fraction < 1) (boundNonneg : 0 ≤ bound) (isLimit : exactValue bound = some limit) :
    ∃ product, exactValue (fraction * bound) = some product ∧ 0 ≤ product ∧ product ≤ limit := by
  have limitNonneg := exactValue_nonneg boundNonneg isLimit
  have product := mul_unpack fraction bound
  have ofZero : ∀ sign, (fraction * bound).toModel.unpack = .zero sign →
      ∃ product, exactValue (fraction * bound) = some product ∧ 0 ≤ product ∧ product ≤ limit :=
    fun sign shape => ⟨0, exactValue_zero shape, le_refl 0, limitNonneg⟩
  have fractionCases := unpack_nonnegative fractionNonneg
  have boundCases := unpack_nonnegative boundNonneg
  generalize fractionShape : fraction.toModel.unpack = fractionUnpacked at product fractionCases
  generalize boundShape : bound.toModel.unpack = boundUnpacked at product boundCases
  cases boundCases with
  | infinity =>
      rw [exactValue_infinity boundShape] at isLimit
      cases isLimit
  | zero sign =>
      cases fractionCases with
      | infinity => exact absurd less (infinity_not_below_one fractionShape)
      | zero own => exact ofZero _ (product.trans (unpack_packedZero _))
      | finite double => exact ofZero _ (product.trans (unpack_packedZero _))
  | @finite boundMantissa boundExponent boundDouble =>
      cases fractionCases with
      | infinity => exact absurd less (infinity_not_below_one fractionShape)
      | zero own => exact ofZero _ (product.trans (unpack_packedZero _))
      | @finite mantissa exponent double =>
          have ⟨low, small⟩ := below_one fractionShape less
          have scaled : mantissa * boundMantissa <
              boundMantissa * 2 ^ (boundExponent - (exponent + boundExponent)).toNat := by
            rw [show boundExponent - (exponent + boundExponent) = -exponent by omega, Nat.mul_comm]
            exact Nat.mul_lt_mul_of_pos_left small boundDouble.positive
          have rounds := @roundWithAccuracy_le .positive _ _ _ _
            (Nat.mul_pos double.positive boundDouble.positive)
            (product_coarse double boundDouble) boundDouble (by omega) scaled
          rcases rounds with isZero | ⟨rounded, scale, roundedDouble, isFinite, fine, atMost⟩
          · refine ofZero .positive (product.trans ?_)
            exact (congrArg (fun number => unpack Format.binary64
              (UnpackedFloat.pack Format.binary64 number)) isZero).trans (unpack_packedZero _)
          · have shape : (fraction * bound).toModel.unpack =
                .finite .positive rounded scale roundedDouble.positive := by
              refine product.trans ?_
              exact (congrArg (fun number => unpack Format.binary64
                (UnpackedFloat.pack Format.binary64 number)) isFinite).trans
                  (unpack_pack_isDouble roundedDouble)
            rw [exactValue_finite boundShape] at isLimit
            cases isLimit
            exact ⟨_, exactValue_finite shape,
              mul_nonneg (Int.cast_nonneg (Int.natCast_nonneg _)) (by positivity),
              value_le fine atMost⟩

/-! ### Powers of two and the smaller of two numbers -/

/-- `2 ** n`, which is infinite from 1024 on. -/
def powerOfTwo (power : Nat) : Float :=
  .ofModel (.pack (.finite .positive (2 ^ 52) ((power : Int) - 52) (by decide)))

example : powerOfTwo 10 = 1024 := by decide +kernel

example : powerOfTwo 1024 = 1 / 0 := by decide +kernel

/-- `Math.min`. -/
def mathMin (first second : Float) : Float :=
  if first.isNaN then first
  else if second.isNaN then second
  else if second < first then second
  else first

theorem powerOfTwo_unpack (power : Nat) :
    (∃ double : IsDouble (2 ^ 52) ((power : Int) - 52),
      (powerOfTwo power).toModel.unpack =
        .finite .positive (2 ^ 52) ((power : Int) - 52) double.positive) ∨
      (powerOfTwo power).toModel.unpack = .infinity .positive := by
  have packed : (powerOfTwo power).toModel.unpack =
      unpack Format.binary64 (UnpackedFloat.pack Format.binary64
        (.finite .positive (2 ^ 52) ((power : Int) - 52) (by decide))) := rfl
  by_cases finite : power < 1024
  · left
    have double : IsDouble (2 ^ 52) ((power : Int) - 52) :=
      ⟨by decide, by decide, by omega, by omega, .inl (Nat.le_refl _)⟩
    exact ⟨double, packed.trans (unpack_pack_isDouble double)⟩
  · right
    have biased : ((power : Int) - 52 + (Format.binary64.exponentBias : Int) +
        ((52 : Nat) : Int)).toNat = power + 1023 := by
      change ((power : Int) - 52 + ((2 ^ 10 - 1 : Nat) : Int) + ((52 : Nat) : Int)).toNat = _
      omega
    rw [packed]
    unfold UnpackedFloat.pack
    dsimp only
    rw [biased, if_pos (by omega)]
    rfl

/-- A positive number that was packed is not negative. -/
theorem unpack_pack_positive (positive : 0 < mantissa) :
    HasSign .positive (unpack Format.binary64 (UnpackedFloat.pack Format.binary64
        (.finite .positive mantissa exponent positive))) ∨
      unpack Format.binary64 (UnpackedFloat.pack Format.binary64
        (.finite .positive mantissa exponent positive)) = .infinity .positive := by
  unfold UnpackedFloat.pack
  dsimp only
  split
  · exact .inr rfl
  · left
    split
    · rename_i small _
      apply unpack_packComponents
      intro same
      have value := congrArg BitVec.toNat same
      rw [BitVec.toNat_ofNat] at value
      change _ = 2047 at value
      change ¬ 2048 ≤ _ at small
      omega
    · exact unpack_packComponents 0 _ (by decide)

theorem nonneg_of_unpack
    (unpacked : HasSign .positive number.toModel.unpack ∨
      number.toModel.unpack = .infinity .positive) : 0 ≤ number := by
  have zero : (0 : Float).toModel.unpack = .zero .positive := rfl
  apply decide_eq_true
  change (0 : Float).toModel.unpack.le number.toModel.unpack = true
  rw [zero]
  rcases unpacked with signed | infinite
  · cases shape : number.toModel.unpack with
    | notANumber | infinity sign =>
        rw [shape] at signed
        cases signed
    | zero sign => rfl
    | finite sign =>
        rw [shape] at signed
        cases signed
        rfl
  · rw [infinite]
    rfl

theorem unpack_positive (positive : 0 < number) :
    (∃ mantissa exponent, ∃ double : IsDouble mantissa exponent,
      number.toModel.unpack = .finite .positive mantissa exponent double.positive) ∨
      number.toModel.unpack = .infinity .positive := by
  have above : (0 : Float).toModel.unpack.lt number.toModel.unpack = true :=
    of_decide_eq_true positive
  have isZero : (0 : Float).toModel.unpack = .zero .positive := rfl
  rw [isZero] at above
  cases shape : number.toModel.unpack with
  | notANumber | zero sign =>
      rw [shape] at above
      cases above
  | infinity sign =>
      rw [shape] at above
      cases sign with
      | negative => cases above
      | positive => exact .inr rfl
  | finite sign mantissa exponent some =>
      rw [shape] at above
      cases sign with
      | negative => cases above
      | positive => exact .inl ⟨_, _, unpack_isDouble shape, rfl⟩

theorem unpack_packedInfinity :
    unpack Format.binary64 (UnpackedFloat.pack Format.binary64 (.infinity .positive)) =
      .infinity .positive := rfl

theorem roundWithAccuracy_cases (sign : Sign) (mantissa : Nat) (exponent : Int)
    (accuracy : Accuracy) :
    roundWithAccuracy Format.binary64 sign mantissa exponent accuracy = .zero sign ∨
      ∃ rounded scale positive,
        roundWithAccuracy Format.binary64 sign mantissa exponent accuracy =
          .finite sign rounded scale positive := by
  unfold roundWithAccuracy
  dsimp only
  split
  · exact .inl rfl
  · rename_i some
    exact .inr ⟨_, _, Nat.pos_of_ne_zero some, rfl⟩

theorem unpack_rounded (mantissa : Nat) (exponent : Int) :
    HasSign .positive (unpack Format.binary64 (UnpackedFloat.pack Format.binary64
        (roundWithAccuracy Format.binary64 .positive mantissa exponent .exact))) ∨
      unpack Format.binary64 (UnpackedFloat.pack Format.binary64
        (roundWithAccuracy Format.binary64 .positive mantissa exponent .exact)) =
          .infinity .positive := by
  rcases roundWithAccuracy_cases .positive mantissa exponent .exact with
    isZero | ⟨rounded, scale, positive, isFinite⟩
  · rw [isZero, unpack_packedZero]
    exact .inl rfl
  · rw [isFinite]
    exact unpack_pack_positive positive

/-- A positive number doubled any number of times is a number and not negative. -/
theorem mul_powerOfTwo_nonneg {base : Float} (positive : 0 < base) (power : Nat) :
    0 ≤ base * powerOfTwo power := by
  apply nonneg_of_unpack
  rw [mul_unpack]
  rcases unpack_positive positive with ⟨mantissa, exponent, double, isBase⟩ | isBase
  · rcases powerOfTwo_unpack power with ⟨powerDouble, isPower⟩ | isPower
    · rw [isBase, isPower]
      exact unpack_rounded _ _
    · rw [isBase, isPower]
      exact .inr unpack_packedInfinity
  · rcases powerOfTwo_unpack power with ⟨powerDouble, isPower⟩ | isPower
    · rw [isBase, isPower]
      exact .inr unpack_packedInfinity
    · rw [isBase, isPower]
      exact .inr unpack_packedInfinity

/-! ### Comparing doubles -/

theorem value_le_of_lt (left : IsDouble first firstExponent)
    (right : IsDouble second secondExponent)
    (compared : (compare firstExponent secondExponent).then (compare first second) = .lt) :
    (first : ℚ) * 2 ^ firstExponent ≤ (second : ℚ) * 2 ^ secondExponent := by
  rcases Int.lt_trichotomy firstExponent secondExponent with lower | same | higher
  · apply value_le (Int.le_of_lt lower)
    have normal : 2 ^ 52 ≤ second := right.aligned.resolve_right (by have := left.low; omega)
    have doubled : 2 ^ 1 ≤ 2 ^ (secondExponent - firstExponent).toNat :=
      Nat.pow_le_pow_right (by decide) (by omega)
    have below := left.below
    have product := Nat.mul_le_mul normal doubled
    omega
  · subst same
    rw [Int.compare_eq_eq.mpr rfl] at compared
    have less : first < second := Nat.compare_eq_lt.mp compared
    exact mul_le_mul_of_nonneg_right (by exact_mod_cast Nat.le_of_lt less) (by positivity)
  · rw [Int.compare_eq_gt.mpr higher] at compared
    cases compared

theorem exactValue_le_of_lt {bound : Float} (nonneg : 0 ≤ number) (less : number < bound)
    (boundNonneg : 0 ≤ bound) (isLimit : exactValue bound = some limit) :
    ∃ value, exactValue number = some value ∧ value ≤ limit := by
  have limitNonneg := exactValue_nonneg boundNonneg isLimit
  have below : number.toModel.unpack.lt bound.toModel.unpack = true := of_decide_eq_true less
  have numberCases := unpack_nonnegative nonneg
  have boundCases := unpack_nonnegative boundNonneg
  generalize numberShape : number.toModel.unpack = numberUnpacked at below numberCases
  generalize boundShape : bound.toModel.unpack = boundUnpacked at below boundCases
  cases numberCases with
  | zero sign => exact ⟨0, exactValue_zero numberShape, limitNonneg⟩
  | infinity =>
      cases boundCases with
      | zero sign => cases below
      | finite double => cases below
      | infinity => cases below
  | finite double =>
      cases boundCases with
      | zero sign => cases below
      | infinity =>
          rw [exactValue_infinity boundShape] at isLimit
          cases isLimit
      | finite boundDouble =>
          rw [exactValue_finite boundShape] at isLimit
          cases isLimit
          exact ⟨_, exactValue_finite numberShape,
            value_le_of_lt double boundDouble (Option.some.inj (eq_of_beq below))⟩

/-- Of a finite number that is not negative and another one, `Math.min` makes a finite one that
    does not exceed the first. -/
theorem mathMin_le {first second : Float} (firstNonneg : 0 ≤ first) (secondNonneg : 0 ≤ second)
    (isLimit : exactValue first = some limit) :
    0 ≤ mathMin first second ∧
      ∃ value, exactValue (mathMin first second) = some value ∧ value ≤ limit := by
  unfold mathMin
  split
  · exact ⟨firstNonneg, limit, isLimit, le_refl limit⟩
  · split
    · rename_i _ notANumber
      exfalso
      change second.toModel.unpack.isNaN = true at notANumber
      have cases := unpack_nonnegative secondNonneg
      generalize second.toModel.unpack = unpacked at notANumber cases
      cases cases with
      | zero sign | finite double | infinity => cases notANumber
    · split
      · rename_i less
        exact ⟨secondNonneg, exactValue_le_of_lt secondNonneg less firstNonneg isLimit⟩
      · exact ⟨firstNonneg, limit, isLimit, le_refl limit⟩

end AudioBlock.Foundation
