/-
Fingerprints of audio: the signs of the energy changes between the bands of each frame, compared
bit by bit.

Energies are rational.  The score is the quotient as a double, written with four digits.
-/
import AudioBlock.Foundation.ByteTexts
import Mathlib.Algebra.BigOperators.Ring.List
import Mathlib.Data.Int.Log
import Mathlib.Data.Rat.Floor
import Mathlib.Tactic.Linarith
import Mathlib.Tactic.Positivity
import Mathlib.Tactic.FieldSimp

namespace AudioBlock.Songs

open AudioBlock.Foundation

/-! ### Fingerprints -/

def numBands : Nat := 16

/-- `buffer[i] - 128`. -/
def centred (byte : UInt8) : Int := byte.toNat - 128

def energy (bytes : List UInt8) : ℚ :=
  ((bytes.map fun byte => centred byte * centred byte).sum : Int)

/-- The mean energy of the band from `bStart`, cut at the end of the buffer. -/
def bandEnergy (buffer : List UInt8) (bStart bandSize : Nat) : ℚ :=
  let bEnd := min (bStart + bandSize) buffer.length
  energy ((buffer.drop bStart).take (bEnd - bStart)) / (max 1 (bEnd - bStart) : Nat)

def frameBits (energies : Nat → ℚ) : List Bool :=
  (List.range numBands).map fun b =>
    let prev := if 0 < b then energies (b - 1) else energies (numBands - 1)
    decide (prev ≤ energies b)

/-- `parseInt(frameBits, 2)`. -/
def bitsValue (bits : List Bool) : Nat := bits.foldl (fun value bit => 2 * value + bit.toNat) 0

/-- `toString(16).padStart(4, '0')` of a number of 16 bits. -/
def hexFrame (value : Nat) : List Char :=
  [value / 4096 % 16, value / 256 % 16, value / 16 % 16, value % 16].map Nat.digitChar

def frameSizeOf (length : Nat) : Nat := max 64 (length / 32)

def numFramesOf (length : Nat) : Nat := max 1 (min 32 (length / frameSizeOf length))

def frameValue (buffer : List UInt8) (f : Nat) : Nat :=
  let frameSize := frameSizeOf buffer.length
  let bandSize := max 1 (frameSize / numBands)
  bitsValue (frameBits fun b => bandEnergy buffer (f * frameSize + b * bandSize) bandSize)

def frameValues (buffer : List UInt8) : List Nat :=
  (List.range (numFramesOf buffer.length)).map (frameValue buffer)

def generateFingerprint (buffer : List UInt8) : List Char :=
  if buffer = [] then []
  else ['-'].intercalate ((frameValues buffer).map hexFrame)

/-! ### The score -/

/-- `parseInt(frame, 16) || 0`, of the digits at the beginning. -/
def parseFrame (frame : List Char) : Nat :=
  ((frame.map hexValue).takeWhile Option.isSome).foldl
    (fun value digit => 16 * value + digit.getD 0) 0

def bitsPerFrame : Nat := 16

def matchingBits (val1 val2 : Nat) : Nat :=
  bitsPerFrame - (List.range bitsPerFrame).countP fun b => (val1 ^^^ val2).testBit b

def totalMatchingBits (frames1 frames2 : List (List Char)) : Nat :=
  (List.zipWith (fun one other => matchingBits (parseFrame one) (parseFrame other)) frames1
    frames2).sum

def roundHalfEven (number : ℚ) : Int :=
  let low := ⌊number⌋
  if number - low < 1 / 2 then low
  else if 1 / 2 < number - low then low + 1
  else if low % 2 = 0 then low else low + 1

def nearestDouble (number : ℚ) : ℚ :=
  let scale : ℚ := 2 ^ (52 - Int.log 2 number).toNat
  roundHalfEven (number * scale) / scale

/-- `Number(number.toFixed(4))`. -/
def fourDigits (number : ℚ) : ℚ := nearestDouble (⌊number * 10000 + 1 / 2⌋ / 10000)

def compareFingerprints (fp1 fp2 : List Char) : ℚ :=
  if fp1 = [] ∨ fp2 = [] then 0
  else if fp1 = fp2 then 1
  else
    let frames1 := fp1.splitOn '-'
    let frames2 := fp2.splitOn '-'
    let maxLen := max frames1.length frames2.length
    fourDigits (nearestDouble (totalMatchingBits frames1 frames2 / (maxLen * bitsPerFrame : Nat)))

/-! ### Rounding -/

variable {number : ℚ} {scaled : List UInt8} {gain : Int}

theorem roundHalfEven_le {bound : Int} (below : number ≤ bound) :
    roundHalfEven number ≤ bound := by
  have low := Int.floor_le number
  have least : ⌊number⌋ ≤ bound := Int.floor_le_iff.mpr (lt_of_le_of_lt below (lt_add_one _))
  unfold roundHalfEven
  by_cases whole : ⌊number⌋ = bound
  · have none : number - ⌊number⌋ < 1 / 2 := by
      rw [whole]
      linarith
    rw [if_pos none]
    exact least
  · have next : ⌊number⌋ + 1 ≤ bound := by omega
    dsimp only
    split
    · exact least
    · split
      · exact next
      · split
        · exact least
        · exact next

theorem roundHalfEven_nonneg (nonneg : 0 ≤ number) : 0 ≤ roundHalfEven number := by
  have low : 0 ≤ ⌊number⌋ := Int.floor_nonneg.mpr nonneg
  unfold roundHalfEven
  dsimp only
  split
  · exact low
  · split
    · omega
    · split
      · exact low
      · omega

theorem nearestDouble_nonneg (nonneg : 0 ≤ number) : 0 ≤ nearestDouble number := by
  unfold nearestDouble
  have rounded : 0 ≤ roundHalfEven (number * 2 ^ (52 - Int.log 2 number).toNat) :=
    roundHalfEven_nonneg (by positivity)
  have cast : (0 : ℚ) ≤ roundHalfEven (number * 2 ^ (52 - Int.log 2 number).toNat) := by
    exact_mod_cast rounded
  positivity

theorem log_nonpos (small : number ≤ 1) : Int.log 2 number ≤ 0 := by
  rw [Int.log_of_right_le_one 2 small]
  omega

theorem nearestDouble_le {bound : Nat} (small : number ≤ bound / 512) (most : bound ≤ 512) :
    nearestDouble number ≤ bound / 512 := by
  have most' : (bound : ℚ) ≤ 512 := by exact_mod_cast most
  have one : number ≤ 1 := by linarith
  have places := log_nonpos one
  obtain ⟨extra, exponent⟩ : ∃ extra : Nat, (52 - Int.log 2 number).toNat = 9 + extra :=
    ⟨(52 - Int.log 2 number).toNat - 9, by omega⟩
  unfold nearestDouble
  dsimp only
  rw [exponent]
  have positive : (0 : ℚ) < 2 ^ (9 + extra) := by positivity
  have whole : (bound : ℚ) / 512 * 2 ^ (9 + extra) = ((bound * 2 ^ extra : Nat) : Int) := by
    push_cast
    rw [pow_add]
    ring
  have rounded : roundHalfEven (number * 2 ^ (9 + extra)) ≤ ((bound * 2 ^ extra : Nat) : Int) := by
    apply roundHalfEven_le
    rw [← whole]
    exact mul_le_mul_of_nonneg_right small positive.le
  rw [div_le_iff₀ positive, whole]
  exact_mod_cast rounded

theorem nearestDouble_le_one (small : number ≤ 1) : nearestDouble number ≤ 1 := by
  have unit : ((512 : Nat) : ℚ) / 512 = 1 := by norm_num
  have rounded := @nearestDouble_le number 512 (by rwa [unit]) (Nat.le_refl _)
  rwa [unit] at rounded

theorem fourDigits_nonneg (nonneg : 0 ≤ number) : 0 ≤ fourDigits number := by
  unfold fourDigits
  apply nearestDouble_nonneg
  have digits : 0 ≤ ⌊number * 10000 + 1 / 2⌋ := Int.floor_nonneg.mpr (by positivity)
  have cast : (0 : ℚ) ≤ ⌊number * 10000 + 1 / 2⌋ := by exact_mod_cast digits
  positivity

theorem fourDigits_le_one (small : number ≤ 1) : fourDigits number ≤ 1 := by
  have digits : ⌊number * 10000 + 1 / 2⌋ ≤ 10000 := by
    rw [Int.floor_le_iff]
    push_cast
    linarith
  have cast : (⌊number * 10000 + 1 / 2⌋ : ℚ) ≤ 10000 := by exact_mod_cast digits
  unfold fourDigits
  apply nearestDouble_le_one
  linarith

theorem fourDigits_lt_one (small : number ≤ 511 / 512) : fourDigits number < 1 := by
  have digits : ⌊number * 10000 + 1 / 2⌋ ≤ 9980 := by
    rw [Int.floor_le_iff]
    push_cast
    linarith
  have cast : (⌊number * 10000 + 1 / 2⌋ : ℚ) ≤ 9980 := by exact_mod_cast digits
  have rounded := @nearestDouble_le (⌊number * 10000 + 1 / 2⌋ / 10000) 511 (by norm_num; linarith)
    (by omega)
  unfold fourDigits
  norm_num at rounded
  linarith

/-! ### Matching bits -/

theorem matchingBits_comm (val1 val2 : Nat) : matchingBits val1 val2 = matchingBits val2 val1 := by
  unfold matchingBits
  rw [Nat.xor_comm]

theorem matchingBits_le (val1 val2 : Nat) : matchingBits val1 val2 ≤ 16 := Nat.sub_le _ _

theorem matchingBits_lt {val1 val2 : Nat} (small : val1 < 2 ^ 16) (small' : val2 < 2 ^ 16)
    (different : val1 ≠ val2) : matchingBits val1 val2 < 16 := by
  have differs : 0 < (List.range bitsPerFrame).countP fun b => (val1 ^^^ val2).testBit b := by
    rw [List.countP_pos_iff]
    by_contra none
    apply different
    apply Nat.eq_of_testBit_eq
    intro b
    by_cases low : b < 16
    · cases first : val1.testBit b == val2.testBit b with
      | true => exact eq_of_beq first
      | false =>
          refine absurd ⟨b, List.mem_range.mpr low, ?_⟩ none
          rw [Nat.testBit_xor]
          exact bne_iff_ne.mpr (beq_eq_false_iff_ne.mp first)
    · have large : 2 ^ 16 ≤ 2 ^ b := Nat.pow_le_pow_right (by omega) (by omega)
      rw [Nat.testBit_lt_two_pow (lt_of_lt_of_le small large),
        Nat.testBit_lt_two_pow (lt_of_lt_of_le small' large)]
  unfold matchingBits
  have whole : bitsPerFrame = 16 := rfl
  omega

theorem zipSum_le {α : Type} (matching : α → α → Nat) (most : ∀ one other, matching one other ≤ 16) :
    ∀ ones others : List α,
      (List.zipWith matching ones others).sum ≤ 16 * max ones.length others.length := by
  intro ones
  induction ones with
  | nil =>
      intro others
      exact Nat.zero_le _
  | cons one ones ih =>
      intro others
      cases others with
      | nil => exact Nat.zero_le _
      | cons other others =>
          have first := most one other
          have rest := ih others
          simp only [List.zipWith_cons_cons, List.sum_cons, List.length_cons]
          omega

theorem zipSum_lt :
    ∀ {ones others : List Nat}, (∀ value ∈ ones, value < 2 ^ 16) →
      (∀ value ∈ others, value < 2 ^ 16) → ones ≠ others →
      (List.zipWith matchingBits ones others).sum < 16 * max ones.length others.length := by
  intro ones
  induction ones with
  | nil =>
      intro others _small _small' different
      have nonempty := List.length_pos_of_ne_nil (Ne.symm different)
      simp only [List.zipWith_nil_left, List.sum_nil, List.length_nil]
      omega
  | cons one ones ih =>
      intro others small small' different
      cases others with
      | nil =>
          simp only [List.zipWith_nil_right, List.sum_nil, List.length_cons]
          omega
      | cons other others =>
          simp only [List.zipWith_cons_cons, List.sum_cons, List.length_cons]
          by_cases same : one = other
          · have later : ones ≠ others := fun equal => different (by rw [same, equal])
            have rest := ih (fun value member => small value (List.mem_cons_of_mem _ member))
              (fun value member => small' value (List.mem_cons_of_mem _ member)) later
            have first := matchingBits_le one other
            omega
          · have first := matchingBits_lt (small one List.mem_cons_self)
              (small' other List.mem_cons_self) same
            have rest := zipSum_le matchingBits matchingBits_le ones others
            omega

/-! ### Frames -/

theorem bitsValue_lt (bits : List Bool) : bitsValue bits < 2 ^ bits.length := by
  have general : ∀ (bits : List Bool) (start : Nat),
      bits.foldl (fun value bit => 2 * value + bit.toNat) start < (start + 1) * 2 ^ bits.length := by
    intro bits
    induction bits with
    | nil =>
        intro start
        simp
    | cons bit bits ih =>
        intro start
        have digit : bit.toNat ≤ 1 := Bool.toNat_le bit
        have scaled : (2 * start + bit.toNat + 1) * 2 ^ bits.length ≤
            (2 * (start + 1)) * 2 ^ bits.length := Nat.mul_le_mul_right _ (by omega)
        have whole : (start + 1) * 2 ^ (bits.length + 1) =
            (2 * (start + 1)) * 2 ^ bits.length := by
          rw [pow_succ]
          ring
        rw [List.foldl_cons, List.length_cons, whole]
        exact lt_of_lt_of_le (ih _) scaled
  have bound := general bits 0
  rwa [Nat.zero_add, Nat.one_mul] at bound

variable (buffer : List UInt8)

theorem frameValue_lt (f : Nat) : frameValue buffer f < 2 ^ 16 := by
  unfold frameValue
  have bound := bitsValue_lt (frameBits fun b => bandEnergy buffer
    (f * frameSizeOf buffer.length + b * max 1 (frameSizeOf buffer.length / numBands))
    (max 1 (frameSizeOf buffer.length / numBands)))
  have sized : ∀ energies, (frameBits energies).length = 16 := by
    intro energies
    simp [frameBits, numBands]
  rwa [sized] at bound

theorem parseFrame_hexFrame {value : Nat} (small : value < 2 ^ 16) :
    parseFrame (hexFrame value) = value := by
  have digits : ∀ digit, hexValue (Nat.digitChar (digit % 16)) = some (digit % 16) :=
    fun digit => hexValue_digitChar _ (Nat.mod_lt _ (by omega))
  simp only [parseFrame, hexFrame, List.map_cons, List.map_nil, digits, List.takeWhile_cons,
    Option.isSome_some, if_true, List.takeWhile_nil, List.foldl_cons, List.foldl_nil,
    Option.getD_some]
  omega

theorem dash_not_mem_hexFrame (value : Nat) : '-' ∉ hexFrame value := by
  intro member
  have digit : ∃ digit, '-' = Nat.digitChar (digit % 16) := by
    simp only [hexFrame, List.map_cons, List.map_nil, List.mem_cons, List.not_mem_nil,
      or_false] at member
    rcases member with first | second | third | fourth
    · exact ⟨_, first⟩
    · exact ⟨_, second⟩
    · exact ⟨_, third⟩
    · exact ⟨_, fourth⟩
  obtain ⟨digit, shown⟩ := digit
  have read := hexValue_digitChar (digit % 16) (Nat.mod_lt _ (by omega))
  have none : hexValue '-' = Option.none := by decide
  rw [← shown, none] at read
  cases read

theorem frameValues_ne_nil : frameValues buffer ≠ [] := by
  apply List.ne_nil_of_length_pos
  simp only [frameValues, List.length_map, List.length_range, numFramesOf]
  omega

theorem length_frameValues : (frameValues buffer).length ≤ 32 := by
  simp only [frameValues, List.length_map, List.length_range, numFramesOf]
  omega

theorem frameValues_small : ∀ value ∈ frameValues buffer, value < 2 ^ 16 := by
  intro value member
  obtain ⟨f, _inRange, rfl⟩ := List.mem_map.mp member
  exact frameValue_lt buffer f

theorem split_fingerprint :
    (['-'].intercalate ((frameValues buffer).map hexFrame)).splitOn '-' =
      (frameValues buffer).map hexFrame := by
  apply List.splitOn_intercalate
  · intro frame member
    obtain ⟨value, _present, rfl⟩ := List.mem_map.mp member
    exact dash_not_mem_hexFrame value
  · exact fun none => frameValues_ne_nil buffer (List.map_eq_nil_iff.mp none)

theorem totalMatchingBits_frames (a b : List UInt8) :
    totalMatchingBits ((frameValues a).map hexFrame) ((frameValues b).map hexFrame) =
      (List.zipWith matchingBits (frameValues a) (frameValues b)).sum := by
  have parsed : ∀ buffer, ((frameValues buffer).map hexFrame).map parseFrame =
      frameValues buffer := by
    intro buffer
    rw [List.map_map]
    apply (List.map_congr_left ?_).trans (List.map_id _)
    intro value member
    exact parseFrame_hexFrame (frameValues_small buffer value member)
  unfold totalMatchingBits
  rw [← List.zipWith_map, parsed, parsed]

/-! ### Gain -/

theorem energy_scaled {bytes : List UInt8}
    (scales : scaled.map centred = bytes.map fun byte => gain * centred byte) :
    energy scaled = gain ^ 2 * energy bytes := by
  have squares : ∀ list : List UInt8, (list.map fun byte => centred byte * centred byte) =
      (list.map centred).map fun sample => sample * sample := by
    intro list
    rw [List.map_map]
    rfl
  have factored : (fun byte => gain * centred byte * (gain * centred byte)) =
      fun byte => gain ^ 2 * (centred byte * centred byte) := by
    funext byte
    ring
  unfold energy
  rw [squares scaled, scales, List.map_map]
  change (((bytes.map fun byte => gain * centred byte * (gain * centred byte)).sum : Int) : ℚ) = _
  rw [factored, List.sum_map_mul_left]
  push_cast
  rfl

theorem bandEnergy_scaled {buffer : List UInt8}
    (scales : scaled.map centred = buffer.map fun byte => gain * centred byte)
    (bStart bandSize : Nat) :
    bandEnergy scaled bStart bandSize = gain ^ 2 * bandEnergy buffer bStart bandSize := by
  have sized : scaled.length = buffer.length := by
    have lengths := congrArg List.length scales
    rwa [List.length_map, List.length_map] at lengths
  unfold bandEnergy
  dsimp only
  rw [sized, mul_div_assoc', ← energy_scaled]
  rw [List.map_take, List.map_drop, scales, List.map_take, List.map_drop]

theorem frameBits_scaled {factor : ℚ} (positive : 0 < factor) (energies : Nat → ℚ) :
    (frameBits fun b => factor * energies b) = frameBits energies := by
  unfold frameBits
  apply List.map_congr_left
  intro b _inRange
  dsimp only
  rw [← mul_ite]
  exact decide_eq_decide.mpr (mul_le_mul_iff_right₀ positive)

theorem frameValues_scaled {buffer : List UInt8} (loud : 1 ≤ gain)
    (scales : scaled.map centred = buffer.map fun byte => gain * centred byte) :
    frameValues scaled = frameValues buffer := by
  have sized : scaled.length = buffer.length := by
    have lengths := congrArg List.length scales
    rwa [List.length_map, List.length_map] at lengths
  have positive : (0 : ℚ) < gain ^ 2 := by
    have cast : (1 : ℚ) ≤ gain := by exact_mod_cast loud
    positivity
  unfold frameValues
  rw [sized]
  apply List.map_congr_left
  intro f _inRange
  unfold frameValue
  simp only [sized, bandEnergy_scaled scales, frameBits_scaled positive]

/-! ### The laws -/

theorem compareFingerprints_comm (fp1 fp2 : List Char) :
    compareFingerprints fp1 fp2 = compareFingerprints fp2 fp1 := by
  have total : ∀ frames1 frames2,
      totalMatchingBits frames1 frames2 = totalMatchingBits frames2 frames1 := by
    intro frames1 frames2
    unfold totalMatchingBits
    rw [List.zipWith_comm]
    simp only [matchingBits_comm]
  unfold compareFingerprints
  simp only [or_comm, eq_comm, total (fp1.splitOn '-'), max_comm (fp1.splitOn '-').length]

theorem similarity_le_one (frames1 frames2 : List (List Char)) :
    ((totalMatchingBits frames1 frames2 : ℚ) /
      (max frames1.length frames2.length * bitsPerFrame : Nat)) ≤ 1 := by
  have most := zipSum_le (fun one other => matchingBits (parseFrame one) (parseFrame other))
    (fun one other => matchingBits_le _ _) frames1 frames2
  apply div_le_one_of_le₀
  · have whole : totalMatchingBits frames1 frames2 ≤
        max frames1.length frames2.length * bitsPerFrame := by
      rw [Nat.mul_comm]
      exact most
    exact_mod_cast whole
  · positivity

theorem compareFingerprints_bounds (fp1 fp2 : List Char) :
    0 ≤ compareFingerprints fp1 fp2 ∧ compareFingerprints fp1 fp2 ≤ 1 := by
  unfold compareFingerprints
  by_cases blank : fp1 = [] ∨ fp2 = []
  · rw [if_pos blank]
    exact ⟨le_refl 0, zero_le_one⟩
  · rw [if_neg blank]
    by_cases same : fp1 = fp2
    · rw [if_pos same]
      exact ⟨zero_le_one, le_refl 1⟩
    · rw [if_neg same]
      have small := similarity_le_one (fp1.splitOn '-') (fp2.splitOn '-')
      constructor
      · exact fourDigits_nonneg (nearestDouble_nonneg (by positivity))
      · exact fourDigits_le_one (nearestDouble_le_one small)

theorem compareFingerprints_lt_one {a b : List UInt8}
    (different : generateFingerprint a ≠ generateFingerprint b) :
    compareFingerprints (generateFingerprint a) (generateFingerprint b) < 1 := by
  unfold compareFingerprints
  by_cases blank : generateFingerprint a = [] ∨ generateFingerprint b = []
  · rw [if_pos blank]
    exact zero_lt_one
  · rw [if_neg blank, if_neg different]
    have nonempty : a ≠ [] := fun none => blank (Or.inl (if_pos none))
    have nonempty' : b ≠ [] := fun none => blank (Or.inr (if_pos none))
    have first : generateFingerprint a = ['-'].intercalate ((frameValues a).map hexFrame) :=
      if_neg nonempty
    have second : generateFingerprint b = ['-'].intercalate ((frameValues b).map hexFrame) :=
      if_neg nonempty'
    have values : frameValues a ≠ frameValues b := by
      intro same
      exact different (by rw [first, second, same])
    have fewer := zipSum_lt (frameValues_small a) (frameValues_small b) values
    have frames := length_frameValues a
    have frames' := length_frameValues b
    apply fourDigits_lt_one
    rw [first, second, split_fingerprint, split_fingerprint, totalMatchingBits_frames,
      List.length_map, List.length_map]
    have places : max (frameValues a).length (frameValues b).length ≤ 32 := by omega
    generalize max (frameValues a).length (frameValues b).length = maxLen at fewer places ⊢
    generalize (List.zipWith matchingBits (frameValues a) (frameValues b)).sum = total at fewer ⊢
    have rounded := @nearestDouble_le (total / (maxLen * bitsPerFrame : Nat)) 511 ?_ (by omega)
    · exact_mod_cast rounded
    · have whole : 512 * total ≤ 511 * (maxLen * bitsPerFrame) := by
        unfold bitsPerFrame
        omega
      have positive : 0 < maxLen * bitsPerFrame := by
        unfold bitsPerFrame
        omega
      have cast : (512 * total : ℚ) ≤ 511 * (maxLen * bitsPerFrame : Nat) := by exact_mod_cast whole
      have positive' : (0 : ℚ) < (maxLen * bitsPerFrame : Nat) := by exact_mod_cast positive
      rw [div_le_div_iff₀ positive' (by norm_num)]
      push_cast at cast ⊢
      linarith

/-- The score is symmetric, from zero to one, and one only for equal fingerprints; a gain that
stays within the bytes leaves the fingerprint as it is. -/
theorem audioFingerprint_laws (a b : List UInt8) :
    compareFingerprints (generateFingerprint a) (generateFingerprint b) =
        compareFingerprints (generateFingerprint b) (generateFingerprint a) ∧
      (0 ≤ compareFingerprints (generateFingerprint a) (generateFingerprint b) ∧
        compareFingerprints (generateFingerprint a) (generateFingerprint b) ≤ 1) ∧
      (compareFingerprints (generateFingerprint a) (generateFingerprint b) = 1 →
        generateFingerprint a = generateFingerprint b) ∧
      ∀ (gain : Int) (scaled : List UInt8), 1 ≤ gain →
        (scaled.map centred = a.map fun byte => gain * centred byte) →
        generateFingerprint scaled = generateFingerprint a := by
  refine ⟨compareFingerprints_comm _ _, compareFingerprints_bounds _ _, ?_, ?_⟩
  · intro one
    by_contra different
    exact absurd one (ne_of_lt (compareFingerprints_lt_one different))
  · intro gain scaled loud scales
    have sized := congrArg List.length scales
    rw [List.length_map, List.length_map] at sized
    have blank : scaled = [] ↔ a = [] := by
      rw [← List.length_eq_zero_iff, sized, List.length_eq_zero_iff]
    unfold generateFingerprint
    simp only [blank, frameValues_scaled loud scales]

end AudioBlock.Songs
