/-
The peaks of a waveform (src/utils/ffmpeg.ts, `extractAudioPeaks`), from the bytes that
ffmpeg writes.

The chunks have equal lengths, rounded down, so what remains of the samples at the end is in
no chunk.  A level is a sixteen-bit integer over a power of two and so exact as a double.
-/
import Mathlib.Algebra.Order.Field.Basic
import Mathlib.Algebra.Order.Ring.Rat
import Mathlib.Data.List.Induction
import Mathlib.Tactic.NormNum

namespace AudioBlock.Processing

/-- `buffer.readInt16LE(offset)`, `none` outside of the buffer. -/
def readInt16LE (buffer : List UInt8) (offset : Nat) : Option Int :=
  match buffer[offset]?, buffer[offset + 1]? with
  | some low, some high =>
      let word : Int := low.toNat + 256 * high.toNat
      some (if word < 32768 then word else word - 65536)
  | _, _ => none

def normalized (sample : Int) : ℚ := |(sample : ℚ)| / 32768

def chunkOffsets (start stop : Nat) : List Nat :=
  (List.range ((stop - start + 1) / 2)).map fun step => start + 2 * step

def chunkPeak (buffer : List UInt8) (offsets : List Nat) : ℚ :=
  offsets.foldl (fun maxPeak offset =>
    match readInt16LE buffer offset with
    | some sample => max maxPeak (normalized sample)
    | none => maxPeak) 0

def chunkSize (buffer : List UInt8) (samples : Nat) : Nat := buffer.length / (samples * 2)

def chunk (buffer : List UInt8) (samples index : Nat) : List Nat :=
  let start := index * chunkSize buffer samples * 2
  chunkOffsets start (min (start + chunkSize buffer samples * 2) buffer.length)

def extractAudioPeaks (buffer : List UInt8) (samples : Nat) : List ℚ :=
  (List.range samples).map fun index => min 1 (chunkPeak buffer (chunk buffer samples index))

/-! ### Samples and chunks -/

def sampleCount (buffer : List UInt8) : Nat := buffer.length / 2

def level (buffer : List UInt8) (index : Nat) : ℚ :=
  match readInt16LE buffer (2 * index) with
  | some sample => normalized sample
  | none => 0

def loudest (levels : List ℚ) : ℚ := levels.foldl max 0

variable (buffer : List UInt8) (samples : Nat)

theorem readInt16LE_range (offset : Nat) :
    ∀ sample ∈ readInt16LE buffer offset, -32768 ≤ sample ∧ sample ≤ 32767 := by
  intro sample read
  unfold readInt16LE at read
  split at read
  · rename_i low high _first _second
    have lowBound := low.toNat_lt
    have highBound := high.toNat_lt
    cases Option.mem_some_iff.mp read
    split
    · omega
    · omega
  · cases read

theorem level_bounds (index : Nat) :
    0 ≤ level buffer index ∧ level buffer index ≤ 1 := by
  unfold level
  split
  · rename_i sample read
    obtain ⟨above, below⟩ := readInt16LE_range buffer (2 * index) sample read
    have bound : |(sample : ℚ)| ≤ 32768 := by
      refine abs_le.mpr ⟨?_, ?_⟩
      · exact_mod_cast above
      · exact_mod_cast Int.le_trans below (by decide)
    unfold normalized
    refine ⟨div_nonneg (abs_nonneg _) (by norm_num), ?_⟩
    rw [div_le_one (by norm_num)]
    exact bound
  · exact ⟨le_refl 0, zero_le_one⟩

theorem foldl_max_le_iff (levels : List ℚ) (first bound : ℚ) :
    levels.foldl max first ≤ bound ↔ first ≤ bound ∧ ∀ other ∈ levels, other ≤ bound := by
  induction levels generalizing first with
  | nil => simp
  | cons head rest ih => simp [ih, and_assoc]

theorem loudest_le_iff {levels : List ℚ} {bound : ℚ} (nonnegative : 0 ≤ bound) :
    loudest levels ≤ bound ↔ ∀ other ∈ levels, other ≤ bound := by
  unfold loudest
  rw [foldl_max_le_iff]
  exact and_iff_right nonnegative

theorem loudest_nonneg (levels : List ℚ) : 0 ≤ loudest levels :=
  ((foldl_max_le_iff levels 0 _).mp (le_refl _)).1

theorem le_loudest {levels : List ℚ} {other : ℚ} (member : other ∈ levels) :
    other ≤ loudest levels :=
  (loudest_le_iff (loudest_nonneg levels)).mp (le_refl _) other member

theorem loudest_attained (levels : List ℚ) : loudest levels = 0 ∨ loudest levels ∈ levels := by
  induction levels using List.reverseRecOn with
  | nil => exact Or.inl rfl
  | append_singleton levels last ih =>
      have step : loudest (levels ++ [last]) = max (loudest levels) last := by simp [loudest]
      rw [step]
      rcases max_choice (loudest levels) last with earlier | final
      · rw [earlier]
        exact ih.imp_right fun member => List.mem_append_left _ member
      · rw [final]
        exact Or.inr (by simp)

theorem chunkSize_eq :
    chunkSize buffer samples = sampleCount buffer / samples := by
  unfold chunkSize sampleCount
  rw [Nat.div_div_eq_div_mul, Nat.mul_comm]

theorem chunks_fit :
    samples * chunkSize buffer samples ≤ sampleCount buffer := by
  rw [chunkSize_eq, Nat.mul_comm]
  exact Nat.div_mul_le_self _ _

theorem chunk_eq {samples index : Nat} (within : index < samples) :
    chunk buffer samples index =
      (List.range (chunkSize buffer samples)).map fun step =>
        2 * (index * chunkSize buffer samples + step) := by
  have fits := chunks_fit buffer samples
  have last : (index + 1) * chunkSize buffer samples ≤ samples * chunkSize buffer samples :=
    Nat.mul_le_mul_right _ within
  rw [Nat.add_mul, Nat.one_mul] at last
  have whole : 2 * sampleCount buffer ≤ buffer.length := by
    unfold sampleCount
    omega
  unfold chunk chunkOffsets
  simp only
  rw [Nat.min_eq_left (by omega)]
  have count : (index * chunkSize buffer samples * 2 + chunkSize buffer samples * 2 -
      index * chunkSize buffer samples * 2 + 1) / 2 = chunkSize buffer samples := by omega
  rw [count]
  apply List.map_congr_left
  intro step _among
  omega

theorem chunkPeak_eq (indices : List Nat) :
    chunkPeak buffer (indices.map fun index => 2 * index) = loudest (indices.map (level buffer)) := by
  induction indices using List.reverseRecOn with
  | nil => rfl
  | append_singleton indices index ih =>
      have nonnegative := loudest_nonneg (indices.map (level buffer))
      unfold chunkPeak loudest at ih nonnegative ⊢
      rw [List.map_append, List.map_append, List.foldl_append, List.foldl_append, ih]
      simp only [List.map_cons, List.map_nil, List.foldl_cons, List.foldl_nil, level]
      split
      · rfl
      · exact (max_eq_left nonnegative).symm

/-! ### What the peaks cover -/

def chunkLevels (buffer : List UInt8) (samples index : Nat) : List ℚ :=
  (List.range (chunkSize buffer samples)).map fun step =>
    level buffer (index * chunkSize buffer samples + step)

theorem extractAudioPeaks_eq :
    extractAudioPeaks buffer samples =
      (List.range samples).map fun index => loudest (chunkLevels buffer samples index) := by
  apply List.map_congr_left
  intro index among
  have below : loudest (chunkLevels buffer samples index) ≤ 1 := by
    refine (loudest_le_iff zero_le_one).mpr fun other member => ?_
    obtain ⟨step, _among, rfl⟩ := List.mem_map.mp member
    exact (level_bounds buffer _).2
  have offsets : chunk buffer samples index =
      ((List.range (chunkSize buffer samples)).map fun step =>
        index * chunkSize buffer samples + step).map fun sample => 2 * sample := by
    rw [chunk_eq buffer (List.mem_range.mp among), List.map_map]
    rfl
  rw [offsets, chunkPeak_eq, List.map_map]
  exact min_eq_right below

theorem exists_chunk {samples size index : Nat} (within : index < samples * size) :
    ∃ block < samples, ∃ step < size, index = block * size + step := by
  have positive : 0 < size := Nat.pos_of_ne_zero fun none => by simp [none] at within
  refine ⟨index / size, (Nat.div_lt_iff_lt_mul positive).mpr within, index % size,
    Nat.mod_lt _ positive, ?_⟩
  rw [Nat.mul_comm]
  exact (Nat.div_add_mod index size).symm

theorem chunk_within {samples size block step : Nat} (among : block < samples)
    (inside : step < size) : block * size + step < samples * size := by
  have last : (block + 1) * size ≤ samples * size := Nat.mul_le_mul_right size among
  rw [Nat.add_mul, Nat.one_mul] at last
  omega

theorem loudest_peaks_le_iff {bound : ℚ} (nonnegative : 0 ≤ bound) :
    loudest (extractAudioPeaks buffer samples) ≤ bound ↔
      ∀ index < samples * chunkSize buffer samples, level buffer index ≤ bound := by
  rw [loudest_le_iff nonnegative, extractAudioPeaks_eq]
  constructor
  · intro below index within
    obtain ⟨block, among, step, inside, rfl⟩ := exists_chunk within
    have peak := below _ (List.mem_map_of_mem (List.mem_range.mpr among))
    exact (loudest_le_iff nonnegative).mp peak _
      (List.mem_map_of_mem (List.mem_range.mpr inside))
  · intro below peak member
    obtain ⟨block, among, rfl⟩ := List.mem_map.mp member
    refine (loudest_le_iff nonnegative).mpr fun other inside => ?_
    obtain ⟨step, within, rfl⟩ := List.mem_map.mp inside
    exact below _ (chunk_within (List.mem_range.mp among) (List.mem_range.mp within))

def levels (buffer : List UInt8) : List ℚ := (List.range (sampleCount buffer)).map (level buffer)

theorem loudest_peaks_eq_iff :
    loudest (extractAudioPeaks buffer samples) = loudest (levels buffer) ↔
      ∀ index < sampleCount buffer, samples * chunkSize buffer samples ≤ index →
        level buffer index = 0 ∨
          ∃ earlier < samples * chunkSize buffer samples,
            level buffer index ≤ level buffer earlier := by
  have fits := chunks_fit buffer samples
  have covered := loudest_peaks_le_iff buffer samples (loudest_nonneg (levels buffer))
  have peaks := loudest_nonneg (extractAudioPeaks buffer samples)
  constructor
  · intro same index among _beyond
    have present : level buffer index ∈ levels buffer :=
      List.mem_map_of_mem (List.mem_range.mpr among)
    have below := le_loudest present
    rw [← same] at below
    rcases eq_or_lt_of_le (level_bounds buffer index).1 with silent | loud
    · exact Or.inl silent.symm
    · rcases loudest_attained (extractAudioPeaks buffer samples) with nothing | peak
      · exact absurd below (not_le_of_gt (nothing ▸ loud))
      · rw [extractAudioPeaks_eq] at peak
        obtain ⟨block, within, found⟩ := List.mem_map.mp peak
        rw [← extractAudioPeaks_eq] at found
        rcases loudest_attained (chunkLevels buffer samples block) with nothing | inside
        · exact absurd below (not_le_of_gt (found ▸ nothing ▸ loud))
        · obtain ⟨step, counted, same⟩ := List.mem_map.mp inside
          refine Or.inr ⟨_, chunk_within (List.mem_range.mp within) (List.mem_range.mp counted), ?_⟩
          rw [same, found]
          exact below
  · intro heard
    apply le_antisymm
    · refine covered.mpr fun index within => le_loudest ?_
      exact List.mem_map_of_mem (List.mem_range.mpr (Nat.lt_of_lt_of_le within fits))
    · refine (loudest_le_iff peaks).mpr fun other member => ?_
      obtain ⟨index, among, rfl⟩ := List.mem_map.mp member
      have inside := (loudest_peaks_le_iff buffer samples peaks).mp (le_refl _)
      by_cases within : index < samples * chunkSize buffer samples
      · exact inside index within
      · rcases heard index (List.mem_range.mp among) (Nat.le_of_not_lt within) with
          silent | ⟨earlier, before, louder⟩
        · rw [silent]
          exact peaks
        · exact le_trans louder (inside earlier before)

structure PeaksCover (buffer : List UInt8) (samples : Nat) : Prop where
  bounded : ∀ peak ∈ extractAudioPeaks buffer samples, 0 ≤ peak ∧ peak ≤ 1
  largest : loudest (extractAudioPeaks buffer samples) = loudest (levels buffer)
  complete : ∀ index < sampleCount buffer,
    ∃ block < samples, 2 * index ∈ chunk buffer samples block

theorem peaks_bounded :
    ∀ peak ∈ extractAudioPeaks buffer samples, 0 ≤ peak ∧ peak ≤ 1 := by
  intro peak member
  have below := (loudest_peaks_le_iff buffer samples zero_le_one).mpr
    fun index _within => (level_bounds buffer index).2
  refine ⟨?_, le_trans (le_loudest member) below⟩
  rw [extractAudioPeaks_eq] at member
  obtain ⟨block, _among, rfl⟩ := List.mem_map.mp member
  exact loudest_nonneg _

theorem read_iff (index : Nat) :
    (∃ block < samples, 2 * index ∈ chunk buffer samples block) ↔
      index < samples * chunkSize buffer samples := by
  constructor
  · rintro ⟨block, among, member⟩
    rw [chunk_eq buffer among] at member
    obtain ⟨step, within, same⟩ := List.mem_map.mp member
    have here := chunk_within among (List.mem_range.mp within)
    have position : block * chunkSize buffer samples + step = index := by omega
    rwa [position] at here
  · intro within
    obtain ⟨block, among, step, inside, rfl⟩ := exists_chunk within
    refine ⟨block, among, ?_⟩
    rw [chunk_eq buffer among]
    exact List.mem_map_of_mem (List.mem_range.mpr inside)

theorem extractAudioPeaks_covers_iff (buffer : List UInt8) (samples : Nat) :
    (PeaksCover buffer samples ↔ samples ∣ sampleCount buffer) ∧
      (loudest (extractAudioPeaks buffer samples) = loudest (levels buffer) ↔
        ∀ index < sampleCount buffer, samples * (sampleCount buffer / samples) ≤ index →
          level buffer index = 0 ∨
            ∃ earlier < samples * (sampleCount buffer / samples),
              level buffer index ≤ level buffer earlier) := by
  have loudestIff := loudest_peaks_eq_iff buffer samples
  have fits := chunks_fit buffer samples
  rw [chunkSize_eq] at loudestIff fits
  refine ⟨⟨fun covers => ?_, fun divides => ?_⟩, loudestIff⟩
  · -- The first sample behind the chunks would be read.
    have whole : samples * (sampleCount buffer / samples) = sampleCount buffer := by
      refine Nat.le_antisymm fits (Nat.le_of_not_lt fun short => ?_)
      have read := (read_iff buffer samples _).mp (covers.complete _ short)
      rw [chunkSize_eq] at read
      exact Nat.lt_irrefl _ read
    exact ⟨_, whole.symm⟩
  · have whole : samples * (sampleCount buffer / samples) = sampleCount buffer :=
      Nat.mul_div_cancel' divides
    refine ⟨peaks_bounded buffer samples, loudestIff.mpr ?_, ?_⟩
    · intro index among beyond
      omega
    · intro index among
      rw [read_iff, chunkSize_eq, whole]
      exact among

def twoSamples : List UInt8 := [0, 0, 0, 64]

/-- With more peaks than samples every chunk is empty. -/
theorem twoSamples_missed : ¬ PeaksCover twoSamples 3 := by
  intro covers
  have largest := covers.largest
  revert largest
  decide +kernel

end AudioBlock.Processing
