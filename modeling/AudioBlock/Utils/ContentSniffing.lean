/-
The content type of a file, told by its first bytes.

A marker behind the signature is read as ASCII, which clears the highest bit of each byte.  The
signature of MP4 is looked for where the box size of such a file stands.
-/
import Mathlib.Data.List.Basic

namespace AudioBlock.Utils

inductive Mimetype
  | imageJpeg
  | imagePng
  | imageWebp
  | audioMpeg
  | audioOgg
  | audioMp4
  | audioWav
  | audioAiff
deriving DecidableEq, Repr

structure Signature where
  bytes : List UInt8
  mimetype : Mimetype
deriving DecidableEq, Repr

def IMAGE_SIGNATURES : List Signature :=
  [⟨[0xff, 0xd8, 0xff], .imageJpeg⟩, ⟨[0x89, 0x50, 0x4e, 0x47], .imagePng⟩,
    ⟨[0x52, 0x49, 0x46, 0x46], .imageWebp⟩]

def AUDIO_SIGNATURES : List Signature :=
  [⟨[0x49, 0x44, 0x33], .audioMpeg⟩, ⟨[0xff, 0xfb], .audioMpeg⟩, ⟨[0xff, 0xf3], .audioMpeg⟩,
    ⟨[0x4f, 0x67, 0x67, 0x53], .audioOgg⟩, ⟨[0x66, 0x74, 0x79, 0x70], .audioMp4⟩,
    ⟨[0x52, 0x49, 0x46, 0x46], .audioWav⟩, ⟨[0x46, 0x4f, 0x52, 0x4d], .audioAiff⟩]

def matchesSignature (buffer signature : List UInt8) : Bool :=
  if buffer.length < signature.length then false
  else signature.zipIdx.all fun (byte, index) => decide (buffer[index]? = some byte)

def asciiBytes (text : String) : List UInt8 := text.toList.map fun char => char.toNat.toUInt8

/-- `buffer.toString('ascii', 8, 12)`, as bytes. -/
def markerOf (buffer : List UInt8) : List UInt8 :=
  ((buffer.take 12).drop 8).map fun byte => byte &&& 0x7f

def BRANDS : List (List UInt8) := ["M4A ", "isom", "mp42"].map asciiBytes

/-- What has to follow a signature that matches. -/
def hasMarker (buffer : List UInt8) : Mimetype → Bool
  | .imageWebp => decide (12 ≤ buffer.length) && decide (markerOf buffer = asciiBytes "WEBP")
  | .audioWav => decide (12 ≤ buffer.length) && decide (markerOf buffer = asciiBytes "WAVE")
  | .audioMp4 => decide (markerOf buffer ∈ BRANDS)
  | _ => true

/-- The loop over one of the tables. -/
def sniffTable (buffer : List UInt8) : List Signature → Option Mimetype
  | [] => none
  | sig :: table =>
      if matchesSignature buffer sig.bytes then
        if hasMarker buffer sig.mimetype then some sig.mimetype else sniffTable buffer table
      else sniffTable buffer table

def sniffContentType (buffer : List UInt8) : Option Mimetype :=
  if buffer.length < 4 then none
  else (sniffTable buffer IMAGE_SIGNATURES).or (sniffTable buffer AUDIO_SIGNATURES)

/-! ### The claimed formats -/

/-- A box size, `ftyp` and one of the brands. -/
def IsIsoMedia (buffer : List UInt8) : Prop :=
  (buffer.take 8).drop 4 = asciiBytes "ftyp" ∧ (buffer.take 12).drop 8 ∈ BRANDS

def IsRiff (marker : String) (buffer : List UInt8) : Prop :=
  buffer.take 4 = asciiBytes "RIFF" ∧ (buffer.take 12).drop 8 = asciiBytes marker

/-- A signature of a table and what has to follow it. -/
def Accepts (buffer : List UInt8) (sig : Signature) : Prop :=
  matchesSignature buffer sig.bytes = true ∧ hasMarker buffer sig.mimetype = true

def SIGNATURES : List Signature := IMAGE_SIGNATURES ++ AUDIO_SIGNATURES

structure SniffsFormats (buffer : List UInt8) : Prop where
  mp4 : IsIsoMedia buffer → sniffContentType buffer = some .audioMp4
  wav : sniffContentType buffer = some .audioWav ↔ IsRiff "WAVE" buffer
  webp : sniffContentType buffer = some .imageWebp ↔ IsRiff "WEBP" buffer
  oneType : ∀ one ∈ SIGNATURES, ∀ other ∈ SIGNATURES, Accepts buffer one → Accepts buffer other →
    one.mimetype = other.mimetype
  anyOrder : ∀ table, table.Perm SIGNATURES → sniffTable buffer table = sniffContentType buffer

/-- The box size is read as `ftyp`, and no marker has a highest bit set. -/
structure Recognised (buffer : List UInt8) : Prop where
  size : IsIsoMedia buffer → buffer.take 4 = asciiBytes "ftyp"
  plain : buffer.take 4 = asciiBytes "RIFF" → markerOf buffer = asciiBytes "WAVE" ∨
    markerOf buffer = asciiBytes "WEBP" → (buffer.take 12).drop 8 = markerOf buffer

/-! ### Signatures are prefixes -/

variable {buffer : List UInt8} {mimetype : Mimetype}

theorem matchesSignature_iff {signature : List UInt8} :
    matchesSignature buffer signature = true ↔ signature <+: buffer := by
  unfold matchesSignature
  by_cases short : buffer.length < signature.length
  · rw [if_pos short]
    constructor
    · intro impossible
      cases impossible
    · intro isStart
      have longer := isStart.length_le
      omega
  · rw [if_neg short, List.prefix_iff_getElem?, List.all_eq_true]
    constructor
    · intro every index inside
      have entry : (signature[index], index) ∈ signature.zipIdx :=
        List.mem_zipIdx_iff_getElem?.mpr (List.getElem?_eq_getElem inside)
      simpa using every _ entry
    · intro same entry member
      have read := List.mem_zipIdx_iff_getElem?.mp member
      obtain ⟨inside, value⟩ := List.getElem?_eq_some_iff.mp read
      have found := same entry.2 inside
      simp [found, value]

theorem prefix_iff_take {signature : List UInt8} :
    signature <+: buffer ↔ buffer.take signature.length = signature :=
  ⟨fun isStart => (List.prefix_iff_eq_take.mp isStart).symm,
    fun taken => List.prefix_iff_eq_take.mpr taken.symm⟩

theorem signatures_apart :
    (SIGNATURES.all fun one => SIGNATURES.all fun other =>
      one.mimetype = other.mimetype ||
      !(one.bytes.isPrefixOf other.bytes || other.bytes.isPrefixOf one.bytes) ||
      (one.mimetype = .imageWebp && other.mimetype = .audioWav) ||
      (one.mimetype = .audioWav && other.mimetype = .imageWebp)) = true := by
  decide

theorem hasMarker_webp (accepted : hasMarker buffer .imageWebp = true) :
    markerOf buffer = asciiBytes "WEBP" := by
  simp only [hasMarker, Bool.and_eq_true, decide_eq_true_eq] at accepted
  exact accepted.2

theorem hasMarker_wav (accepted : hasMarker buffer .audioWav = true) :
    markerOf buffer = asciiBytes "WAVE" := by
  simp only [hasMarker, Bool.and_eq_true, decide_eq_true_eq] at accepted
  exact accepted.2

theorem riff_markers_differ : asciiBytes "WEBP" ≠ asciiBytes "WAVE" := by decide

theorem accepts_oneType {one other : Signature} (mem : one ∈ SIGNATURES)
    (mem' : other ∈ SIGNATURES) (accepts : Accepts buffer one) (accepts' : Accepts buffer other) :
    one.mimetype = other.mimetype := by
  have apart := List.all_eq_true.mp (List.all_eq_true.mp signatures_apart one mem) other mem'
  have isStart := matchesSignature_iff.mp accepts.1
  have isStart' := matchesSignature_iff.mp accepts'.1
  have comparable := List.prefix_or_prefix_of_prefix isStart isStart'
  simp only [Bool.or_eq_true, Bool.and_eq_true, Bool.not_eq_true', Bool.or_eq_false_iff,
    decide_eq_true_eq] at apart
  obtain ((same | ⟨notStart, notStart'⟩) | ⟨webp, wav⟩) | ⟨wav, webp⟩ := apart
  · exact same
  · cases comparable with
    | inl first =>
        have starts : one.bytes.isPrefixOf other.bytes = true :=
          List.isPrefixOf_iff_prefix.mpr first
        rw [starts] at notStart
        cases notStart
    | inr second =>
        have starts : other.bytes.isPrefixOf one.bytes = true :=
          List.isPrefixOf_iff_prefix.mpr second
        rw [starts] at notStart'
        cases notStart'
  · have first := hasMarker_webp (webp ▸ accepts.2)
    have second := hasMarker_wav (wav ▸ accepts'.2)
    exact absurd (first.symm.trans second) riff_markers_differ
  · have first := hasMarker_wav (wav ▸ accepts.2)
    have second := hasMarker_webp (webp ▸ accepts'.2)
    exact absurd (second.symm.trans first) riff_markers_differ

/-! ### The tables -/

theorem sniffTable_some :
    ∀ {table : List Signature}, sniffTable buffer table = some mimetype →
      ∃ sig ∈ table, Accepts buffer sig ∧ sig.mimetype = mimetype := by
  intro table
  induction table with
  | nil =>
      intro found
      cases found
  | cons sig table ih =>
      intro found
      unfold sniffTable at found
      by_cases starts : matchesSignature buffer sig.bytes = true
      · rw [if_pos starts] at found
        by_cases marked : hasMarker buffer sig.mimetype = true
        · rw [if_pos marked] at found
          exact ⟨sig, List.mem_cons_self, ⟨starts, marked⟩, Option.some.inj found⟩
        · rw [if_neg marked] at found
          obtain ⟨later, mem, facts⟩ := ih found
          exact ⟨later, List.mem_cons_of_mem _ mem, facts⟩
      · rw [if_neg starts] at found
        obtain ⟨later, mem, facts⟩ := ih found
        exact ⟨later, List.mem_cons_of_mem _ mem, facts⟩

theorem sniffTable_none {sig : Signature} :
    ∀ {table : List Signature}, sniffTable buffer table = none → sig ∈ table →
      ¬ Accepts buffer sig := by
  intro table
  induction table with
  | nil =>
      intro _ mem
      cases mem
  | cons head table ih =>
      intro none mem accepts
      unfold sniffTable at none
      cases List.mem_cons.mp mem with
      | inl here =>
          subst here
          rw [if_pos accepts.1, if_pos accepts.2] at none
          cases none
      | inr later =>
          have rest : sniffTable buffer table = Option.none := by
            by_cases starts : matchesSignature buffer head.bytes = true
            · rw [if_pos starts] at none
              by_cases marked : hasMarker buffer head.mimetype = true
              · rw [if_pos marked] at none
                cases none
              · rwa [if_neg marked] at none
            · rwa [if_neg starts] at none
          exact ih rest later accepts

theorem sniffTable_append (buffer : List UInt8) (table rest : List Signature) :
    sniffTable buffer (table ++ rest) = (sniffTable buffer table).or (sniffTable buffer rest) := by
  induction table with
  | nil => rfl
  | cons sig table ih =>
      simp only [List.cons_append, sniffTable]
      by_cases starts : matchesSignature buffer sig.bytes = true
      · by_cases marked : hasMarker buffer sig.mimetype = true
        · simp [starts, marked]
        · simp [starts, marked, ih]
      · simp [starts, ih]

theorem sniffTable_iff {table : List Signature} (perm : table.Perm SIGNATURES) :
    sniffTable buffer table = some mimetype ↔
      ∃ sig ∈ SIGNATURES, Accepts buffer sig ∧ sig.mimetype = mimetype := by
  constructor
  · intro found
    obtain ⟨sig, mem, facts⟩ := sniffTable_some found
    exact ⟨sig, perm.mem_iff.mp mem, facts⟩
  · intro ⟨sig, mem, accepts, type⟩
    cases found : sniffTable buffer table with
    | none => exact absurd accepts (sniffTable_none found (perm.mem_iff.mpr mem))
    | some answer =>
        obtain ⟨other, mem', accepts', type'⟩ := sniffTable_some found
        have same := accepts_oneType mem (perm.mem_iff.mp mem') accepts accepts'
        rw [← type', ← type, same]

theorem sniffContentType_table (long : 12 ≤ buffer.length) :
    sniffContentType buffer = sniffTable buffer SIGNATURES := by
  unfold sniffContentType SIGNATURES
  rw [if_neg (by omega), sniffTable_append]

theorem sniffContentType_iff (long : 12 ≤ buffer.length) :
    sniffContentType buffer = some mimetype ↔
      ∃ sig ∈ SIGNATURES, Accepts buffer sig ∧ sig.mimetype = mimetype := by
  rw [sniffContentType_table long]
  exact sniffTable_iff (List.Perm.refl _)

theorem sniffs_iff_of_only {sig : Signature} (long : 12 ≤ buffer.length) (mem : sig ∈ SIGNATURES)
    (type : sig.mimetype = mimetype)
    (only : ∀ other ∈ SIGNATURES, other.mimetype = mimetype → other = sig) :
    sniffContentType buffer = some mimetype ↔
      buffer.take sig.bytes.length = sig.bytes ∧ hasMarker buffer mimetype = true := by
  rw [sniffContentType_iff long]
  constructor
  · intro ⟨other, mem', accepts, type'⟩
    cases only other mem' type'
    exact ⟨prefix_iff_take.mp (matchesSignature_iff.mp accepts.1), type ▸ accepts.2⟩
  · intro ⟨taken, marked⟩
    exact ⟨sig, mem, ⟨matchesSignature_iff.mpr (prefix_iff_take.mpr taken), type ▸ marked⟩, type⟩

theorem sniffs_wav (long : 12 ≤ buffer.length) :
    sniffContentType buffer = some .audioWav ↔
      buffer.take 4 = asciiBytes "RIFF" ∧ markerOf buffer = asciiBytes "WAVE" := by
  have found := @sniffs_iff_of_only buffer .audioWav ⟨asciiBytes "RIFF", .audioWav⟩ long
    (by decide) rfl (by decide)
  rw [found]
  simp [hasMarker, long, asciiBytes]

theorem sniffs_webp (long : 12 ≤ buffer.length) :
    sniffContentType buffer = some .imageWebp ↔
      buffer.take 4 = asciiBytes "RIFF" ∧ markerOf buffer = asciiBytes "WEBP" := by
  have found := @sniffs_iff_of_only buffer .imageWebp ⟨asciiBytes "RIFF", .imageWebp⟩ long
    (by decide) rfl (by decide)
  rw [found]
  simp [hasMarker, long, asciiBytes]

theorem sniffs_mp4 (long : 12 ≤ buffer.length) :
    sniffContentType buffer = some .audioMp4 ↔
      buffer.take 4 = asciiBytes "ftyp" ∧ markerOf buffer ∈ BRANDS := by
  have found := @sniffs_iff_of_only buffer .audioMp4 ⟨asciiBytes "ftyp", .audioMp4⟩ long
    (by decide) rfl (by decide)
  rw [found]
  simp [hasMarker, asciiBytes]

/-! ### The exact condition -/

def lowered (marker : List UInt8) : List UInt8 := marker.map fun byte => byte &&& 0x7f

theorem markerOf_brand (brand : (buffer.take 12).drop 8 ∈ BRANDS) :
    markerOf buffer ∈ BRANDS := by
  have kept : (BRANDS.all fun marker => lowered marker = marker) = true := by decide
  have same := of_decide_eq_true (List.all_eq_true.mp kept _ brand)
  change lowered ((buffer.take 12).drop 8) ∈ BRANDS
  rw [same]
  exact brand

theorem markerOf_riff {marker : String} (kept : lowered (asciiBytes marker) = asciiBytes marker)
    (riff : IsRiff marker buffer) :
    markerOf buffer = asciiBytes marker := by
  unfold markerOf
  rw [riff.2]
  exact kept

/-- A file is told as the formats say unless it is an MP4 with a true box size, or a marker behind
RIFF is one only without its highest bits. -/
theorem sniffContentType_formats (buffer : List UInt8) (long : 12 ≤ buffer.length) :
    SniffsFormats buffer ↔ Recognised buffer := by
  have wave : lowered (asciiBytes "WAVE") = asciiBytes "WAVE" := by decide
  have webp : lowered (asciiBytes "WEBP") = asciiBytes "WEBP" := by decide
  constructor
  · intro formats
    refine ⟨?_, ?_⟩
    · intro media
      exact ((sniffs_mp4 long).mp (formats.mp4 media)).1
    · intro riff marker
      cases marker with
      | inl isWave =>
          have told := formats.wav.mp ((sniffs_wav long).mpr ⟨riff, isWave⟩)
          rw [told.2, isWave]
      | inr isWebp =>
          have told := formats.webp.mp ((sniffs_webp long).mpr ⟨riff, isWebp⟩)
          rw [told.2, isWebp]
  · intro recognised
    refine ⟨?_, ?_, ?_, ?_, ?_⟩
    · intro media
      exact (sniffs_mp4 long).mpr ⟨recognised.size media, markerOf_brand media.2⟩
    · rw [sniffs_wav long]
      constructor
      · intro ⟨riff, marker⟩
        exact ⟨riff, (recognised.plain riff (Or.inl marker)).trans marker⟩
      · intro riff
        exact ⟨riff.1, markerOf_riff wave riff⟩
    · rw [sniffs_webp long]
      constructor
      · intro ⟨riff, marker⟩
        exact ⟨riff, (recognised.plain riff (Or.inr marker)).trans marker⟩
      · intro riff
        exact ⟨riff.1, markerOf_riff webp riff⟩
    · intro one mem other mem' accepts accepts'
      exact accepts_oneType mem mem' accepts accepts'
    · intro table perm
      rw [sniffContentType_table long]
      apply Option.ext
      intro mimetype
      rw [sniffTable_iff perm, sniffTable_iff (List.Perm.refl _)]

def waveFile : List UInt8 := asciiBytes "RIFF" ++ [4, 0, 0, 0] ++ asciiBytes "WAVE"

theorem sniffContentType_formats_wave : 12 ≤ waveFile.length ∧
    (SniffsFormats waveFile ↔ Recognised waveFile) :=
  ⟨by decide, sniffContentType_formats waveFile (by decide)⟩

def isoFile : List UInt8 := [0, 0, 0, 0x18] ++ asciiBytes "ftyp" ++ asciiBytes "isom"

theorem sniffContentType_misses_isoFile : 12 ≤ isoFile.length ∧ IsIsoMedia isoFile ∧
    sniffContentType isoFile = none ∧ ¬ SniffsFormats isoFile := by
  have media : IsIsoMedia isoFile := ⟨by decide, by decide⟩
  have missed : sniffContentType isoFile = none := by decide
  refine ⟨by decide, media, missed, ?_⟩
  intro formats
  have told := formats.mp4 media
  rw [missed] at told
  cases told

end AudioBlock.Utils
