/-
The spellings of a segment in a manifest, and when they lead to one key.

A relative line is read as a key, or as a name below the folder of the song, and an absolute
URL as the path that the URL parser makes of it.  Neither is decoded.
-/
import AudioBlock.Foundation.Paths
import AudioBlock.Foundation.PercentEncoding
import AudioBlock.Streaming.SignedManifest
import Mathlib.Data.List.Forall2

namespace AudioBlock.Streaming

open AudioBlock.Foundation

def Undotted (path : List Char) : Prop :=
  ∀ segment ∈ Paths.segments path, segment ≠ Paths.dot ∧ segment ≠ Paths.dots

instance (path : List Char) : Decidable (Undotted path) :=
  inferInstanceAs (Decidable (∀ segment ∈ Paths.segments path, _ ∧ _))

def isAbsolute (text : List Char) : Prop :=
  "http://".toList.isPrefixOf text ∨ "https://".toList.isPrefixOf text

instance (text : List Char) : Decidable (isAbsolute text) := inferInstanceAs (Decidable (_ ∨ _))

structure SegmentName (songId : String) where
  text : List Char
  filled : text ≠ []
  untagged : text.head? ≠ some '#'
  relative : ¬ isAbsolute text
  clean : cleanPath text = text
  below : (segmentFolder songId).toList.isPrefixOf text = false
  undotted : Undotted ((segmentFolder songId).toList ++ text)

namespace SegmentName

variable {songId : String} (name : SegmentName songId)

def key : List Char := (segmentFolder songId).toList ++ name.text

/-- The bare name, `./name`, `/key`, the full key and the absolute URL. -/
def forms (origin name key : List Char) : List (List Char) :=
  [name, '.' :: '/' :: name, '/' :: key, key, origin ++ '/' :: key]

def spellings (origin : List Char) (encoding : PercentEncoding) : List (List Char) :=
  forms origin name.text name.key ++
    forms origin (encoding.encode name.text) (encoding.encode name.key)

end SegmentName

structure Documented (signing : ManifestSigning) (origin : List Char)
    (encoding : PercentEncoding) : Prop where
  absolute : isAbsolute origin
  pathname : ∀ path, (∀ char ∈ path, encoding.keeps char = true) → Undotted path →
    signing.pathname (String.ofList (origin ++ '/' :: path)) = some (String.ofList ('/' :: path))
  oneLine : ∀ key, '\n' ∉ (signing.getSignedUrl key).toList

structure RewritesFaithfully (signing : ManifestSigning) (origin : List Char)
    (encoding : PercentEncoding) (songId : String) (name : SegmentName songId) : Prop where
  keepsLines : ∀ manifest rewritten, rewriteManifest signing manifest songId = some rewritten →
    List.Forall₂ (fun line signed =>
      if isTag line then signed = line
      else ∃ key, lineKey signing songId (trim line) = some key ∧
        signed = (signing.getSignedUrl key).toList)
      (manifest.toList.splitOn '\n') (rewritten.toList.splitOn '\n')
  identifies : ∀ line, trim line ∈ name.spellings origin encoding →
    isTag line = false ∧
      lineKey signing songId (trim line) = some (String.ofList name.key)

/-! ### How a line is read -/

variable {signing : ManifestSigning} {songId : String}

theorem folder_append (text : List Char) :
    segmentFolder songId ++ String.ofList text =
      String.ofList ((segmentFolder songId).toList ++ text) := by
  rw [String.ofList_append, String.ofList_toList]

theorem folder_cons (songId : String) (text : List Char) :
    ∃ rest, (segmentFolder songId).toList ++ text = 's' :: rest := by
  refine ⟨"ongs/".toList ++ songId.toList ++ "/hls/".toList ++ text, ?_⟩
  simp [segmentFolder, String.toList_append]

variable {text : List Char} {head : Char}

theorem lineKey_relative (relative : ¬ isAbsolute text) :
    lineKey signing songId text =
      if (segmentFolder songId).toList.isPrefixOf (cleanPath text) then
        some (String.ofList (cleanPath text))
      else some (segmentFolder songId ++ String.ofList (cleanPath text)) := if_neg relative

theorem lineKey_below {path : List Char} (relative : ¬ isAbsolute text)
    (cleaned : cleanPath text = path)
    (below : (segmentFolder songId).toList.isPrefixOf path = true) :
    lineKey signing songId text = some (String.ofList path) := by
  rw [lineKey_relative relative, cleaned, if_pos below]

theorem lineKey_beside {path : List Char} (relative : ¬ isAbsolute text)
    (cleaned : cleanPath text = path)
    (beside : (segmentFolder songId).toList.isPrefixOf path = false) :
    lineKey signing songId text = some (String.ofList ((segmentFolder songId).toList ++ path)) := by
  rw [lineKey_relative relative, cleaned, if_neg (by simp [beside]), folder_append]

theorem folder_isPrefixOf (text : List Char) :
    (segmentFolder songId).toList.isPrefixOf ((segmentFolder songId).toList ++ text) = true :=
  List.isPrefixOf_iff_prefix.mpr (List.prefix_append _ _)

theorem relative_of_head (different : head ≠ 'h') :
    ¬ isAbsolute (head :: text) := by
  unfold isAbsolute
  simp [different.symm]

theorem cleanPath_of_head (notDot : head ≠ '.') (notSlash : head ≠ '/') :
    cleanPath (head :: text) = head :: text := by
  unfold cleanPath
  split
  · rename_i same
    cases same
    exact absurd rfl notDot
  · rename_i same
    cases same
    exact absurd rfl notSlash
  · rfl

theorem isTag_of_head {line : List Char} (trimmed : trim line = head :: text)
    (untagged : head ≠ '#') : isTag line = false := by
  unfold isTag
  rw [trimmed]
  split
  · rename_i same
    cases same
  · rename_i same
    cases same
    exact absurd rfl untagged
  · rfl

/-! ### The plain spellings -/

section Plain

variable {origin : List Char} {encoding : PercentEncoding} (name : SegmentName songId)

section

variable (documented : Documented signing origin encoding)
  (kept : ∀ char ∈ name.key, encoding.keeps char = true)
include documented kept

theorem lineKey_absolute :
    lineKey signing songId (origin ++ '/' :: name.key) = some (String.ofList name.key) := by
  have absolute : isAbsolute (origin ++ '/' :: name.key) := by
    rcases documented.absolute with plain | secure
    · exact Or.inl (List.isPrefixOf_iff_prefix.mpr
        ((List.isPrefixOf_iff_prefix.mp plain).trans (List.prefix_append _ _)))
    · exact Or.inr (List.isPrefixOf_iff_prefix.mpr
        ((List.isPrefixOf_iff_prefix.mp secure).trans (List.prefix_append _ _)))
  obtain ⟨rest, head⟩ := folder_cons songId name.text
  have parsed := documented.pathname name.key kept name.undotted
  have path : nonempty (dropSlashes (String.ofList ('/' :: name.key)).toList) =
      some (String.ofList name.key) := by
    rw [String.toList_ofList, SegmentName.key, head]
    rfl
  have read : lineKey signing songId (origin ++ '/' :: name.key) =
      s3KeyFromUrl signing (String.ofList (origin ++ '/' :: name.key)) := if_pos absolute
  rw [read]
  unfold s3KeyFromUrl
  rw [if_neg, parsed, Option.bind_some, path]
  intro empty
  have texts := congrArg String.toList empty
  simp at texts

theorem forms_faithful {line : List Char}
    (spelled : trim line ∈ SegmentName.forms origin name.text name.key) :
    isTag line = false ∧ lineKey signing songId (trim line) = some (String.ofList name.key) := by
  obtain ⟨first, rest, text⟩ := List.exists_cons_of_ne_nil name.filled
  obtain ⟨after, folder⟩ := folder_cons songId name.text
  have untagged : first ≠ '#' := by
    intro same
    exact name.untagged (by rw [text, same]; rfl)
  have beside : (segmentFolder songId).toList.isPrefixOf name.text = false := name.below
  simp only [SegmentName.forms, List.mem_cons, List.not_mem_nil, or_false] at spelled
  rcases spelled with bare | dotted | rooted | full | absolute
  · refine ⟨isTag_of_head (bare.trans text) untagged, ?_⟩
    rw [bare]
    exact lineKey_beside name.relative name.clean beside
  · refine ⟨isTag_of_head dotted (by decide), ?_⟩
    rw [dotted]
    exact lineKey_beside (relative_of_head (by decide)) rfl beside
  · refine ⟨isTag_of_head rooted (by decide), ?_⟩
    rw [rooted]
    exact lineKey_below (relative_of_head (by decide)) rfl (folder_isPrefixOf name.text)
  · refine ⟨isTag_of_head (full.trans folder) (by decide), ?_⟩
    rw [full]
    refine lineKey_below ?_ ?_ (folder_isPrefixOf name.text)
    · rw [SegmentName.key, folder]
      exact relative_of_head (by decide)
    · rw [SegmentName.key, folder]
      exact cleanPath_of_head (by decide) (by decide)
  · refine ⟨?_, ?_⟩
    · cases shown : origin with
      | nil =>
          rw [shown] at documented
          rcases documented.absolute with none | none
          · cases none
          · cases none
      | cons scheme host =>
          rw [shown] at absolute documented
          refine isTag_of_head absolute ?_
          intro same
          subst same
          exact absurd documented.absolute (relative_of_head (by decide))
    · rw [absolute]
      exact lineKey_absolute name documented kept

end

end Plain

theorem exists_of_forall₂ {α β : Type} {related : α → β → Prop} {lefts : List α} {rights : List β}
    (all : List.Forall₂ related lefts rights) {right : β} (member : right ∈ rights) :
    ∃ left ∈ lefts, related left right := by
  induction all with
  | nil => cases member
  | @cons left head lefts rights here _later ih =>
      rcases List.mem_cons.mp member with rfl | later
      · exact ⟨left, List.mem_cons_self, here⟩
      · obtain ⟨other, among, holds⟩ := ih later
        exact ⟨other, List.mem_cons_of_mem _ among, holds⟩

theorem rewriteManifest_keepsLines (oneLine : ∀ key, '\n' ∉ (signing.getSignedUrl key).toList)
    (manifest rewritten : String)
    (rewrites : rewriteManifest signing manifest songId = some rewritten) :
    List.Forall₂ (fun line signed =>
      if isTag line then signed = line
      else ∃ key, lineKey signing songId (trim line) = some key ∧
        signed = (signing.getSignedUrl key).toList)
      (manifest.toList.splitOn '\n') (rewritten.toList.splitOn '\n') := by
  unfold rewriteManifest at rewrites
  obtain ⟨lines, found, rfl⟩ := Option.map_eq_some_iff.mp rewrites
  have related := rewriteLines_lines found
  have pieces : ∀ signed ∈ lines, '\n' ∉ signed := by
    intro signed member
    obtain ⟨line, among, read⟩ := exists_of_forall₂ related member
    split at read
    · rw [read]
      exact not_mem_of_mem_splitOn among
    · obtain ⟨key, _named, same⟩ := read
      rw [same]
      exact oneLine key
  have filled : lines ≠ [] := by
    intro none
    rw [none] at related
    exact List.splitOn_ne_nil '\n' _ (List.forall₂_nil_right_iff.mp related)
  rw [String.toList_ofList, List.splitOn_intercalate '\n' pieces filled]
  exact related

/-! ### The encoded spellings -/

theorem encoded_differs {encoding : PercentEncoding} (name : SegmentName songId) {char : Char}
    (member : char ∈ name.key) (changed : encoding.keeps char = false) :
    lineKey signing songId (encoding.encode name.key) ≠ some (String.ofList name.key) := by
  have longer := encoding.length_lt_encode member changed
  obtain ⟨rest, folder⟩ := folder_cons songId name.text
  have head : encoding.encode name.key = 's' :: encoding.encode rest := by
    rw [SegmentName.key, folder, encoding.encode_cons_kept (encoding.alphanumeric 's' (by decide))]
  have relative : ¬ isAbsolute (encoding.encode name.key) := by
    rw [head]
    exact relative_of_head (by decide)
  have cleaned : cleanPath (encoding.encode name.key) = encoding.encode name.key := by
    rw [head]
    exact cleanPath_of_head (by decide) (by decide)
  intro same
  cases below : (segmentFolder songId).toList.isPrefixOf (encoding.encode name.key) with
  | true =>
      rw [lineKey_below relative cleaned below, Option.some.injEq, String.ofList_inj] at same
      rw [same] at longer
      exact Nat.lt_irrefl _ longer
  | false =>
      rw [lineKey_beside relative cleaned below, Option.some.injEq, String.ofList_inj] at same
      have lengths := congrArg List.length same
      rw [List.length_append] at lengths
      omega

theorem rewriteManifest_faithful_iff (signing : ManifestSigning) (origin : List Char)
    (encoding : PercentEncoding) (documented : Documented signing origin encoding)
    (songId : String) (name : SegmentName songId) :
    RewritesFaithfully signing origin encoding songId name ↔
      ∀ char ∈ name.key, encoding.keeps char = true := by
  constructor
  · intro faithful char member
    cases kept : encoding.keeps char with
    | true => rfl
    | false =>
        -- The encoded key is a spelling of the key and is not decoded.
        have shown := trim_of_no_blank (encoding.encode_not_blank name.key)
        have spelled : trim (encoding.encode name.key) ∈ name.spellings origin encoding := by
          rw [shown]
          simp [SegmentName.spellings, SegmentName.forms]
        have read := (faithful.identifies _ spelled).2
        rw [shown] at read
        exact absurd read (encoded_differs name member kept)
  · intro kept
    refine ⟨rewriteManifest_keepsLines documented.oneLine, fun line spelled => ?_⟩
    have keptText : ∀ char ∈ name.text, encoding.keeps char = true :=
      fun char member => kept char (List.mem_append_right _ member)
    rw [SegmentName.spellings, encoding.encode_kept keptText, encoding.encode_kept kept] at spelled
    rcases List.mem_append.mp spelled with plain | encoded
    · exact forms_faithful name documented kept plain
    · exact forms_faithful name documented kept encoded

/-! ### An origin of which every path is encoded -/

def cdn : List Char := "https://cdn".toList

def cdnSigning : ManifestSigning where
  pathname url :=
    if cdn.isPrefixOf url.toList then
      some (String.ofList (unreservedPaths.encode (url.toList.drop cdn.length)))
    else none
  getSignedUrl key := String.ofList (cdn ++ unreservedPaths.encode key.toList)

theorem cdn_documented : Documented cdnSigning cdn unreservedPaths where
  absolute := Or.inr rfl
  pathname path kept _undotted := by
    have rooted : ∀ char ∈ '/' :: path, unreservedPaths.keeps char = true := by
      intro char member
      rcases List.mem_cons.mp member with rfl | later
      · rfl
      · exact kept char later
    simp only [cdnSigning, String.toList_ofList, List.drop_left, unreservedPaths.encode_kept rooted]
    exact if_pos (List.isPrefixOf_iff_prefix.mpr (List.prefix_append _ _))
  oneLine key := by
    have encoded := unreservedPaths.encode_not_blank key.toList
    simp only [cdnSigning, String.toList_ofList, List.mem_append, not_or]
    refine ⟨by decide, fun member => ?_⟩
    cases encoded '\n' member

def numberedSegment : SegmentName "S" where
  text := "segment000.ts".toList
  filled := by decide
  untagged := by decide
  relative := by decide
  clean := rfl
  below := rfl
  undotted := by decide +kernel

theorem numberedSegment_faithful :
    RewritesFaithfully cdnSigning cdn unreservedPaths "S" numberedSegment :=
  (rewriteManifest_faithful_iff cdnSigning cdn unreservedPaths cdn_documented "S"
    numberedSegment).mpr (List.all_eq_true.mp (by decide +kernel))

def spacedSegment : SegmentName "S" where
  text := "my song.ts".toList
  filled := by decide
  untagged := by decide
  relative := by decide
  clean := rfl
  below := rfl
  undotted := by decide +kernel

/-- The URL of a name with a space is read as a key with the space encoded. -/
theorem spacedSegment_unfaithful :
    ¬ RewritesFaithfully cdnSigning cdn unreservedPaths "S" spacedSegment := by
  intro faithful
  have read := (faithful.identifies (cdn ++ '/' :: spacedSegment.key) (by decide +kernel)).2
  revert read
  decide +kernel

end AudioBlock.Streaming
