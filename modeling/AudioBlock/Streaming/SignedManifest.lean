/-
Signed HLS manifests.

A manifest keeps its blank, comment and tag lines; every other line names a segment or
a variant playlist and is replaced by a signed URL.  `none` is a thrown
`ManifestNotFoundError`.
-/
import Mathlib.Data.List.Basic
import AudioBlock.Foundation.Text

namespace AudioBlock.Streaming

open AudioBlock.Foundation

/-- `pathname` is that of `new URL`, which throws on what it cannot parse; `getSignedUrl`
is the storage's. -/
structure ManifestSigning where
  pathname : String → Option String
  getSignedUrl : String → String

/-- What follows the first occurrence of a text, up to the next one. -/
def secondPart (separator : List Char) : List Char → Option (List Char)
  | [] => none
  | char :: rest =>
      if separator.isPrefixOf (char :: rest) then
        some (upTo ((char :: rest).drop separator.length))
      else secondPart separator rest
where
  upTo : List Char → List Char
    | [] => []
    | char :: rest => if separator.isPrefixOf (char :: rest) then [] else char :: upTo rest

def dropSlashes (path : List Char) : List Char := path.dropWhile (· == '/')

def nonempty (text : List Char) : Option String :=
  if text = [] then none else some (String.ofList text)

/-- The path of the URL, or what follows the first `.com/` where there is none. -/
def s3KeyFromUrl (signing : ManifestSigning) (url : String) : Option String :=
  if url = "" then none
  else
    match (signing.pathname url).bind fun path => nonempty (dropSlashes path.toList) with
    | some key => some key
    | none =>
        match secondPart ".com/".toList url.toList with
        | none | some [] => none
        | some path => some (String.ofList (dropSlashes path))

/-- `replace(/^\.?\//, '')`. -/
def cleanPath : List Char → List Char
  | '.' :: '/' :: path => path
  | '/' :: path => path
  | path => path

def segmentFolder (songId : String) : String := "songs/" ++ songId ++ "/hls/"

def lineKey (signing : ManifestSigning) (songId : String) (trimmed : List Char) : Option String :=
  if "http://".toList.isPrefixOf trimmed ∨ "https://".toList.isPrefixOf trimmed then
    s3KeyFromUrl signing (String.ofList trimmed)
  else if (segmentFolder songId).toList.isPrefixOf (cleanPath trimmed) then
    some (String.ofList (cleanPath trimmed))
  else some (segmentFolder songId ++ String.ofList (cleanPath trimmed))

def isTag (line : List Char) : Bool :=
  match trim line with
  | [] | '#' :: _ => true
  | _ => false

def rewriteLine (signing : ManifestSigning) (songId : String) (line : List Char) :
    Option (List Char) :=
  if isTag line then some line
  else (lineKey signing songId (trim line)).map fun key => (signing.getSignedUrl key).toList

def rewriteLines (signing : ManifestSigning) (songId : String) :
    List (List Char) → Option (List (List Char))
  | [] => some []
  | line :: lines =>
      match rewriteLine signing songId line, rewriteLines signing songId lines with
      | some rewritten, some rest => some (rewritten :: rest)
      | _, _ => none

def rewriteManifest (signing : ManifestSigning) (manifest songId : String) : Option String :=
  (rewriteLines signing songId (manifest.toList.splitOn '\n')).map fun lines =>
    String.ofList (['\n'].intercalate lines)

theorem rewriteLines_lines {signing : ManifestSigning} {songId : String}
    {lines rewritten : List (List Char)} (rewrites : rewriteLines signing songId lines = some rewritten) :
    List.Forall₂ (fun line signed =>
      if isTag line then signed = line
      else ∃ key, lineKey signing songId (trim line) = some key ∧
        signed = (signing.getSignedUrl key).toList) lines rewritten := by
  induction lines generalizing rewritten with
  | nil =>
      cases rewrites
      exact .nil
  | cons line lines ih =>
      unfold rewriteLines at rewrites
      split at rewrites
      · rename_i signed rest first others
        cases rewrites
        refine .cons ?_ (ih others)
        unfold rewriteLine at first
        split at first
        · rename_i tag
          cases first
          rw [if_pos tag]
        · rename_i segment
          obtain ⟨key, named, rfl⟩ := Option.map_eq_some_iff.mp first
          rw [if_neg segment]
          exact ⟨key, named, rfl⟩
      · cases rewrites

end AudioBlock.Streaming
