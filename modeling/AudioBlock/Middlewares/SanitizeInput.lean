/-
`sanitizeString` of src/middlewares/sanitizeInput.ts, over code units.

A regular expression is given by what follows its match at the beginning of a text, and
`replace` erases its matches from left to right.  The Unicode normalisation is given; the texts
of ASCII are all normal.
-/
import AudioBlock.Foundation.CodeUnits
import AudioBlock.Foundation.Erasure

namespace AudioBlock.Middlewares

open AudioBlock.Foundation

/-- `String.prototype.normalize('NFKC')`. -/
structure Nfkc where
  normalize : List UInt16 → List UInt16
  ascii : ∀ text, (∀ unit ∈ text, unit.toNat < 128) → normalize text = text

instance : Inhabited Nfkc := ⟨{ normalize := id, ascii := fun _ _ => rfl }⟩

/-! ### The expressions -/

def DANGEROUS_ELEMENTS : List (List UInt16) :=
  ["script", "iframe", "object", "embed", "style", "link", "meta", "base", "form", "svg",
    "math"].map units

/-- What `[a-z]` matches, with the flag `i`. -/
def isLetter (unit : UInt16) : Bool :=
  decide (65 ≤ foldCase unit) && decide (foldCase unit ≤ 90)

/-- What `\w` matches. -/
def isWord (unit : UInt16) : Bool :=
  isLetter unit || decide (48 ≤ unit.toNat) && decide (unit.toNat ≤ 57) ||
    decide (unit.toNat = 95)

/-- `[^>]*>` and `[\s\S]*?>`: up to the first `>`. -/
def afterTagEnd : List UInt16 → Option (List UInt16)
  | [] => none
  | unit :: text => if unit = 62 then some text else afterTagEnd text

/-- `[\s\S]*?` and a literal. -/
def afterLazily (literal : List UInt16) : List UInt16 → Option (List UInt16)
  | [] => afterLiteral literal []
  | unit :: text => (afterLiteral literal (unit :: text)).or (afterLazily literal text)

def afterOpening : List UInt16 → Option (List UInt16)
  | [] => none
  | unit :: text => if unit = 60 then some text else none

/-- `\/?`, where no slash may follow it. -/
def afterSlash : List UInt16 → List UInt16
  | [] => []
  | unit :: text => if unit = 47 then text else unit :: text

/-- `name\b` for one of the names, of which none begins with another. -/
def afterName (text : List UInt16) : Option (List UInt16 × List UInt16) :=
  DANGEROUS_ELEMENTS.findSome? fun name =>
    match afterLiteral name text with
    | some rest => if rest.head?.any isWord then none else some (text.take name.length, rest)
    | none => none

def afterComment (text : List UInt16) : Option (List UInt16) :=
  (afterLiteral (units "<!--") text).bind (afterLazily (units "-->"))

def afterElement (text : List UInt16) : Option (List UInt16) :=
  (afterOpening text).bind fun inside =>
    (afterName inside).bind fun (name, attributes) =>
      (afterTagEnd attributes).bind (afterLazily (60 :: 47 :: name ++ [62]))

def afterSelfClosing (text : List UInt16) : Option (List UInt16) :=
  (afterOpening text).bind fun inside =>
    (afterName (afterSlash inside)).bind fun (_, attributes) => afterTagEnd attributes

def afterTag (text : List UInt16) : Option (List UInt16) :=
  (afterOpening text).bind fun inside =>
    match afterSlash inside with
    | [] => none
    | unit :: rest => if isLetter unit then afterTagEnd rest else none

def isInvisible (unit : UInt16) : Bool :=
  decide (0x200B ≤ unit.toNat) && decide (unit.toNat ≤ 0x200F) ||
    decide (0x202A ≤ unit.toNat) && decide (unit.toNat ≤ 0x202E) ||
    decide (0x2060 ≤ unit.toNat) && decide (unit.toNat ≤ 0x2064) || decide (unit.toNat = 0xFEFF)

/-- The tab, the line feed and the carriage return are left. -/
def isControl (unit : UInt16) : Bool :=
  decide (unit.toNat ≤ 8) || decide (unit.toNat = 0xB) || decide (unit.toNat = 0xC) ||
    decide (0xE ≤ unit.toNat) && decide (unit.toNat ≤ 0x1F) ||
    decide (0x7F ≤ unit.toNat) && decide (unit.toNat ≤ 0x9F)

def afterUnit (among : UInt16 → Bool) : List UInt16 → Option (List UInt16)
  | [] => none
  | unit :: text => if among unit then some text else none

/-! ### What a match is made of -/

section Matches

variable {text rest inside : List UInt16}

theorem low_of_all {bound : Nat} (all : text.all (fun unit => decide (unit.toNat < bound)) = true) :
    ∀ unit ∈ text, unit.toNat < bound :=
  fun unit member => of_decide_eq_true (List.all_eq_true.mp all unit member)

theorem afterTagEnd_suffix (found : afterTagEnd text = some rest) : rest <:+ text := by
  induction text with
  | nil => cases found
  | cons unit text ih =>
      unfold afterTagEnd at found
      by_cases closes : unit = 62
      · rw [if_pos closes] at found
        rw [← Option.some.inj found]
        exact List.suffix_cons unit text
      · rw [if_neg closes] at found
        exact (ih found).trans (List.suffix_cons unit text)

theorem afterTagEnd_none_iff : afterTagEnd text = none ↔ 62 ∉ text := by
  induction text with
  | nil => exact ⟨fun _absent => List.not_mem_nil, fun _absent => rfl⟩
  | cons unit text ih =>
      unfold afterTagEnd
      by_cases closes : unit = 62
      · rw [if_pos closes, closes]
        exact ⟨fun found => (nomatch found), fun absent => absurd List.mem_cons_self absent⟩
      · rw [if_neg closes, ih, List.mem_cons, not_or]
        exact ⟨fun absent => ⟨fun same => closes same.symm, absent⟩, And.right⟩

theorem afterTagEnd_mem (found : afterTagEnd text = some rest) : 62 ∈ text := by
  by_contra absent
  cases found.symm.trans (afterTagEnd_none_iff.mpr absent)

theorem afterLiteral_suffix {literal : List UInt16} (found : afterLiteral literal text = some rest) :
    rest <:+ text := by
  obtain ⟨spelled, _same, cut⟩ := afterLiteral_iff.mp found
  exact ⟨spelled, cut.symm⟩

theorem afterLazily_suffix {literal : List UInt16} (found : afterLazily literal text = some rest) :
    rest <:+ text := by
  induction text with
  | nil => exact afterLiteral_suffix found
  | cons unit text ih =>
      unfold afterLazily at found
      rcases Option.or_eq_some_iff.mp found with here | ⟨_absent, later⟩
      · exact afterLiteral_suffix here
      · exact (ih later).trans (List.suffix_cons unit text)

theorem afterOpening_iff : afterOpening text = some inside ↔ text = 60 :: inside := by
  cases text with
  | nil => exact ⟨fun found => (nomatch found), fun same => (nomatch same)⟩
  | cons unit text =>
      unfold afterOpening
      dsimp only
      by_cases opens : unit = 60
      · rw [if_pos opens, opens, Option.some.injEq, List.cons.injEq]
        exact ⟨fun same => ⟨rfl, same⟩, And.right⟩
      · rw [if_neg opens]
        exact ⟨fun found => (nomatch found), fun same => absurd (List.cons.inj same).1 opens⟩

theorem afterSlash_cases (text : List UInt16) :
    afterSlash text = text ∨ text = 47 :: afterSlash text := by
  cases text with
  | nil => exact .inl rfl
  | cons unit text =>
      unfold afterSlash
      dsimp only
      by_cases slash : unit = 47
      · rw [if_pos slash, slash]
        exact .inr rfl
      · rw [if_neg slash]
        exact .inl rfl

theorem afterSlash_suffix (text : List UInt16) : afterSlash text <:+ text := by
  rcases afterSlash_cases text with same | slash
  · exact ⟨[], same⟩
  · exact ⟨[47], slash.symm⟩

theorem isLetter_plain {unit : UInt16} (letter : isLetter unit = true) :
    unit ≠ 32 ∧ unit ≠ 47 ∧ unit ≠ 60 ∧ unit ≠ 62 := by
  refine ⟨?_, ?_, ?_, ?_⟩
  all_goals
    rintro rfl
    exact absurd letter (by decide)

theorem element_letter {name : List UInt16} (element : name ∈ DANGEROUS_ELEMENTS) :
    name.head?.any isLetter = true := by
  have letters : DANGEROUS_ELEMENTS.all (fun name => name.head?.any isLetter) = true := by decide
  exact List.all_eq_true.mp letters name element

theorem afterName_letter {name : List UInt16} (found : afterName text = some (name, rest)) :
    ∃ letter inside, text = letter :: inside ∧ isLetter letter = true ∧ rest <:+ inside := by
  obtain ⟨element, among, matched⟩ := List.exists_of_findSome?_eq_some found
  cases literal : afterLiteral element text with
  | none =>
      rw [literal] at matched
      cases matched
  | some more =>
      rw [literal] at matched
      dsimp only at matched
      by_cases word : more.head?.any isWord = true
      · rw [if_pos word] at matched
        cases matched
      · rw [if_neg word] at matched
        cases matched
        obtain ⟨spelled, same, rfl⟩ := afterLiteral_iff.mp literal
        have letters := element_letter among
        cases element with
        | nil => cases letters
        | cons first others =>
            cases spelled with
            | nil => cases same
            | cons letter inside =>
                have folded := (List.cons.inj same).1
                refine ⟨letter, inside ++ rest, rfl, ?_, List.suffix_append inside rest⟩
                unfold isLetter
                rw [folded]
                exact letters

end Matches

/-! ### Tags -/

def OpensTag (text : List UInt16) : Prop :=
  ∃ letter rest, isLetter letter = true ∧
    (text = 60 :: letter :: rest ∨ text = 60 :: 47 :: letter :: rest)

/-- A tag begins here, and something closes it. -/
def IsTag (text : List UInt16) : Prop := OpensTag text ∧ 62 ∈ text

section Tags

variable {text rest inside : List UInt16} {letter : UInt16}

theorem opensTag_of_slash (opened : text = 60 :: inside)
    (named : afterSlash inside = letter :: rest) (isName : isLetter letter = true) :
    OpensTag text := by
  refine ⟨letter, rest, isName, ?_⟩
  rcases afterSlash_cases inside with same | slash
  · rw [named] at same
    rw [opened, ← same]
    exact .inl rfl
  · rw [opened, slash, named]
    exact .inr rfl

theorem afterTag_tag (found : afterTag text = some rest) : IsTag text ∧ rest <:+ text.tail := by
  obtain ⟨inside, opening, matched⟩ := Option.bind_eq_some_iff.mp found
  have opened := afterOpening_iff.mp opening
  have suffix := afterSlash_suffix inside
  cases named : afterSlash inside with
  | nil =>
      rw [named] at matched
      cases matched
  | cons letter more =>
      rw [named] at matched suffix
      dsimp only at matched
      by_cases isName : isLetter letter = true
      · rw [if_pos isName] at matched
        have within := (List.suffix_cons letter more).trans suffix
        have closes := within.subset (afterTagEnd_mem matched)
        rw [opened]
        refine ⟨⟨opened ▸ opensTag_of_slash opened named isName, List.mem_cons_of_mem 60 closes⟩, ?_⟩
        exact (afterTagEnd_suffix matched).trans within
      · rw [if_neg isName] at matched
        cases matched

theorem tag_found (tag : IsTag text) : afterTag text ≠ none := by
  obtain ⟨⟨letter, rest, isName, shape⟩, closes⟩ := tag
  obtain ⟨_space, notSlash, notOpening, notClosing⟩ := isLetter_plain isName
  have stays : afterSlash (letter :: rest) = letter :: rest := if_neg notSlash
  intro absent
  rcases shape with rfl | rfl
  · have named : afterTag (60 :: letter :: rest) =
        if isLetter letter then afterTagEnd rest else none := by
      unfold afterTag
      rw [afterOpening_iff.mpr rfl, Option.bind_some, stays]
    rw [named, if_pos isName, afterTagEnd_none_iff] at absent
    rcases List.mem_cons.mp closes with opening | later
    · cases opening
    · rcases List.mem_cons.mp later with same | member
      · exact notClosing same.symm
      · exact absent member
  · have named : afterTag (60 :: 47 :: letter :: rest) =
        if isLetter letter then afterTagEnd rest else none := by
      unfold afterTag
      rw [afterOpening_iff.mpr rfl, Option.bind_some]
      rfl
    rw [named, if_pos isName, afterTagEnd_none_iff] at absent
    rcases List.mem_cons.mp closes with opening | later
    · cases opening
    · rcases List.mem_cons.mp later with slash | last
      · cases slash
      · rcases List.mem_cons.mp last with same | member
        · exact notClosing same.symm
        · exact absent member

theorem afterElement_tag (found : afterElement text = some rest) :
    IsTag text ∧ rest <:+ text.tail := by
  obtain ⟨inside, opening, matched⟩ := Option.bind_eq_some_iff.mp found
  obtain ⟨⟨name, attributes⟩, named, tagged⟩ := Option.bind_eq_some_iff.mp matched
  obtain ⟨body, ended, closed⟩ := Option.bind_eq_some_iff.mp tagged
  have opened := afterOpening_iff.mp opening
  obtain ⟨letter, more, rfl, isName, suffix⟩ := afterName_letter named
  have within := suffix.trans (List.suffix_cons letter more)
  rw [opened]
  refine ⟨⟨⟨letter, more, isName, .inl rfl⟩, ?_⟩, ?_⟩
  · exact List.mem_cons_of_mem 60 (within.subset (afterTagEnd_mem ended))
  · exact ((afterLazily_suffix closed).trans (afterTagEnd_suffix ended)).trans within

theorem afterSelfClosing_tag (found : afterSelfClosing text = some rest) :
    IsTag text ∧ rest <:+ text.tail := by
  obtain ⟨inside, opening, matched⟩ := Option.bind_eq_some_iff.mp found
  obtain ⟨⟨name, attributes⟩, named, ended⟩ := Option.bind_eq_some_iff.mp matched
  have opened := afterOpening_iff.mp opening
  obtain ⟨letter, more, slash, isName, suffix⟩ := afterName_letter named
  have stays := afterSlash_suffix inside
  rw [slash] at stays
  have within := (suffix.trans (List.suffix_cons letter more)).trans stays
  rw [opened]
  refine ⟨⟨opened ▸ opensTag_of_slash opened slash isName, ?_⟩, ?_⟩
  · exact List.mem_cons_of_mem 60 (within.subset (afterTagEnd_mem ended))
  · exact (afterTagEnd_suffix ended).trans within

theorem IsTag.consumed (tag : IsTag text) (left : rest <:+ text.tail) :
    ∃ piece, piece ≠ [] ∧ text = piece ++ rest := by
  obtain ⟨piece, cut⟩ := left
  obtain ⟨⟨letter, more, _isName, rfl | rfl⟩, _closes⟩ := tag
  · exact ⟨60 :: piece, List.cons_ne_nil _ _, congrArg (60 :: ·) cut.symm⟩
  · exact ⟨60 :: piece, List.cons_ne_nil _ _, congrArg (60 :: ·) cut.symm⟩

theorem afterComment_begins (found : afterComment text = some rest) :
    ∃ inside, text = units "<!--" ++ inside ∧ rest <:+ inside := by
  obtain ⟨inside, opening, closed⟩ := Option.bind_eq_some_iff.mp found
  have low : ∀ unit ∈ units "<!--", unit.toNat < 65 := low_of_all (by decide)
  exact ⟨inside, (afterLiteral_low low).mp opening, afterLazily_suffix closed⟩

end Tags

/-! ### The stages -/

def commentPattern : Pattern UInt16 where
  after := afterComment
  consumes := by
    intro text rest found
    obtain ⟨inside, rfl, piece, rfl⟩ := afterComment_begins found
    exact ⟨units "<!--" ++ piece, nofun, (List.append_assoc _ _ _).symm⟩

def elementPattern : Pattern UInt16 where
  after := afterElement
  consumes := fun _ _ found => (afterElement_tag found).1.consumed (afterElement_tag found).2

def selfClosingPattern : Pattern UInt16 where
  after := afterSelfClosing
  consumes := fun _ _ found =>
    (afterSelfClosing_tag found).1.consumed (afterSelfClosing_tag found).2

def tagPattern : Pattern UInt16 where
  after := afterTag
  consumes := fun _ _ found => (afterTag_tag found).1.consumed (afterTag_tag found).2

def unitPattern (among : UInt16 → Bool) : Pattern UInt16 where
  after := afterUnit among
  consumes := by
    intro text rest found
    cases text with
    | nil => cases found
    | cons unit text =>
        unfold afterUnit at found
        dsimp only at found
        by_cases member : among unit = true
        · rw [if_pos member] at found
          cases found
          exact ⟨[unit], List.cons_ne_nil _ _, rfl⟩
        · rw [if_neg member] at found
          cases found

def invisiblePattern : Pattern UInt16 := unitPattern isInvisible

def controlPattern : Pattern UInt16 := unitPattern isControl

/-- `replace(/\s+/g, ' ')`, in a run of spaces or not. -/
def collapseFrom : Bool → List UInt16 → List UInt16
  | _, [] => []
  | inRun, unit :: text =>
      if isSpace unit then
        if inRun then collapseFrom true text else 32 :: collapseFrom true text
      else unit :: collapseFrom false text

def collapse (text : List UInt16) : List UInt16 := collapseFrom false text

/-- `trim()` of code units. -/
def trimUnits (text : List UInt16) : List UInt16 :=
  ((text.dropWhile isSpace).reverse.dropWhile isSpace).reverse

def NAME_FIELDS : List (List UInt16) :=
  ["name", "username", "title", "displayname", "fullname"].map units

def BIO_FIELDS : List (List UInt16) := ["bio", "description", "about", "summary"].map units

/-- No unit outside of ASCII has a letter of these fields as its lower case. -/
def hasKey (fields : List (List UInt16)) (key : List UInt16) : Bool :=
  fields.any fun field => decide (field.map foldCase = key.map foldCase)

def maxLengthForField (key : List UInt16) : Option Nat :=
  if hasKey NAME_FIELDS key then some 200
  else if hasKey BIO_FIELDS key then some 5000
  else none

def limited (maxLength : Option Nat) (text : List UInt16) : List UInt16 :=
  match maxLength with
  | some length => if length < text.length then text.take length else text
  | none => text

def sanitizeString (nfkc : Nfkc) (value key : List UInt16) : List UInt16 :=
  let result := nfkc.normalize value
  let result := commentPattern.erase result
  let result := elementPattern.erase result
  let result := selfClosingPattern.erase result
  let result := tagPattern.erase result
  let result := invisiblePattern.erase result
  let result := controlPattern.erase result
  let result := trimUnits (collapse result)
  limited (maxLengthForField key) result

end AudioBlock.Middlewares
