/-
Texts from which markers are erased.

A marker is a body between three opening and three closing brackets, and its body is not
empty and has no bracket.  Markers do not overlap, so that erasing them from left to right
erases all of them.  What is left may contain new ones.
-/
import AudioBlock.Foundation.Erasure
import Mathlib.Data.List.Basic

namespace AudioBlock.Foundation

universe u

/-! ### Markers -/

structure Brackets (Letter : Type u) where
  opening : Letter
  closing : Letter
  different : opening ≠ closing

namespace Brackets

variable {Letter : Type u} (brackets : Brackets Letter)

def openings : List Letter := List.replicate 3 brackets.opening

def closings : List Letter := List.replicate 3 brackets.closing

def wrap (body : List Letter) : List Letter := brackets.openings ++ (body ++ brackets.closings)

structure IsPlain (body : List Letter) : Prop where
  nonempty : body ≠ []
  noOpening : brackets.opening ∉ body
  noClosing : brackets.closing ∉ body

variable {brackets} {body other : List Letter}

theorem wrap_length : (brackets.wrap body).length = body.length + 6 := by
  unfold wrap openings closings
  rw [List.length_append, List.length_append, List.length_replicate, List.length_replicate]
  omega

variable {index : Nat}

theorem wrap_start (start : index < 3) :
    (brackets.wrap body)[index]? = some brackets.opening := by
  unfold wrap openings
  rw [List.getElem?_append_left (by rwa [List.length_replicate]),
    List.getElem?_replicate_of_lt start]

/-- After its three opening brackets a marker has no other. -/
theorem wrap_noOpening (plain : brackets.IsPlain body) (inside : 3 ≤ index) :
    (brackets.wrap body)[index]? ≠ some brackets.opening := by
  unfold wrap openings
  rw [List.getElem?_append_right (by rwa [List.length_replicate])]
  intro found
  rcases List.mem_append.mp (List.mem_of_getElem? found) with inBody | inEnd
  · exact plain.noOpening inBody
  · exact brackets.different (List.eq_of_mem_replicate inEnd)

theorem wrap_end (late : body.length + 3 ≤ index) (within : index < body.length + 6) :
    (brackets.wrap body)[index]? = some brackets.closing := by
  unfold wrap openings closings
  rw [List.getElem?_append_right (by rw [List.length_replicate]; omega), List.length_replicate,
    List.getElem?_append_right (by omega), List.getElem?_replicate_of_lt (by omega)]

/-- Before its three closing brackets a marker has no other. -/
theorem wrap_noClosing (plain : brackets.IsPlain body) (early : index < body.length + 3) :
    (brackets.wrap body)[index]? ≠ some brackets.closing := by
  by_cases start : index < 3
  · rw [wrap_start start]
    exact fun same => brackets.different (Option.some.inj same)
  · unfold wrap openings
    rw [List.getElem?_append_right (by rw [List.length_replicate]; omega), List.length_replicate,
      List.getElem?_append_left (by omega)]
    exact fun found => plain.noClosing (List.mem_of_getElem? found)

/-- A marker inside of a marker is the whole of it. -/
theorem wrap_inside (plain : brackets.IsPlain body) {before after : List Letter}
    (inside : brackets.wrap body = before ++ (brackets.wrap other ++ after)) :
    before = [] ∧ after = [] := by
  have lengths := congrArg List.length inside
  rw [List.length_append, List.length_append, wrap_length, wrap_length] at lengths
  have shifted : ∀ index < other.length + 6,
      (brackets.wrap body)[before.length + index]? = (brackets.wrap other)[index]? := by
    intro index within
    rw [inside, List.getElem?_append_right (Nat.le_add_right _ _), Nat.add_sub_cancel_left,
      List.getElem?_append_left (by rwa [wrap_length])]
  have first : before.length + 2 < 3 := by
    by_contra late
    apply wrap_noOpening plain (Nat.le_of_not_lt late)
    rw [shifted 2 (by omega), wrap_start (by decide)]
  have last : body.length + 3 ≤ before.length + (other.length + 3) := by
    by_contra early
    apply wrap_noClosing plain (Nat.lt_of_not_le early)
    rw [shifted _ (by omega), wrap_end (Nat.le_refl _) (by omega)]
  exact ⟨List.eq_nil_of_length_eq_zero (by omega), List.eq_nil_of_length_eq_zero (by omega)⟩

end Brackets

structure Marker {Letter : Type u} (brackets : Brackets Letter) where
  after : List Letter → Option (List Letter)
  Body : List Letter → Prop
  plain : ∀ body, Body body → brackets.IsPlain body
  after_iff : ∀ text rest,
    after text = some rest ↔ ∃ body, Body body ∧ text = brackets.wrap body ++ rest

/-! ### Erasing from left to right -/

namespace Marker

variable {Letter : Type u} {brackets : Brackets Letter} (kind : Marker brackets)

def erase (text : List Letter) : List Letter := eraseAll kind.after text

variable {kind} {text rest more : List Letter} {letter : Letter}

theorem after_shorter (found : kind.after text = some rest) : rest.length + 6 ≤ text.length := by
  obtain ⟨body, _, rfl⟩ := (kind.after_iff _ _).mp found
  rw [List.length_append, Brackets.wrap_length]
  omega

theorem after_append (found : kind.after text = some rest) :
    kind.after (text ++ more) = some (rest ++ more) := by
  obtain ⟨body, isBody, rfl⟩ := (kind.after_iff _ _).mp found
  exact (kind.after_iff _ _).mpr ⟨body, isBody, List.append_assoc _ _ _⟩

theorem after_none_of_append (more : List Letter) (absent : kind.after (text ++ more) = none) :
    kind.after text = none := by
  cases found : kind.after text with
  | none => rfl
  | some rest => cases absent.symm.trans (after_append found)

theorem after_marker {body : List Letter} (isBody : kind.Body body) :
    kind.after (brackets.wrap body ++ rest) = some rest :=
  (kind.after_iff _ _).mpr ⟨body, isBody, rfl⟩

def pattern (kind : Marker brackets) : Pattern Letter where
  after := kind.after
  consumes := by
    intro text rest found
    obtain ⟨body, _isBody, cut⟩ := (kind.after_iff _ _).mp found
    refine ⟨brackets.wrap body, ?_, cut⟩
    intro none
    have length := congrArg List.length none
    rw [Brackets.wrap_length] at length
    cases length

theorem erase_nil : kind.erase [] = [] := rfl

theorem erase_letter (absent : kind.after (letter :: text) = none) :
    kind.erase (letter :: text) = letter :: kind.erase text :=
  kind.pattern.erase_letter absent

theorem erase_found (found : kind.after text = some rest) : kind.erase text = kind.erase rest :=
  kind.pattern.erase_found found

theorem erase_marker {body : List Letter} (isBody : kind.Body body) :
    kind.erase (brackets.wrap body ++ rest) = kind.erase rest :=
  erase_found (after_marker isBody)

/-! ### Texts at which the erasing starts again -/

end Marker

namespace Brackets

variable {Letter : Type u} (brackets : Brackets Letter)

def Opens (text : List Letter) : Prop := ∀ index < 3, text[index]? = some brackets.opening

def Closes (text : List Letter) : Prop :=
  ∀ index < text.length, text.length ≤ index + 3 → text[index]? = some brackets.closing

variable {brackets} {body text more before rest : List Letter}

theorem wrap_opens : brackets.Opens (brackets.wrap body ++ rest) := by
  intro index start
  rw [List.getElem?_append_left (by rw [wrap_length]; omega), wrap_start start]

theorem wrap_closes : brackets.Closes (brackets.wrap body) := by
  intro index within late
  rw [wrap_length] at within late
  exact wrap_end (by omega) within

theorem closes_of_append (closes : brackets.Closes (before ++ text)) : brackets.Closes text := by
  intro index within late
  have last := closes (before.length + index)
    (by rw [List.length_append]; omega) (by rw [List.length_append]; omega)
  rwa [List.getElem?_append_right (Nat.le_add_right _ _), Nat.add_sub_cancel_left] at last

theorem append_closes (first : brackets.Closes before) (second : brackets.Closes text) :
    brackets.Closes (before ++ text) := by
  intro index within late
  rw [List.length_append] at within late
  rcases Nat.lt_or_ge index before.length with early | after
  · rw [List.getElem?_append_left early]
    exact first index early (by omega)
  · rw [List.getElem?_append_right after]
    exact second _ (by omega) (by omega)

/-- A marker that begins before three opening brackets ends before them. -/
theorem wrap_before_opens (plain : brackets.IsPlain body) (opens : brackets.Opens more)
    (begun : text ≠ []) (found : text ++ more = brackets.wrap body ++ rest) :
    ∃ left, text = brackets.wrap body ++ left ∧ rest = left ++ more := by
  rcases List.append_eq_append_iff.mp found with ⟨middle, straddled, cut⟩ | ⟨left, whole, cut⟩
  · cases middle with
    | nil =>
        rw [List.append_nil] at straddled
        exact ⟨[], by rw [straddled, List.append_nil], cut.symm⟩
    | cons letter middle =>
        exfalso
        have started := List.length_pos_iff.mpr begun
        have lengths := congrArg List.length straddled
        rw [wrap_length, List.length_append, List.length_cons] at lengths
        have bracket := opens (3 - text.length) (by omega)
        have same : (text ++ more)[max text.length 3]? =
            (brackets.wrap body ++ rest)[max text.length 3]? := by rw [found]
        rw [List.getElem?_append_right (Nat.le_max_left _ _),
          show max text.length 3 - text.length = 3 - text.length by omega, bracket,
          List.getElem?_append_left (by rw [wrap_length]; omega)] at same
        exact wrap_noOpening plain (Nat.le_max_right _ _) same.symm
  · exact ⟨left, whole, cut⟩

/-- A marker that begins before the end of closing brackets ends there. -/
theorem wrap_after_closes (plain : brackets.IsPlain body) (closes : brackets.Closes text)
    (begun : text ≠ []) (found : text ++ more = brackets.wrap body ++ rest) :
    ∃ left, text = brackets.wrap body ++ left ∧ rest = left ++ more := by
  rcases List.append_eq_append_iff.mp found with ⟨middle, straddled, cut⟩ | ⟨left, whole, cut⟩
  · cases middle with
    | nil =>
        rw [List.append_nil] at straddled
        exact ⟨[], by rw [straddled, List.append_nil], cut.symm⟩
    | cons letter middle =>
        exfalso
        have started := List.length_pos_iff.mpr begun
        have lengths := congrArg List.length straddled
        rw [wrap_length, List.length_append, List.length_cons] at lengths
        have bracket : (text ++ letter :: middle)[text.length - 3]? = some brackets.closing :=
          (List.getElem?_append_left (by omega)).trans (closes _ (by omega) (by omega))
        rw [← straddled] at bracket
        exact wrap_noClosing plain (by omega) bracket
  · exact ⟨left, whole, cut⟩

end Brackets

namespace Marker

variable {Letter : Type u} {brackets : Brackets Letter} {kind : Marker brackets}
  {text rest more before : List Letter}

/-- No marker that begins in the first text ends in the second. -/
def Apart (kind : Marker brackets) (text more : List Letter) : Prop :=
  ∀ left body rest, left <:+ text → left ≠ [] → kind.Body body →
    left ++ more = brackets.wrap body ++ rest →
    ∃ later, left = brackets.wrap body ++ later ∧ rest = later ++ more

theorem apart_of_opens (opens : brackets.Opens more) : kind.Apart text more :=
  fun _ body _ _ begun isBody found =>
    Brackets.wrap_before_opens (kind.plain body isBody) opens begun found

theorem apart_of_closes (closes : brackets.Closes text) : kind.Apart text more := by
  intro left body rest isSuffix begun isBody found
  obtain ⟨before, rfl⟩ := isSuffix
  exact Brackets.wrap_after_closes (kind.plain body isBody) (Brackets.closes_of_append closes)
    begun found

theorem Apart.suffix (before : List Letter) (apart : kind.Apart (before ++ text) more) : kind.Apart text more :=
  fun left body rest isSuffix =>
    apart left body rest (isSuffix.trans (List.suffix_append before text))

theorem erase_append (apart : kind.Apart text more) :
    kind.erase (text ++ more) = kind.erase text ++ kind.erase more := by
  induction size : text.length using Nat.strongRecOn generalizing text with
  | _ size ih =>
      subst size
      cases text with
      | nil => rfl
      | cons letter text =>
          cases found : kind.after (letter :: text ++ more) with
          | none =>
              rw [List.cons_append] at found ⊢
              rw [erase_letter found,
                erase_letter (after_none_of_append more found),
                ih text.length (Nat.lt_succ_self _)
                  (Apart.suffix [letter] apart) rfl]
              rfl
          | some rest =>
              obtain ⟨body, isBody, same⟩ := (kind.after_iff _ _).mp found
              obtain ⟨left, whole, cut⟩ := apart _ body rest List.suffix_rfl
                (List.cons_ne_nil _ _) isBody same
              rw [erase_found found, whole, erase_marker isBody, cut]
              have shorter : left.length < (letter :: text).length := by
                rw [whole, List.length_append, Brackets.wrap_length]
                omega
              exact ih left.length shorter
                (Apart.suffix (brackets.wrap body) (whole ▸ apart)) rfl

/-! ### Texts without markers -/

def Clean (kind : Marker brackets) (text : List Letter) : Prop :=
  ∀ before rest, text = before ++ rest → kind.after rest = none

variable {letter : Letter} {first last : List Letter}

theorem Clean.tail (clean : kind.Clean (letter :: text)) : kind.Clean text := by
  intro before rest cut
  exact clean (letter :: before) rest (congrArg (letter :: ·) cut)

theorem Clean.erase (clean : kind.Clean text) : kind.erase text = text := by
  induction text with
  | nil => rfl
  | cons letter text ih => rw [erase_letter (clean [] _ rfl), ih clean.tail]

def Firm (kind : Marker brackets) (text : List Letter) : Prop :=
  ∀ before rest, text = before ++ rest → before ≠ [] → rest ≠ [] →
    kind.Clean before ∧ kind.Clean rest

theorem clean_left (clean : kind.Clean (text ++ more)) : kind.Clean text := by
  intro before rest cut
  refine after_none_of_append more (clean before _ ?_)
  rw [cut, List.append_assoc]

theorem clean_right (clean : kind.Clean (text ++ more)) : kind.Clean more := by
  intro before rest cut
  refine clean (text ++ before) rest ?_
  rw [cut, List.append_assoc]

theorem Clean.firm (clean : kind.Clean text) : kind.Firm text := by
  intro before rest cut _ _
  subst cut
  exact ⟨clean_left clean, clean_right clean⟩

theorem firm_wrap {body : List Letter} (plain : brackets.IsPlain body) :
    kind.Firm (brackets.wrap body) := by
  intro first second cut someFirst someSecond
  constructor
  · intro before rest inFirst
    cases found : kind.after rest with
    | none => rfl
    | some after =>
        obtain ⟨other, _, rfl⟩ := (kind.after_iff _ _).mp found
        subst inFirst
        rw [List.append_assoc, List.append_assoc] at cut
        exact absurd (List.append_eq_nil_iff.mp (Brackets.wrap_inside plain cut).2).2 someSecond
  · intro before rest inSecond
    cases found : kind.after rest with
    | none => rfl
    | some after =>
        obtain ⟨other, _, rfl⟩ := (kind.after_iff _ _).mp found
        subst inSecond
        rw [← List.append_assoc] at cut
        exact absurd (List.append_eq_nil_iff.mp (Brackets.wrap_inside plain cut).1).1 someFirst

theorem wrap_injective {body other : List Letter}
    (same : brackets.wrap body = brackets.wrap other) : body = other :=
  List.append_cancel_right (List.append_cancel_left same)

theorem clean_wrap {body : List Letter} (plain : brackets.IsPlain body) (other : ¬ kind.Body body) :
    kind.Clean (brackets.wrap body) := by
  intro before rest cut
  cases found : kind.after rest with
  | none => rfl
  | some after =>
      obtain ⟨inner, isBody, rfl⟩ := (kind.after_iff _ _).mp found
      obtain ⟨rfl, rfl⟩ := Brackets.wrap_inside plain cut
      rw [List.nil_append, List.append_nil] at cut
      exact absurd (wrap_injective cut ▸ isBody) other

/-! ### Texts with markers between their letters -/

inductive Many (kind : Marker brackets) : List Letter → Prop
  | one {body} (isBody : kind.Body body) : Many kind (brackets.wrap body)
  | more {body group} (isBody : kind.Body body) (many : Many kind group) :
      Many kind (brackets.wrap body ++ group)

theorem Many.opens (many : kind.Many text) (more : List Letter) : brackets.Opens (text ++ more) := by
  cases many with
  | one isBody => exact Brackets.wrap_opens
  | more isBody many =>
      rw [List.append_assoc]
      exact Brackets.wrap_opens

theorem Many.closes (many : kind.Many text) : brackets.Closes text := by
  induction many with
  | one isBody => exact Brackets.wrap_closes
  | more isBody many ih => exact Brackets.append_closes Brackets.wrap_closes ih

theorem Many.long (many : kind.Many text) : 6 ≤ text.length := by
  cases many with
  | one isBody =>
      rw [Brackets.wrap_length]
      omega
  | more isBody many =>
      rw [List.length_append, Brackets.wrap_length]
      omega

theorem Many.erase (many : kind.Many text) (rest : List Letter) : kind.erase (text ++ rest) = kind.erase rest := by
  induction many with
  | one isBody => exact erase_marker isBody
  | more isBody many ih => rw [List.append_assoc, erase_marker isBody, ih]

inductive Spread (kind : Marker brackets) : List Letter → List Letter → Prop
  | whole {word} (some : word ≠ []) : Spread kind word word
  | insert {first group word text} (some : first ≠ []) (many : kind.Many group)
      (spread : Spread kind word text) : Spread kind (first ++ word) (first ++ (group ++ text))

variable {word : List Letter}

theorem Spread.word_some (spread : kind.Spread word text) : word ≠ [] := by
  cases spread with
  | whole some => exact some
  | insert some many spread => exact fun none => some (List.append_eq_nil_iff.mp none).1

theorem Spread.opens (spread : kind.Spread word text) (opens : brackets.Opens word) :
    brackets.Opens text := by
  cases spread with
  | whole some => exact opens
  | @insert first group word text some many spread =>
      intro index start
      rcases Nat.lt_or_ge index first.length with early | late
      · have letter := opens index start
        rw [List.getElem?_append_left early] at letter ⊢
        exact letter
      · rw [List.getElem?_append_right late]
        exact many.opens text (index - first.length) (by omega)

theorem Spread.closes (spread : kind.Spread word text) (closes : brackets.Closes word) :
    brackets.Closes text := by
  induction spread with
  | whole some => exact closes
  | @insert first group word text some many spread ih =>
      have lastCloses := Brackets.append_closes many.closes
        (ih (Brackets.closes_of_append closes))
      have long := many.long
      intro index within late
      rw [List.length_append, List.length_append] at within late
      rw [List.getElem?_append_right (by omega)]
      exact lastCloses _ (by rw [List.length_append]; omega) (by rw [List.length_append]; omega)

theorem Spread.cons (spread : kind.Spread word text) :
    kind.Spread (letter :: word) (letter :: text) := by
  cases spread with
  | whole some => exact .whole (List.cons_ne_nil _ _)
  | insert some many spread => exact .insert (List.cons_ne_nil _ _) many spread

theorem Spread.erase_clean (spread : kind.Spread word text) (clean : kind.Clean word) :
    kind.erase text = word := by
  induction spread with
  | whole some => exact clean.erase
  | @insert first group word text some many spread ih =>
      have apart : kind.Apart first (group ++ text) := apart_of_opens (many.opens text)
      rw [erase_append apart, many.erase, ih (clean_right clean), (clean_left clean).erase]

/-- The markers between the letters are erased, and the letters stay. -/
theorem Spread.erase (spread : kind.Spread word text) (firm : kind.Firm word)
    (kept : kind.after text = none) : kind.erase text = word := by
  cases spread with
  | whole some =>
      cases text with
      | nil => rfl
      | cons letter text =>
          rw [erase_letter kept]
          cases text with
          | nil => rfl
          | cons next text =>
              have clean := (firm [letter] (next :: text) rfl (List.cons_ne_nil _ _)
                (List.cons_ne_nil _ _)).2
              rw [clean.erase]
  | @insert first group word text some many spread =>
      have ⟨cleanFirst, cleanWord⟩ := firm first word rfl some spread.word_some
      have apart : kind.Apart first (group ++ text) := apart_of_opens (many.opens text)
      rw [erase_append apart, many.erase, spread.erase_clean cleanWord, cleanFirst.erase]

/-! ### The origin of a word of the erased text -/

/-- The markers before the first letter that stays. -/
theorem erase_cons_split {left : List Letter} (erased : kind.erase text = letter :: left) :
    ∃ group rest, text = group ++ letter :: rest ∧ (group = [] ∨ kind.Many group) ∧
      kind.after (letter :: rest) = none ∧ kind.erase rest = left := by
  induction size : text.length using Nat.strongRecOn generalizing text with
  | _ size ih =>
      subst size
      cases found : kind.after text with
      | none =>
          cases text with
          | nil => cases erased
          | cons first text =>
              rw [erase_letter found] at erased
              obtain ⟨rfl, tail⟩ := List.cons.inj erased
              exact ⟨[], text, rfl, .inl rfl, found, tail⟩
      | some after =>
          have shorter := after_shorter found
          obtain ⟨group, rest, cut, markers, kept, tail⟩ :=
            ih after.length (by omega) ((erase_found found).symm.trans erased) rfl
          obtain ⟨body, isBody, rfl⟩ := (kind.after_iff _ _).mp found
          refine ⟨brackets.wrap body ++ group, rest, ?_, .inr ?_, kept, tail⟩
          · rw [cut, List.append_assoc]
          · cases markers with
            | inl none =>
                rw [none, List.append_nil]
                exact .one isBody
            | inr many => exact .more isBody many

/-- The letters of a text before those that stay last. -/
theorem erase_append_split (erased : kind.erase text = first ++ last) :
    ∃ before rest, text = before ++ rest ∧ kind.erase before = first ∧
      kind.erase rest = last := by
  induction first generalizing text with
  | nil => exact ⟨[], text, rfl, rfl, erased⟩
  | cons letter first ih =>
      obtain ⟨group, rest, rfl, markers, kept, tail⟩ := erase_cons_split erased
      obtain ⟨before, rest, rfl, erasedFirst, erasedLast⟩ := ih tail
      refine ⟨group ++ letter :: before, rest, by rw [List.append_assoc]; rfl, ?_, erasedLast⟩
      have erasedLetters : kind.erase (letter :: before) = letter :: first := by
        rw [erase_letter (after_none_of_append rest kept), erasedFirst]
      cases markers with
      | inl none => rw [none, List.nil_append, erasedLetters]
      | inr many => rw [many.erase, erasedLetters]

theorem erase_word_split (kept : kind.after (letter :: text) = none)
    (erased : kind.erase text = word ++ last) :
    ∃ spreadText rest, letter :: text = spreadText ++ rest ∧
      kind.Spread (letter :: word) spreadText ∧ kind.erase rest = last := by
  induction word generalizing letter text with
  | nil => exact ⟨[letter], text, rfl, .whole (List.cons_ne_nil _ _), erased⟩
  | cons next word ih =>
      obtain ⟨group, rest, rfl, markers, keptNext, tail⟩ := erase_cons_split erased
      obtain ⟨spreadText, rest, cut, spread, erasedLast⟩ := ih keptNext tail
      refine ⟨letter :: (group ++ spreadText), rest, ?_, ?_, erasedLast⟩
      · rw [cut, List.cons_append, List.append_assoc]
      · cases markers with
        | inl none =>
            rw [none]
            exact spread.cons
        | inr many =>
            have inserted : kind.Spread ([letter] ++ next :: word)
                ([letter] ++ (group ++ spreadText)) := .insert (List.cons_ne_nil _ _) many spread
            exact inserted

/-- A word that stays was in the text with markers between its letters. -/
theorem erase_eq_iff (opens : brackets.Opens word) (closes : brackets.Closes word)
    (firm : kind.Firm word) :
    kind.erase text = first ++ (word ++ last) ↔
      ∃ before spreadText rest, text = before ++ (spreadText ++ rest) ∧
        kind.Spread word spreadText ∧ kind.after spreadText = none ∧
        kind.erase before = first ∧ kind.erase rest = last := by
  constructor
  · intro erased
    obtain ⟨before, rest, rfl, erasedFirst, erasedRest⟩ := erase_append_split erased
    cases word with
    | nil => cases opens 0 (by decide)
    | cons letter word =>
        obtain ⟨group, rest, rfl, markers, kept, tail⟩ := erase_cons_split erasedRest
        obtain ⟨spreadText, rest, cut, spread, erasedLast⟩ := erase_word_split kept tail
        rw [cut] at kept
        refine ⟨before ++ group, spreadText, rest, by rw [cut, List.append_assoc], spread,
          after_none_of_append rest kept, ?_, erasedLast⟩
        cases markers with
        | inl none => rw [none, List.append_nil, erasedFirst]
        | inr many =>
            have opensGroup : brackets.Opens group := by
              have opensMore := many.opens []
              rwa [List.append_nil] at opensMore
            have erasedGroup := many.erase []
            rw [List.append_nil] at erasedGroup
            rw [erase_append (apart_of_opens opensGroup), erasedGroup, erasedFirst, erase_nil,
              List.append_nil]
  · intro ⟨before, spreadText, rest, cut, spread, kept, erasedFirst, erasedLast⟩
    have apartBefore : kind.Apart before (spreadText ++ rest) := by
      apply apart_of_opens
      intro index start
      have bracket := spread.opens opens index start
      rwa [List.getElem?_append_left (List.getElem?_eq_some_iff.mp bracket).1]
    have apartRest : kind.Apart spreadText rest := apart_of_closes (spread.closes closes)
    rw [cut, erase_append apartBefore, erase_append apartRest, erasedFirst, erasedLast,
      spread.erase firm kept]

/-! ### Two kinds, erased one after the other -/

theorem erase_nil_iff (erased : kind.erase text = []) :
    text = [] ∨ ∃ body rest, kind.Body body ∧ text = brackets.wrap body ++ rest := by
  cases text with
  | nil => exact .inl rfl
  | cons letter text =>
      cases found : kind.after (letter :: text) with
      | none =>
          rw [erase_letter found] at erased
          cases erased
      | some rest =>
          obtain ⟨body, isBody, same⟩ := (kind.after_iff _ _).mp found
          exact .inr ⟨body, rest, isBody, same⟩

/-- With markers of one kind between its letters, a bracketed word has none of the other kind
    inside. -/
theorem Spread.firm_other {other : Marker brackets} {body : List Letter}
    (disjoint : ∀ body, other.Body body → ¬ kind.Body body) (plain : brackets.IsPlain body)
    (spread : kind.Spread (brackets.wrap body) text) (kept : kind.after text = none) :
    other.Firm text := by
  have erased := spread.erase (firm_wrap plain) kept
  generalize isWord : brackets.wrap body = word at spread erased
  cases spread with
  | whole some =>
      rw [← isWord]
      exact firm_wrap plain
  | @insert first group word text someFirst many spread =>
      apply Clean.firm
      -- A marker of the other kind would be the whole word, and would begin before the group.
      have noMarkerFirst : ∀ body rest, brackets.IsPlain body →
          first ++ (group ++ text) ≠ brackets.wrap body ++ rest := by
        intro inner rest innerPlain found
        obtain ⟨left, inFirst, _⟩ :=
          Brackets.wrap_before_opens innerPlain (many.opens text) someFirst found
        have cut : brackets.wrap body = [] ++ (brackets.wrap inner ++ (left ++ word)) := by
          rw [isWord, inFirst, List.nil_append, List.append_assoc]
        have none := (Brackets.wrap_inside plain cut).2
        exact spread.word_some (List.append_eq_nil_iff.mp none).2
      intro before rest cut
      cases found : other.after rest with
      | none => rfl
      | some after =>
          exfalso
          obtain ⟨inner, isOther, rfl⟩ := (other.after_iff _ _).mp found
          have innerPlain := other.plain inner isOther
          have apartBefore : kind.Apart before (brackets.wrap inner ++ after) :=
            apart_of_opens Brackets.wrap_opens
          have apartAfter : kind.Apart (brackets.wrap inner) after :=
            apart_of_closes Brackets.wrap_closes
          have innerClean : kind.Clean (brackets.wrap inner) :=
            clean_wrap innerPlain (disjoint inner isOther)
          rw [cut, erase_append apartBefore, erase_append apartAfter, innerClean.erase,
            ← isWord] at erased
          have beforeErased := (Brackets.wrap_inside plain erased.symm).1
          rcases erase_nil_iff beforeErased with none | ⟨marker, rest, isBody, same⟩
          · rw [none] at cut
            exact noMarkerFirst inner after innerPlain cut
          · rw [same, List.append_assoc] at cut
            exact noMarkerFirst marker _ (kind.plain marker isBody) cut

def Conceals (earlier later : Marker brackets) (word text : List Letter) : Prop :=
  ∃ once, later.Spread word once ∧ later.after once = none ∧
    earlier.Spread once text ∧ earlier.after text = none

theorem erase_erase_iff {earlier later : Marker brackets} {body : List Letter}
    (disjoint : ∀ body, earlier.Body body → ¬ later.Body body) (plain : brackets.IsPlain body) :
    later.erase (earlier.erase text) = first ++ (brackets.wrap body ++ last) ↔
      ∃ before hidden rest, text = before ++ (hidden ++ rest) ∧
        Conceals earlier later (brackets.wrap body) hidden ∧
        later.erase (earlier.erase before) = first ∧
        later.erase (earlier.erase rest) = last := by
  have opens : brackets.Opens (brackets.wrap body) := fun index start => Brackets.wrap_start start
  rw [erase_eq_iff opens Brackets.wrap_closes (firm_wrap plain)]
  constructor
  · intro ⟨before, once, rest, cut, spread, kept, erasedFirst, erasedLast⟩
    have originOf := (erase_eq_iff (spread.opens opens) (spread.closes Brackets.wrap_closes)
      (spread.firm_other disjoint plain kept)).mp cut
    obtain ⟨start, hidden, finish, whole, hides, keptHidden, rfl, rfl⟩ := originOf
    exact ⟨start, hidden, finish, whole, ⟨once, spread, kept, hides, keptHidden⟩, erasedFirst,
      erasedLast⟩
  · intro ⟨start, hidden, finish, whole, ⟨once, spread, kept, hides, keptHidden⟩, erasedFirst,
      erasedLast⟩
    refine ⟨earlier.erase start, once, earlier.erase finish, ?_, spread, kept, erasedFirst,
      erasedLast⟩
    exact (erase_eq_iff (spread.opens opens) (spread.closes Brackets.wrap_closes)
      (spread.firm_other disjoint plain kept)).mpr
        ⟨start, hidden, finish, whole, hides, keptHidden, rfl, rfl⟩

end Marker

end AudioBlock.Foundation
