/-
What one pass of `sanitizeString` leaves.

Markup comes back where letters join over something that is stripped, and every such joint lies
behind the beginning of a tag.  The length is cut after the text is trimmed, so a space may be
left at its end; a second pass drops it.
-/
import AudioBlock.Middlewares.SanitizeInput
import Mathlib.Data.List.DropRight

namespace AudioBlock.Middlewares

open AudioBlock.Foundation

/-! ### Joints -/

/-- What the stages after the comments erase begins here. -/
def StripsLater (text : List UInt16) : Prop :=
  (∃ unit rest, text = unit :: rest ∧ (isInvisible unit = true ∨ isControl unit = true)) ∨
    OpensTag text

/-- What one of the stages erases begins here. -/
def Strips (text : List UInt16) : Prop :=
  StripsLater text ∨ ∃ rest, text = units "<!--" ++ rest

def Joint (stripped : List UInt16 → Prop) (text : List UInt16) : Prop := stripped text ∧ 62 ∈ text

/-- Neither `<` nor `</` lies directly before something that is stripped. -/
def Firm (stripped : List UInt16 → Prop) (text : List UInt16) : Prop :=
  ∀ before rest, text = before ++ 60 :: rest →
    ¬ Joint stripped rest ∧ ∀ more, rest = 47 :: more → ¬ Joint stripped more

section Stages

variable {pattern : Pattern UInt16} {stripped : List UInt16 → Prop} {text : List UInt16}

theorem Firm.suffix {before : List UInt16} (firm : Firm stripped (before ++ text)) :
    Firm stripped text := by
  intro first rest cut
  exact firm (before ++ first) rest (by rw [cut, List.append_assoc])

section

variable (within : ∀ text rest, pattern.after text = some rest → stripped text)
include within

theorem unmatched_of_not_joint (notJoint : ¬ Joint stripped text)
    (closes : 62 ∈ pattern.erase text) :
    pattern.after text = none := by
  cases found : pattern.after text with
  | none => rfl
  | some rest => exact absurd ⟨within text rest found, Pattern.erase_subset closes⟩ notJoint

theorem opensTag_origin (firm : Firm stripped text) (absent : pattern.after text = none)
    (tag : IsTag (pattern.erase text)) : OpensTag text := by
  obtain ⟨⟨letter, rest, isName, shape⟩, closes⟩ := tag
  rcases shape with direct | slashed
  · rw [direct] at closes
    obtain ⟨inside, rfl, erased⟩ := Pattern.erase_kept absent direct
    have closesInside : 62 ∈ pattern.erase inside := by
      rw [erased]
      exact (List.mem_cons.mp closes).resolve_left (by decide)
    have unmatched := unmatched_of_not_joint within (firm [] inside rfl).1 closesInside
    obtain ⟨more, rfl, _tail⟩ := Pattern.erase_kept unmatched erased
    exact ⟨letter, more, isName, .inl rfl⟩
  · rw [slashed] at closes
    obtain ⟨inside, rfl, erased⟩ := Pattern.erase_kept absent slashed
    obtain ⟨direct, behind⟩ := firm [] inside rfl
    have closesInside : 62 ∈ pattern.erase inside := by
      rw [erased]
      exact (List.mem_cons.mp closes).resolve_left (by decide)
    obtain ⟨named, rfl, erasedNamed⟩ := Pattern.erase_kept
      (unmatched_of_not_joint within direct closesInside) erased
    have closesNamed : 62 ∈ pattern.erase named := by
      rw [erased] at closesInside
      rw [erasedNamed]
      exact (List.mem_cons.mp closesInside).resolve_left (by decide)
    obtain ⟨more, rfl, _tail⟩ := Pattern.erase_kept
      (unmatched_of_not_joint within (behind named rfl) closesNamed) erasedNamed
    exact ⟨letter, more, isName, .inr rfl⟩

theorem stripsLater_origin (firm : Firm stripped text) (notJoint : ¬ Joint stripped text)
    (strips : StripsLater (pattern.erase text)) (closes : 62 ∈ pattern.erase text) :
    StripsLater text := by
  have absent := unmatched_of_not_joint within notJoint closes
  cases strips with
  | inl hidden =>
      obtain ⟨unit, rest, same, isHidden⟩ := hidden
      obtain ⟨more, rfl, _tail⟩ := Pattern.erase_kept absent same
      exact .inl ⟨unit, more, rfl, isHidden⟩
  | inr opens => exact .inr (opensTag_origin within firm absent ⟨opens, closes⟩)

end

section

variable (firm : Firm stripped text)
  (within : ∀ text rest, pattern.after text = some rest → stripped text)
include firm within

theorem Firm.erase (later : ∀ text, StripsLater text → stripped text) :
    Firm StripsLater (pattern.erase text) := by
  intro first last cut
  obtain ⟨before, inside, rfl, _absent, rfl⟩ := Pattern.erase_split cut
  obtain ⟨direct, behind⟩ := firm before inside rfl
  have inner : Firm stripped inside := by
    have split : Firm stripped ((before ++ [60]) ++ inside) := by
      rwa [List.append_assoc]
    exact split.suffix
  refine ⟨?_, ?_⟩
  · intro ⟨strips, closes⟩
    exact direct ⟨later inside (stripsLater_origin within inner direct strips closes),
      Pattern.erase_subset closes⟩
  · intro more slash ⟨strips, closes⟩
    have closesInside : 62 ∈ pattern.erase inside := by
      rw [slash]
      exact List.mem_cons_of_mem 47 closes
    obtain ⟨deeper, rfl, rfl⟩ := Pattern.erase_kept
      (unmatched_of_not_joint within direct closesInside) slash
    have split : Firm stripped ([47] ++ deeper) := inner
    have innermost : Firm stripped deeper := split.suffix
    exact behind deeper rfl
      ⟨later deeper (stripsLater_origin within innermost (behind deeper rfl) strips closes),
        Pattern.erase_subset closes⟩

theorem Firm.erase_free
    (kept : ∀ before rest, text = before ++ rest → pattern.after rest = none → ¬ IsTag rest) :
    tagPattern.Free (pattern.erase text) := by
  intro first last cut
  cases found : tagPattern.after last with
  | none => rfl
  | some rest =>
      exfalso
      have tag := (afterTag_tag found).1
      have begins : ∃ tail, last = 60 :: tail := by
        obtain ⟨⟨letter, more, _isName, same | same⟩, _closes⟩ := tag
        · exact ⟨_, same⟩
        · exact ⟨_, same⟩
      obtain ⟨tail, rfl⟩ := begins
      obtain ⟨before, inside, rfl, absent, rfl⟩ := Pattern.erase_split cut
      rw [← Pattern.erase_letter absent] at tag
      exact kept before (60 :: inside) rfl absent
        ⟨opensTag_origin within firm.suffix absent tag, Pattern.erase_subset tag.2⟩

end

end Stages

/-! ### Parts of a text without a tag -/

section Parts

variable {text part : List UInt16}

theorem IsTag.append (tag : IsTag text) (more : List UInt16) : IsTag (text ++ more) := by
  obtain ⟨⟨letter, rest, isName, shape⟩, closes⟩ := tag
  refine ⟨⟨letter, rest ++ more, isName, ?_⟩, List.mem_append_left more closes⟩
  rcases shape with rfl | rfl
  · exact .inl rfl
  · exact .inr rfl

theorem not_isTag_of_absent (absent : afterTag text = none) : ¬ IsTag text :=
  fun tag => tag_found tag absent

theorem absent_of_not_isTag (none : ¬ IsTag text) : afterTag text = .none := by
  cases found : afterTag text with
  | none => rfl
  | some rest => exact absurd (afterTag_tag found).1 none

theorem tagFree_part (free : tagPattern.Free text) (inside : part <:+: text) :
    tagPattern.Free part := by
  obtain ⟨first, last, rfl⟩ := inside
  intro before rest cut
  apply absent_of_not_isTag
  intro tag
  refine not_isTag_of_absent (free (first ++ before) (rest ++ last) ?_) (tag.append last)
  rw [cut]
  simp only [List.append_assoc]

theorem tagFree_element (free : tagPattern.Free text) : elementPattern.Free text := by
  intro before rest cut
  cases found : elementPattern.after rest with
  | none => rfl
  | some later =>
      exact absurd (afterElement_tag found).1 (not_isTag_of_absent (free before rest cut))

theorem tagFree_selfClosing (free : tagPattern.Free text) : selfClosingPattern.Free text := by
  intro before rest cut
  cases found : selfClosingPattern.after rest with
  | none => rfl
  | some later =>
      exact absurd (afterSelfClosing_tag found).1 (not_isTag_of_absent (free before rest cut))

end Parts

/-! ### Characters and spaces -/

section Spaces

variable {text part : List UInt16} {unit : UInt16} {inRun : Bool}

theorem mem_erase_unit {among : UInt16 → Bool} (member : unit ∈ (unitPattern among).erase text) :
    unit ∈ text ∧ among unit = false := by
  refine ⟨Pattern.erase_subset member, ?_⟩
  obtain ⟨first, last, cut⟩ := List.append_of_mem member
  obtain ⟨before, rest, _whole, absent, _tail⟩ := Pattern.erase_split cut
  cases hidden : among unit with
  | false => rfl
  | true => cases absent.symm.trans (if_pos hidden)

theorem afterUnit_hidden {among : UInt16 → Bool} {rest : List UInt16}
    (found : (unitPattern among).after text = some rest) :
    ∃ unit, text = unit :: rest ∧ among unit = true := by
  cases text with
  | nil => cases found
  | cons unit text =>
      by_cases hidden : among unit = true
      · cases (if_pos hidden).symm.trans found
        exact ⟨unit, rfl, hidden⟩
      · cases (if_neg hidden).symm.trans found

structure SingleSpaces (text : List UInt16) : Prop where
  plain : ∀ unit ∈ text, isSpace unit = true → unit = 32
  apart : ∀ before rest, text ≠ before ++ 32 :: 32 :: rest

theorem collapseFrom_space (space : isSpace unit = true) :
    collapseFrom inRun (unit :: text) =
      if inRun then collapseFrom true text else 32 :: collapseFrom true text :=
  if_pos space

theorem collapseFrom_letter (letter : isSpace unit = false) :
    collapseFrom inRun (unit :: text) = unit :: collapseFrom false text := by
  conv_lhs => unfold collapseFrom
  rw [letter]
  rfl

theorem mem_collapseFrom (member : unit ∈ collapseFrom inRun text) :
    unit = 32 ∨ unit ∈ text ∧ isSpace unit = false := by
  induction text generalizing inRun with
  | nil => cases member
  | cons first text ih =>
      cases space : isSpace first with
      | true =>
          rw [collapseFrom_space space] at member
          cases inRun with
          | true =>
              exact (ih member).imp_right (And.imp_left (List.mem_cons_of_mem first))
          | false =>
              rcases List.mem_cons.mp member with blank | later
              · exact .inl blank
              · exact (ih later).imp_right (And.imp_left (List.mem_cons_of_mem first))
      | false =>
          rw [collapseFrom_letter space] at member
          rcases List.mem_cons.mp member with rfl | later
          · exact .inr ⟨List.mem_cons_self, space⟩
          · exact (ih later).imp_right (And.imp_left (List.mem_cons_of_mem first))

theorem collapseFrom_head : (collapseFrom true text).head? ≠ some 32 := by
  induction text with
  | nil => exact nofun
  | cons first text ih =>
      cases space : isSpace first with
      | true =>
          rw [collapseFrom_space space]
          exact ih
      | false =>
          rw [collapseFrom_letter space]
          intro blank
          rw [Option.some.inj blank] at space
          cases space

theorem collapseFrom_apart (before rest : List UInt16) :
    collapseFrom inRun text ≠ before ++ 32 :: 32 :: rest := by
  induction text generalizing inRun before with
  | nil => exact fun cut => List.append_ne_nil_of_right_ne_nil before (List.cons_ne_nil _ _) cut.symm
  | cons first text ih =>
      cases space : isSpace first with
      | true =>
          rw [collapseFrom_space space]
          cases inRun with
          | true => exact ih before
          | false =>
              intro cut
              cases before with
              | nil =>
                  have second := congrArg List.head? (List.cons.inj cut).2
                  exact collapseFrom_head second
              | cons _ before => exact ih before (List.cons.inj cut).2
      | false =>
          rw [collapseFrom_letter space]
          intro cut
          cases before with
          | nil =>
              rw [(List.cons.inj cut).1] at space
              cases space
          | cons _ before => exact ih before (List.cons.inj cut).2

theorem collapse_singleSpaces (text : List UInt16) : SingleSpaces (collapse text) where
  plain := by
    intro unit member space
    rcases mem_collapseFrom member with blank | ⟨_member, letter⟩
    · exact blank
    · cases letter.symm.trans space
  apart := collapseFrom_apart

theorem SingleSpaces.within (single : SingleSpaces text) (inside : part <:+: text) :
    SingleSpaces part := by
  refine ⟨fun unit member => single.plain unit (inside.subset member), ?_⟩
  obtain ⟨first, last, rfl⟩ := inside
  intro before rest cut
  apply single.apart (first ++ before) (rest ++ last)
  rw [cut]
  simp only [List.append_assoc, List.cons_append]

theorem collapseFrom_self (single : SingleSpaces text)
    (first : inRun = true → text.head? ≠ some 32) : collapseFrom inRun text = text := by
  induction text generalizing inRun with
  | nil => rfl
  | cons unit text ih =>
      have rest : SingleSpaces text := single.within (List.suffix_cons unit text).isInfix
      cases space : isSpace unit with
      | true =>
          have blank := single.plain unit List.mem_cons_self space
          rw [collapseFrom_space space]
          cases inRun with
          | true => exact absurd (congrArg some blank) (first rfl)
          | false =>
              have second : text.head? ≠ some 32 := by
                intro found
                obtain ⟨more, same⟩ := List.head?_eq_some_iff.mp found
                apply single.apart [] more
                rw [blank, same]
                rfl
              rw [if_neg Bool.false_ne_true, ih rest (fun _ => second), blank]
      | false =>
          have following : collapseFrom false text = text :=
            ih rest fun impossible => absurd impossible Bool.false_ne_true
          rw [collapseFrom_letter space, following]

theorem collapse_self (single : SingleSpaces text) : collapse text = text :=
  collapseFrom_self single fun impossible => absurd impossible Bool.false_ne_true

theorem collapse_begins {left : List UInt16} (visible : unit ≠ 32)
    (collapsed : collapseFrom false text = unit :: left) :
    ∃ rest, text = unit :: rest ∧ collapseFrom false rest = left := by
  cases text with
  | nil => cases collapsed
  | cons first text =>
      cases space : isSpace first with
      | true =>
          rw [collapseFrom_space space] at collapsed
          exact absurd (List.cons.inj collapsed).1.symm visible
      | false =>
          rw [collapseFrom_letter space] at collapsed
          obtain ⟨rfl, tail⟩ := List.cons.inj collapsed
          exact ⟨text, rfl, tail⟩

theorem opensTag_collapse (opens : OpensTag (unit :: collapseFrom false text)) :
    OpensTag (unit :: text) := by
  obtain ⟨letter, rest, isName, shape⟩ := opens
  have visible := (isLetter_plain isName).1
  rcases shape with direct | slashed
  · obtain ⟨rfl, collapsed⟩ := List.cons.inj direct
    obtain ⟨more, rfl, _tail⟩ := collapse_begins visible collapsed
    exact ⟨letter, more, isName, .inl rfl⟩
  · obtain ⟨rfl, collapsed⟩ := List.cons.inj slashed
    obtain ⟨named, rfl, collapsedNamed⟩ := collapse_begins (by decide) collapsed
    obtain ⟨more, rfl, _tail⟩ := collapse_begins visible collapsedNamed
    exact ⟨letter, more, isName, .inr rfl⟩

theorem tagFree_collapse (free : tagPattern.Free text) :
    tagPattern.Free (collapseFrom inRun text) := by
  induction text generalizing inRun with
  | nil => exact Pattern.free_nil
  | cons unit text ih =>
      obtain ⟨absent, rest⟩ := Pattern.free_cons_iff.mp free
      cases space : isSpace unit with
      | true =>
          rw [collapseFrom_space space]
          cases inRun with
          | true => exact ih rest
          | false => exact Pattern.free_cons_iff.mpr ⟨rfl, ih rest⟩
      | false =>
          rw [collapseFrom_letter space]
          refine Pattern.free_cons_iff.mpr ⟨absent_of_not_isTag ?_, ih rest⟩
          intro ⟨opens, closes⟩
          refine not_isTag_of_absent absent ⟨opensTag_collapse opens, ?_⟩
          rcases List.mem_cons.mp closes with rfl | inside
          · exact List.mem_cons_self
          · rcases mem_collapseFrom inside with blank | ⟨member, _letter⟩
            · cases blank
            · exact List.mem_cons_of_mem unit member

end Spaces

/-! ### The ends and the length -/

section Ends

variable {text : List UInt16} {maxLength : Option Nat}

theorem trimUnits_eq (text : List UInt16) :
    trimUnits text = (text.dropWhile isSpace).rdropWhile isSpace := rfl

theorem trimUnits_inside (text : List UInt16) : trimUnits text <:+: text :=
  have ends := List.rdropWhile_prefix isSpace (text.dropWhile isSpace)
  ends.isInfix.trans (List.dropWhile_suffix isSpace).isInfix

theorem trimUnits_head : (trimUnits text).head? ≠ some 32 := by
  intro blank
  obtain ⟨rest, same⟩ := List.head?_eq_some_iff.mp blank
  obtain ⟨dropped, cut⟩ := List.rdropWhile_prefix isSpace (text.dropWhile isSpace)
  rw [← trimUnits_eq, same] at cut
  have visible := List.head?_dropWhile_not isSpace text
  rw [← cut] at visible
  cases visible

theorem trimUnits_last : (trimUnits text).getLast? ≠ some 32 := by
  intro blank
  obtain ⟨rest, same⟩ := List.getLast?_eq_some_iff.mp blank
  rw [trimUnits_eq] at same
  have filled : (text.dropWhile isSpace).rdropWhile isSpace ≠ [] := by
    rw [same]
    exact List.append_ne_nil_of_right_ne_nil rest (List.cons_ne_nil _ _)
  have visible := List.rdropWhile_last_not isSpace _ filled
  rw [List.getLast_congr _ (List.append_ne_nil_of_right_ne_nil rest (List.cons_ne_nil _ _)) same,
    List.getLast_append_of_ne_nil _ (List.cons_ne_nil _ _)] at visible
  exact visible rfl

theorem trimUnits_self (single : SingleSpaces text) (begins : text.head? ≠ some 32)
    (ends : text.getLast? ≠ some 32) : trimUnits text = text := by
  have start : text.dropWhile isSpace = text := by
    cases text with
    | nil => rfl
    | cons first rest =>
        cases space : isSpace first with
        | true =>
            have blank := single.plain first List.mem_cons_self space
            exact absurd (congrArg some blank) begins
        | false => exact List.dropWhile_cons_of_neg (by rw [space]; decide)
  rw [trimUnits_eq, start, List.rdropWhile_eq_self_iff]
  intro filled space
  have blank := single.plain _ (List.getLast_mem filled) space
  exact ends ((List.getLast?_eq_some_getLast filled).trans (congrArg some blank))

theorem limited_begins (maxLength : Option Nat) (text : List UInt16) :
    limited maxLength text <+: text := by
  cases maxLength with
  | none => exact List.prefix_refl text
  | some length =>
      unfold limited
      dsimp only
      by_cases long : length < text.length
      · rw [if_pos long]
        exact List.take_prefix length text
      · exact ⟨[], (List.append_nil _).trans (if_neg long)⟩

theorem limited_length {length : Nat} (isLimit : maxLength = some length) :
    (limited maxLength text).length ≤ length := by
  subst isLimit
  unfold limited
  dsimp only
  by_cases long : length < text.length
  · rw [if_pos long]
    exact List.length_take_le length text
  · rw [if_neg long]
    exact Nat.le_of_not_lt long

theorem limited_self (short : ∀ length, maxLength = some length → text.length ≤ length) :
    limited maxLength text = text := by
  cases maxLength with
  | none => rfl
  | some length => exact if_neg (Nat.not_lt_of_le (short length rfl))

theorem limited_cut (cut : limited maxLength text ≠ text) :
    maxLength = some (limited maxLength text).length := by
  cases maxLength with
  | none => exact absurd rfl cut
  | some length =>
      by_cases long : length < text.length
      · have taken : limited (some length) text = text.take length := if_pos long
        rw [taken, List.length_take_of_le (Nat.le_of_lt long)]
      · exact absurd (if_neg long) cut

theorem length_collapseFrom_le {inRun : Bool} :
    (collapseFrom inRun text).length ≤ text.length := by
  induction text generalizing inRun with
  | nil => exact Nat.le_refl 0
  | cons unit text ih =>
      cases space : isSpace unit with
      | true =>
          rw [collapseFrom_space space]
          cases inRun with
          | true => exact Nat.le_succ_of_le ih
          | false => exact Nat.succ_le_succ ih
      | false =>
          rw [collapseFrom_letter space]
          exact Nat.succ_le_succ ih

end Ends

/-! ### One pass -/

structure Sanitized (key text : List UInt16) : Prop where
  visible : ∀ unit ∈ text, isInvisible unit = false ∧ isControl unit = false
  spaces : SingleSpaces text
  begins : text.head? ≠ some 32
  ends : text.getLast? = some 32 → maxLengthForField key = some text.length
  short : ∀ maxLength, maxLengthForField key = some maxLength → text.length ≤ maxLength

structure MarkupFree (text : List UInt16) : Prop where
  element : elementPattern.Free text
  selfClosing : selfClosingPattern.Free text
  tag : tagPattern.Free text

section Passes

variable {text key : List UInt16}

theorem comments_strip (text rest : List UInt16) (found : afterComment text = some rest) :
    Strips text := by
  obtain ⟨inside, begins, _suffix⟩ := afterComment_begins found
  exact .inr ⟨inside, begins⟩

theorem tags_strip (text rest : List UInt16) (found : afterTag text = some rest) :
    StripsLater text :=
  .inr (afterTag_tag found).1.1

theorem units_strip {among : UInt16 → Bool}
    (hides : ∀ unit, among unit = true → isInvisible unit = true ∨ isControl unit = true)
    (text rest : List UInt16) (found : (unitPattern among).after text = some rest) :
    StripsLater text := by
  obtain ⟨unit, same, hidden⟩ := afterUnit_hidden found
  exact .inl ⟨unit, rest, same, hides unit hidden⟩

theorem sanitizeString_cut (nfkc : Nfkc) (value key : List UInt16) :
    ∃ visible, sanitizeString nfkc value key =
      limited (maxLengthForField key) (trimUnits (collapse visible)) ∧
      (∀ unit ∈ visible, isInvisible unit = false ∧ isControl unit = false) ∧
      (Firm Strips (nfkc.normalize value) → tagPattern.Free visible) := by
  refine ⟨_, rfl, ?_, ?_⟩
  · intro unit member
    obtain ⟨earlier, notControl⟩ := mem_erase_unit member
    exact ⟨(mem_erase_unit earlier).2, notControl⟩
  · intro firm
    have same : ∀ text, StripsLater text → StripsLater text := fun _ strips => strips
    have uncommented : Firm StripsLater (commentPattern.erase _) :=
      firm.erase comments_strip fun _ strips => .inl strips
    have elements : Firm StripsLater (elementPattern.erase _) :=
      uncommented.erase (fun _ _ found => .inr (afterElement_tag found).1.1) same
    have selfClosing : Firm StripsLater (selfClosingPattern.erase _) :=
      elements.erase (fun _ _ found => .inr (afterSelfClosing_tag found).1.1) same
    have untagged : tagPattern.Free (tagPattern.erase _) :=
      selfClosing.erase_free tags_strip fun _ _ _ absent => not_isTag_of_absent absent
    have tagged : Firm StripsLater (tagPattern.erase _) := selfClosing.erase tags_strip same
    have seen : tagPattern.Free (invisiblePattern.erase _) :=
      tagged.erase_free (units_strip fun _ hidden => .inl hidden)
        fun before rest cut _ => not_isTag_of_absent (untagged before rest cut)
    have shown : Firm StripsLater (invisiblePattern.erase _) :=
      tagged.erase (units_strip fun _ hidden => .inl hidden) same
    exact shown.erase_free (units_strip fun _ hidden => .inr hidden)
      fun before rest cut _ => not_isTag_of_absent (seen before rest cut)

theorem sanitizeString_sanitized (nfkc : Nfkc) (value key : List UInt16) :
    Sanitized key (sanitizeString nfkc value key) := by
  obtain ⟨visible, same, shown, _free⟩ := sanitizeString_cut nfkc value key
  rw [same]
  have cut := limited_begins (maxLengthForField key) (trimUnits (collapse visible))
  have inside := cut.isInfix.trans (trimUnits_inside (collapse visible))
  refine ⟨?_, (collapse_singleSpaces visible).within inside, ?_, ?_, ?_⟩
  · intro unit member
    rcases mem_collapseFrom (inside.subset member) with rfl | ⟨earlier, _letter⟩
    · decide
    · exact shown unit earlier
  · intro blank
    obtain ⟨rest, begins⟩ := List.head?_eq_some_iff.mp blank
    obtain ⟨more, whole⟩ := cut
    have first : (trimUnits (collapse visible)).head? = some 32 := by
      rw [← whole, begins]
      rfl
    exact trimUnits_head first
  · intro blank
    apply limited_cut
    intro uncut
    rw [uncut] at blank
    exact trimUnits_last blank
  · exact fun maxLength isLimit => limited_length isLimit

theorem sanitizeString_markupFree {nfkc : Nfkc} {value : List UInt16}
    (firm : Firm Strips (nfkc.normalize value)) : MarkupFree (sanitizeString nfkc value key) := by
  obtain ⟨visible, same, _shown, free⟩ := sanitizeString_cut nfkc value key
  rw [same]
  have cut := limited_begins (maxLengthForField key) (trimUnits (collapse visible))
  have left := tagFree_part (tagFree_collapse (free firm))
    (cut.isInfix.trans (trimUnits_inside (collapse visible)))
  exact ⟨tagFree_element left, tagFree_selfClosing left, left⟩

theorem ending_shrinks (maxLength : Option Nat) :
    Pattern.Shrinks fun text => limited maxLength (trimUnits (collapse text)) :=
  fun _ =>
    ((limited_begins maxLength _).length_le.trans (trimUnits_inside _).length_le).trans
      length_collapseFrom_le

theorem stages_self {nfkc : Nfkc} (same : sanitizeString nfkc text key = text)
    (normal : nfkc.normalize text = text) :
    commentPattern.erase text = text ∧ tagPattern.erase text = text ∧
      limited (maxLengthForField key) (trimUnits (collapse text)) = text := by
  unfold sanitizeString at same
  dsimp only at same
  rw [normal] at same
  have controls := ending_shrinks (maxLengthForField key)
  have invisibles := controls.after_erase controlPattern
  have tags := invisibles.after_erase invisiblePattern
  have selfClosing := tags.after_erase tagPattern
  have elements := selfClosing.after_erase selfClosingPattern
  have comments := elements.after_erase elementPattern
  have uncommented := comments.erase_self same
  rw [uncommented] at same
  rw [elements.erase_self same] at same
  rw [selfClosing.erase_self same] at same
  have untagged := tags.erase_self same
  rw [untagged] at same
  rw [invisibles.erase_self same] at same
  rw [controls.erase_self same] at same
  exact ⟨uncommented, untagged, same⟩

theorem erase_unit_self {among : UInt16 → Bool} (absent : ∀ unit ∈ text, among unit = false) :
    (unitPattern among).erase text = text := by
  rw [Pattern.erase_eq_self_iff]
  intro before rest cut
  cases found : (unitPattern among).after rest with
  | none => rfl
  | some later =>
      obtain ⟨unit, rfl, hidden⟩ := afterUnit_hidden found
      have member : unit ∈ text := by
        rw [cut]
        exact List.mem_append_right before List.mem_cons_self
      cases (absent unit member).symm.trans hidden

theorem sanitizeString_self_iff {nfkc : Nfkc} (sanitized : Sanitized key text)
    (normal : nfkc.normalize text = text) :
    sanitizeString nfkc text key = text ↔
      commentPattern.Free text ∧ tagPattern.Free text ∧ text.getLast? ≠ some 32 := by
  have collapsed := collapse_self sanitized.spaces
  constructor
  · intro same
    obtain ⟨uncommented, untagged, ending⟩ := stages_self same normal
    refine ⟨Pattern.erase_eq_self_iff.mp uncommented, Pattern.erase_eq_self_iff.mp untagged, ?_⟩
    rw [collapsed] at ending
    have long := (limited_begins (maxLengthForField key) (trimUnits text)).length_le
    rw [ending] at long
    have trimmed := (trimUnits_inside text).sublist.eq_of_length_le long
    rw [← trimmed]
    exact trimUnits_last
  · intro ⟨uncommented, untagged, ends⟩
    unfold sanitizeString invisiblePattern controlPattern
    dsimp only
    rw [normal, Pattern.erase_eq_self_iff.mpr uncommented,
      Pattern.erase_eq_self_iff.mpr (tagFree_element untagged),
      Pattern.erase_eq_self_iff.mpr (tagFree_selfClosing untagged),
      Pattern.erase_eq_self_iff.mpr untagged,
      erase_unit_self fun unit member => (sanitized.visible unit member).1,
      erase_unit_self fun unit member => (sanitized.visible unit member).2,
      collapsed, trimUnits_self sanitized.spaces sanitized.begins ends]
    exact limited_self sanitized.short

/-- What one pass promises, and when a second one changes nothing. -/
theorem sanitizeString_onePass (nfkc : Nfkc) (value key : List UInt16) :
    Sanitized key (sanitizeString nfkc value key) ∧
      (Firm Strips (nfkc.normalize value) → MarkupFree (sanitizeString nfkc value key)) ∧
      (nfkc.normalize (sanitizeString nfkc value key) = sanitizeString nfkc value key →
        (sanitizeString nfkc (sanitizeString nfkc value key) key = sanitizeString nfkc value key ↔
          commentPattern.Free (sanitizeString nfkc value key) ∧
            tagPattern.Free (sanitizeString nfkc value key) ∧
            (sanitizeString nfkc value key).getLast? ≠ some 32)) := by
  have sanitized := sanitizeString_sanitized nfkc value key
  exact ⟨sanitized, sanitizeString_markupFree, sanitizeString_self_iff sanitized⟩

/-! ### Texts that a second pass changes -/

theorem sanitizeString_ascii (nfkc : Nfkc) {value : List UInt16}
    (low : ∀ unit ∈ value, unit.toNat < 128) :
    sanitizeString nfkc value key = sanitizeString default value key := by
  unfold sanitizeString
  rw [nfkc.ascii value low, Nfkc.ascii default value low]

def nestedTag : List UInt16 := units "<<b>script>"

/-- The name is cut behind its space. -/
def longName : List UInt16 := List.replicate 199 97 ++ units " b"

/-- A tag is left over in the one, and in the other a space, which a second pass drops. -/
theorem onePass_leaves_more :
    ¬ ∃ nfkc : Nfkc, MarkupFree (sanitizeString nfkc nestedTag (units "name")) ∨
      sanitizeString nfkc (sanitizeString nfkc longName (units "name")) (units "name") =
        sanitizeString nfkc longName (units "name") := by
  intro ⟨nfkc, holds⟩
  have nested : sanitizeString nfkc nestedTag (units "name") = units "<script>" := by
    rw [sanitizeString_ascii nfkc (low_of_all (by decide))]
    decide +kernel
  have once : sanitizeString nfkc longName (units "name") = List.replicate 199 97 ++ [32] := by
    rw [sanitizeString_ascii nfkc (low_of_all (by decide +kernel))]
    decide +kernel
  cases holds with
  | inl free =>
      rw [nested] at free
      exact absurd (free.tag [] _ rfl) (by decide)
  | inr stable =>
      rw [once, sanitizeString_ascii nfkc (low_of_all (by decide +kernel))] at stable
      exact absurd stable (by decide +kernel)

end Passes

end AudioBlock.Middlewares
