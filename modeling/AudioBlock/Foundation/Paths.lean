/-
Relative paths as texts: joining, normalising, and where a path leads.

A path is split at `/`; empty segments and `.` are dropped and `..` undoes the segment
before it, or stays where there is none.  `walk` follows segments from a place without
leaving it: walking that stays inside leads to the same segments below every base, and
walking out forgets the last segment of the base.
-/
import AudioBlock.Foundation.Text
import Mathlib.Data.List.Basic

namespace AudioBlock.Foundation.Paths

abbrev Segment := List Char

def dot : Segment := ['.']

def dots : Segment := ['.', '.']

/-- A name of a file or a directory. -/
def Plain (segment : Segment) : Prop :=
  segment ≠ [] ∧ segment ≠ dot ∧ segment ≠ dots ∧ '/' ∉ segment

instance (segment : Segment) : Decidable (Plain segment) :=
  inferInstanceAs (Decidable (_ ∧ _ ∧ _ ∧ _))

def push (stack : List Segment) (segment : Segment) : List Segment :=
  if segment = [] ∨ segment = dot then stack
  else if segment = dots then
    if stack = [] ∨ stack.getLast? = some dots then stack ++ [dots] else stack.dropLast
  else stack ++ [segment]

def segments (path : List Char) : List Segment := path.splitOn '/'

def locate (path : List Char) : List Segment := (segments path).foldl push []

/-- `path.normalize` of a relative path; a trailing slash stays. -/
def normalize (path : List Char) : List Char :=
  let shown := if locate path = [] then dot else ['/'].intercalate (locate path)
  if path.getLast? = some '/' then shown ++ ['/'] else shown

/-- `path.join`, where the first part that is not empty is relative. -/
def join (parts : List (List Char)) : List Char :=
  normalize (['/'].intercalate (parts.filter fun part => decide (part ≠ [])))

example : join ["uploads".toList, "temp".toList, "./a//b/../".toList] = "uploads/temp/a/".toList := by
  decide +kernel

/-! ### Splitting -/

variable {path : List Char} {segment : Segment} {stack : List Segment} {other : Segment}
  {more own : List Segment}

theorem segments_no_slash (member : segment ∈ segments path) : '/' ∉ segment :=
  not_mem_of_mem_splitOn member

theorem segments_append_slash (path rest : List Char) :
    segments (path ++ '/' :: rest) = segments path ++ segments rest :=
  List.splitOn_append_cons_self path rest

theorem segments_ne_nil (path : List Char) : segments path ≠ [] := List.splitOn_ne_nil '/' path

theorem segments_of_no_slash (none : '/' ∉ path) : segments path = [path] :=
  List.splitOn_eq_singleton none

def leading (path : List Char) : List Segment := (segments path).dropLast

def lastSegment (path : List Char) : Segment := (segments path).getLastD []

theorem leading_lastSegment (path : List Char) :
    segments path = leading path ++ [lastSegment path] := by
  unfold leading lastSegment
  rw [List.getLastD_eq_getLast?, List.getLast?_eq_some_getLast (segments_ne_nil path), Option.getD_some,
    List.dropLast_concat_getLast]

theorem lastSegment_no_slash (path : List Char) : '/' ∉ lastSegment path := by
  apply segments_no_slash
  rw [leading_lastSegment path]
  exact List.mem_append_right _ (List.mem_singleton.mpr rfl)

/-- A suffix without slashes goes to the last segment. -/
theorem segments_append {suffix : List Char} (plain : '/' ∉ suffix) (path : List Char) :
    segments (path ++ suffix) = leading path ++ [lastSegment path ++ suffix] := by
  induction path with
  | nil => exact segments_of_no_slash plain
  | cons head rest ih =>
      unfold leading lastSegment segments at ih ⊢
      rw [List.cons_append, List.splitOn_cons_eq_if_modifyHead, List.splitOn_cons_eq_if_modifyHead,
        ih]
      cases pieces : rest.splitOn '/' with
      | nil => exact absurd pieces (List.splitOn_ne_nil '/' rest)
      | cons first others =>
          by_cases slash : (head == '/') = true
          · rw [if_pos slash, if_pos slash]
            rfl
          · rw [if_neg slash, if_neg slash]
            cases others with
            | nil => rfl
            | cons second more => rfl

/-! ### Where a path leads -/

theorem push_name (filled : segment ≠ []) (notDot : segment ≠ dot) (notDots : segment ≠ dots)
    (stack : List Segment) : push stack segment = stack ++ [segment] := by
  unfold push
  rw [if_neg (not_or.mpr ⟨filled, notDot⟩), if_neg notDots]

theorem Plain.push (plain : Plain segment) (stack : List Segment) :
    push stack segment = stack ++ [segment] := push_name plain.1 plain.2.1 plain.2.2.1 stack

theorem push_nothing (nothing : segment = [] ∨ segment = dot) (stack : List Segment) :
    push stack segment = stack := if_pos nothing

theorem dots_something : ¬(dots = [] ∨ dots = dot) := by decide

theorem push_dots_stays (none : stack = [] ∨ stack.getLast? = some dots) :
    push stack dots = stack ++ [dots] := by
  unfold push
  rw [if_neg dots_something, if_pos rfl, if_pos none]

theorem push_dots_concat {last : Segment} (different : last ≠ dots) (stack : List Segment) :
    push (stack ++ [last]) dots = stack := by
  have undone : ¬(stack ++ [last] = [] ∨ (stack ++ [last]).getLast? = some dots) := by
    rw [List.getLast?_concat]
    rintro (empty | same)
    · exact List.append_ne_nil_of_right_ne_nil _ (List.cons_ne_nil _ _) empty
    · exact different (Option.some.inj same)
  unfold push
  rw [if_neg dots_something, if_pos rfl, if_neg undone, List.dropLast_concat]

structure Settled (stack : List Segment) : Prop where
  again : stack.foldl push [] = stack
  named : ∀ segment ∈ stack, segment ≠ [] ∧ segment ≠ dot

theorem foldl_push_concat (segment : Segment) (stack base : List Segment) :
    (stack ++ [segment]).foldl push base = push (stack.foldl push base) segment := by
  rw [List.foldl_append]
  rfl

theorem Settled.concat (settled : Settled stack) (named : segment ≠ [] ∧ segment ≠ dot)
    (pushed : push stack segment = stack ++ [segment]) :
    Settled (stack ++ [segment]) := by
  constructor
  · rw [foldl_push_concat, settled.again, pushed]
  · intro other member
    rcases List.mem_append.mp member with before | new
    · exact settled.named other before
    · exact List.mem_singleton.mp new ▸ named

theorem Settled.init {last : Segment} (settled : Settled (stack ++ [last]))
    (different : last ≠ dots) : Settled stack := by
  have named := settled.named last (List.mem_append_right _ (List.mem_singleton.mpr rfl))
  have again := settled.again
  rw [foldl_push_concat, push_name named.1 named.2 different] at again
  exact ⟨List.append_cancel_right again, fun segment member =>
    settled.named segment (List.mem_append_left _ member)⟩

theorem Settled.push (settled : Settled stack) (segment : Segment) :
    Settled (push stack segment) := by
  by_cases nothing : segment = [] ∨ segment = dot
  · rw [push_nothing nothing]
    exact settled
  by_cases upward : segment = dots
  · subst upward
    by_cases stays : stack = [] ∨ stack.getLast? = some dots
    · rw [push_dots_stays stays]
      exact settled.concat (not_or.mp nothing) (push_dots_stays stays)
    · obtain ⟨filled, different⟩ := not_or.mp stays
      obtain ⟨before, last, rfl⟩ := (List.eq_nil_or_concat' stack).resolve_left filled
      rw [List.getLast?_concat] at different
      have other : last ≠ dots := fun same => different (congrArg some same)
      rw [push_dots_concat other]
      exact settled.init other
  · obtain ⟨filled, notDot⟩ := not_or.mp nothing
    rw [push_name filled notDot upward]
    exact settled.concat ⟨filled, notDot⟩ (push_name filled notDot upward stack)

theorem foldl_push_settled {base : List Segment} (settled : Settled base) (more : List Segment) :
    Settled (more.foldl push base) := by
  induction more generalizing base with
  | nil => exact settled
  | cons segment rest ih => exact ih (settled.push segment)

theorem locate_settled (path : List Char) : Settled (locate path) :=
  foldl_push_settled ⟨rfl, fun _ member => absurd member List.not_mem_nil⟩ _

theorem push_mem (member : other ∈ push stack segment) : other ∈ stack ∨ other = segment := by
  unfold push at member
  split at member
  · exact Or.inl member
  · split at member
    · rename_i upward
      split at member
      · rcases List.mem_append.mp member with before | new
        · exact Or.inl before
        · exact Or.inr ((List.mem_singleton.mp new).trans upward.symm)
      · exact Or.inl (List.dropLast_subset _ member)
    · exact (List.mem_append.mp member).imp_right List.mem_singleton.mp

theorem foldl_push_mem {base : List Segment} (member : other ∈ more.foldl push base) :
    other ∈ base ∨ other ∈ more := by
  induction more generalizing base with
  | nil => exact Or.inl member
  | cons segment rest ih =>
      rcases ih member with before | later
      · rcases push_mem before with inBase | rfl
        · exact Or.inl inBase
        · exact Or.inr List.mem_cons_self
      · exact Or.inr (List.mem_cons_of_mem _ later)

theorem locate_no_slash (member : segment ∈ locate path) :
    '/' ∉ segment := by
  rcases foldl_push_mem member with none | stored
  · exact absurd none List.not_mem_nil
  · exact segments_no_slash stored

theorem locate_append_slash (path rest : List Char) :
    locate (path ++ '/' :: rest) = (segments rest).foldl push (locate path) := by
  unfold locate
  rw [segments_append_slash, List.foldl_append]

theorem segments_intercalate {parts : List (List Char)} (filled : parts ≠ []) :
    segments (['/'].intercalate parts) = parts.flatMap segments := by
  induction parts with
  | nil => exact absurd rfl filled
  | cons first rest ih =>
      cases rest with
      | nil => rw [List.intercalate_singleton, List.flatMap_cons, List.flatMap_nil, List.append_nil]
      | cons second more =>
          rw [List.intercalate_cons_cons, List.append_assoc, List.singleton_append,
            segments_append_slash, ih (List.cons_ne_nil _ _)]
          rfl

theorem locate_intercalate (parts : List (List Char)) :
    locate (['/'].intercalate parts) = (parts.flatMap segments).foldl push [] := by
  cases parts with
  | nil => decide +kernel
  | cons first rest =>
      unfold locate
      rw [segments_intercalate (List.cons_ne_nil _ _)]

/-- A normalised path leads where the path leads. -/
theorem locate_normalize (path : List Char) : locate (normalize path) = locate path := by
  have shown : locate (if locate path = [] then dot else ['/'].intercalate (locate path)) =
      locate path := by
    split
    · rename_i nowhere
      rw [nowhere]
      decide +kernel
    · rename_i filled
      have split : segments (['/'].intercalate (locate path)) = locate path :=
        List.splitOn_intercalate '/' (fun segment member => locate_no_slash member) filled
      unfold locate at split ⊢
      rw [split]
      exact (locate_settled path).again
  unfold normalize
  dsimp only
  split
  · rw [locate_append_slash, shown]
    exact push_nothing (Or.inl rfl) _
  · exact shown

theorem foldl_push_filter (parts : List (List Char)) (base : List Segment) :
    ((parts.filter fun part => decide (part ≠ [])).flatMap segments).foldl push base =
      (parts.flatMap segments).foldl push base := by
  induction parts generalizing base with
  | nil => rfl
  | cons part rest ih =>
      rw [List.flatMap_cons, List.foldl_append, List.filter_cons]
      split
      · rw [List.flatMap_cons, List.foldl_append, ih]
      · rename_i dropped
        have empty : part = [] := by simpa using dropped
        have skipped : (segments part).foldl push base = base := by
          rw [empty]
          exact push_nothing (Or.inl rfl) base
        rw [ih, skipped]

/-- A joined path leads where its parts lead, one after another. -/
theorem locate_join (parts : List (List Char)) :
    locate (join parts) = (parts.flatMap segments).foldl push [] := by
  unfold join
  rw [locate_normalize, locate_intercalate, foldl_push_filter]

theorem locate_join_pair (base name : List Char) :
    locate (join [base, name]) = (segments name).foldl push (locate base) := by
  rw [locate_join, List.flatMap_cons, List.flatMap_cons, List.flatMap_nil, List.append_nil,
    List.foldl_append]
  rfl

/-- A plain name joined to a path leads to the place below it. -/
theorem locate_join_plain (base : List Char) {name : Segment} (plain : Plain name) :
    locate (join [base, name]) = locate base ++ [name] := by
  rw [locate_join_pair, segments_of_no_slash plain.2.2.2]
  exact plain.push _

/-- What a push that goes one segment further has pushed. -/
theorem push_eq_longer (base : List Segment) {parent name : Segment} (different : parent ≠ dots)
    (pushed : push (base ++ [parent]) segment = base ++ [other, name]) :
    parent = other ∧ segment = name ∧ segment ≠ [] ∧ segment ≠ dot ∧ segment ≠ dots := by
  by_cases nothing : segment = [] ∨ segment = dot
  · rw [push_nothing nothing] at pushed
    cases List.append_cancel_left pushed
  by_cases upward : segment = dots
  · rw [upward, push_dots_concat different] at pushed
    have lengths := congrArg List.length pushed
    rw [List.length_append] at lengths
    exact absurd lengths (Nat.ne_of_lt (Nat.lt_add_of_pos_right (Nat.succ_pos 1)))
  · obtain ⟨filled, notDot⟩ := not_or.mp nothing
    rw [push_name filled notDot upward, List.append_assoc] at pushed
    cases List.append_cancel_left pushed
    exact ⟨rfl, rfl, filled, notDot, upward⟩

/-! ### Walking below a base -/

/-- One segment from a place below a base; none leaves it. -/
def walkStep (own : List Segment) (segment : Segment) : Option (List Segment) :=
  if segment = [] ∨ segment = dot then some own
  else if segment = dots then
    if own = [] then none else some own.dropLast
  else some (own ++ [segment])

def walk (more : List Segment) (own : List Segment) : Option (List Segment) :=
  more.foldlM walkStep own

def NoDots (own : List Segment) : Prop := ∀ segment ∈ own, segment ≠ dots

theorem noDots_nil : NoDots [] := fun _ member => absurd member List.not_mem_nil

/-- A step that stays inside is a push below any base. -/
theorem walkStep_some {left : List Segment} (noDots : NoDots own)
    (inside : walkStep own segment = some left) (base : List Segment) :
    NoDots left ∧ push (base ++ own) segment = base ++ left := by
  unfold walkStep at inside
  split at inside
  · rename_i nothing
    cases inside
    exact ⟨noDots, push_nothing nothing _⟩
  rename_i something
  obtain ⟨filled, notDot⟩ := not_or.mp something
  split at inside
  · rename_i upward
    split at inside
    · cases inside
    · rename_i below
      cases inside
      obtain ⟨before, last, rfl⟩ := (List.eq_nil_or_concat' own).resolve_left below
      have different := noDots last (List.mem_append_right _ (List.mem_singleton.mpr rfl))
      rw [upward, List.dropLast_concat, ← List.append_assoc, push_dots_concat different]
      exact ⟨fun other member => noDots other (List.mem_append_left _ member), rfl⟩
  · rename_i notDots
    cases inside
    rw [push_name filled notDot notDots, List.append_assoc]
    refine ⟨?_, rfl⟩
    intro other member
    rcases List.mem_append.mp member with before | new
    · exact noDots other before
    · exact List.mem_singleton.mp new ▸ notDots

/-- A step that leaves forgets the last segment of the base. -/
theorem walkStep_none (leaves : walkStep own segment = none) : segment = dots ∧ own = [] := by
  unfold walkStep at leaves
  split at leaves
  · cases leaves
  · split at leaves
    · rename_i upward
      split at leaves
      · rename_i empty
        exact ⟨upward, empty⟩
      · cases leaves
    · cases leaves

theorem walk_some {left : List Segment} (noDots : NoDots own) (inside : walk more own = some left)
    (base : List Segment) :
    more.foldl push (base ++ own) = base ++ left := by
  induction more generalizing own with
  | nil =>
      cases inside
      rfl
  | cons segment rest ih =>
      unfold walk at inside
      rw [List.foldlM_cons] at inside
      obtain ⟨next, stepped, later⟩ := Option.bind_eq_some_iff.mp inside
      obtain ⟨kept, pushed⟩ := walkStep_some noDots stepped base
      rw [List.foldl_cons, pushed]
      exact ih kept later

/-- Two bases that differ in their last segment lead to the same place. -/
theorem walk_none (noDots : NoDots own) (leaves : walk more own = none) (base : List Segment)
    {one : Segment} (first : one ≠ dots) (second : other ≠ dots) :
    more.foldl push (base ++ [one] ++ own) = more.foldl push (base ++ [other] ++ own) := by
  induction more generalizing own with
  | nil => cases leaves
  | cons segment rest ih =>
      unfold walk at leaves
      rw [List.foldlM_cons] at leaves
      rw [List.foldl_cons, List.foldl_cons]
      cases stepped : walkStep own segment with
      | none =>
          obtain ⟨rfl, rfl⟩ := walkStep_none stepped
          rw [List.append_nil, List.append_nil, push_dots_concat first, push_dots_concat second]
      | some next =>
          rw [stepped] at leaves
          obtain ⟨kept, pushed⟩ := walkStep_some noDots stepped (base ++ [one])
          obtain ⟨_, pushedOther⟩ := walkStep_some noDots stepped (base ++ [other])
          rw [pushed, pushedOther]
          exact ih kept leaves

end AudioBlock.Foundation.Paths
