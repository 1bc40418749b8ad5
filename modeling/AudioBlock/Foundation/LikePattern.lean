/-
The patterns of `LIKE`: `%` stands for any text, `_` for any character, and a backslash
takes the character after it as itself.  `ILIKE` folds the case of both sides first.

A query that is put between two `%` finds the texts that contain it exactly if it has none
of the three characters.
-/
import Mathlib.Data.List.Infix

namespace AudioBlock.Foundation

def Wild (char : Char) : Prop := char = '%' ∨ char = '_' ∨ char = '\\'

instance : DecidablePred Wild := fun _ => inferInstanceAs (Decidable (_ ∨ _ ∨ _))

def Plain (query : List Char) : Prop := ∀ char ∈ query, ¬Wild char

instance (query : List Char) : Decidable (Plain query) :=
  List.decidableBAll (fun char => ¬Wild char) query

def follows (first : Char → Bool) (rest : List Char → Bool) : List Char → Bool
  | [] => false
  | char :: text => first char && rest text

/-- A pattern that ends in its escape character, which a database may reject, matches
nothing. -/
def like : List Char → List Char → Bool
  | [], text => text.isEmpty
  | '%' :: pattern, text => text.tails.any (like pattern)
  | '_' :: pattern, text => follows (fun _ => true) (like pattern) text
  | '\\' :: char :: pattern, text => follows (· == char) (like pattern) text
  | ['\\'], _ => false
  | char :: pattern, text => follows (· == char) (like pattern) text

/-- A folding of case character by character, which leaves the wildcards alone. -/
structure CaseFold where
  lower : Char → Char
  wild : ∀ char, Wild char ∨ Wild (lower char) → lower char = char

def CaseFold.fold (folding : CaseFold) (text : List Char) : List Char := text.map folding.lower

def CaseFold.ilike (folding : CaseFold) (text pattern : List Char) : Bool :=
  like (folding.fold pattern) (folding.fold text)

def anywhere (query : List Char) : List Char := '%' :: (query ++ ['%'])

theorem follows_iff {first : Char → Bool} {rest : List Char → Bool} {text : List Char} :
    follows first rest text = true ↔
      ∃ char tail, text = char :: tail ∧ first char = true ∧ rest tail = true := by
  cases text with
  | nil => simp [follows]
  | cons char tail => simp [follows]

theorem like_percent {pattern text : List Char} :
    like ('%' :: pattern) text = true ↔ ∃ rest, rest <:+ text ∧ like pattern rest = true := by
  simp [like, List.any_eq_true]

theorem like_cons {char : Char} {pattern text : List Char} (plain : ¬Wild char) :
    like (char :: pattern) text = true ↔
      ∃ rest, text = char :: rest ∧ like pattern rest = true := by
  have taken : like (char :: pattern) text = follows (· == char) (like pattern) text := by
    unfold like
    split
    · next same => cases same
    · next same => exact absurd (Or.inl (List.cons.inj same).1) plain
    · next same => exact absurd (Or.inr (Or.inl (List.cons.inj same).1)) plain
    · next same => exact absurd (Or.inr (Or.inr (List.cons.inj same).1)) plain
    · next same => exact absurd (Or.inr (Or.inr (List.cons.inj same).1)) plain
    · next same =>
        obtain ⟨rfl, rfl⟩ := List.cons.inj same
        rfl
  rw [taken, follows_iff]
  simp

theorem like_plain {query : List Char} (plain : Plain query) {pattern text : List Char} :
    like (query ++ pattern) text = true ↔
      ∃ rest, text = query ++ rest ∧ like pattern rest = true := by
  induction query generalizing text with
  | nil => simp
  | cons char query ih =>
      rw [List.cons_append, like_cons (plain char List.mem_cons_self)]
      have tail := @ih (fun other member => plain other (List.mem_cons_of_mem char member))
      simp [tail]

theorem like_any {text : List Char} : like ['%'] text = true :=
  like_percent.mpr ⟨[], List.nil_suffix, rfl⟩

namespace CaseFold

variable (folding : CaseFold) {query text : List Char}

theorem lower_percent : folding.lower '%' = '%' := folding.wild '%' (Or.inl (Or.inl rfl))

theorem fold_plain (plain : Plain query) : Plain (folding.fold query) := by
  intro char member wild
  obtain ⟨source, present, rfl⟩ := List.mem_map.mp member
  have kept := folding.wild source (Or.inr wild)
  exact plain source present (kept ▸ wild)

theorem fold_anywhere : folding.fold (anywhere query) = anywhere (folding.fold query) := by
  simp [fold, anywhere, folding.lower_percent]

/-! ### Queries without a wildcard -/

theorem ilike_exact (plain : Plain query) :
    folding.ilike text query = true ↔ folding.fold text = folding.fold query := by
  have whole := @like_plain _ (folding.fold_plain plain) [] (folding.fold text)
  rw [List.append_nil] at whole
  unfold ilike
  rw [whole]
  simp [like]

theorem ilike_begins (plain : Plain query) :
    folding.ilike text (query ++ ['%']) = true ↔ folding.fold query <+: folding.fold text := by
  have folded : folding.fold (query ++ ['%']) = folding.fold query ++ ['%'] := by
    simp [fold, folding.lower_percent]
  unfold ilike
  rw [folded, like_plain (folding.fold_plain plain)]
  constructor
  · intro ⟨rest, same, _⟩
    exact ⟨rest, same.symm⟩
  · intro ⟨rest, same⟩
    exact ⟨rest, same.symm, like_any⟩

theorem ilike_anywhere (plain : Plain query) :
    folding.ilike text (anywhere query) = true ↔ folding.fold query <:+: folding.fold text := by
  unfold ilike
  rw [fold_anywhere, anywhere, like_percent]
  constructor
  · intro ⟨rest, ends, found⟩
    obtain ⟨after, rfl, _⟩ := (like_plain (folding.fold_plain plain)).mp found
    exact (List.prefix_append _ _).isInfix.trans ends.isInfix
  · intro ⟨before, after, same⟩
    refine ⟨folding.fold query ++ after, ⟨before, by simpa using same⟩, ?_⟩
    exact (like_plain (folding.fold_plain plain)).mpr ⟨after, rfl, like_any⟩

end CaseFold

/-! ### Queries with a wildcard -/

/-- A text that the query finds as a pattern. -/
def sample : List Char → List Char
  | [] => []
  | '%' :: query => sample query
  | '_' :: query => 'a' :: sample query
  | '\\' :: char :: query => char :: sample query
  | ['\\'] => ['%']
  | char :: query => char :: sample query

theorem not_wild {char : Char} {query : List Char} (notPercent : char = '%' → False)
    (notAny : char = '_' → False)
    (escaped : ∀ next rest, char = '\\' → query = next :: rest → False)
    (notEscape : char = '\\' → query = [] → False) : ¬Wild char := by
  intro wild
  rcases wild with percent | any | escape
  · exact notPercent percent
  · exact notAny any
  · cases query with
    | nil => exact notEscape escape rfl
    | cons next rest => exact escaped next rest escape rfl

theorem sample_length (query : List Char) : (sample query).length ≤ query.length := by
  fun_induction sample query <;> simp_all <;> omega

namespace CaseFold

variable (folding : CaseFold) {query : List Char}

theorem like_sample (query : List Char) :
    like (folding.fold query ++ ['%']) (folding.fold (sample query)) = true := by
  have kept : ∀ char, Wild char → folding.lower char = char := fun char wild =>
    folding.wild char (Or.inl wild)
  fun_induction sample query with
  | case1 => exact like_any
  | case2 query ih =>
      simp only [fold, List.map_cons, List.cons_append, folding.lower_percent] at ih ⊢
      exact like_percent.mpr ⟨_, List.suffix_rfl, ih⟩
  | case3 query ih =>
      simp [fold, kept '_' (Or.inr (Or.inl rfl)), like, follows] at ih ⊢
      exact ih
  | case4 char query ih =>
      simp [fold, kept '\\' (Or.inr (Or.inr rfl)), like, follows] at ih ⊢
      exact ih
  | case5 =>
      simp [fold, kept '\\' (Or.inr (Or.inr rfl)), folding.lower_percent, like, follows]
  | case6 char query notPercent notAny escaped notEscape ih =>
      have plain : ¬Wild (folding.lower char) := by
        intro wild
        rw [folding.wild char (Or.inr wild)] at wild
        exact not_wild notPercent notAny escaped notEscape wild
      exact (like_cons plain).mpr ⟨_, rfl, ih⟩

theorem sample_differs (differs : ¬Plain query) :
    folding.fold (sample query) ≠ folding.fold query := by
  intro same
  fun_induction sample query with
  | case1 => exact differs (by simp [Plain])
  | case2 query ih =>
      have shorter := congrArg List.length same
      have bound := sample_length query
      simp [fold] at shorter
      omega
  | case3 query ih =>
      have letter := (List.cons.inj same).1
      rw [folding.wild '_' (Or.inl (Or.inr (Or.inl rfl)))] at letter
      have kept := folding.wild 'a' (Or.inr (Or.inr (Or.inl letter)))
      rw [letter] at kept
      exact absurd kept (by decide)
  | case4 char query ih =>
      have shorter := congrArg List.length same
      have bound := sample_length query
      simp [fold] at shorter
      omega
  | case5 =>
      have letter := (List.cons.inj same).1
      rw [folding.lower_percent, folding.wild '\\' (Or.inl (Or.inr (Or.inr rfl)))] at letter
      exact absurd letter (by decide)
  | case6 char query notPercent notAny escaped notEscape ih =>
      refine ih ?_ (List.cons.inj same).2
      intro rest
      refine differs ?_
      intro other member
      cases member with
      | head => exact not_wild notPercent notAny escaped notEscape
      | tail _ member => exact rest other member

/-- The pattern is the search that it is meant to be for the queries without a wildcard. -/
theorem ilike_contains_iff :
    (∀ text, folding.ilike text (anywhere query) = true ↔
      folding.fold query <:+: folding.fold text) ↔ Plain query := by
  constructor
  · intro contains
    by_contra differs
    have found : folding.ilike (sample query) (anywhere query) = true := by
      unfold ilike
      rw [fold_anywhere]
      exact like_percent.mpr ⟨_, List.suffix_rfl, folding.like_sample query⟩
    have short : (folding.fold (sample query)).length ≤ (folding.fold query).length := by
      simpa [fold] using sample_length query
    exact folding.sample_differs differs (((contains _).mp found).eq_of_length_le short).symm
  · intro plain text
    exact folding.ilike_anywhere plain

end CaseFold

end AudioBlock.Foundation
