/-
Rows with the newest ones first, as a stable sort gives them, and the first of them.
-/
import Mathlib.Data.List.Basic

namespace AudioBlock.Foundation

universe u v

variable {Row : Type u} (date : Row → Int)

def byDate (rows : List Row) : List Row :=
  rows.mergeSort fun one other => decide (date other ≤ date one)

def newest (rows : List Row) : Option Row := (byDate date rows).head?

variable {date}

/-! ### The sorted rows -/

theorem dated_trans (one two three : Row) (first : decide (date two ≤ date one) = true)
    (second : decide (date three ≤ date two) = true) : decide (date three ≤ date one) = true :=
  decide_eq_true (Int.le_trans (of_decide_eq_true second) (of_decide_eq_true first))

theorem dated_total (one two : Row) :
    (decide (date two ≤ date one) || decide (date one ≤ date two)) = true := by
  rcases Int.le_total (date two) (date one) with order | order
  · rw [decide_eq_true order, Bool.true_or]
  · rw [decide_eq_true order, Bool.or_true]

theorem byDate_nil : byDate date [] = [] := List.mergeSort_nil

theorem byDate_nodup {rows : List Row} (distinct : rows.Nodup) : (byDate date rows).Nodup :=
  (List.mergeSort_perm rows _).nodup_iff.2 distinct

/-- A row comes right before the first one that is not younger. -/
theorem byDate_split (first : Row) (rest : List Row) :
    ∃ before after, byDate date (first :: rest) = before ++ first :: after ∧
      byDate date rest = before ++ after ∧
        (∀ row ∈ before, date first < date row) ∧ ∀ row ∈ after, date row ≤ date first := by
  obtain ⟨before, after, sorted, others, newer⟩ :=
    List.mergeSort_cons (@dated_trans Row date) dated_total first rest
  have ordered := List.pairwise_mergeSort (@dated_trans Row date) dated_total (first :: rest)
  rw [sorted] at ordered
  refine ⟨before, after, sorted, others, ?_, ?_⟩
  · intro row member
    apply Int.not_le.1
    intro older
    have refuted := newer row member
    rw [decide_eq_true older] at refuted
    cases refuted
  · intro row member
    exact of_decide_eq_true (List.rel_of_pairwise_cons (List.pairwise_append.1 ordered).2.1 member)

theorem byDate_cons (first : Row) (rest : List Row) :
    byDate date (first :: rest) =
      (byDate date rest).filter (fun row => decide (date first < date row)) ++
        first :: (byDate date rest).filter (fun row => decide (date row ≤ date first)) := by
  obtain ⟨before, after, sorted, others, younger, older⟩ := @byDate_split Row date first rest
  have front : ∀ row ∈ before, decide (date first < date row) = true :=
    fun row member => decide_eq_true (younger row member)
  have back : ∀ row ∈ after, decide (date row ≤ date first) = true :=
    fun row member => decide_eq_true (older row member)
  have notFront : ∀ row ∈ after, ¬decide (date first < date row) = true :=
    fun row member later => Int.not_le.2 (of_decide_eq_true later) (older row member)
  have notBack : ∀ row ∈ before, ¬decide (date row ≤ date first) = true :=
    fun row member earlier => Int.not_le.2 (younger row member) (of_decide_eq_true earlier)
  rw [sorted, others, List.filter_append, List.filter_append, List.filter_eq_self.2 front,
    List.filter_eq_nil_iff.2 notFront, List.filter_eq_nil_iff.2 notBack,
    List.filter_eq_self.2 back, List.append_nil, List.nil_append]

/-- Rows that are left out do not change the order of the others. -/
theorem byDate_filter (keep : Row → Bool) (rows : List Row) :
    byDate date (rows.filter keep) = (byDate date rows).filter keep := by
  induction rows with
  | nil => rw [List.filter_nil, byDate_nil, List.filter_nil]
  | cons first rest ih =>
      by_cases kept : keep first = true
      · rw [List.filter_cons_of_pos kept, byDate_cons, byDate_cons, ih, List.filter_append,
          List.filter_cons_of_pos kept, List.filter_comm _ keep, List.filter_comm _ keep]
      · obtain ⟨before, after, sorted, others, _, _⟩ := @byDate_split Row date first rest
        rw [List.filter_cons_of_neg kept, ih, sorted, others, List.filter_append,
          List.filter_append, List.filter_cons_of_neg kept]

/-- A change that keeps the dates keeps the order. -/
theorem byDate_map {rows : List Row} (change : Row → Row)
    (dated : ∀ row ∈ rows, date (change row) = date row) :
    byDate date (rows.map change) = (byDate date rows).map change := by
  unfold byDate
  rw [← List.map_mergeSort]
  intro one inOne other inOther
  rw [dated one inOne, dated other inOther]

/-! ### The newest row -/

theorem newest_nil : newest date [] = none := by
  unfold newest
  rw [byDate_nil]
  rfl

theorem newest_cons (first : Row) (rest : List Row) :
    newest date (first :: rest) =
      some (match newest date rest with
        | none => first
        | some later => if date later ≤ date first then first else later) := by
  obtain ⟨before, after, sorted, others, younger, older⟩ := @byDate_split Row date first rest
  unfold newest
  rw [sorted, others]
  cases before with
  | nil =>
      cases after with
      | nil => rfl
      | cons second more => exact congrArg some (if_pos (older second List.mem_cons_self)).symm
  | cons second more =>
      have later := younger second List.mem_cons_self
      exact congrArg some (if_neg (Int.not_le.2 later)).symm

/-- The newest row stays the newest one when others are left out. -/
theorem newest_filter {rows : List Row} {row : Row} (keep : Row → Bool)
    (found : newest date rows = some row) (kept : keep row = true) :
    newest date (rows.filter keep) = some row := by
  unfold newest at found ⊢
  obtain ⟨others, sorted⟩ := List.head?_eq_some_iff.1 found
  rw [byDate_filter, sorted, List.filter_cons_of_pos kept]
  rfl

theorem newest_map {rows : List Row} (change : Row → Row)
    (dated : ∀ row ∈ rows, date (change row) = date row) :
    newest date (rows.map change) = (newest date rows).map change := by
  unfold newest
  rw [byDate_map change dated, List.head?_map]

end AudioBlock.Foundation
