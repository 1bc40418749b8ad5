/-
Rows that are read in the order of a stored position, and numbered anew.
-/
import AudioBlock.Foundation.Rows
import Mathlib.Data.List.Perm.Basic

namespace AudioBlock.Foundation

universe u v

variable {Row : Type u} {Key : Type v} [DecidableEq Key]

/-- What a query in the order of `position` may answer; ties come in any order. -/
def OrderedRead (position : Row → Nat) (rows read : List Row) : Prop :=
  read.Perm rows ∧ read.Pairwise fun earlier later => position earlier ≤ position later

instance [DecidableEq Row] (position : Row → Nat) (rows read : List Row) :
    Decidable (OrderedRead position rows read) :=
  inferInstanceAs (Decidable (_ ∧ _))

theorem nodup_append_one {View : Type v} {views : List View} {view : View} (distinct : views.Nodup)
    (fresh : view ∉ views) : (views ++ [view]).Nodup := by
  rw [← List.concat_eq_append]
  exact List.Nodup.concat fresh distinct

/-- Distinct positions leave one order. -/
theorem OrderedRead.unique {position : Row → Nat} {rows one other : List Row}
    (distinct : (rows.map position).Nodup) (first : OrderedRead position rows one)
    (second : OrderedRead position rows other) : one = other := by
  obtain ⟨perm, ascending⟩ := first
  obtain ⟨perm', ascending'⟩ := second
  refine List.Perm.eq_of_pairwise ?_ ascending ascending' (perm.trans perm'.symm)
  intro left right inOne inOther forwards backwards
  exact List.inj_on_of_nodup_map distinct (perm.subset inOne) (perm'.subset inOther)
    (Nat.le_antisymm forwards backwards)

/-- The rows with their indices as positions. -/
def numbered (place : Row → Nat → Row) (rows : List Row) : List Row :=
  rows.zipIdx.map fun numberedRow => place numberedRow.1 numberedRow.2

variable {place : Row → Nat → Row} {position : Row → Nat}

theorem numbered_positions (placed : ∀ row index, position (place row index) = index)
    (rows : List Row) : (numbered place rows).map position = List.range rows.length := by
  unfold numbered
  rw [List.map_map, List.range_eq_range', ← List.zipIdx_map_snd 0 rows]
  exact List.map_congr_left fun numberedRow _ => placed _ _

theorem numbered_view {View : Type v} {view : Row → View}
    (kept : ∀ row index, view (place row index) = view row) (rows : List Row) :
    (numbered place rows).map view = rows.map view := by
  unfold numbered
  rw [List.map_map]
  conv_rhs => rw [← List.zipIdx_map_fst 0 rows, List.map_map]
  exact List.map_congr_left fun numberedRow _ => kept _ _

theorem numbered_eq_map [DecidableEq Row] {rows : List Row} (distinct : rows.Nodup) :
    numbered place rows = rows.map fun row => place row (rows.idxOf row) := by
  unfold numbered
  apply List.ext_getElem
  · rw [List.length_map, List.length_zipIdx, List.length_map]
  · intro index inNumbered inRows
    rw [List.getElem_map, List.getElem_map, List.getElem_zipIdx, distinct.idxOf_getElem,
      Nat.zero_add]

/-- The order of numbered rows is the one in which they were numbered. -/
theorem numbered_read (placed : ∀ row index, position (place row index) = index) {rows read saved : List Row}
    (asked : OrderedRead position saved read) (same : saved.Perm (numbered place rows)) :
    read = numbered place rows := by
  have positions := numbered_positions placed rows
  have distinct : ((numbered place rows).map position).Nodup := positions ▸ List.nodup_range
  have distinctSaved : (saved.map position).Nodup := (same.map position).nodup_iff.2 distinct
  refine asked.unique distinctSaved ⟨same.symm, List.pairwise_map.1 ?_⟩
  rw [positions]
  exact List.pairwise_le_range

variable (key : Row → Key)

/-- Numbering the rows that a query answers, and saving them one after another. -/
theorem foldl_saveRow_numbered [DecidableEq Row] (keeps : ∀ row index, key (place row index) = key row)
    {table rows : List Row} {chosen : Row → Bool} (distinct : (table.map key).Nodup)
    (same : rows.Perm (table.filter chosen)) :
    (numbered place rows).foldl (fun saved row => saveRow key row saved) table =
      table.map fun row => if chosen row then place row (rows.idxOf row) else row := by
  have keys : (rows.map key).Nodup :=
    (same.map key).nodup_iff.2 (distinct.sublist (List.filter_sublist.map key))
  have present : ∀ row ∈ rows, row ∈ table := fun row member =>
    List.mem_of_mem_filter (same.subset member)
  rw [numbered_eq_map (List.Nodup.of_map key keys), List.foldl_map,
    foldl_saveRow_mem (fun row => place row (rows.idxOf row)) (fun row => keeps row _) rows table
      distinct keys present]
  apply List.map_congr_left
  intro row member
  by_cases isChosen : chosen row = true
  · rw [if_pos (same.symm.subset (List.mem_filter.2 ⟨member, isChosen⟩)), if_pos isChosen]
  · rw [if_neg fun named => isChosen (List.mem_filter.1 (same.subset named)).2, if_neg isChosen]

end AudioBlock.Foundation
