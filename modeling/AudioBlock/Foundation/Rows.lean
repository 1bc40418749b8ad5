/-
A table as a list of rows with a key.

Saving a row replaces the rows of its key and leaves the order, or stores it as a new
one; a row is found and removed by its key.  With distinct keys the row found is the
row, and saving an update of each chosen row, one after another, updates exactly those.
-/
import Mathlib.Data.List.Nodup

namespace AudioBlock.Foundation

universe u v

variable {Row : Type u} {Key : Type v} [DecidableEq Key] (key : Row → Key)

def saveRow (saved : Row) (rows : List Row) : List Row :=
  rows.map fun row => if key row = key saved then saved else row

def storeRow (saved : Row) (rows : List Row) : List Row :=
  if key saved ∈ rows.map key then saveRow key saved rows else rows ++ [saved]

def removeRow (sought : Key) (rows : List Row) : List Row :=
  rows.filter fun row => decide (key row ≠ sought)

def findRow (sought : Key) (rows : List Row) : Option Row :=
  rows.find? fun row => decide (key row = sought)

variable {key} {rows : List Row} {sought : Key}

theorem saveRow_key (saved row : Row) :
    key (if key row = key saved then saved else row) = key row := by
  by_cases same : key row = key saved
  · rw [if_pos same, same]
  · rw [if_neg same]

theorem saveRow_keys (saved : Row) (rows : List Row) :
    (saveRow key saved rows).map key = rows.map key := by
  unfold saveRow
  rw [List.map_map]
  exact List.map_congr_left fun row _ => saveRow_key saved row

variable {saved row : Row}

theorem mem_saveRow (member : row ∈ saveRow key saved rows) :
    row = saved ∨ row ∈ rows ∧ key row ≠ key saved := by
  obtain ⟨before, present, same⟩ := List.mem_map.mp member
  split at same
  · exact Or.inl same.symm
  · rename_i different
    exact Or.inr (same ▸ ⟨present, different⟩)

theorem saveRow_mem (named : key saved ∈ rows.map key) :
    saved ∈ saveRow key saved rows := by
  obtain ⟨row, present, same⟩ := List.mem_map.mp named
  exact List.mem_map.mpr ⟨row, present, if_pos same⟩

theorem saveRow_mem_other (member : row ∈ rows) (different : key row ≠ key saved) :
    row ∈ saveRow key saved rows :=
  List.mem_map.mpr ⟨row, member, if_neg different⟩

/-- A view that the saved row shares with the rows that it replaces stays as it is. -/
theorem saveRow_filterMap {View : Type v} (view : Row → Option View)
    (same : ∀ row ∈ rows, key row = key saved → view saved = view row) :
    (saveRow key saved rows).filterMap view = rows.filterMap view := by
  unfold saveRow
  rw [List.filterMap_map]
  apply List.filterMap_congr
  intro row member
  change view (if key row = key saved then saved else row) = view row
  split
  · rename_i replaced
    exact same row member replaced
  · rfl

theorem saveRow_absent (absent : key saved ∉ rows.map key) :
    saveRow key saved rows = rows := by
  have kept : ∀ row ∈ rows, (if key row = key saved then saved else row) = id row := by
    intro row member
    apply if_neg
    intro same
    exact absent (same ▸ List.mem_map_of_mem member)
  unfold saveRow
  rw [List.map_congr_left kept, List.map_id]

/-- Of two saves of one key the second one counts. -/
theorem saveRow_again (rows : List Row) (first second : Row) (same : key second = key first) :
    saveRow key second (saveRow key first rows) = saveRow key second rows := by
  unfold saveRow
  rw [List.map_map]
  apply List.map_congr_left
  intro row _
  rw [Function.comp_apply]
  by_cases own : key row = key first
  · rw [if_pos own, if_pos same.symm, if_pos (own.trans same.symm)]
  · rw [if_neg own]

/-- With distinct keys a row saved over itself changes nothing. -/
theorem saveRow_own (distinct : (rows.map key).Nodup) (member : saved ∈ rows) :
    saveRow key saved rows = rows := by
  have kept : ∀ row ∈ rows, (if key row = key saved then saved else row) = row := by
    intro row present
    split
    · rename_i same
      exact List.inj_on_of_nodup_map distinct member present same.symm
    · rfl
  unfold saveRow
  rw [List.map_congr_left kept, List.map_id']

theorem mem_storeRow (member : row ∈ storeRow key saved rows) :
    row = saved ∨ row ∈ rows := by
  unfold storeRow at member
  split at member
  · exact (mem_saveRow member).imp_right And.left
  · exact (List.mem_append.mp member).symm.imp_left List.mem_singleton.mp

/-- A stored row is the saved one, or a row of another key. -/
theorem mem_storeRow_cases (member : row ∈ storeRow key saved rows) :
    row = saved ∨ row ∈ rows ∧ key row ≠ key saved := by
  unfold storeRow at member
  split at member
  · exact mem_saveRow member
  · rename_i absent
    cases List.mem_append.mp member with
    | inl earlier =>
        exact Or.inr ⟨earlier, fun same => absent (same ▸ List.mem_map_of_mem earlier)⟩
    | inr own => exact Or.inl (List.mem_singleton.mp own)

theorem storeRow_mem (saved : Row) (rows : List Row) : saved ∈ storeRow key saved rows := by
  unfold storeRow
  split
  · rename_i named
    exact saveRow_mem named
  · exact List.mem_append_right _ (List.mem_singleton_self saved)

theorem storeRow_nodup (distinct : (rows.map key).Nodup) :
    ((storeRow key saved rows).map key).Nodup := by
  unfold storeRow
  split
  · rw [saveRow_keys]
    exact distinct
  · rename_i absent
    rw [List.map_append]
    apply distinct.append (List.nodup_singleton _)
    intro stored member single
    exact absent (List.mem_singleton.mp single ▸ member)

theorem findRow_mem (found : findRow key sought rows = some row) :
    row ∈ rows ∧ key row = sought := by
  have chosen := List.find?_some found
  exact ⟨List.mem_of_find?_eq_some found, of_decide_eq_true chosen⟩

theorem findRow_eq_none (absent : findRow key sought rows = none) :
    sought ∉ rows.map key := by
  intro member
  obtain ⟨row, present, same⟩ := List.mem_map.mp member
  exact List.find?_eq_none.mp absent row present (decide_eq_true same)

/-- With distinct keys a row is the one its key finds. -/
theorem findRow_of_mem (distinct : (rows.map key).Nodup) (member : row ∈ rows) :
    findRow key (key row) rows = some row := by
  cases found : findRow key (key row) rows with
  | none => exact absurd (List.mem_map_of_mem member) (findRow_eq_none found)
  | some other =>
      obtain ⟨present, same⟩ := findRow_mem found
      rw [List.inj_on_of_nodup_map distinct present member same]

/-- With distinct keys a choice among the rows chooses among those that are found. -/
theorem findRow_filter (distinct : (rows.map key).Nodup) (keep : Row → Bool) :
    findRow key sought (rows.filter keep) = (findRow key sought rows).filter keep := by
  have distinctKept : ((rows.filter keep).map key).Nodup :=
    distinct.sublist (List.filter_sublist.map key)
  cases found : findRow key sought rows with
  | none =>
      apply List.find?_eq_none.mpr
      intro row member
      exact List.find?_eq_none.mp found row (List.mem_filter.mp member).1
  | some row =>
      obtain ⟨present, named⟩ := findRow_mem found
      by_cases kept : keep row = true
      · rw [Option.filter_some, if_pos kept, ← named]
        exact findRow_of_mem distinctKept (List.mem_filter.mpr ⟨present, kept⟩)
      · rw [Option.filter_some, if_neg kept]
        cases other : findRow key sought (rows.filter keep) with
        | none => rfl
        | some second =>
            obtain ⟨secondPresent, secondNamed⟩ := findRow_mem other
            obtain ⟨inRows, secondKept⟩ := List.mem_filter.mp secondPresent
            have same := List.inj_on_of_nodup_map distinct inRows present (secondNamed.trans named.symm)
            exact absurd (same ▸ secondKept) kept

theorem findRow_map (change : Row → Row) (keeps : ∀ row, key (change row) = key row)
    (rows : List Row) :
    findRow key sought (rows.map change) = (findRow key sought rows).map change := by
  unfold findRow
  rw [List.find?_map]
  have same : (fun row => decide (key row = sought)) ∘ change =
      fun row => decide (key row = sought) := by
    funext row
    exact congrArg (fun found => decide (found = sought)) (keeps row)
  rw [same]

theorem findRow_saveRow (saved : Row) (rows : List Row) :
    findRow key sought (saveRow key saved rows) =
      (findRow key sought rows).map fun row => if key row = key saved then saved else row :=
  findRow_map _ (saveRow_key saved) rows

/-- A row saved over the one that is found, or over another. -/
theorem findRow_saveRow_found (found : findRow key sought rows = some row) (saved : Row) :
    findRow key sought (saveRow key saved rows) = some (if sought = key saved then saved else row) := by
  rw [findRow_saveRow, found, Option.map_some, (findRow_mem found).2]

theorem findRow_saveRow_same (found : findRow key sought rows = some row) (saved : Row)
    (same : key saved = key row) : findRow key sought (saveRow key saved rows) = some saved := by
  rw [findRow_saveRow_found found]
  exact congrArg some (if_pos ((findRow_mem found).2.symm.trans same.symm))

theorem findRow_saveRow_other (rows : List Row) (different : sought ≠ key saved) :
    findRow key sought (saveRow key saved rows) = findRow key sought rows := by
  rw [findRow_saveRow]
  cases found : findRow key sought rows with
  | none => rfl
  | some row =>
      have named := (findRow_mem found).2
      rw [Option.map_some, if_neg (named ▸ different)]

theorem findRow_isSome (member : sought ∈ rows.map key) :
    ∃ row, findRow key sought rows = some row := by
  cases found : findRow key sought rows with
  | none => exact absurd member (findRow_eq_none found)
  | some row => exact ⟨row, rfl⟩

theorem findRow_append (saved : Row) (rows : List Row) :
    findRow key sought (rows ++ [saved]) =
      (findRow key sought rows).or (if key saved = sought then some saved else none) := by
  unfold findRow
  rw [List.find?_append, List.find?_singleton]
  simp only [decide_eq_true_eq]

theorem findRow_storeRow (saved : Row) (rows : List Row) :
    findRow key (key saved) (storeRow key saved rows) = some saved := by
  unfold storeRow
  by_cases member : key saved ∈ rows.map key
  · obtain ⟨row, found⟩ := findRow_isSome member
    rw [if_pos member, findRow_saveRow_found found, if_pos rfl]
  · have absent : findRow key (key saved) rows = none := by
      cases found : findRow key (key saved) rows with
      | none => rfl
      | some row =>
          obtain ⟨present, same⟩ := findRow_mem found
          exact absurd (same ▸ List.mem_map_of_mem present) member
    rw [if_neg member, findRow_append, absent, if_pos rfl]
    rfl

theorem findRow_storeRow_other (rows : List Row) (different : sought ≠ key saved) :
    findRow key sought (storeRow key saved rows) = findRow key sought rows := by
  unfold storeRow
  split
  · exact findRow_saveRow_other rows different
  · rw [findRow_append, if_neg different.symm, Option.or_none]

theorem findRow_removeRow_other {removed : Key} (rows : List Row) (different : sought ≠ removed) :
    findRow key sought (removeRow key removed rows) = findRow key sought rows := by
  unfold findRow removeRow
  rw [List.find?_filter]
  congr 1
  funext row
  by_cases same : key row = sought
  · simp [same, different]
  · simp [same]

theorem findRow_removeRow_own (removed : Key) (rows : List Row) :
    findRow key removed (removeRow key removed rows) = none := by
  cases found : findRow key removed (removeRow key removed rows) with
  | none => rfl
  | some row =>
      obtain ⟨present, same⟩ := findRow_mem found
      exact absurd same (of_decide_eq_true (List.mem_filter.mp present).2)

/-- Looking up each key of a list finds rows of these keys. -/
theorem findRow_each {keys : List Key} (known : ∀ sought ∈ keys, sought ∈ rows.map key) :
    (keys.filterMap fun sought => findRow key sought rows).map key = keys := by
  induction keys with
  | nil => rfl
  | cons first rest ih =>
      obtain ⟨row, found⟩ := findRow_isSome (known first List.mem_cons_self)
      have later := ih fun sought member => known sought (List.mem_cons_of_mem _ member)
      rw [List.filterMap_cons, found]
      dsimp only
      rw [List.map_cons, later]
      exact congrArg (· :: rest) (findRow_mem found).2

/-- Of some rows saved one after another, a key finds one of its own, or what it found before. -/
theorem findRow_foldl_saveRow (key : Row → Key) (saved rows : List Row) (sought : Key) :
    (∀ row ∈ saved, key row ≠ sought) ∧
        findRow key sought (saved.foldl (fun table row => saveRow key row table) rows) =
          findRow key sought rows ∨
      ∃ row ∈ saved, key row = sought ∧
        findRow key sought (saved.foldl (fun table row => saveRow key row table) rows) =
          (findRow key sought rows).map fun _ => row := by
  induction saved generalizing rows with
  | nil => exact Or.inl ⟨fun row member => absurd member List.not_mem_nil, rfl⟩
  | cons first rest ih =>
      rw [List.foldl_cons]
      by_cases own : key first = sought
      · have now : findRow key sought (saveRow key first rows) =
            (findRow key sought rows).map fun _ => first := by
          rw [findRow_saveRow]
          cases found : findRow key sought rows with
          | none => rfl
          | some row => exact congrArg some (if_pos ((findRow_mem found).2.trans own.symm))
        rcases ih (saveRow key first rows) with ⟨_, same⟩ | ⟨row, member, named, last⟩
        · exact Or.inr ⟨first, List.mem_cons_self, own, same.trans now⟩
        · refine Or.inr ⟨row, List.mem_cons_of_mem _ member, named, ?_⟩
          rw [last, now, Option.map_map]
          rfl
      · have same := findRow_saveRow_other rows (Ne.symm own)
        rcases ih (saveRow key first rows) with ⟨others, unchanged⟩ | ⟨row, member, named, last⟩
        · exact Or.inl ⟨List.forall_mem_cons.mpr ⟨own, others⟩, unchanged.trans same⟩
        · exact Or.inr ⟨row, List.mem_cons_of_mem _ member, named, same ▸ last⟩

/-- Saving the updates of some rows, one after another. -/
theorem foldl_saveRow (update : Row → Row) (keeps : ∀ row, key (update row) = key row)
    (chosen rows : List Row) (distinct : (chosen.map key).Nodup) :
    chosen.foldl (fun table row => saveRow key (update row) table) rows =
      rows.map fun row => ((findRow key (key row) chosen).map update).getD row := by
  induction chosen generalizing rows with
  | nil => exact (List.map_id rows).symm
  | cons first rest ih =>
      obtain ⟨fresh, restDistinct⟩ := List.nodup_cons.mp distinct
      rw [List.foldl_cons, ih _ restDistinct]
      unfold saveRow
      rw [List.map_map]
      apply List.map_congr_left
      intro row _
      by_cases same : key row = key first
      · have absent : findRow key (key first) rest = none := by
          cases found : findRow key (key first) rest with
          | none => rfl
          | some other =>
              obtain ⟨present, equal⟩ := findRow_mem found
              exact absurd (equal ▸ List.mem_map_of_mem present) fresh
        have head : findRow key (key first) (first :: rest) = some first :=
          List.find?_cons_of_pos (decide_eq_true rfl)
        simp only [Function.comp_apply, keeps, same, if_true, absent, head, Option.map_none,
          Option.getD_none, Option.map_some, Option.getD_some]
      · have head : findRow key (key row) (first :: rest) = findRow key (key row) rest :=
          List.find?_cons_of_neg (by simpa using fun equal => same equal.symm)
        simp only [Function.comp_apply, keeps, if_neg same, head]

/-- Saving the updates of some rows of the table. -/
theorem foldl_saveRow_mem [DecidableEq Row] (update : Row → Row)
    (keeps : ∀ row, key (update row) = key row) (chosen rows : List Row)
    (distinct : (rows.map key).Nodup) (distinctChosen : (chosen.map key).Nodup)
    (present : ∀ row ∈ chosen, row ∈ rows) :
    chosen.foldl (fun table row => saveRow key (update row) table) rows =
      rows.map fun row => if row ∈ chosen then update row else row := by
  rw [foldl_saveRow update keeps _ _ distinctChosen]
  apply List.map_congr_left
  intro row member
  by_cases isChosen : row ∈ chosen
  · rw [findRow_of_mem distinctChosen isChosen, if_pos isChosen, Option.map_some, Option.getD_some]
  · cases found : findRow key (key row) chosen with
    | none => rw [if_neg isChosen, Option.map_none, Option.getD_none]
    | some other =>
        obtain ⟨answered, same⟩ := findRow_mem found
        have itself := List.inj_on_of_nodup_map distinct (present other answered) member same
        exact absurd (itself ▸ answered) isChosen

/-- Saving the updates of the rows that a query answers. -/
theorem foldl_saveRow_filter (update : Row → Row) (keeps : ∀ row, key (update row) = key row)
    (chosen : Row → Bool) (rows : List Row) (distinct : (rows.map key).Nodup) :
    (rows.filter chosen).foldl (fun table row => saveRow key (update row) table) rows =
      rows.map fun row => if chosen row then update row else row := by
  have distinctChosen : ((rows.filter chosen).map key).Nodup :=
    distinct.sublist (List.filter_sublist.map key)
  rw [foldl_saveRow update keeps _ _ distinctChosen]
  apply List.map_congr_left
  intro row member
  by_cases isChosen : chosen row = true
  · have found := findRow_of_mem distinctChosen (List.mem_filter.mpr ⟨member, isChosen⟩)
    rw [found, if_pos isChosen, Option.map_some, Option.getD_some]
  · cases found : findRow key (key row) (rows.filter chosen) with
    | none => rw [if_neg isChosen, Option.map_none, Option.getD_none]
    | some other =>
        obtain ⟨present, same⟩ := findRow_mem found
        obtain ⟨inRows, answered⟩ := List.mem_filter.mp present
        rw [List.inj_on_of_nodup_map distinct inRows member same] at answered
        exact absurd answered isChosen

end AudioBlock.Foundation
