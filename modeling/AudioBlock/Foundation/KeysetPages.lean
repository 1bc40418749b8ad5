/-
Reading rows page by page when they are listed by date, newest first, and the next page is
asked for by a key: the rows whose key is below that of the last row returned.

A sort by date alone leaves open how rows of one date are listed, so `order` is any sort that
a store may use.  The result says for which rows every such sort gives every row once.
-/
import AudioBlock.Foundation.Newest

namespace AudioBlock.Foundation

variable {Row : Type} (key : Row → Nat) (date : Row → Int)

structure Listing (rows listing : List Row) : Prop where
  perm : listing.Perm rows
  sorted : listing.Pairwise fun earlier later => date later ≤ date earlier

/-- The pages up to the first empty one; `rows` are those that the cursor leaves. -/
inductive KeysetScan (order : List Row → List Row) (limit : Nat) : List Row → List Row → Prop
  | stop {rows : List Row} : (order rows).take limit = [] → KeysetScan order limit rows []
  | page {rows front rest : List Row} {last : Row} :
      (order rows).take limit = front ++ [last] →
        KeysetScan order limit (rows.filter fun row => decide (key row < key last)) rest →
          KeysetScan order limit rows (front ++ last :: rest)

def PageEndsBetween (limit : Nat) (listing : List Row) : Prop :=
  ∀ before row after, listing = before ++ row :: after →
    limit ∣ before.length + 1 ∨ after = [] →
      (∀ other ∈ before, key row < key other) ∧ ∀ other ∈ after, key other < key row

variable {key date}

theorem Listing.byDate (rows : List Row) : Listing date rows (byDate date rows) where
  perm := List.mergeSort_perm rows _
  sorted := by
    have ordered := List.pairwise_mergeSort (@dated_trans Row date) dated_total rows
    exact ordered.imp of_decide_eq_true

variable {limit : Nat} {listing front : List Row} {last : Row} {order : List Row → List Row}
  {rows collected : List Row}

theorem take_concat (positive : 0 < limit) (some_row : listing ≠ []) :
    ∃ front last, listing.take limit = front ++ [last] := by
  have nonempty : listing.take limit ≠ [] := by
    intro empty
    rcases List.take_eq_nil_iff.mp empty with zero | none
    · omega
    · exact some_row none
  exact ⟨_, _, (List.dropLast_append_getLast nonempty).symm⟩

/-! ### The first page of a listing -/

theorem PageEndsBetween.nil (limit : Nat) : PageEndsBetween key limit [] := by
  intro before row after split
  exact absurd split (List.append_ne_nil_of_right_ne_nil before (List.cons_ne_nil row after)).symm

/-- The page ends fall apart into that of the first page and those of the rows after it. -/
theorem pageEndsBetween_page {rest : List Row}
    (full : front.length + 1 = limit ∨ front.length + 1 ≤ limit ∧ rest = []) :
    PageEndsBetween key limit (front ++ last :: rest) ↔
      ((∀ other ∈ front, key last < key other) ∧ ∀ other ∈ rest, key other < key last) ∧
        PageEndsBetween key limit rest := by
  constructor
  · intro ends
    refine ⟨ends front last rest rfl ?_, ?_⟩
    · rcases full with whole | ⟨_short, nothing⟩
      · exact Or.inl (whole ▸ Nat.dvd_refl _)
      · exact Or.inr nothing
    · intro before row after split bound
      have placed : front ++ last :: rest = (front ++ last :: before) ++ row :: after := by
        rw [split, List.append_assoc, List.cons_append]
      obtain ⟨larger, smaller⟩ := ends _ row after placed (by
        rcases bound with full' | final
        · left
          rcases full with whole | ⟨_short, nothing⟩
          · rw [List.length_append, List.length_cons]
            have moved : front.length + (before.length + 1) + 1 =
                limit + (before.length + 1) := by omega
            rw [moved]
            exact Nat.dvd_add (Nat.dvd_refl limit) full'
          · rw [nothing] at split
            cases before <;> cases split
        · exact Or.inr final)
      exact ⟨fun other member => larger other (by simp [member]), smaller⟩
  · rintro ⟨⟨larger, smaller⟩, ends⟩ before row after split bound
    rcases List.append_eq_append_iff.mp split with ⟨middle, placed, tail⟩ | ⟨middle, placed, tail⟩
    · cases middle with
      | nil =>
          obtain ⟨same, others⟩ := List.cons.inj tail
          rw [List.append_nil] at placed
          subst same others placed
          exact ⟨larger, smaller⟩
      | cons second more =>
          -- The row lies behind the first page.
          obtain ⟨same, others⟩ := List.cons.inj tail
          subst same placed
          have inRest : row ∈ rest := by rw [others]; simp
          obtain ⟨above, below⟩ := ends more row after others (by
            rcases bound with full' | final
            · left
              rcases full with whole | ⟨_short, nothing⟩
              · rw [List.length_append, List.length_cons] at full'
                have moved : front.length + (more.length + 1) + 1 =
                    limit + (more.length + 1) := by omega
                rw [moved] at full'
                exact (Nat.dvd_add_right (Nat.dvd_refl limit)).mp full'
              · rw [nothing] at inRest
                cases inRest
            · exact Or.inr final)
          refine ⟨?_, below⟩
          intro other member
          have under := smaller row inRest
          rcases List.mem_append.mp member with early | late
          · exact Nat.lt_trans under (larger other early)
          · rcases List.mem_cons.mp late with same | late
            · rw [same]
              exact under
            · exact above other late
    · -- The row lies inside the first page, so its page does not end there.
      cases middle with
      | nil =>
          obtain ⟨same, others⟩ := List.cons.inj tail
          rw [List.append_nil] at placed
          subst same others placed
          exact ⟨larger, smaller⟩
      | cons second more =>
          obtain ⟨same, others⟩ := List.cons.inj tail
          exfalso
          rcases bound with full' | final
          · have width := congrArg List.length placed
            rw [List.length_append, List.length_cons] at width
            have enough := Nat.le_of_dvd (Nat.succ_pos _) full'
            rcases full with whole | ⟨short, _nothing⟩ <;> omega
          · rw [final] at others
            exact List.append_ne_nil_of_right_ne_nil more (List.cons_ne_nil last rest) others.symm

/-! ### The scan -/

theorem KeysetScan.mem (listed : ∀ rows, Listing date rows (order rows))
    (scan : KeysetScan key order limit rows collected) : ∀ row ∈ collected, row ∈ rows := by
  induction scan with
  | stop _empty => exact fun row member => nomatch member
  | @page rows front rest last first _scan ih =>
      intro row member
      have onPage : ∀ other ∈ front ++ [last], other ∈ rows := by
        intro other present
        rw [← first] at present
        exact (listed rows).perm.mem_iff.mp (List.mem_of_mem_take present)
      rcases List.mem_append.mp member with early | late
      · exact onPage row (List.mem_append_left _ early)
      · rcases List.mem_cons.mp late with same | late
        · rw [same]
          exact onPage last (by simp)
        · exact (List.mem_filter.mp (ih row late)).1

theorem KeysetScan.head_mem (positive : 0 < limit)
    (scan : KeysetScan key order limit rows collected) {first : Row} {others : List Row}
    (starts : order rows = first :: others) :
    first ∈ collected := by
  obtain ⟨width, rfl⟩ := Nat.exists_eq_succ_of_ne_zero (Nat.ne_of_gt positive)
  rcases scan with empty | ⟨page, _later⟩
  · rw [starts] at empty
    cases empty
  · rename_i front rest last
    rw [starts, List.take_succ_cons] at page
    have member : first ∈ front ++ [last] := by
      rw [← page]
      exact List.mem_cons_self
    rcases List.mem_append.mp member with early | same
    · exact List.mem_append_left _ early
    · rw [List.mem_singleton.mp same]
      simp

/-- A listing splits into its first page and the rest. -/
theorem take_split (first : listing.take limit = front ++ [last]) :
    listing = front ++ last :: listing.drop limit ∧
      (front.length + 1 = limit ∨ front.length + 1 ≤ limit ∧ listing.drop limit = []) := by
  have whole := List.take_append_drop limit listing
  rw [first, List.append_assoc, List.singleton_append] at whole
  refine ⟨whole.symm, ?_⟩
  have width := congrArg List.length first
  rw [List.length_take, List.length_append, List.length_singleton] at width
  rcases Nat.le_total limit listing.length with enough | short
  · left
    omega
  · exact Or.inr ⟨by omega, List.drop_eq_nil_of_le short⟩

/-- The rows below the cursor, if the first page ends between the keys of the others. -/
theorem filter_below {rest : List Row} (larger : ∀ other ∈ front, key last < key other)
    (smaller : ∀ other ∈ rest, key other < key last) :
    (front ++ last :: rest).filter (fun row => decide (key row < key last)) = rest := by
  have front_dropped : front.filter (fun row => decide (key row < key last)) = [] := by
    apply List.filter_eq_nil_iff.mpr
    intro other member below
    exact Nat.lt_asymm (larger other member) (of_decide_eq_true below)
  have last_dropped : (last :: rest).filter (fun row => decide (key row < key last)) =
      rest.filter fun row => decide (key row < key last) := by
    rw [List.filter_cons, decide_eq_false (Nat.lt_irrefl _)]
    rfl
  have rest_kept : rest.filter (fun row => decide (key row < key last)) = rest := by
    apply List.filter_eq_self.mpr
    exact fun other member => decide_eq_true (smaller other member)
  rw [List.filter_append, last_dropped, front_dropped, rest_kept, List.nil_append]

theorem scan_complete (listed : ∀ rows, Listing date rows (order rows)) (positive : 0 < limit)
    (rows : List Row)
    (ends : ∀ listing, Listing date rows listing → PageEndsBetween key limit listing) :
    ∃ collected, KeysetScan key order limit rows collected ∧ Listing date rows collected := by
  induction width : rows.length using Nat.strongRecOn generalizing rows with
  | ind size ih =>
      by_cases nothing : order rows = []
      · refine ⟨[], KeysetScan.stop (by rw [nothing, List.take_nil]), ?_⟩
        rw [← nothing]
        exact listed rows
      · obtain ⟨front, last, first⟩ := take_concat positive nothing
        obtain ⟨split, full⟩ := take_split first
        have listing := listed rows
        rw [split] at listing
        have boundary := ends _ listing
        obtain ⟨⟨larger, smaller⟩, _later⟩ := (pageEndsBetween_page full).mp boundary
        have left : (rows.filter fun row => decide (key row < key last)).Perm
            ((order rows).drop limit) := by
          have filtered := listing.perm.symm.filter fun row => decide (key row < key last)
          rw [filter_below larger smaller] at filtered
          exact filtered
        have ordered := List.pairwise_append.mp listing.sorted
        have lastFirst := List.pairwise_cons.mp ordered.2.1
        -- A listing of the rows that are left makes one of all rows behind the first page.
        have extend : ∀ others,
            Listing date (rows.filter fun row => decide (key row < key last)) others →
              Listing date rows (front ++ last :: others) := by
          intro others good
          have same := good.perm.trans left
          refine ⟨?_, List.pairwise_append.mpr
            ⟨ordered.1, List.pairwise_cons.mpr ⟨?_, good.sorted⟩, ?_⟩⟩
          · exact ((same.cons last).append_left front).trans listing.perm
          · exact fun other member => lastFirst.1 other (same.mem_iff.mp member)
          · intro early inFront late inLate
            refine ordered.2.2 early inFront late ?_
            rcases List.mem_cons.mp inLate with equal | member
            · rw [equal]
              exact List.mem_cons_self
            · exact List.mem_cons_of_mem _ (same.mem_iff.mp member)
        have fewer : (rows.filter fun row => decide (key row < key last)).length < size := by
          have total := listing.perm.length_eq
          rw [List.length_append, List.length_cons] at total
          rw [left.length_eq]
          omega
        have endsLeft : ∀ others,
            Listing date (rows.filter fun row => decide (key row < key last)) others →
              PageEndsBetween key limit others := by
          intro others good
          have same := good.perm.trans left
          have fullOthers : front.length + 1 = limit ∨ front.length + 1 ≤ limit ∧ others = [] := by
            rcases full with whole | ⟨short, none⟩
            · exact Or.inl whole
            · rw [none] at same
              exact Or.inr ⟨short, same.eq_nil⟩
          exact ((pageEndsBetween_page fullOthers).mp (ends _ (extend others good))).2
        obtain ⟨rest, scan, good⟩ := ih _ fewer _ endsLeft rfl
        exact ⟨front ++ last :: rest, KeysetScan.page first scan, extend rest good⟩

/-- A sort that follows a given listing of the rows, and of any selection of them. -/
theorem exists_order_following (good : Listing date rows listing) :
    ∃ order : List Row → List Row, (∀ others, Listing date others (order others)) ∧
      ∀ keep : Row → Bool, order (rows.filter keep) = listing.filter keep := by
  classical
  refine ⟨fun others =>
    if (listing.filter fun row => decide (row ∈ others)).Perm others
    then listing.filter fun row => decide (row ∈ others) else byDate date others, ?_, ?_⟩
  · intro others
    by_cases same : (listing.filter fun row => decide (row ∈ others)).Perm others
    · simp only [if_pos same]
      exact ⟨same, good.sorted.filter _⟩
    · simp only [if_neg same]
      exact Listing.byDate others
  · intro keep
    have chosen : (listing.filter fun row => decide (row ∈ rows.filter keep)) =
        listing.filter keep := by
      apply List.filter_congr
      intro row member
      have among := good.perm.mem_iff.mp member
      cases kept : keep row <;> simp [among, kept]
    simp only [chosen, if_pos (good.perm.filter keep)]

/-- A scan along one listing that gives every row once finds its page ends between the
keys. -/
theorem pageEndsBetween_of_scan (listed : ∀ rows, Listing date rows (order rows))
    (positive : 0 < limit) (distinct : (listing.map key).Nodup)
    (follows : ∀ keep : Row → Bool, order (rows.filter keep) = listing.filter keep)
    (keep : Row → Bool) (scan : KeysetScan key order limit (rows.filter keep) collected)
    (all : collected.Perm (listing.filter keep)) :
    PageEndsBetween key limit (listing.filter keep) := by
  induction width : (listing.filter keep).length using Nat.strongRecOn
      generalizing keep collected with
  | ind size ih =>
      have nodup : ((listing.filter keep).map key).Nodup :=
        distinct.sublist (List.filter_sublist.map key)
      rcases scan with empty | ⟨first, later⟩
      · rw [follows] at empty
        by_cases nothing : listing.filter keep = []
        · rw [nothing]
          exact PageEndsBetween.nil limit
        · obtain ⟨front, last, full⟩ := take_concat positive nothing
          rw [empty] at full
          exact absurd full.symm
            (List.append_ne_nil_of_right_ne_nil front (List.cons_ne_nil last []))
      · rename_i front rest last
        rw [follows] at first
        obtain ⟨split, full⟩ := take_split first
        generalize others : (listing.filter keep).drop limit = after at split full
        rw [split] at all nodup
        have returned : rest.Perm after := by
          have tails := (List.perm_append_left_iff front).mp all
          exact tails.cons_inv
        have narrowed : (rows.filter keep).filter (fun row => decide (key row < key last)) =
            rows.filter fun row => decide (key row < key last) && keep row :=
          List.filter_filter
        have smaller : ∀ other ∈ after, key other < key last := by
          intro other member
          have below := later.mem listed other (returned.mem_iff.mpr member)
          exact of_decide_eq_true (List.mem_filter.mp below).2
        have keysApart := List.nodup_append.mp (List.map_append ▸ nodup)
        -- A row of the page below the cursor would be returned once more.
        have larger : ∀ other ∈ front, key last < key other := by
          intro other member
          have apart : key other ≠ key last :=
            keysApart.2.2 _ (List.mem_map_of_mem member) _ (by simp)
          by_contra notLarger
          have below : key other < key last := by omega
          have kept : other ∈ front.filter fun row => decide (key row < key last) :=
            List.mem_filter.mpr ⟨member, decide_eq_true below⟩
          obtain ⟨again, more, starts⟩ := List.exists_cons_of_ne_nil (List.ne_nil_of_mem kept)
          have next : order ((rows.filter keep).filter fun row => decide (key row < key last)) =
              again :: (more ++ (last :: after).filter fun row => decide (key row < key last)) := by
            rw [narrowed, follows, ← List.filter_filter, split, List.filter_append, starts,
              List.cons_append]
          have twice := returned.mem_iff.mp (later.head_mem positive next)
          have early : again ∈ front := by
            refine List.mem_of_mem_filter (p := fun row => decide (key row < key last)) ?_
            rw [starts]
            exact List.mem_cons_self
          exact keysApart.2.2 _ (List.mem_map_of_mem early) _
            (List.mem_map_of_mem (List.mem_cons_of_mem _ twice)) rfl
        have left :
            (listing.filter fun row => decide (key row < key last) && keep row) = after := by
          rw [← List.filter_filter, split]
          exact filter_below larger smaller
        rw [narrowed] at later
        have fewer : after.length < size := by
          rw [← width, split, List.length_append, List.length_cons]
          omega
        have rest_ends := ih _ fewer _ later (left ▸ returned) (congrArg List.length left)
        rw [left] at rest_ends
        rw [split]
        exact (pageEndsBetween_page full).mpr ⟨⟨larger, smaller⟩, rest_ends⟩

/-- Every sort by date gives every row once, newest first, exactly if in every listing the
pages end between the keys. -/
theorem keysetScan_complete_iff (positive : 0 < limit) (distinct : (rows.map key).Nodup) :
    (∀ order : List Row → List Row, (∀ others, Listing date others (order others)) →
      ∃ collected, KeysetScan key order limit rows collected ∧ Listing date rows collected) ↔
      ∀ listing, Listing date rows listing → PageEndsBetween key limit listing := by
  constructor
  · intro complete listing good
    obtain ⟨order, listed, follows⟩ := exists_order_following good
    obtain ⟨collected, scan, all⟩ := complete order listed
    have whole : ∀ others : List Row, others.filter (fun _ => true) = others :=
      fun others => List.filter_eq_self.mpr fun _row _member => rfl
    have found := pageEndsBetween_of_scan listed positive
      ((good.perm.map key).nodup_iff.mpr distinct) follows (fun _ => true)
      (by rw [whole]; exact scan) (by rw [whole]; exact all.perm.trans good.perm.symm)
    rw [whole] at found
    exact found
  · intro ends order listed
    exact scan_complete listed positive rows ends

end AudioBlock.Foundation
