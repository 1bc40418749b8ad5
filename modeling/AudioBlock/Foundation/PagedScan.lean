/-
Reading an ordered list page by page when the next page is requested by key.

A reader asks for at most `limit` items whose key is above the last key it has
seen.  Items that share the last key of a full page are never asked for again.
`pagedScan` describes what such a reader keeps, item by item: how much room the
current page has left and which key it saw last.  The results say when the
reader keeps everything, as a condition on the list and the limit alone.
-/

import Mathlib.Data.List.Basic

namespace AudioBlock.Foundation

variable {α : Type} (key : α → Nat)

def pagedScan (limit : Nat) : Nat → Nat → List α → List α
  | _, _, [] => []
  | room + 1, _, item :: rest => item :: pagedScan limit room (key item) rest
  | 0, last, item :: rest =>
      if key item ≤ last then pagedScan limit 0 last rest
      else
        match limit with
        | 0 => pagedScan 0 0 last rest
        | room + 1 => item :: pagedScan (room + 1) room (key item) rest

def RisesAtPageEnds (limit : Nat) (items : List α) : Prop :=
  ∀ page before after, 0 < page →
    items[page * limit - 1]? = some before → items[page * limit]? = some after →
      key before < key after

theorem pagedScan_sublist (limit room last : Nat) (items : List α) :
    (pagedScan key limit room last items).Sublist items := by
  induction items generalizing room last with
  | nil =>
      cases room <;> exact List.Sublist.refl []
  | cons item rest ih =>
      cases room with
      | succ room =>
          exact (ih room (key item)).cons_cons item
      | zero =>
          by_cases seen : key item ≤ last
          · simp only [pagedScan, if_pos seen]
            exact (ih 0 last).cons item
          · cases limit with
            | zero =>
                simp only [pagedScan, if_neg seen]
                exact (ih 0 last).cons item
            | succ width =>
                simp only [pagedScan, if_neg seen]
                exact (ih width (key item)).cons_cons item

theorem pagedScan_full_page (limit last : Nat) (page rest : List α) :
    pagedScan key limit page.length last (page ++ rest) =
      page ++ pagedScan key limit 0 ((page.getLast?.map key).getD last) rest := by
  induction page generalizing last with
  | nil => rfl
  | cons item tail ih =>
      simp only [List.length_cons, List.cons_append, pagedScan, ih]
      cases tail with
      | nil => rfl
      | cons next others =>
          simp only [List.getLast?_cons_cons]
          cases found : (next :: others).getLast? with
          | none => cases List.getLast?_eq_none_iff.mp found
          | some final => rfl

theorem pagedScan_short_page (limit room last : Nat) (items : List α)
    (short : items.length ≤ room) : pagedScan key limit room last items = items := by
  induction items generalizing room last with
  | nil => cases room <;> rfl
  | cons item rest ih =>
      cases room with
      | zero => exact absurd short (by simp)
      | succ room =>
          simp only [pagedScan]
          rw [ih room (key item) (Nat.le_of_succ_le_succ short)]

/-- With no room left the scan skips to the keys above the last one seen and
starts a new page there. -/
theorem pagedScan_new_page (limit last other : Nat) (positive : 0 < limit)
    (items : List α) (ordered : items.Pairwise fun left right => key left ≤ key right) :
    pagedScan key limit 0 last items =
      pagedScan key limit limit other (items.filter fun item => decide (last < key item)) := by
  induction items with
  | nil =>
      cases limit <;> rfl
  | cons item rest ih =>
      obtain ⟨headBelow, tailOrdered⟩ := List.pairwise_cons.mp ordered
      by_cases seen : key item ≤ last
      · have dropped : ¬ last < key item := Nat.not_lt.mpr seen
        simp only [pagedScan, if_pos seen, List.filter_cons, dropped, decide_false]
        exact ih tailOrdered
      · have kept : last < key item := Nat.lt_of_not_le seen
        have allKept : (item :: rest).filter (fun item => decide (last < key item)) =
            item :: rest := by
          apply List.filter_eq_self.mpr
          intro other member
          rcases List.mem_cons.mp member with same | later
          · rw [same]
            exact decide_eq_true kept
          · exact decide_eq_true (Nat.lt_of_lt_of_le kept (headBelow other later))
        rw [allKept]
        obtain ⟨width, rfl⟩ := Nat.exists_eq_succ_of_ne_zero (Nat.ne_of_gt positive)
        simp only [pagedScan, if_neg seen]

/-- One request: the first page is kept, and the scan goes on with the items
above the highest key of that page. -/
theorem pagedScan_page_step (limit last other highest : Nat) (positive : 0 < limit)
    (items : List α) (ordered : items.Pairwise fun left right => key left ≤ key right)
    (final : α) (finalAt : (items.take limit).getLast? = some final)
    (highestEq : highest = key final) :
    pagedScan key limit limit last items =
      items.take limit ++
        pagedScan key limit limit other
          (items.filter fun item => decide (highest < key item)) := by
  have split : items.take limit ++ items.drop limit = items := List.take_append_drop limit items
  have firstBelow : ∀ item ∈ items.take limit, key item ≤ highest := by
    intro item member
    obtain ⟨front, whole⟩ := List.getLast?_eq_some_iff.mp finalAt
    have frontOrdered := ordered.sublist (List.take_sublist limit items)
    rw [whole] at frontOrdered member
    rcases List.mem_append.mp member with earlier | same
    · rw [highestEq]
      exact (List.pairwise_append.mp frontOrdered).2.2 item earlier final (by simp)
    · exact Nat.le_of_eq (by rw [List.mem_singleton.mp same, highestEq])
  have firstDropped : (items.take limit).filter (fun item => decide (highest < key item)) = [] := by
    apply List.filter_eq_nil_iff.mpr
    intro item member above
    exact Nat.not_lt.mpr (firstBelow item member) (of_decide_eq_true above)
  have restFilter : items.filter (fun item => decide (highest < key item)) =
      (items.drop limit).filter (fun item => decide (highest < key item)) := by
    conv_lhs => rw [← split, List.filter_append, firstDropped, List.nil_append]
  by_cases full : limit ≤ items.length
  · have width : (items.take limit).length = limit := List.length_take_of_le full
    have lastSeen : ((items.take limit).getLast?.map key).getD last = highest := by
      rw [finalAt, highestEq]
      rfl
    calc
      pagedScan key limit limit last items =
          pagedScan key limit (items.take limit).length last
            (items.take limit ++ items.drop limit) := by rw [width, split]
      _ = items.take limit ++ pagedScan key limit 0 highest (items.drop limit) := by
          rw [pagedScan_full_page, lastSeen]
      _ = _ := by
          rw [pagedScan_new_page key limit highest other positive _
            (ordered.sublist (List.drop_sublist limit items)), restFilter]
  · have short : items.length ≤ limit := Nat.le_of_lt (Nat.lt_of_not_le full)
    have nothing : items.drop limit = [] := List.drop_eq_nil_of_le short
    rw [pagedScan_short_page key limit limit last items short, restFilter, nothing,
      List.take_of_length_le short]
    cases limit <;> simp [pagedScan]

/-- The boundary condition seen from inside a page that has `room` places left
and whose last key so far is `last`. -/
private def RisesFrom (limit room last : Nat) (items : List α) : Prop :=
  ∀ page after, items[room + page * limit]? = some after →
    (((last :: items.map key)[room + page * limit]?).getD last) < key after

private theorem risesFrom_cons_room (limit room last : Nat) (item : α) (rest : List α) :
    RisesFrom key limit (room + 1) last (item :: rest) ↔
      RisesFrom key limit room (key item) rest := by
  unfold RisesFrom
  constructor
  · intro rises page after found
    have index : room + 1 + page * limit = (room + page * limit) + 1 := by omega
    have moved := rises page after (by rw [index, List.getElem?_cons_succ]; exact found)
    rw [index, List.getElem?_cons_succ] at moved
    have inside : (room + page * limit) < (key item :: rest.map key).length := by
      have bound := (List.getElem?_eq_some_iff.mp found).1
      simp only [List.length_cons, List.length_map]
      omega
    simp only [List.map_cons, List.getElem?_eq_getElem inside, Option.getD_some] at moved ⊢
    exact moved
  · intro rises page after found
    have index : room + 1 + page * limit = (room + page * limit) + 1 := by omega
    rw [index, List.getElem?_cons_succ] at found
    have moved := rises page after found
    rw [index, List.getElem?_cons_succ]
    have inside : (room + page * limit) < (key item :: rest.map key).length := by
      have bound := (List.getElem?_eq_some_iff.mp found).1
      simp only [List.length_cons, List.length_map]
      omega
    simp only [List.map_cons, List.getElem?_eq_getElem inside, Option.getD_some] at moved ⊢
    exact moved

private theorem risesFrom_zero (width last : Nat) (item : α) (rest : List α) :
    RisesFrom key (width + 1) 0 last (item :: rest) ↔
      last < key item ∧ RisesFrom key (width + 1) (width + 1) last (item :: rest) := by
  unfold RisesFrom
  constructor
  · intro rises
    refine ⟨by simpa using rises 0 item (by simp), ?_⟩
    intro page after found
    have index : width + 1 + page * (width + 1) = 0 + (page + 1) * (width + 1) := by
      rw [Nat.add_one_mul]
      omega
    rw [index] at found ⊢
    exact rises (page + 1) after found
  · rintro ⟨first, rises⟩ page after found
    cases page with
    | zero =>
        simp only [Nat.zero_mul, Nat.add_zero, List.getElem?_cons_zero, Option.some.injEq,
          Option.getD_some] at found ⊢
        exact found ▸ first
    | succ page =>
        have index : 0 + (page + 1) * (width + 1) = width + 1 + page * (width + 1) := by
          rw [Nat.add_one_mul]
          omega
        rw [index] at found ⊢
        exact rises page after found

private theorem pagedScan_eq_iff_risesFrom (width room last : Nat) (items : List α) :
    pagedScan key (width + 1) room last items = items ↔
      RisesFrom key (width + 1) room last items := by
  induction items generalizing room last with
  | nil =>
      constructor
      · intro _ page after found
        simp at found
      · intro _
        cases room <;> rfl
  | cons item rest ih =>
      cases room with
      | succ room =>
          rw [risesFrom_cons_room, ← ih room (key item)]
          simp only [pagedScan, List.cons.injEq, true_and]
      | zero =>
          rw [risesFrom_zero, risesFrom_cons_room, ← ih width (key item)]
          by_cases seen : key item ≤ last
          · simp only [pagedScan, if_pos seen]
            constructor
            · intro whole
              have shorter := (pagedScan_sublist key (width + 1) 0 last rest).length_le
              rw [whole, List.length_cons] at shorter
              omega
            · rintro ⟨above, _⟩
              omega
          · simp only [pagedScan, if_neg seen, List.cons.injEq, true_and]
            exact ⟨fun same => ⟨Nat.lt_of_not_le seen, same⟩, fun both => both.2⟩

/-- The reader keeps every item exactly when the key rises at every multiple of
the page limit. -/
theorem pagedScan_eq_iff (limit last : Nat) (positive : 0 < limit) (items : List α) :
    pagedScan key limit limit last items = items ↔ RisesAtPageEnds key limit items := by
  obtain ⟨width, rfl⟩ := Nat.exists_eq_succ_of_ne_zero (Nat.ne_of_gt positive)
  rw [Nat.succ_eq_add_one, pagedScan_eq_iff_risesFrom]
  constructor
  · intro rises page before after pagePositive beforeAt afterAt
    obtain ⟨earlier, rfl⟩ := Nat.exists_eq_succ_of_ne_zero (Nat.ne_of_gt pagePositive)
    have index : (earlier + 1) * (width + 1) = width + 1 + earlier * (width + 1) := by
      rw [Nat.add_one_mul, Nat.add_comm]
    have step := rises earlier after (by rw [← index]; exact afterAt)
    have position : width + 1 + earlier * (width + 1) =
        ((earlier + 1) * (width + 1) - 1) + 1 := by
      rw [index]
      omega
    rw [position, List.getElem?_cons_succ, List.getElem?_map, beforeAt] at step
    exact step
  · intro rises page after found
    have index : width + 1 + page * (width + 1) = (page + 1) * (width + 1) := by
      rw [Nat.add_one_mul, Nat.add_comm]
    rw [index] at found ⊢
    have bound := (List.getElem?_eq_some_iff.mp found).1
    have positiveIndex : 0 < (page + 1) * (width + 1) := Nat.mul_pos (by omega) (by omega)
    have beforeBound : (page + 1) * (width + 1) - 1 < items.length := by omega
    have position : (page + 1) * (width + 1) = ((page + 1) * (width + 1) - 1) + 1 := by omega
    have step := rises (page + 1) items[(page + 1) * (width + 1) - 1] after (by omega)
      (List.getElem?_eq_getElem beforeBound) found
    rw [position, List.getElem?_cons_succ, List.getElem?_map,
      List.getElem?_eq_getElem beforeBound]
    exact step

end AudioBlock.Foundation
