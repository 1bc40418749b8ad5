/-
Counting the items of a list by key, in the order in which keys first appear.

A tally keeps, for each key, the first item that had it and the number of items
so far.  It is built by a left fold, as a loop over an insertion-ordered map
builds it.
-/

import Mathlib.Algebra.GroupWithZero.Nat
import Mathlib.Data.List.Nodup

namespace AudioBlock.Foundation

structure TallyEntry (κ α : Type) where
  key : κ
  first : α
  count : Nat
deriving DecidableEq, Repr

variable {κ α : Type} [DecidableEq κ] (key : α → κ)

def tallyItem : List (TallyEntry κ α) → α → List (TallyEntry κ α)
  | [], item => [{ key := key item, first := item, count := 1 }]
  | entry :: rest, item =>
      if entry.key = key item then { entry with count := entry.count + 1 } :: rest
      else entry :: tallyItem rest item

def tally (items : List α) : List (TallyEntry κ α) := items.foldl (tallyItem key) []

/-- The number of items counted under the keys that satisfy a condition. -/
def countedIf (counted : κ → Bool) (entries : List (TallyEntry κ α)) : Nat :=
  (entries.map fun entry => if counted entry.key then entry.count else 0).sum

theorem tallyItem_counted (counted : κ → Bool) (entries : List (TallyEntry κ α)) (item : α) :
    countedIf counted (tallyItem key entries item) =
      countedIf counted entries + if counted (key item) then 1 else 0 := by
  induction entries with
  | nil => simp [tallyItem, countedIf]
  | cons entry rest ih =>
      unfold tallyItem
      by_cases same : entry.key = key item
      · rw [if_pos same]
        simp only [countedIf, List.map_cons, List.sum_cons, same]
        split <;> omega
      · rw [if_neg same]
        have step : countedIf counted (entry :: tallyItem key rest item) =
            (if counted entry.key then entry.count else 0) +
              countedIf counted (tallyItem key rest item) := by
          simp [countedIf]
        rw [step, ih]
        simp only [countedIf, List.map_cons, List.sum_cons]
        omega

private theorem foldl_counted (counted : κ → Bool) (items : List α)
    (entries : List (TallyEntry κ α)) :
    countedIf counted (items.foldl (tallyItem key) entries) =
      countedIf counted entries + items.countP fun item => counted (key item) := by
  induction items generalizing entries with
  | nil => rfl
  | cons item rest ih =>
      rw [List.foldl_cons, ih, tallyItem_counted, List.countP_cons]
      omega

/-- A tally counts every item under its own key. -/
theorem tally_counted (counted : κ → Bool) (items : List α) :
    countedIf counted (tally key items) = items.countP fun item => counted (key item) := by
  rw [tally, foldl_counted]
  simp [countedIf]

theorem tallyItem_keys (entries : List (TallyEntry κ α)) (item : α) :
    (tallyItem key entries item).map TallyEntry.key =
      if key item ∈ entries.map TallyEntry.key then entries.map TallyEntry.key
      else entries.map TallyEntry.key ++ [key item] := by
  induction entries with
  | nil => simp [tallyItem]
  | cons entry rest ih =>
      unfold tallyItem
      by_cases same : entry.key = key item
      · rw [if_pos same, if_pos (by simp [same])]
        rfl
      · rw [if_neg same, List.map_cons, List.map_cons, ih]
        by_cases present : key item ∈ rest.map TallyEntry.key
        · rw [if_pos present, if_pos (List.mem_cons_of_mem _ present)]
        · rw [if_neg present, if_neg]
          · rfl
          · intro member
            rcases List.mem_cons.mp member with head | later
            · exact same head.symm
            · exact present later

def WellTallied (entry : TallyEntry κ α) : Prop := key entry.first = entry.key ∧ 0 < entry.count

theorem tallyItem_wellTallied (entries : List (TallyEntry κ α)) (item : α)
    (earlier : ∀ entry ∈ entries, WellTallied key entry) :
    ∀ entry ∈ tallyItem key entries item, WellTallied key entry := by
  induction entries with
  | nil =>
      intro entry member
      rw [List.mem_singleton.mp member]
      exact ⟨rfl, Nat.one_pos⟩
  | cons head rest ih =>
      unfold tallyItem
      have headWell := earlier head List.mem_cons_self
      have restWell := fun entry member => earlier entry (List.mem_cons_of_mem head member)
      split
      · intro entry member
        rcases List.mem_cons.mp member with same | later
        · rw [same]
          exact ⟨headWell.1, Nat.succ_pos _⟩
        · exact restWell entry later
      · intro entry member
        rcases List.mem_cons.mp member with same | later
        · rw [same]
          exact headWell
        · exact ih restWell entry later

private theorem foldl_tally (items : List α) (entries : List (TallyEntry κ α))
    (distinct : (entries.map TallyEntry.key).Nodup)
    (well : ∀ entry ∈ entries, WellTallied key entry) :
    ((items.foldl (tallyItem key) entries).map TallyEntry.key).Nodup ∧
      ∀ entry ∈ items.foldl (tallyItem key) entries, WellTallied key entry := by
  induction items generalizing entries with
  | nil => exact ⟨distinct, well⟩
  | cons item rest ih =>
      apply ih
      · rw [tallyItem_keys]
        split
        · exact distinct
        · rename_i absent
          exact List.nodup_append.mpr ⟨distinct, List.nodup_singleton _, by
            intro left leftMember right rightMember same
            rw [List.mem_singleton.mp rightMember] at same
            exact absent (same ▸ leftMember)⟩
      · exact tallyItem_wellTallied key entries item well

theorem tally_keys_nodup (items : List α) : ((tally key items).map TallyEntry.key).Nodup :=
  (foldl_tally key items [] List.nodup_nil (fun _ absent => by cases absent)).1

theorem tally_wellTallied (items : List α) : ∀ entry ∈ tally key items, WellTallied key entry :=
  (foldl_tally key items [] List.nodup_nil (fun _ absent => by cases absent)).2

end AudioBlock.Foundation
