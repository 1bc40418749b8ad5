/-
Weights summed over a list of processes.

The processes of a system are the entries of a list, one place each, and a step
replaces one entry.  A quantity spread over the processes (how many of them hold
an item, how many are about to write) is the sum of a weight; it changes by the
difference of the two weights of the entry that moved.
-/

import Mathlib.Algebra.BigOperators.Group.List.Lemmas
import Mathlib.Algebra.GroupWithZero.Nat
import Mathlib.Algebra.Order.BigOperators.Group.List
import Mathlib.Algebra.Order.Group.Nat

namespace AudioBlock.Foundation

universe u v

variable {Process : Type u} (weight : Process → Nat)

def weigh (processes : List Process) : Nat := (processes.map weight).sum

theorem weigh_cons (process : Process) (rest : List Process) :
    weigh weight (process :: rest) = weight process + weigh weight rest := by
  simp only [weigh, List.map_cons, List.sum_cons]

theorem weigh_snoc (processes : List Process) (process : Process) :
    weigh weight (processes ++ [process]) = weigh weight processes + weight process := by
  simp only [weigh, List.map_append, List.sum_append, List.map_cons, List.map_nil, List.sum_cons,
    List.sum_nil, Nat.add_zero]

theorem weigh_congr {weight other : Process → Nat} (processes : List Process)
    (same : ∀ process ∈ processes, weight process = other process) :
    weigh weight processes = weigh other processes :=
  congrArg List.sum (List.map_congr_left same)

/-- Replacing one entry moves the sum by the difference of its two weights. -/
theorem weigh_set (processes : List Process) (index : Nat) (before after : Process)
    (present : processes[index]? = some before) :
    weigh weight (processes.set index after) + weight before =
      weigh weight processes + weight after := by
  induction processes generalizing index with
  | nil => cases present
  | cons head rest ih =>
      cases index with
      | zero =>
          cases present
          rw [List.set_cons_zero, weigh_cons, weigh_cons]
          omega
      | succ index =>
          have inRest := ih index present
          rw [List.set_cons_succ, weigh_cons, weigh_cons]
          omega

/-- Replacing an entry by one of the same weight leaves the sum. -/
theorem weigh_set_same (processes : List Process) (index : Nat) (before after : Process)
    (present : processes[index]? = some before) (same : weight after = weight before) :
    weigh weight (processes.set index after) = weigh weight processes := by
  have moved := weigh_set weight processes index before after present
  omega

theorem weight_le_weigh (processes : List Process) (process : Process)
    (member : process ∈ processes) : weight process ≤ weigh weight processes := by
  induction processes with
  | nil => cases member
  | cons head rest ih =>
      rw [weigh_cons]
      rcases List.mem_cons.mp member with rfl | later
      · exact Nat.le_add_right _ _
      · exact Nat.le_trans (ih later) (Nat.le_add_left _ _)

/-- Two different entries weigh no more than all together. -/
theorem weight_add_le_weigh (processes : List Process) (first second : Process)
    (isFirst : first ∈ processes) (isSecond : second ∈ processes) (different : first ≠ second) :
    weight first + weight second ≤ weigh weight processes := by
  induction processes with
  | nil => cases isFirst
  | cons head rest ih =>
      rw [weigh_cons]
      rcases List.mem_cons.mp isFirst with rfl | firstLater
      · have later := (List.mem_cons.mp isSecond).resolve_left (Ne.symm different)
        exact Nat.add_le_add_left (weight_le_weigh weight rest second later) _
      · rcases List.mem_cons.mp isSecond with rfl | secondLater
        · have later := weight_le_weigh weight rest first firstLater
          omega
        · exact Nat.le_trans (ih firstLater secondLater) (Nat.le_add_left _ _)

theorem weigh_eq_zero (processes : List Process)
    (weightless : ∀ process ∈ processes, weight process = 0) : weigh weight processes = 0 := by
  induction processes with
  | nil => rfl
  | cons head rest ih =>
      rw [weigh_cons, weightless head List.mem_cons_self,
        ih fun process member => weightless process (List.mem_cons_of_mem _ member)]

theorem weigh_map {Other : Type u} (change : Other → Process) (others : List Other) :
    weigh weight (others.map change) = weigh (fun other => weight (change other)) others := by
  simp only [weigh, List.map_map, Function.comp_def]

/-- With distinct keys, a weight that changes at one key moves the sum by the
difference there. -/
theorem weigh_change {Key : Type v} (key : Process → Key) (before after : Process → Nat)
    (processes : List Process) (distinct : (processes.map key).Nodup) (process : Process)
    (member : process ∈ processes)
    (others : ∀ other, key other ≠ key process → after other = before other) :
    weigh after processes + before process = weigh before processes + after process := by
  induction processes with
  | nil => cases member
  | cons head rest ih =>
      obtain ⟨headFresh, restDistinct⟩ := List.nodup_cons.mp distinct
      rw [weigh_cons, weigh_cons]
      rcases List.mem_cons.mp member with rfl | later
      · have same : weigh after rest = weigh before rest := by
          refine weigh_congr rest fun other inRest => others other ?_
          exact fun equal => headFresh (List.mem_map.mpr ⟨other, inRest, equal⟩)
        omega
      · have inRest := ih restDistinct later
        have headSame := others head fun equal =>
          headFresh (List.mem_map.mpr ⟨process, later, equal.symm⟩)
        omega

/-- The weight one of the chosen entries. -/
def indicator (chosen : Process → Bool) (process : Process) : Nat :=
  if chosen process then 1 else 0

variable {process : Process} {fewer more : Process → Bool} {processes : List Process}

theorem indicator_of_chosen {chosen : Process → Bool} (isChosen : chosen process = true) :
    indicator chosen process = 1 :=
  if_pos isChosen

theorem indicator_of_other {chosen : Process → Bool} (notChosen : chosen process = false) :
    indicator chosen process = 0 := by
  unfold indicator
  rw [notChosen]
  rfl

theorem indicator_le_one (chosen : Process → Bool) (process : Process) :
    indicator chosen process ≤ 1 := by
  unfold indicator
  split
  · exact Nat.le_refl 1
  · exact Nat.zero_le 1

theorem indicator_mono (implied : fewer process = true → more process = true) :
    indicator fewer process ≤ indicator more process := by
  cases isFewer : fewer process with
  | false => exact (indicator_of_other isFewer).trans_le (Nat.zero_le _)
  | true =>
      rw [indicator_of_chosen isFewer, indicator_of_chosen (implied isFewer)]

theorem weigh_indicator (chosen : Process → Bool) (processes : List Process) :
    weigh (indicator chosen) processes = processes.countP chosen := by
  induction processes with
  | nil => rfl
  | cons head rest ih =>
      rw [weigh_cons, ih, List.countP_cons, Nat.add_comm]
      rfl

/-- Choosing fewer entries, and one of the entries no longer. -/
theorem weigh_indicator_drop (member : process ∈ processes)
    (implied : ∀ process, fewer process = true → more process = true)
    (before : more process = true) (after : fewer process = false) :
    weigh (indicator fewer) processes + 1 ≤ weigh (indicator more) processes := by
  apply Nat.succ_le_of_lt
  apply List.sum_lt_sum
  · exact fun other _ => indicator_mono (implied other)
  · refine ⟨process, member, ?_⟩
    rw [indicator_of_chosen before, indicator_of_other after]
    exact Nat.one_pos

theorem weigh_indicator_mono (processes : List Process)
    (implied : ∀ process, fewer process = true → more process = true) :
    weigh (indicator fewer) processes ≤ weigh (indicator more) processes :=
  List.sum_le_sum fun other _ => indicator_mono (implied other)

/-- What holds of every entry still does when one is replaced. -/
theorem forall_mem_set {holds : Process → Prop} (processes : List Process) (index : Nat)
    (after : Process) (others : ∀ process ∈ processes, holds process) (now : holds after) :
    ∀ process ∈ processes.set index after, holds process := by
  intro process member
  rcases List.mem_or_eq_of_mem_set member with old | rfl
  · exact others process old
  · exact now

/-- Replacing one entry keeps the others. -/
theorem mem_set_of_ne {index : Nat} {before other : Process} (after : Process)
    (present : processes[index]? = some before) (member : other ∈ processes)
    (different : other ≠ before) : other ∈ processes.set index after := by
  obtain ⟨place, found⟩ := List.mem_iff_getElem?.mp member
  have elsewhere : index ≠ place := by
    rintro rfl
    exact different (Option.some.inj (found.symm.trans present))
  exact List.mem_iff_getElem?.mpr ⟨place, (List.getElem?_set_ne elsewhere).trans found⟩

theorem mem_set_new {index : Nat} {before : Process} (after : Process)
    (present : processes[index]? = some before) : after ∈ processes.set index after :=
  List.mem_set (List.getElem?_eq_some_iff.mp present).1 after

end AudioBlock.Foundation
