/-
Events that lie at least an interval apart.

Such a list grows by an event that comes the interval after all earlier ones, and no
window holds more of its events than its length allows.
-/
import Mathlib.Algebra.Order.Group.Nat
import Mathlib.Data.List.Basic

namespace AudioBlock.Foundation

/-- Each event comes at least the interval after every earlier one. -/
def Spaced (interval : Nat) (times : List Nat) : Prop :=
  times.Pairwise fun earlier later => earlier + interval ≤ later

namespace Spaced

variable {interval : Nat} {times : List Nat}

theorem concat_iff (now : Nat) : Spaced interval (times ++ [now]) ↔
    Spaced interval times ∧ ∀ time ∈ times, time + interval ≤ now := by
  unfold Spaced
  rw [List.pairwise_append]
  simp

/-- The events between two moments. -/
def within (start length : Nat) (times : List Nat) : List Nat :=
  times.filter fun time => decide (start ≤ time ∧ time < start + length)

theorem length_le (positive : 0 < interval) (spaced : Spaced interval times) (start stop : Nat)
    (inside : ∀ time ∈ times, start ≤ time ∧ time < stop) :
    times.length ≤ (stop - start) / interval + 1 := by
  induction times generalizing start with
  | nil => exact Nat.zero_le _
  | cons first rest ih =>
      obtain ⟨apart, spaced⟩ := List.pairwise_cons.mp spaced
      have firstInside := inside first List.mem_cons_self
      cases rest with
      | nil => exact Nat.succ_le_succ (Nat.zero_le _)
      | cons second more =>
          have secondInside := inside second (List.mem_cons_of_mem _ List.mem_cons_self)
          have gap := apart second List.mem_cons_self
          have fewer := ih spaced (first + interval) fun time member =>
            ⟨apart time member, (inside time (List.mem_cons_of_mem _ member)).2⟩
          have long : interval ≤ stop - first := by omega
          have split : (stop - first) / interval = (stop - first - interval) / interval + 1 :=
            Nat.div_eq_sub_div positive long
          have shorter : (stop - first) / interval ≤ (stop - start) / interval :=
            Nat.div_le_div_right (by omega)
          rw [List.length_cons]
          rw [Nat.sub_add_eq] at fewer
          omega

/-- A window holds one event for each interval in it, and one more. -/
theorem within_le (positive : 0 < interval) (spaced : Spaced interval times)
    (start length : Nat) : (within start length times).length ≤ length / interval + 1 := by
  have kept : Spaced interval (within start length times) := List.Pairwise.filter _ spaced
  have few := length_le positive kept start (start + length)
    fun time member => of_decide_eq_true (List.mem_filter.mp member).2
  rwa [Nat.add_sub_cancel_left] at few

end Spaced

/-!
### Windows that slide with the clock

An event is chosen if fewer events of its key than the limit lie in the window behind it.  All
events count there, chosen or not, so no window holds more chosen events of a key than the limit.
-/

universe u v

variable {Event : Type u} {Key : Type v} [DecidableEq Key] (key : Event → Key) (time : Event → Nat)

def recent (window now : Nat) (sought : Key) (events : List Event) : List Event :=
  events.filter fun event => decide (key event = sought ∧ now < time event + window)

def chosenEvents (window limit : Nat) : List Event → List Event → List Event
  | _, [] => []
  | past, event :: rest =>
      (if (recent key time window (time event) (key event) past).length < limit then [event] else []) ++
        chosenEvents window limit (past ++ [event]) rest

def inWindow (start length : Nat) (sought : Key) (events : List Event) : List Event :=
  events.filter fun event =>
    decide (key event = sought ∧ start ≤ time event ∧ time event < start + length)

variable {key time} {window now later limit : Nat} {sought : Key} {events past taken : List Event}

theorem mem_recent {event : Event} : event ∈ recent key time window now sought events ↔
    event ∈ events ∧ key event = sought ∧ now < time event + window := by
  unfold recent
  rw [List.mem_filter, decide_eq_true_eq]

/-- What is recent later was recent before. -/
theorem recent_recent (forward : now ≤ later) :
    recent key time window later sought (recent key time window now sought events) =
      recent key time window later sought events := by
  unfold recent
  rw [List.filter_filter]
  apply List.filter_congr
  intro event _
  rw [← Bool.decide_and, decide_eq_decide]
  constructor
  · exact And.left
  · intro kept
    exact ⟨kept, kept.1, Nat.lt_of_le_of_lt forward kept.2⟩

theorem recent_append (more : List Event) : recent key time window now sought (events ++ more) =
    recent key time window now sought events ++ recent key time window now sought more :=
  List.filter_append events more

theorem recent_other {event : Event} (different : key event ≠ sought) :
    recent key time window now sought [event] = [] := by
  unfold recent
  exact List.filter_cons_of_neg (by simp [different])

theorem recent_eq_nil (old : ∀ event ∈ events, time event + window ≤ now) :
    recent key time window now sought events = [] := by
  apply List.filter_eq_nil_iff.mpr
  intro event member still
  exact Nat.not_le_of_lt (of_decide_eq_true still).2 (old event member)

/-- A window that holds the present event holds recent ones only. -/
theorem inWindow_le_recent {start : Nat} (chosen : taken.Sublist past) (inside : now < start + window) :
    (inWindow key time start window sought taken).length ≤
      (recent key time window now sought past).length := by
  apply List.Sublist.length_le
  refine List.Sublist.trans ?_ (List.Sublist.filter _ chosen)
  apply List.monotone_filter_right
  intro event holds
  obtain ⟨same, after, _⟩ := of_decide_eq_true holds
  apply decide_eq_true
  exact ⟨same, Nat.lt_of_lt_of_le inside (Nat.add_le_add_right after window)⟩

theorem inWindow_concat_le {start : Nat} {event : Event} (chosen : taken.Sublist past)
    (few : (inWindow key time start window sought taken).length ≤ limit)
    (room : (recent key time window (time event) (key event) past).length < limit) :
    (inWindow key time start window sought (taken ++ [event])).length ≤ limit := by
  have split : inWindow key time start window sought (taken ++ [event]) =
      inWindow key time start window sought taken ++ inWindow key time start window sought [event] :=
    List.filter_append taken [event]
  rw [split]
  by_cases holds : key event = sought ∧ start ≤ time event ∧ time event < start + window
  · obtain ⟨same, _, inside⟩ := holds
    subst same
    have fewer := @inWindow_le_recent _ _ _ key time window (time event) (key event) past taken
      start chosen inside
    have one : (inWindow key time start window (key event) [event]).length ≤ 1 :=
      List.length_filter_le _ [event]
    rw [List.length_append]
    omega
  · have none : inWindow key time start window sought [event] = [] :=
      List.filter_cons_of_neg (by simpa using holds)
    rw [none, List.append_nil]
    exact few

/-- Every window holds at most as many chosen events of a key as the limit. -/
theorem inWindow_chosen_le (start : Nat) (events : List Event) (chosen : taken.Sublist past)
    (few : (inWindow key time start window sought taken).length ≤ limit) :
    (inWindow key time start window sought
      (taken ++ chosenEvents key time window limit past events)).length ≤ limit := by
  induction events generalizing past taken with
  | nil =>
      unfold chosenEvents
      rw [List.append_nil]
      exact few
  | cons event rest ih =>
      unfold chosenEvents
      split
      · rename_i room
        rw [← List.append_assoc]
        exact ih (chosen.append_right [event]) (inWindow_concat_le chosen few room)
      · rw [List.nil_append]
        exact ih (chosen.trans (List.sublist_append_left past [event])) few

end AudioBlock.Foundation
