/-
Which states the breaker passes through over whole runs, and when it stops being open.

A call that fails while the breaker is open schedules a second timer beside the pending one.
Without such a failure at most one timer is pending, and it belongs to the latest opening.
-/
import AudioBlock.Resilience.CircuitBreaker

namespace AudioBlock.Resilience

open AudioBlock.Foundation

namespace BreakerRun

def firing (run : BreakerRun) : BreakerLabel → Option ResetTimer
  | .fire index => run.timers[index]?
  | _ => none

/-- What a step is to do: change the state as it is meant to, end an opening no earlier than
the full timeout after it, and let no timer of an earlier opening change anything. -/
structure Lawful (run : BreakerRun) (label : BreakerLabel) (after : BreakerRun) : Prop where
  keeps : run.breaker.state.Keeps after.breaker.state
  waited : run.breaker.state = .opened → after.breaker.state ≠ .opened →
    ∀ openedAt ∈ run.breaker.openedAt, openedAt + run.config.resetTimeoutMs ≤ run.now
  quiet : ∀ timer ∈ run.firing label, timer.opening ≠ run.openings →
    after.breaker.state = run.breaker.state

def StepsLawfully (run : BreakerRun) (label : BreakerLabel) : Prop :=
  ∀ after ∈ breakerStep run label, Lawful run label after

def NoLateFailure (run : BreakerRun) (label : BreakerLabel) : Prop :=
  label = .complete false → run.breaker.state ≠ .opened

instance (run : BreakerRun) (label : BreakerLabel) : Decidable (run.NoLateFailure label) :=
  inferInstanceAs (Decidable (_ → _))

structure Sound (run : BreakerRun) : Prop where
  spent : run.breaker.state ≠ .closed → run.config.failureThreshold ≤ run.breaker.failureCount
  single : run.timers.length ≤ 1
  latest : ∀ timer ∈ run.timers, timer.opening = run.openings ∧ run.breaker.state = .opened ∧
    ∀ openedAt ∈ run.breaker.openedAt, openedAt + run.config.resetTimeoutMs ≤ timer.due

variable {run after : BreakerRun} {label : BreakerLabel}

theorem create_sound (config : CircuitBreakerConfig) (now : Nat) : (create config now).Sound where
  spent notClosed := absurd rfl notClosed
  single := Nat.zero_le 1
  latest _ member := absurd member List.not_mem_nil

section

variable (sound : Sound run)
include sound

theorem Sound.idle (notOpened : run.breaker.state ≠ .opened) :
    run.timers = [] :=
  List.eq_nil_iff_forall_not_mem.mpr fun timer member =>
    notOpened (sound.latest timer member).2.1

/-! ### The operations -/

/-- What becomes of the breaker as a whole in a step without a late failure. -/
structure Advances (run after : BreakerRun) : Prop where
  sound : Sound after
  keeps : run.breaker.state.Keeps after.breaker.state
  holds : run.breaker.state = .opened → after.breaker.state = .opened

theorem Sound.recordSuccess (halfOpen : run.breaker.state = .halfOpen) :
    Advances run run.recordSuccess := by
  have idle : run.timers = [] := sound.idle (by rw [halfOpen]; decide)
  unfold BreakerRun.recordSuccess
  rw [if_pos halfOpen]
  refine ⟨⟨fun notClosed => absurd rfl notClosed, sound.single, ?_⟩, ?_, ?_⟩
  · intro timer member
    exact absurd (idle ▸ member) List.not_mem_nil
  · rw [halfOpen]
    exact Or.inr trivial
  · intro opened
    cases halfOpen.symm.trans opened

theorem Sound.recordFailure (notOpened : run.breaker.state ≠ .opened) :
    Advances run run.recordFailure := by
  have idle := sound.idle notOpened
  unfold BreakerRun.recordFailure
  dsimp only
  split
  · rename_i reached
    refine ⟨⟨fun _ => reached, ?_, ?_⟩, ?_, fun opened => absurd opened notOpened⟩
    · simp [idle]
    · intro timer member
      simp only [idle, List.nil_append, List.mem_singleton] at member
      subst member
      refine ⟨rfl, rfl, ?_⟩
      rintro openedAt ⟨⟩
      exact Nat.le_refl _
    · cases state : run.breaker.state with
      | closed | halfOpen => exact Or.inr trivial
      | opened => exact absurd state notOpened
  · refine ⟨⟨?_, sound.single, ?_⟩, .refl _, id⟩
    · exact fun notClosed => Nat.le_succ_of_le (sound.spent notClosed)
    · intro timer member
      exact absurd (idle ▸ member) List.not_mem_nil

theorem Sound.advances : Advances run run := ⟨sound, .refl _, id⟩

theorem Sound.completed {succeeded : Bool} (permitted : run.NoLateFailure (.complete succeeded)) :
    Advances run (run.completed succeeded) := by
  unfold BreakerRun.completed
  cases succeeded with
  | true =>
      rw [if_pos rfl]
      split
      · rename_i halfOpen
        exact sound.recordSuccess halfOpen
      · exact sound.advances
  | false => exact sound.recordFailure (permitted rfl)

theorem Sound.checked (healthy : Bool) :
    Advances run (run.checked healthy) := by
  unfold BreakerRun.checked
  cases healthy with
  | true =>
      rw [if_pos rfl]
      split
      · rename_i halfOpen
        exact sound.recordSuccess halfOpen
      · exact sound.advances
  | false =>
      rw [if_neg (by decide)]
      split
      · rename_i notOpened
        exact sound.recordFailure notOpened
      · exact sound.advances

end

theorem Advances.recount {moved : BreakerRun} (advances : Advances run moved)
    (config : after.config = moved.config) (timers : after.timers = moved.timers)
    (openings : after.openings = moved.openings)
    (state : after.breaker.state = moved.breaker.state)
    (openedAt : after.breaker.openedAt = moved.breaker.openedAt)
    (failures : after.breaker.failureCount = moved.breaker.failureCount) : Advances run after := by
  obtain ⟨⟨spent, single, latest⟩, keeps, holds⟩ := advances
  refine ⟨⟨?_, ?_, ?_⟩, ?_, ?_⟩
  · rw [state, config, failures]
    exact spent
  · rw [timers]
    exact single
  · rw [timers, openings, state, openedAt, config]
    exact latest
  · rw [state]
    exact keeps
  · rw [state]
    exact holds

theorem Sound.destroy (sound : Sound run) : Advances run run.destroy where
  sound :=
    { spent := sound.spent
      single := Nat.le_trans (List.length_filter_le _ _) sound.single
      latest := fun timer member => sound.latest timer (List.mem_of_mem_filter member) }
  keeps := .refl _
  holds := id

theorem Sound.fire {index : Nat} (sound : Sound run)
    (moved : breakerStep run (.fire index) = some after) :
    Sound after ∧ Lawful run (.fire index) after := by
  obtain ⟨timer, pending, fired⟩ := Option.bind_eq_some_iff.mp moved
  obtain ⟨due, same⟩ := Option.ite_none_right_eq_some.mp fired
  cases same
  obtain ⟨opening, opened, waited⟩ := sound.latest timer (List.mem_of_getElem? pending)
  obtain ⟨inside, _⟩ := List.getElem?_eq_some_iff.mp pending
  have none : run.timers.eraseIdx index = [] := by
    have length := List.length_eraseIdx_of_lt inside
    have single := sound.single
    exact List.eq_nil_of_length_eq_zero (by omega)
  refine ⟨⟨?_, ?_, ?_⟩, ⟨?_, ?_, ?_⟩⟩
  · exact fun _ => sound.spent (by rw [opened]; decide)
  · change (run.timers.eraseIdx index).length ≤ 1
    rw [none]
    exact Nat.zero_le 1
  · intro other member
    exact absurd (none ▸ member) List.not_mem_nil
  · rw [opened]
    exact Or.inr trivial
  · exact fun _ _ openedAt at_ => Nat.le_trans (waited openedAt at_) due
  · intro other found earlier
    cases pending.symm.trans found
    exact absurd opening earlier

theorem breakerStep_advances (sound : Sound run) (permitted : run.NoLateFailure label)
    (noTimer : run.firing label = none) (moved : breakerStep run label = some after) :
    Advances run after := by
  cases label with
  | elapse milliseconds =>
      cases moved
      exact sound.advances.recount rfl rfl rfl rfl rfl rfl
  | execute =>
      simp only [breakerStep] at moved
      split at moved
      · cases moved
        exact sound.advances
      · cases moved
        exact sound.advances.recount rfl rfl rfl rfl rfl rfl
  | complete succeeded =>
      obtain ⟨_, same⟩ := Option.ite_none_left_eq_some.mp moved
      cases same
      exact (sound.completed permitted).recount rfl rfl rfl rfl rfl rfl
  | startHealthChecks | stopHealthChecks =>
      cases moved
      exact sound.advances.recount rfl rfl rfl rfl rfl rfl
  | check =>
      obtain ⟨_, same⟩ := Option.ite_none_right_eq_some.mp moved
      cases same
      exact sound.advances.recount rfl rfl rfl rfl rfl rfl
  | checked healthy =>
      obtain ⟨_, same⟩ := Option.ite_none_left_eq_some.mp moved
      cases same
      exact (sound.checked healthy).recount rfl rfl rfl rfl rfl rfl
  | fire index =>
      obtain ⟨timer, pending, _⟩ := Option.bind_eq_some_iff.mp moved
      cases noTimer.symm.trans pending
  | destroy =>
      cases moved
      exact sound.destroy

theorem breakerStep_sound (sound : Sound run) (permitted : run.NoLateFailure label)
    (moved : breakerStep run label = some after) : Sound after ∧ Lawful run label after := by
  cases fires : run.firing label with
  | none =>
      have advances := breakerStep_advances sound permitted fires moved
      refine ⟨advances.sound, advances.keeps, ?_, ?_⟩
      · exact fun opened ended => absurd (advances.holds opened) ended
      · rw [fires]
        exact fun timer found => absurd found (Option.not_mem_none timer)
  | some timer =>
      cases label with
      | fire index => exact sound.fire moved
      | elapse _ | execute | complete _ | startHealthChecks | stopHealthChecks | check | checked _
      | destroy => cases fires

end BreakerRun

/-- Every step of a run without late failures is lawful. -/
theorem breakerMachine_lawful {config : CircuitBreakerConfig} {run after : BreakerRun}
    {label : BreakerLabel}
    (reached : (breakerMachine config).Reachable BreakerRun.NoLateFailure run)
    (permitted : run.NoLateFailure label) (moved : breakerStep run label = some after) :
    BreakerRun.Lawful run label after := by
  have sound : BreakerRun.Sound run := by
    refine reached.invariant BreakerRun.Sound ?_ ?_
    · rintro initial ⟨now, rfl⟩
      exact BreakerRun.create_sound config now
    · exact fun before label after known permitted moved =>
        (BreakerRun.breakerStep_sound known permitted moved).1
  exact (BreakerRun.breakerStep_sound sound permitted moved).2

/-! A breaker that opens after one failure, and probes after 1000 milliseconds. -/

def singleFailure : CircuitBreakerConfig := { failureThreshold := 1, resetTimeoutMs := 1000 }

/-- The failure of a call, the timeout, and a probe. -/
def recovery : List BreakerLabel :=
  [.execute, .complete false, .elapse 1000, .fire 0, .execute]

theorem breakerMachine_recovers :
    ∃ run, (breakerMachine singleFailure).run (.create singleFailure 0) recovery = some run ∧
      run.breaker.state = .halfOpen ∧
        ∀ after, breakerStep run (.complete true) = some after →
          BreakerRun.Lawful run (.complete true) after := by
  have executed : ∃ run, (breakerMachine singleFailure).run (.create singleFailure 0) recovery =
        some run ∧
      (breakerMachine singleFailure).Permits BreakerRun.NoLateFailure (.create singleFailure 0)
        recovery ∧
      run.breaker.state = .halfOpen ∧ run.NoLateFailure (.complete true) :=
    ⟨_, rfl, by decide, rfl, by decide⟩
  obtain ⟨run, ran, permitted, state, next⟩ := executed
  exact ⟨run, ran, state, fun after moved =>
    breakerMachine_lawful (.of_run recovery (.start ⟨0, rfl⟩) permitted ran) next moved⟩

/-- Two calls are in flight; one fails at 0, the other one at 900. -/
def lateFailure : List BreakerLabel :=
  [.execute, .execute, .complete false, .elapse 900, .complete false, .elapse 100, .fire 0,
    .execute, .complete true, .elapse 900]

/-- The timer of the first opening ends the second one after 100 milliseconds, and the timer
of the second opening takes the breaker from closed to half open. -/
theorem breakerMachine_leaves_early :
    ∃ run, (breakerMachine singleFailure).run (.create singleFailure 0)
        (lateFailure.take 6) = some run ∧
      run.breaker.state = .opened ∧ run.breaker.openedAt = some 900 ∧ run.now = 1000 ∧
      ¬BreakerRun.StepsLawfully run (.fire 0) ∧
      ∃ later, (breakerMachine singleFailure).run run (lateFailure.drop 6) = some later ∧
        later.breaker.state = .closed ∧
        (breakerStep later (.fire 0)).map (fun after => after.breaker.state) = some .halfOpen ∧
        ¬BreakerRun.StepsLawfully later (.fire 0) := by
  have executed : ∃ run, (breakerMachine singleFailure).run (.create singleFailure 0)
        (lateFailure.take 6) = some run ∧
      run.breaker.state = .opened ∧ run.breaker.openedAt = some 900 ∧ run.now = 1000 ∧
      run.config = singleFailure ∧
      (breakerStep run (.fire 0)).map (fun after => after.breaker.state) = some .halfOpen ∧
      ∃ later, (breakerMachine singleFailure).run run (lateFailure.drop 6) = some later ∧
        later.breaker.state = .closed ∧
        (breakerStep later (.fire 0)).map (fun after => after.breaker.state) = some .halfOpen :=
    ⟨_, rfl, rfl, rfl, rfl, rfl, rfl, _, rfl, rfl, rfl⟩
  obtain ⟨run, ran, opened, openedAt, now, config, fires, later, on, closed, reopens⟩ := executed
  refine ⟨run, ran, opened, openedAt, now, ?_, later, on, closed, reopens, ?_⟩
  · obtain ⟨after, moved, halfOpen⟩ := Option.map_eq_some_iff.mp fires
    intro lawful
    have waited := (lawful after moved).waited opened (by rw [halfOpen]; decide) 900 openedAt
    rw [config, now] at waited
    exact absurd waited (by decide)
  · obtain ⟨after, moved, halfOpen⟩ := Option.map_eq_some_iff.mp reopens
    intro lawful
    have keeps := (lawful after moved).keeps
    rw [closed, halfOpen] at keeps
    exact absurd keeps (by decide)

end AudioBlock.Resilience
