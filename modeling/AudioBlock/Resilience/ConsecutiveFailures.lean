/-
Which outcomes of calls made one after another open the breaker.

The opening reports consecutive failures, but a success changes the count of failures
only while the breaker is half-open.  A closed breaker therefore counts every failure.
-/
import AudioBlock.Resilience.CircuitBreaker
import Mathlib.Data.List.Induction
import Mathlib.Order.Nat

namespace AudioBlock.Resilience

open AudioBlock.Foundation

def streak (outcomes : List Bool) : Nat :=
  outcomes.foldl (fun failures succeeded => if succeeded then 0 else failures + 1) 0

variable (outcomes : List Bool)

theorem streak_success : streak (outcomes ++ [true]) = 0 := by
  simp [streak]

theorem streak_failure :
    streak (outcomes ++ [false]) = streak outcomes + 1 := by
  simp [streak]

theorem streak_le : streak outcomes ≤ outcomes.count false := by
  induction outcomes using List.reverseRecOn with
  | nil => exact Nat.le_refl 0
  | append_singleton outcomes succeeded ih =>
      cases succeeded with
      | true => simp [streak_success]
      | false =>
          rw [streak_failure, List.count_append]
          simpa using ih

theorem streak_replicate (successes failures : Nat) :
    streak (List.replicate successes true ++ List.replicate failures false) = failures := by
  induction failures with
  | zero =>
      cases successes with
      | zero => rfl
      | succ successes =>
          rw [List.replicate_succ', List.replicate_zero, List.append_nil, streak_success]
  | succ failures ih => rw [List.replicate_succ', ← List.append_assoc, streak_failure, ih]

theorem of_streak_eq_count (same : streak outcomes = outcomes.count false) :
    ∃ successes, outcomes =
      List.replicate successes true ++ List.replicate (outcomes.count false) false := by
  induction outcomes using List.reverseRecOn with
  | nil => exact ⟨0, rfl⟩
  | append_singleton outcomes succeeded ih =>
      cases succeeded with
      | true =>
          -- A success at the end leaves no streak, so nothing has failed.
          rw [streak_success] at same
          have spared : ∀ outcome ∈ outcomes ++ [true], outcome = true := by
            intro outcome among
            cases outcome with
            | true => rfl
            | false => exact absurd among (List.count_eq_zero.mp same.symm)
          refine ⟨(outcomes ++ [true]).length, ?_⟩
          rw [← same, List.replicate_zero, List.append_nil]
          exact List.eq_replicate_iff.mpr ⟨rfl, spared⟩
      | false =>
          have counted : (outcomes ++ [false]).count false = outcomes.count false + 1 := by
            simp [List.count_append]
          rw [streak_failure, counted] at same
          obtain ⟨successes, split⟩ := ih (by omega)
          refine ⟨successes, ?_⟩
          rw [counted, List.replicate_succ', ← List.append_assoc, ← split]

namespace BreakerRun

/-- One call that ends before the next begins. -/
def executeCall (run : BreakerRun) (succeeded : Bool) : BreakerRun :=
  if run.breaker.state = .opened then run else run.completed succeeded

def executeAll (run : BreakerRun) (outcomes : List Bool) : BreakerRun :=
  outcomes.foldl executeCall run

variable (run : BreakerRun)

theorem executeCall_run (succeeded : Bool) (admits : run.breaker.state ≠ .opened) :
    (breakerMachine run.config).run run [.execute, .complete succeeded] =
      some (run.executeCall succeeded) := by
  have begun : (breakerMachine run.config).step run .execute =
      some { run with calls := run.calls + 1 } := if_neg admits
  rw [Machine.run_cons begun]
  simp only [Machine.run, breakerMachine, breakerStep, executeCall, if_neg admits,
    Nat.add_eq_zero_iff, Nat.one_ne_zero, and_false, if_false, Nat.add_sub_cancel]
  simp only [completed, recordSuccess, recordFailure, transitionTo]
  split_ifs <;> rfl

/-- How far the count has come, with the state that goes with it. -/
def Counted (threshold failures : Nat) (breaker : CircuitBreaker) : Prop :=
  (breaker.state = .closed ∧ breaker.failureCount = failures ∧
      (failures = 0 ∨ failures < threshold)) ∨
    (breaker.state = .opened ∧ 0 < failures ∧ threshold ≤ failures)

theorem Counted.success {run : BreakerRun} {failures : Nat}
    (counted : Counted run.config.failureThreshold failures run.breaker) :
    run.executeCall true = run := by
  rcases counted with ⟨closed, _count, _below⟩ | ⟨opened, _some, _reached⟩
  · simp [executeCall, completed, closed]
  · exact if_pos opened

theorem executeCall_config (succeeded : Bool) :
    (run.executeCall succeeded).config = run.config := by
  simp only [executeCall, completed, recordSuccess, recordFailure, transitionTo]
  split_ifs <;> rfl

theorem Counted.failure {run : BreakerRun} {failures : Nat}
    (counted : Counted run.config.failureThreshold failures run.breaker) :
    Counted run.config.failureThreshold (failures + 1) (run.executeCall false).breaker := by
  rcases counted with ⟨closed, count, _below⟩ | ⟨opened, _some, reached⟩
  · have admits : run.breaker.state ≠ .opened := by simp [closed]
    by_cases reached : run.config.failureThreshold ≤ failures + 1
    · refine Or.inr ⟨?_, Nat.succ_pos failures, reached⟩
      simp [executeCall, completed, recordFailure, admits, count, reached]
    · refine Or.inl ⟨?_, ?_, Or.inr (Nat.lt_of_not_le reached)⟩
      · simp [executeCall, completed, recordFailure, closed, count, reached]
      · simp [executeCall, completed, recordFailure, closed, count, reached]
  · have stays : run.executeCall false = run := if_pos opened
    rw [stays]
    exact Or.inr ⟨opened, Nat.succ_pos failures, Nat.le_succ_of_le reached⟩

theorem executeAll_counted (closed : run.breaker.state = .closed)
    (fresh : run.breaker.failureCount = 0) (outcomes : List Bool) :
    (run.executeAll outcomes).config = run.config ∧
      Counted run.config.failureThreshold (outcomes.count false)
        (run.executeAll outcomes).breaker := by
  induction outcomes using List.reverseRecOn with
  | nil => exact ⟨rfl, Or.inl ⟨closed, fresh, Or.inl rfl⟩⟩
  | append_singleton outcomes succeeded ih =>
      obtain ⟨sameConfig, counted⟩ := ih
      rw [← sameConfig] at counted
      have stepped : run.executeAll (outcomes ++ [succeeded]) =
          (run.executeAll outcomes).executeCall succeeded := by
        simp only [executeAll, List.foldl_append, List.foldl_cons, List.foldl_nil]
      rw [stepped]
      refine ⟨(executeCall_config _ _).trans sameConfig, ?_⟩
      rw [← sameConfig]
      cases succeeded with
      | true =>
          rw [counted.success]
          simpa [List.count_append] using counted
      | false =>
          have more : (outcomes ++ [false]).count false = outcomes.count false + 1 := by
            simp [List.count_append]
          rw [more]
          exact counted.failure

theorem executeAll_opened_iff (closed : run.breaker.state = .closed)
    (fresh : run.breaker.failureCount = 0) (positive : 0 < run.config.failureThreshold)
    (outcomes : List Bool) :
    (run.executeAll outcomes).breaker.state = .opened ↔
      run.config.failureThreshold ≤ outcomes.count false := by
  rcases (run.executeAll_counted closed fresh outcomes).2 with
    ⟨shut, _count, below⟩ | ⟨opened, _some, reached⟩
  · rw [shut]
    constructor
    · intro impossible
      cases impossible
    · intro reached
      omega
  · exact ⟨fun _opens => reached, fun _reached => opened⟩

/-- After every outcome the breaker is open exactly if the threshold has been met by
failures with no success between them. -/
def OpensConsecutively (run : BreakerRun) (outcomes : List Bool) : Prop :=
  ∀ ended, (run.executeAll (outcomes.take ended)).breaker.state = .opened ↔
    ∃ before ≤ ended, run.config.failureThreshold ≤ streak (outcomes.take before)

end BreakerRun

/-- The failures stay below the threshold, or the first of them come in one row. -/
def Bunched (threshold : Nat) (outcomes : List Bool) : Prop :=
  outcomes.count false < threshold ∨
    ∃ successes rest, outcomes =
      List.replicate successes true ++ (List.replicate threshold false ++ rest)

theorem count_take_mono {before ended : Nat} (earlier : before ≤ ended) :
    (outcomes.take before).count false ≤ (outcomes.take ended).count false :=
  (List.take_sublist_take_left earlier).count_le false

theorem exists_count_take {threshold : Nat} {outcomes : List Bool}
    (reached : threshold ≤ outcomes.count false) :
    ∃ ended, (outcomes.take ended).count false = threshold := by
  induction outcomes using List.reverseRecOn with
  | nil => exact ⟨0, (Nat.le_zero.mp reached).symm⟩
  | append_singleton outcomes succeeded ih =>
      by_cases already : threshold ≤ outcomes.count false
      · obtain ⟨ended, exactly⟩ := ih already
        refine ⟨min ended outcomes.length, ?_⟩
        rw [List.take_append_of_le_length (Nat.min_le_right _ _), ← exactly]
        congr 1
        rw [List.take_eq_take_iff]
        omega
      · refine ⟨(outcomes ++ [succeeded]).length, ?_⟩
        rw [List.take_length]
        cases succeeded with
        | true =>
            simp only [List.count_append] at reached
            simp at reached
            omega
        | false =>
            simp only [List.count_append] at reached ⊢
            simp at reached ⊢
            omega

theorem Bunched.met {threshold ended : Nat} {outcomes : List Bool}
    (bunched : Bunched threshold outcomes) (positive : 0 < threshold)
    (reached : threshold ≤ (outcomes.take ended).count false) :
    ∃ before ≤ ended, threshold ≤ streak (outcomes.take before) := by
  rcases bunched with below | ⟨successes, rest, rfl⟩
  · have fewer := (List.take_sublist ended outcomes).count_le false
    omega
  · by_cases later : successes + threshold ≤ ended
    · refine ⟨successes + threshold, later, ?_⟩
      have taken : (List.replicate successes true ++ (List.replicate threshold false ++ rest)).take
          (successes + threshold) =
            List.replicate successes true ++ List.replicate threshold false := by
        rw [← List.append_assoc, List.take_left' (by simp)]
      rw [taken, streak_replicate]
    · exfalso
      have short : ended - successes - threshold = 0 := by omega
      rw [List.take_append, List.take_append] at reached
      simp [List.count_append, List.count_replicate, short] at reached
      omega

theorem executeAll_opensConsecutively_iff (run : BreakerRun)
    (closed : run.breaker.state = .closed) (fresh : run.breaker.failureCount = 0)
    (outcomes : List Bool) :
    run.OpensConsecutively outcomes ↔
      0 < run.config.failureThreshold ∧ Bunched run.config.failureThreshold outcomes := by
  constructor
  · intro consecutive
    have positive : 0 < run.config.failureThreshold := by
      refine Nat.pos_of_ne_zero fun none => ?_
      have opened := (consecutive 0).mpr ⟨0, Nat.le_refl 0, by simp [none]⟩
      rw [List.take_zero] at opened
      exact absurd (closed.symm.trans opened) (by decide)
    refine ⟨positive, ?_⟩
    by_cases reached : run.config.failureThreshold ≤ outcomes.count false
    · -- At the failure that opens the breaker the law asks for a streak of the same length.
      obtain ⟨ended, exactly⟩ := exists_count_take reached
      have opened := (run.executeAll_opened_iff closed fresh positive (outcomes.take ended)).mpr
        (Nat.le_of_eq exactly.symm)
      obtain ⟨before, earlier, met⟩ := (consecutive ended).mp opened
      have short := streak_le (outcomes.take before)
      have fewer := count_take_mono outcomes earlier
      have all : streak (outcomes.take before) = (outcomes.take before).count false := by omega
      obtain ⟨successes, split⟩ := of_streak_eq_count _ all
      have failures : (outcomes.take before).count false = run.config.failureThreshold := by omega
      rw [failures] at split
      refine Or.inr ⟨successes, outcomes.drop before, ?_⟩
      rw [← List.append_assoc, ← split, List.take_append_drop]
    · exact Or.inl (Nat.lt_of_not_le reached)
  · rintro ⟨positive, bunched⟩ ended
    rw [run.executeAll_opened_iff closed fresh positive]
    constructor
    · exact bunched.met positive
    · rintro ⟨before, earlier, met⟩
      have short := streak_le (outcomes.take before)
      have fewer := count_take_mono outcomes earlier
      omega

def newBreaker : BreakerRun :=
  BreakerRun.create { failureThreshold := 3, resetTimeoutMs := 30000 } 0

theorem newBreaker_opensConsecutively :
    newBreaker.OpensConsecutively [true, false, false, false, true] :=
  (executeAll_opensConsecutively_iff newBreaker rfl rfl _).mpr
    ⟨by decide, Or.inr ⟨1, [true], rfl⟩⟩

/-- Three failures with a success after each open the breaker. -/
theorem newBreaker_opens_intermittently :
    ¬ newBreaker.OpensConsecutively [false, true, false, true, false, true] := by
  intro consecutive
  obtain ⟨before, earlier, met⟩ := (consecutive 6).mp rfl
  have short : ∀ before < 7,
      streak ([false, true, false, true, false, true].take before) < 3 := by decide
  exact Nat.not_le_of_lt (short before (Nat.lt_succ_of_le earlier)) met

end AudioBlock.Resilience
