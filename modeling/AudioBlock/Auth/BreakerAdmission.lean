/-
What the breaker in front of Privy's API admits over whole runs.

The breaker keeps its promises as long as no call succeeds while it is open.
-/
import Mathlib.Data.List.Perm.Basic
import AudioBlock.Auth.PrivyCircuitBreaker

namespace AudioBlock.Auth

open AudioBlock.Foundation

namespace BreakerRun

def AdmitsCooled (run : BreakerRun) (label : BreakerLabel) : Prop :=
  label = .execute → (run.breaker.beginExecute run.now).2.isOk = true →
    Cooled run.openings run.breaker.resetTimeoutMs run.now

instance (run : BreakerRun) (label : BreakerLabel) : Decidable (run.AdmitsCooled label) :=
  inferInstanceAs (Decidable (_ → _ → _))

def Lawful (run : BreakerRun) (label : BreakerLabel) : Prop :=
  run.AdmitsCooled label ∧
    ∀ after ∈ breakerStep run label,
      run.breaker.state.Keeps after.breaker.state ∧ after.probes ≤ 1

instance (run : BreakerRun) (label : BreakerLabel) : Decidable (run.Lawful label) :=
  inferInstanceAs (Decidable (_ ∧ ∀ after ∈ breakerStep run label, _))

def NoLateSuccess (run : BreakerRun) : BreakerLabel → Prop
  | .complete index true => ∀ _admitted ∈ run.calls[index]?, run.breaker.state ≠ .opened
  | _ => True

instance (run : BreakerRun) : (label : BreakerLabel) → Decidable (run.NoLateSuccess label)
  | .complete index true => inferInstanceAs (Decidable (∀ _admitted ∈ run.calls[index]?, _))
  | .elapse _ | .getState | .execute | .complete _ false => isTrue trivial

end BreakerRun

namespace CircuitBreaker

variable (breaker : CircuitBreaker) (now : Nat)

/-! ### What the operations make of the state -/

variable (admitted next : CircuitState) (succeeded : Bool)

@[simp] theorem transition_state : (breaker.transition next).state = next := by
  unfold transition
  split
  · assumption
  · rfl

@[simp] theorem transition_openedAt :
    (breaker.transition next).openedAt = breaker.openedAt := by
  unfold transition
  split <;> rfl

@[simp] theorem transition_probeInFlight :
    (breaker.transition next).probeInFlight = breaker.probeInFlight := by
  unfold transition
  split <;> rfl

@[simp] theorem transition_resetTimeoutMs :
    (breaker.transition next).resetTimeoutMs = breaker.resetTimeoutMs := by
  unfold transition
  split <;> rfl

theorem getState_cases :
    breaker.getState now = breaker ∧
        (breaker.state = .opened → now < breaker.openedAt + breaker.resetTimeoutMs) ∨
      breaker.getState now = breaker.transition .halfOpen ∧ breaker.state = .opened ∧
        breaker.openedAt + breaker.resetTimeoutMs ≤ now := by
  unfold getState
  split
  · rename_i due
    exact Or.inr ⟨rfl, due⟩
  · rename_i early
    exact Or.inl ⟨rfl, fun opened => Nat.lt_of_not_le fun passed => early ⟨opened, passed⟩⟩

@[simp] theorem getState_probeInFlight :
    (breaker.getState now).probeInFlight = breaker.probeInFlight := by
  rcases breaker.getState_cases now with ⟨same, _⟩ | ⟨same, _⟩ <;> rw [same]
  exact transition_probeInFlight breaker .halfOpen

/-- What an attempt to execute a call finds. -/
inductive Admission : CircuitBreaker → Except Nat CircuitState → Prop
  | refused (wait : Nat) : Admission (breaker.getState now) (.error wait)
  | closed (state : (breaker.getState now).state = .closed) :
      Admission (breaker.getState now) (.ok .closed)
  | probe (state : (breaker.getState now).state = .halfOpen)
      (free : breaker.probeInFlight = false) :
      Admission { breaker.getState now with probeInFlight := true } (.ok .halfOpen)

theorem beginExecute_admission :
    Admission breaker now (breaker.beginExecute now).1 (breaker.beginExecute now).2 := by
  unfold beginExecute
  dsimp only
  split
  · exact .refused _
  · rename_i state
    split
    · exact .refused _
    · rename_i free
      rw [getState_probeInFlight, Bool.not_eq_true] at free
      exact .probe state free
  · rename_i state
    exact .closed state

theorem recordSuccess_state : breaker.recordSuccess.state = .closed := by
  unfold recordSuccess
  dsimp only
  split
  · exact transition_state _ _
  · rename_i closed
    exact not_not.mp closed

@[simp] theorem recordSuccess_probeInFlight :
    breaker.recordSuccess.probeInFlight = breaker.probeInFlight := by
  unfold recordSuccess
  dsimp only
  split
  · exact transition_probeInFlight _ _
  · rfl

@[simp] theorem recordSuccess_resetTimeoutMs :
    breaker.recordSuccess.resetTimeoutMs = breaker.resetTimeoutMs := by
  unfold recordSuccess
  dsimp only
  split
  · exact transition_resetTimeoutMs _ _
  · rfl

theorem recordFailure_counted : ∃ failures,
    (breaker.state = .halfOpen → failures = breaker.failureThreshold) ∧
      breaker.recordFailure now =
        if breaker.state = .opened then
          { breaker with consecutiveFailures := failures, openedAt := now }
        else if breaker.failureThreshold ≤ failures then
          { breaker with consecutiveFailures := failures, openedAt := now }.transition .opened
        else { breaker with consecutiveFailures := failures } :=
  ⟨_, fun probing => if_pos probing, rfl⟩

@[simp] theorem recordFailure_probeInFlight :
    (breaker.recordFailure now).probeInFlight = breaker.probeInFlight := by
  obtain ⟨failures, _, counted⟩ := breaker.recordFailure_counted now
  rw [counted]
  split
  · rfl
  · split
    · exact transition_probeInFlight _ _
    · rfl

@[simp] theorem recordFailure_resetTimeoutMs :
    (breaker.recordFailure now).resetTimeoutMs = breaker.resetTimeoutMs := by
  obtain ⟨failures, _, counted⟩ := breaker.recordFailure_counted now
  rw [counted]
  split
  · rfl
  · split
    · exact transition_resetTimeoutMs _ _
    · rfl

theorem recordFailure_cases :
    (breaker.recordFailure now).state = .opened ∧ (breaker.recordFailure now).openedAt = now ∨
      (breaker.recordFailure now).state = breaker.state ∧ breaker.state = .closed := by
  obtain ⟨failures, probing, counted⟩ := breaker.recordFailure_counted now
  rw [counted]
  split
  · rename_i opened
    exact Or.inl ⟨opened, rfl⟩
  · rename_i notOpened
    split
    · exact Or.inl ⟨transition_state _ _, transition_openedAt _ _⟩
    · rename_i below
      refine Or.inr ⟨rfl, ?_⟩
      cases state : breaker.state with
      | closed => rfl
      | opened => exact absurd state notOpened
      | halfOpen => exact absurd (Nat.le_of_eq (probing state).symm) below

@[simp] theorem settle_state :
    (breaker.settle now admitted succeeded).state =
      if succeeded then .closed else (breaker.recordFailure now).state := by
  unfold settle
  cases succeeded with
  | true =>
      simp only [if_true]
      split <;> exact recordSuccess_state breaker
  | false =>
      simp only [Bool.false_eq_true, if_false]
      split <;> rfl

@[simp] theorem settle_resetTimeoutMs :
    (breaker.settle now admitted succeeded).resetTimeoutMs = breaker.resetTimeoutMs := by
  unfold settle
  cases succeeded with
  | true =>
      simp only [if_true]
      split <;> exact recordSuccess_resetTimeoutMs breaker
  | false =>
      simp only [Bool.false_eq_true, if_false]
      split <;> exact recordFailure_resetTimeoutMs breaker now

@[simp] theorem settle_openedAt :
    (breaker.settle now admitted false).openedAt = (breaker.recordFailure now).openedAt := by
  unfold settle
  simp only [Bool.false_eq_true, if_false]
  split <;> rfl

theorem settle_probeInFlight :
    (breaker.settle now admitted succeeded).probeInFlight =
      if admitted = .halfOpen then false else breaker.probeInFlight := by
  unfold settle
  cases succeeded with
  | true =>
      simp only [if_true]
      split
      · rfl
      · exact recordSuccess_probeInFlight breaker
  | false =>
      simp only [Bool.false_eq_true, if_false]
      split
      · rfl
      · exact recordFailure_probeInFlight breaker now

end CircuitBreaker

namespace BreakerRun

variable {run after : BreakerRun} {label : BreakerLabel}

structure Sound (run : BreakerRun) : Prop where
  past : ∀ opening ∈ run.openings, opening ≤ run.now
  held : run.breaker.state = .opened → ∀ opening ∈ run.openings, opening ≤ run.breaker.openedAt
  cooled : run.breaker.state ≠ .opened →
    Cooled run.openings run.breaker.resetTimeoutMs run.now
  counted : run.probes = run.breaker.probeInFlight.toNat

theorem create_sound (options : CircuitBreakerOptions) (now : Nat) : (create options now).Sound := by
  unfold create CircuitBreaker.create
  cases options.startsOpen with
  | true =>
      refine ⟨?_, ?_, fun notOpened => absurd rfl notOpened, rfl⟩
      · exact fun opening member => Nat.le_of_eq (List.mem_singleton.mp member)
      · exact fun _ opening member => Nat.le_of_eq (List.mem_singleton.mp member)
  | false =>
      refine ⟨?_, ?_, ?_, rfl⟩
      · exact fun opening member => absurd member List.not_mem_nil
      · exact fun _ opening member => absurd member List.not_mem_nil
      · exact fun _ opening member => absurd member List.not_mem_nil

theorem Sound.elapse (sound : Sound run) (milliseconds : Nat) :
    Sound { run with now := run.now + milliseconds } where
  past opening member := Nat.le_add_right_of_le (sound.past opening member)
  held := sound.held
  cooled notOpened := (sound.cooled notOpened).later milliseconds
  counted := sound.counted

theorem withBreaker_openings (run : BreakerRun) (breaker : CircuitBreaker)
    (same : run.breaker.state = .opened ∨ breaker.state ≠ .opened) :
    (run.withBreaker breaker).openings = run.openings :=
  if_neg fun ⟨before, now⟩ => same.elim before (fun not => not now)

theorem Sound.getState (sound : Sound run) :
    Sound (run.withBreaker (run.breaker.getState run.now)) ∧
      run.breaker.state.Keeps (run.breaker.getState run.now).state := by
  rcases run.breaker.getState_cases run.now with ⟨same, _⟩ | ⟨same, opened, due⟩
  · rw [same]
    have openings : (run.withBreaker run.breaker).openings = run.openings :=
      withBreaker_openings run run.breaker (Decidable.em _)
    have unchanged : run.withBreaker run.breaker = run :=
      congrArg (fun openings => { run with openings }) openings
    rw [unchanged]
    exact ⟨sound, .refl _⟩
  · rw [same]
    have state := run.breaker.transition_state .halfOpen
    have openings := withBreaker_openings run (run.breaker.transition .halfOpen) (Or.inl opened)
    refine ⟨⟨?_, ?_, ?_, ?_⟩, ?_⟩
    · rw [openings]
      exact sound.past
    · intro stillOpened
      cases state.symm.trans stillOpened
    · intro _
      rw [openings]
      change Cooled run.openings (run.breaker.transition .halfOpen).resetTimeoutMs run.now
      rw [CircuitBreaker.transition_resetTimeoutMs]
      exact .of_latest (sound.held opened) due
    · change run.probes = (run.breaker.transition .halfOpen).probeInFlight.toNat
      rw [CircuitBreaker.transition_probeInFlight]
      exact sound.counted
    · rw [state, opened]
      exact Or.inr trivial

theorem Sound.withCalls (sound : Sound run) (calls : List CircuitState) (probing : Bool)
    (counted : calls.count .halfOpen = probing.toNat) :
    Sound { run with calls, breaker := { run.breaker with probeInFlight := probing } } where
  past := sound.past
  held := sound.held
  cooled := sound.cooled
  counted := counted

theorem Sound.probes_le (sound : Sound run) : run.probes ≤ 1 :=
  Nat.le_trans (Nat.le_of_eq sound.counted) (Bool.toNat_le _)

theorem execute_cases (moved : breakerStep run .execute = some after) :
    after = run.withBreaker (run.breaker.getState run.now) ∨
      after = { run.withBreaker (run.breaker.getState run.now) with
        calls := run.calls ++ [.closed] } ∨
      run.breaker.probeInFlight = false ∧
        after = { run.withBreaker { run.breaker.getState run.now with probeInFlight := true } with
          calls := run.calls ++ [.halfOpen] } := by
  have admission := run.breaker.beginExecute_admission run.now
  unfold breakerStep at moved
  generalize run.breaker.beginExecute run.now = admitted at admission moved
  obtain ⟨breaker, outcome⟩ := admitted
  dsimp only at admission moved
  cases admission with
  | refused wait => exact Or.inl (Option.some.inj moved).symm
  | closed state => exact Or.inr (Or.inl (Option.some.inj moved).symm)
  | probe state free => exact Or.inr (Or.inr ⟨free, (Option.some.inj moved).symm⟩)

theorem Sound.execute (sound : Sound run) (moved : breakerStep run .execute = some after) :
    Sound after ∧ run.breaker.state.Keeps after.breaker.state := by
  obtain ⟨looked, keeps⟩ := sound.getState
  have counted := looked.counted
  have kept := run.breaker.getState_probeInFlight run.now
  rcases execute_cases moved with rfl | rfl | ⟨free, rfl⟩
  · exact ⟨looked, keeps⟩
  · refine ⟨looked.withCalls _ (run.breaker.getState run.now).probeInFlight ?_, keeps⟩
    rw [List.count_append, List.count_singleton, if_neg (by decide), Nat.add_zero]
    exact counted
  · refine ⟨looked.withCalls _ true ?_, keeps⟩
    change run.calls.count .halfOpen = (run.breaker.getState run.now).probeInFlight.toNat at counted
    rw [List.count_append, List.count_singleton_self, counted, kept, free]
    rfl

theorem Sound.admitsCooled (sound : Sound run) : run.AdmitsCooled label := by
  rintro rfl isOk
  obtain ⟨looked, _⟩ := sound.getState
  have admission := run.breaker.beginExecute_admission run.now
  have cooled : (run.breaker.getState run.now).state ≠ .opened →
      Cooled run.openings run.breaker.resetTimeoutMs run.now := by
    intro notOpened
    have openings := withBreaker_openings run _ (Or.inr notOpened)
    have reset : (run.breaker.getState run.now).resetTimeoutMs = run.breaker.resetTimeoutMs := by
      rcases run.breaker.getState_cases run.now with ⟨same, _⟩ | ⟨same, _⟩ <;> rw [same]
      exact CircuitBreaker.transition_resetTimeoutMs _ _
    have now := looked.cooled notOpened
    rw [openings] at now
    change Cooled run.openings (run.breaker.getState run.now).resetTimeoutMs run.now at now
    rw [reset] at now
    exact now
  generalize run.breaker.beginExecute run.now = admitted at admission isOk
  obtain ⟨breaker, outcome⟩ := admitted
  cases admission with
  | refused wait => cases isOk
  | closed state | probe state free => exact cooled (by rw [state]; decide)

variable {calls : List CircuitState} {index : Nat}

theorem count_eraseIdx {admitted : CircuitState} (present : calls[index]? = some admitted) :
    calls.count .halfOpen =
      (calls.eraseIdx index).count .halfOpen + if admitted = .halfOpen then 1 else 0 := by
  obtain ⟨inside, same⟩ := List.getElem?_eq_some_iff.mp present
  have permuted := (List.getElem_cons_eraseIdx_perm inside).count_eq CircuitState.halfOpen
  rw [same, List.count_cons] at permuted
  simp only [beq_iff_eq] at permuted
  exact permuted.symm

section

variable (sound : Sound run)
include sound

theorem Sound.staysShut {breaker : CircuitBreaker} (before : run.breaker.state ≠ .opened)
    (after : breaker.state ≠ .opened)
    (reset : breaker.resetTimeoutMs = run.breaker.resetTimeoutMs)
    (counted : calls.count .halfOpen = breaker.probeInFlight.toNat) :
    Sound { run.withBreaker breaker with calls } := by
  have openings := withBreaker_openings run breaker (Or.inr after)
  refine ⟨?_, fun opened => absurd opened after, ?_, counted⟩
  · rw [openings]
    exact sound.past
  · intro _
    change Cooled (run.withBreaker breaker).openings breaker.resetTimeoutMs run.now
    rw [openings, reset]
    exact sound.cooled before

theorem Sound.opens {breaker : CircuitBreaker} (opened : breaker.state = .opened)
    (openedAt : breaker.openedAt = run.now)
    (counted : calls.count .halfOpen = breaker.probeInFlight.toNat) :
    Sound { run.withBreaker breaker with calls } := by
  have known : ∀ opening ∈ (run.withBreaker breaker).openings, opening ≤ run.now := by
    intro opening member
    unfold withBreaker at member
    dsimp only at member
    split at member
    · rcases List.mem_append.mp member with old | new
      · exact sound.past opening old
      · exact Nat.le_of_eq (List.mem_singleton.mp new)
    · exact sound.past opening member
  refine ⟨known, ?_, fun notOpened => absurd opened notOpened, counted⟩
  intro _
  change ∀ opening ∈ _, opening ≤ breaker.openedAt
  rw [openedAt]
  exact known

theorem Sound.settle_counted {admitted : CircuitState}
    (present : run.calls[index]? = some admitted) (succeeded : Bool) :
    (run.calls.eraseIdx index).count .halfOpen =
      (run.breaker.settle run.now admitted succeeded).probeInFlight.toNat := by
  have removed := count_eraseIdx present
  have total := sound.counted
  have single := Bool.toNat_le run.breaker.probeInFlight
  unfold probes at total
  rw [run.breaker.settle_probeInFlight run.now admitted succeeded]
  split at removed
  · rename_i probe
    rw [if_pos probe, Bool.toNat_false]
    omega
  · rename_i noProbe
    rw [if_neg noProbe]
    omega

theorem Sound.complete {succeeded : Bool}
    (permitted : run.NoLateSuccess (.complete index succeeded))
    (moved : breakerStep run (.complete index succeeded) = some after) :
    Sound after ∧ run.breaker.state.Keeps after.breaker.state := by
  obtain ⟨admitted, present, rfl⟩ := Option.map_eq_some_iff.mp moved
  have reset := run.breaker.settle_resetTimeoutMs run.now admitted succeeded
  have counted := sound.settle_counted present succeeded
  have state := run.breaker.settle_state run.now admitted succeeded
  cases succeeded with
  | true =>
      have notOpened := permitted admitted present
      rw [if_pos rfl] at state
      refine ⟨sound.staysShut notOpened (by rw [state]; decide) reset counted, ?_⟩
      change run.breaker.state.Keeps (run.breaker.settle run.now admitted true).state
      rw [state]
      cases before : run.breaker.state with
      | closed => exact .refl _
      | opened => exact absurd before notOpened
      | halfOpen => exact Or.inr trivial
  | false =>
      rw [if_neg (by decide)] at state
      rcases run.breaker.recordFailure_cases run.now with ⟨opened, openedAt⟩ | ⟨same, closed⟩
      · have since : (run.breaker.settle run.now admitted false).openedAt = run.now := by
          rw [CircuitBreaker.settle_openedAt, openedAt]
        refine ⟨sound.opens (state.trans opened) since counted, ?_⟩
        change run.breaker.state.Keeps (run.breaker.settle run.now admitted false).state
        rw [state, opened]
        cases run.breaker.state with
        | opened => exact .refl _
        | closed | halfOpen => exact Or.inr trivial
      · have notOpened : run.breaker.state ≠ .opened := by
          rw [closed]
          decide
        have unchanged := state.trans same
        refine ⟨sound.staysShut notOpened (unchanged ▸ notOpened) reset counted, ?_⟩
        change run.breaker.state.Keeps (run.breaker.settle run.now admitted false).state
        rw [unchanged]
        exact .refl _

theorem breakerStep_sound (permitted : run.NoLateSuccess label)
    (moved : breakerStep run label = some after) :
    Sound after ∧ run.breaker.state.Keeps after.breaker.state := by
  cases label with
  | elapse milliseconds =>
      cases moved
      exact ⟨sound.elapse milliseconds, .refl _⟩
  | getState =>
      cases moved
      exact sound.getState
  | execute => exact sound.execute moved
  | complete index succeeded => exact sound.complete permitted moved

theorem Sound.lawful_iff (label : BreakerLabel) :
    run.NoLateSuccess label ↔ run.Lawful label := by
  constructor
  · intro permitted
    refine ⟨sound.admitsCooled, fun after moved => ?_⟩
    obtain ⟨next, keeps⟩ := breakerStep_sound sound permitted moved
    exact ⟨keeps, next.probes_le⟩
  · rintro ⟨_, keeps⟩
    cases label with
    | elapse _ | getState | execute => trivial
    | complete index succeeded =>
        cases succeeded with
        | false => trivial
        | true =>
            intro admitted present opened
            obtain ⟨changed, _⟩ := keeps _ (Option.map_eq_some_iff.mpr ⟨admitted, present, rfl⟩)
            change run.breaker.state.Keeps
              (run.breaker.settle run.now admitted true).state at changed
            rw [CircuitBreaker.settle_state, if_pos rfl, opened] at changed
            exact absurd changed (by decide)

end

end BreakerRun

/-- The breaker keeps its promises in a run exactly if no call of the run succeeds while the
breaker is open. -/
theorem breakerMachine_lawful_iff (options : CircuitBreakerOptions) (now : Nat)
    (labels : List BreakerLabel) :
    (breakerMachine options).Permits BreakerRun.Lawful (.create options now) labels ↔
      (breakerMachine options).Permits BreakerRun.NoLateSuccess (.create options now) labels :=
  (Machine.permits_iff BreakerRun.Sound (fun _ => True)
    (fun _ label sound _ => sound.lawful_iff label)
    (fun _ _ _ sound _ permitted moved => (BreakerRun.breakerStep_sound sound permitted moved).1)
    labels (BreakerRun.create_sound options now) (fun _ _ => trivial)).symm

/-! Two calls are in flight when the first of them fails and opens the breaker; the other
one succeeds. -/

def lateSuccess : List BreakerLabel :=
  [.execute, .execute, .complete 0 false, .elapse 1, .complete 0 true, .execute]

def singleFailure : CircuitBreakerOptions :=
  { failureThreshold := 1, resetTimeoutMs := 30000, startsOpen := false }

theorem breakerMachine_closes_early :
    ¬(breakerMachine singleFailure).Permits BreakerRun.Lawful (.create singleFailure 0)
        lateSuccess ∧
      ((breakerMachine singleFailure).run (.create singleFailure 0) lateSuccess).map
          (fun run => (run.now, run.openings, run.breaker.state, run.calls)) =
        some (1, [0], .closed, [.closed]) := by
  decide +kernel

end AudioBlock.Auth
