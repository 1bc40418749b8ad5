/-
What the retry loop and the breaker around it promise.
-/
import AudioBlock.Auth.RetryRuns

namespace AudioBlock.Auth

open Foundation

/-! ### The calls of one loop -/

namespace LogicalCall

variable {Value : Type}

structure IsFirst (call : LogicalCall Value) (first : ℕ∞) : Prop where
  positive : first ≠ 0
  before : ∀ made : ℕ, ((made + 1 : ℕ) : ℕ∞) < first → call.isRetried made = true
  settles : ∀ made : ℕ, first = ((made + 1 : ℕ) : ℕ∞) → call.isRetried made = false

structure Specified (call : LogicalCall Value) (first limit : ℕ∞) : Prop where
  ends : min first limit ≠ ⊤ → ∃ fuel run, call.withRetry fuel = some run
  calls : ∀ fuel run, call.withRetry fuel = some run → (run.calls : ℕ∞) = min first limit
  settled : ∀ fuel run, call.withRetry fuel = some run → first ≤ limit →
    run.result = call.settledResult (run.calls - 1)
  exhausted : ∀ fuel run, call.withRetry fuel = some run →
    ((∃ attempts cause, run.result = .exhausted attempts cause) ↔
      ∀ made < run.calls, call.isRetried made = true)

/-- Each delay is at most the maximum unless the error before it carries `Retry-After`. -/
def DelaysBounded (call : LogicalCall Value) : Prop :=
  ∀ fuel run, call.withRetry fuel = some run → ∀ made delay, run.delays[made]? = some delay →
    ∃ error, call.outcome made = .error error ∧
      (error.carriesRetryAfter = true ∨ WithinMaximum call.options.maxDelayMs delay)

section Loop

variable {call : LogicalCall Value} {first limit : ℕ∞} {run : RetryRun Value}

theorem totalAttempts_positive {attempts : Float}
    (isLimit : (totalAttempts attempts).limit = some limit) : 0 < limit := by
  have positive : ∀ total : ℕ, 0 < total → (0 : ℕ∞) < total :=
    fun total some => by exact_mod_cast some
  unfold totalAttempts at isLimit
  split at isLimit
  · cases isLimit
    exact positive _ (by omega)
  · split at isLimit
    · cases isLimit
    · split at isLimit
      · cases isLimit
        exact ENat.natCast_lt_top 0
      · cases isLimit
        exact positive 1 (by decide)

theorem withRetry_endsAt (isLimit : call.total.limit = some limit)
    (counted : TotalAttempts.Counted limit) {fuel : Nat} (ran : call.withRetry fuel = some run) :
    ∃ last, call.EndsAt limit run last :=
  retryLoop_endsAt isLimit counted (totalAttempts_positive isLimit)
    (fun before early => absurd early (Nat.not_lt_zero before)) ran

theorem settledResult_not_exhausted (last : Nat) (attempts : TotalAttempts) (cause : Thrown) :
    call.settledResult last ≠ .exhausted attempts cause := by
  unfold settledResult
  split
  · exact fun same => nomatch same
  · exact fun same => nomatch same

theorem EndsAt.first_cases {last : Nat} (isFirst : call.IsFirst first)
    (endsAt : call.EndsAt limit run last) :
    (first = ((last + 1 : ℕ) : ℕ∞) ∧ call.isRetried last = false ∧
        run.result = call.settledResult last) ∨
      (((last + 1 : ℕ) : ℕ∞) < first ∧ call.isRetried last = true ∧
        ((last + 1 : ℕ) : ℕ∞) = limit ∧ ∃ error, run.result = .exhausted call.total error) := by
  have notEarlier : ((last + 1 : ℕ) : ℕ∞) ≤ first := by
    by_contra early
    obtain ⟨number, isNumber⟩ := ENat.ne_top_iff_exists.mp (ne_top_of_lt (not_le.mp early))
    cases number with
    | zero => exact isFirst.positive isNumber.symm
    | succ made =>
        rw [← isNumber, ENat.natCast_le_natCast] at early
        have retried := endsAt.earlier made (by omega)
        rw [isFirst.settles made isNumber.symm] at retried
        cases retried
  rcases endsAt.ended with ⟨settled, result⟩ | ⟨retried, atLimit, exhausted⟩
  · refine .inl ⟨?_, settled, result⟩
    by_contra differs
    have retried := isFirst.before last (lt_of_le_of_ne notEarlier (Ne.symm differs))
    rw [settled] at retried
    cases retried
  · refine .inr ⟨lt_of_le_of_ne notEarlier fun same => ?_, retried, atLimit, exhausted⟩
    rw [isFirst.settles last same.symm] at retried
    cases retried

theorem withRetry_ends (isFirst : call.IsFirst first) (isLimit : call.total.limit = some limit)
    (counted : TotalAttempts.Counted limit) (finite : min first limit ≠ ⊤) :
    ∃ fuel run, call.withRetry fuel = some run := by
  have positive := totalAttempts_positive isLimit
  have stops : ∃ last : ℕ, call.isRetried last = false ∨ ((last + 1 : ℕ) : ℕ∞) = limit := by
    rcases le_total first limit with isLower | isUpper
    · rw [min_eq_left isLower] at finite
      obtain ⟨number, rfl⟩ := ENat.ne_top_iff_exists.mp finite
      cases number with
      | zero => exact absurd rfl isFirst.positive
      | succ made => exact ⟨made, .inl (isFirst.settles made rfl)⟩
    · rw [min_eq_right isUpper] at finite
      obtain ⟨number, rfl⟩ := ENat.ne_top_iff_exists.mp finite
      cases number with
      | zero => exact absurd positive (lt_irrefl _)
      | succ made => exact ⟨made, .inr rfl⟩
  obtain ⟨last, stops⟩ := stops
  obtain ⟨run, ran⟩ := retryLoop_ends isLimit counted stops last [] .undefined (Nat.zero_add last)
    positive
  exact ⟨last + 1, run, ran⟩

theorem withRetry_specified (isFirst : call.IsFirst first) (isLimit : call.total.limit = some limit)
    (counted : TotalAttempts.Counted limit) : call.Specified first limit := by
  constructor
  · exact withRetry_ends isFirst isLimit counted
  · intro fuel run ran
    obtain ⟨last, endsAt⟩ := withRetry_endsAt isLimit counted ran
    rw [endsAt.calls]
    rcases endsAt.first_cases isFirst with ⟨isLast, _⟩ | ⟨later, _, atLimit, _⟩
    · rw [isLast, min_eq_left endsAt.within]
    · rw [← atLimit, min_eq_right (le_of_lt later)]
  · intro fuel run ran within
    obtain ⟨last, endsAt⟩ := withRetry_endsAt isLimit counted ran
    rcases endsAt.first_cases isFirst with ⟨_, _, result⟩ | ⟨later, _, atLimit, _⟩
    · rw [endsAt.calls]
      exact result
    · rw [atLimit] at later
      exact absurd within (not_le.mpr later)
  · intro fuel run ran
    obtain ⟨last, endsAt⟩ := withRetry_endsAt isLimit counted ran
    rw [endsAt.calls]
    rcases endsAt.ended with ⟨settled, result⟩ | ⟨retried, _, error, result⟩
    · constructor
      · intro ⟨attempts, cause, exhausted⟩
        exact absurd (result.symm.trans exhausted) (settledResult_not_exhausted last _ _)
      · intro all
        rw [all last (Nat.lt_succ_self last)] at settled
        cases settled
    · constructor
      · intro _ made early
        rcases Nat.lt_succ_iff_lt_or_eq.mp early with before | same
        · exact endsAt.earlier made before
        · rw [same]
          exact retried
      · intro _
        exact ⟨_, _, result⟩

theorem withRetry_delaysBounded (isLimit : call.total.limit = some limit)
    (counted : TotalAttempts.Counted limit) (delayOptions : DelayOptions call) :
    call.DelaysBounded := by
  intro fuel run ran made delay found
  have noDelays : ∀ index delay, ([] : List Delay)[index]? = some delay →
      Waited call index delay := fun _ _ found => nomatch found
  obtain ⟨error, answered, isDelay⟩ := retryLoop_delays isLimit counted
    (totalAttempts_positive isLimit) rfl noDelays ran made delay found
  refine ⟨error, answered, ?_⟩
  cases carries : error.carriesRetryAfter with
  | true => exact .inl rfl
  | false =>
      right
      rw [isDelay]
      exact delayAfter_within delayOptions _ _ carries

end Loop

end LogicalCall

/-! ### The records of the breaker -/

section Records

variable {Value : Type} {calls : Nat → LogicalCall Value} {options : CircuitBreakerOptions}

namespace ResilienceState

def recordsOf (state : ResilienceState) (call : Nat) : List (Nat × Bool) :=
  state.records.filter fun record => record.1 == call

def callsInFlight (state : ResilienceState) : List Nat := state.inFlight.map Prod.fst

end ResilienceState

structure Accounted (calls : Nat → LogicalCall Value) (state : ResilienceState) : Prop where
  each : (state.rejected ++ (state.callsInFlight ++ state.records.map Prod.fst)).Perm
    (List.range state.started)
  outcomes : ∀ record ∈ state.records, ∃ fuel run,
    (calls record.1).withRetry fuel = some run ∧ record.2 = run.succeeded

variable {state : ResilienceState}

theorem accounted_begin (accounted : Accounted calls state) :
    Accounted calls state.begin := by
  have ⟨each, outcomes⟩ := accounted
  have grown : ∀ front back : List Nat,
      (front ++ back).Perm (List.range state.started) →
        (front ++ ([state.started] ++ back)).Perm (List.range (state.started + 1)) := by
    intro front back same
    rw [List.range_succ]
    have moved : (front ++ ([state.started] ++ back)).Perm ([state.started] ++ (front ++ back)) :=
      List.perm_append_comm_assoc front [state.started] back
    exact moved.trans ((List.Perm.append_left _ same).trans List.perm_append_comm)
  unfold ResilienceState.begin
  split
  · refine ⟨?_, outcomes⟩
    have next := grown _ _ each
    rwa [← List.append_assoc] at next
  · rename_i admitted _
    refine ⟨?_, outcomes⟩
    unfold ResilienceState.callsInFlight at each ⊢
    rw [← List.append_assoc] at each
    have next := grown _ _ each
    rw [List.map_append, List.append_assoc]
    rwa [List.append_assoc] at next

theorem accounted_complete {index call fuel : Nat} {admitted : CircuitState}
    {run : RetryRun Value} (accounted : Accounted calls state)
    (found : state.inFlight[index]? = some (call, admitted))
    (ran : (calls call).withRetry fuel = some run) :
    Accounted calls (state.complete index call admitted run.succeeded) := by
  have ⟨each, outcomes⟩ := accounted
  constructor
  · obtain ⟨inside, isCall⟩ := List.getElem?_eq_some_iff.mp found
    have taken := (List.getElem_cons_eraseIdx_perm inside).map Prod.fst
    rw [isCall, List.map_cons] at taken
    unfold ResilienceState.complete ResilienceState.callsInFlight
    refine List.Perm.trans (List.Perm.append_left _ ?_) each
    rw [List.map_append, ← List.append_assoc]
    refine (List.perm_append_comm).trans ?_
    exact taken.append_right _
  · intro record member
    rcases List.mem_append.mp member with earlier | new
    · exact outcomes record earlier
    · rw [List.mem_singleton.mp new]
      exact ⟨fuel, run, ran, rfl⟩

theorem accounted_step {before after : ResilienceState} {label : ResilienceLabel}
    (accounted : Accounted calls before) (moved : resilienceStep calls before label = some after) :
    Accounted calls after := by
  cases label with
  | elapse milliseconds | getState =>
      cases moved
      exact ⟨accounted.each, accounted.outcomes⟩
  | begin =>
      cases moved
      exact accounted_begin accounted
  | complete index fuel =>
      unfold resilienceStep at moved
      dsimp only at moved
      split at moved
      · cases moved
      · rename_i call admitted found
        split at moved
        · cases moved
        · rename_i run ran
          cases moved
          exact accounted_complete accounted found ran

theorem reachable_accounted
    (reached : (resilienceMachine calls options).Reachable (fun _ _ => True) state) :
    Accounted calls state := by
  refine reached.invariant (Accounted calls) ?_ ?_
  · rintro state ⟨now, rfl⟩
    exact ⟨List.Perm.refl _, fun record member => nomatch member⟩
  · exact fun before label after accounted _ moved => accounted_step accounted moved

structure RecordedOnce (calls : Nat → LogicalCall Value) (state : ResilienceState) (call : Nat) :
    Prop where
  rejected : call ∈ state.rejected → call ∉ state.callsInFlight ∧ state.recordsOf call = []
  inFlight : call ∈ state.callsInFlight → call ∉ state.rejected ∧ state.recordsOf call = []
  completed : call ∉ state.rejected → call ∉ state.callsInFlight → ∃ fuel run,
    (calls call).withRetry fuel = some run ∧ state.recordsOf call = [(call, run.succeeded)]

theorem recordsOf_length (state : ResilienceState) (call : Nat) :
    (state.recordsOf call).length = (state.records.map Prod.fst).count call := by
  unfold ResilienceState.recordsOf
  rw [List.count, List.countP_map, List.countP_eq_length_filter]
  rfl

theorem recordedOnce {call : Nat} (accounted : Accounted calls state)
    (began : call < state.started) : RecordedOnce calls state call := by
  have once := accounted.each.count_eq call
  rw [List.count_append, List.count_append, ← recordsOf_length,
    List.count_eq_one_of_mem List.nodup_range (List.mem_range.mpr began)] at once
  constructor
  · intro isRejected
    have counted := List.count_pos_iff.mpr isRejected
    exact ⟨List.count_eq_zero.mp (by omega), List.eq_nil_of_length_eq_zero (by omega)⟩
  · intro isInFlight
    have counted := List.count_pos_iff.mpr isInFlight
    exact ⟨List.count_eq_zero.mp (by omega), List.eq_nil_of_length_eq_zero (by omega)⟩
  · intro notRejected notInFlight
    rw [List.count_eq_zero.mpr notRejected, List.count_eq_zero.mpr notInFlight] at once
    obtain ⟨record, isRecord⟩ := List.length_eq_one_iff.mp (by omega : (state.recordsOf call).length = 1)
    have member : record ∈ state.recordsOf call := by
      rw [isRecord]
      exact List.mem_singleton_self record
    obtain ⟨recorded, isCall⟩ := List.mem_filter.mp member
    obtain ⟨fuel, run, ran, outcome⟩ := accounted.outcomes record recorded
    have same : record.1 = call := eq_of_beq isCall
    rw [same] at ran
    refine ⟨fuel, run, ran, ?_⟩
    rw [isRecord, ← outcome, ← same]

end Records

/-- The calls, the result and the delays of each logical call's retry loop, and the records of
    the breaker in every state that is reached. -/
theorem resilientCall_specification {Value : Type} (calls : Nat → LogicalCall Value)
    (options : CircuitBreakerOptions) (call : Nat) (first limit : ℕ∞)
    (isFirst : (calls call).IsFirst first) (isLimit : (calls call).total.limit = some limit)
    (counted : TotalAttempts.Counted limit) :
    (calls call).Specified first limit ∧
      (LogicalCall.DelayOptions (calls call) → (calls call).DelaysBounded) ∧
      ∀ state, (resilienceMachine calls options).Reachable (fun _ _ => True) state →
        call < state.started → RecordedOnce calls state call :=
  ⟨LogicalCall.withRetry_specified isFirst isLimit counted,
    LogicalCall.withRetry_delaysBounded isLimit counted,
    fun _ reached began => recordedOnce (reachable_accounted reached) began⟩

/-! ### Calls that fail -/

def timedOut : Thrown :=
  .object
    { isCircuitOpen := false
      message := "timeout of 5000ms exceeded"
      code := some "ETIMEDOUT"
      status := none
      retryAfterLower := none
      retryAfterUpper := none }

/-- The first calls time out, and the next one succeeds. -/
def flakyCall (attempts baseDelayMs maxDelayMs random : Float) (failures : Nat) :
    LogicalCall Nat :=
  { options := { attempts, baseDelayMs, maxDelayMs, isRetryable := isRetryableError }
    outcome := fun made => if made < failures then .error timedOut else .ok 7
    random := fun _ => random
    now := fun _ => 0 }

def failingCall (attempts : Float) : LogicalCall Nat :=
  { flakyCall attempts 100 2000 0.5 0 with outcome := fun _ => .error timedOut }

def closedBreaker : CircuitBreakerOptions := ⟨5, 30000, false⟩

def openBreaker : CircuitBreakerOptions := ⟨5, 30000, true⟩

def secondAttempt : LogicalCall Nat := flakyCall 3 100 2000 0.5 1

def afterSecondAttempt : ResilienceState :=
  (ResilienceState.create closedBreaker 0).begin.complete 0 0 .closed true

theorem afterSecondAttempt_reached :
    (resilienceMachine (fun _ => secondAttempt) closedBreaker).Reachable (fun _ _ => True)
      afterSecondAttempt := by
  have begun : (resilienceMachine (fun _ => secondAttempt) closedBreaker).step
      (ResilienceState.create closedBreaker 0) .begin =
        some (ResilienceState.create closedBreaker 0).begin := rfl
  have completed : (resilienceMachine (fun _ => secondAttempt) closedBreaker).step
      (ResilienceState.create closedBreaker 0).begin (.complete 0 2) =
        some afterSecondAttempt := by decide +kernel
  exact .next (.next (.start ⟨0, rfl⟩) trivial begun) trivial completed

theorem secondAttempt_specified :
    secondAttempt.Specified 2 3 ∧ secondAttempt.DelaysBounded ∧
      RecordedOnce (fun _ => secondAttempt) afterSecondAttempt 0 := by
  have isFirst : secondAttempt.IsFirst 2 := by
    constructor
    · decide
    · intro made early
      have small : made + 1 < 2 := ENat.natCast_lt_natCast.mp early
      have none : made = 0 := by omega
      rw [none]
      decide +kernel
    · intro made same
      have isSecond : 2 = made + 1 := ENat.natCast_inj.mp same
      have one : made = 1 := by omega
      rw [one]
      decide +kernel
  have isTotal : secondAttempt.total = .count 3 := by decide +kernel
  have counted : TotalAttempts.Counted 3 := .inl (ENat.natCast_le_natCast.mpr (by decide))
  have specification := resilientCall_specification (fun _ => secondAttempt) closedBreaker 0 2 3
    isFirst (by rw [isTotal]; rfl) counted
  refine ⟨specification.1, specification.2.1 ?_,
    specification.2.2 _ afterSecondAttempt_reached (by decide)⟩
  have half : (0 : Float) ≤ 0.5 ∧ (0.5 : Float) < 1 := by decide +kernel
  exact ⟨by decide +kernel, by decide +kernel, by decide +kernel, fun _ => half.1, fun _ => half.2⟩

theorem retryLoop_endless {Value : Type} {call : LogicalCall Value} {total : Nat}
    (isTotal : call.total = .count total) (many : 2 ^ 53 < total)
    (retried : ∀ made, call.isRetried made = true) (fuel attempt made : Nat) (delays : List Delay)
    (lastError : Thrown) (stopped : attempt ≤ 2 ^ 53) :
    call.retryLoop fuel attempt made delays lastError = none := by
  induction fuel generalizing attempt made delays lastError with
  | zero => rfl
  | succ fuel ih =>
      have allowed : call.total.allows attempt = true := by
        rw [isTotal]
        exact decide_eq_true (by omega)
      have notLast : call.total.isLast attempt = false := by
        rw [isTotal]
        exact decide_eq_false (by omega)
      have again := retried made
      rw [LogicalCall.retryLoop_allowed allowed]
      unfold LogicalCall.isRetried at again
      cases answered : call.outcome made with
      | ok value =>
          rw [answered] at again
          cases again
      | error error =>
          rw [answered] at again
          dsimp only at again ⊢
          rw [again, notLast, if_neg (by decide)]
          apply ih
          unfold nextAttempt
          split
          · omega
          · exact stopped

/-- A rejected call has no record, an attempt number that is not a number makes no call, one
    beyond 2^53 makes no end, and a maximum that is a fraction or negative, or a base of zero,
    does not bound the delays. -/
theorem resilientCall_exceptions :
    ((ResilienceState.create openBreaker 0).begin.started = 1 ∧
      (ResilienceState.create openBreaker 0).begin.inFlight = [] ∧
      (ResilienceState.create openBreaker 0).begin.records = []) ∧
    (flakyCall (0 / 0) 100 2000 0.5 0).withRetry 1 =
      some { calls := 0, delays := [], result := .thrown .undefined } ∧
    (∀ fuel, (failingCall 9007199254740994).withRetry fuel = none) ∧
    (flakyCall 3 100 0.7 0.9 1).withRetry 2 =
      some { calls := 2, delays := [.backoff (some 1)], result := .returned 7 } ∧
    (flakyCall 3 100 (-5) 0.5 1).withRetry 2 =
      some { calls := 2, delays := [.backoff (some (-2))], result := .returned 7 } ∧
    (flakyCall 2000 0 2000 0.5 1999).delayAfter 1025 1024 timedOut = .backoff none := by
  refine ⟨by decide, by decide +kernel, ?_, by decide +kernel, by decide +kernel,
    by decide +kernel⟩
  intro fuel
  have isTotal : (failingCall 9007199254740994).total = .count 9007199254740994 := by
    decide +kernel
  exact retryLoop_endless isTotal (by decide) (fun _ => rfl) fuel 1 0 [] .undefined (by decide)

end AudioBlock.Auth
