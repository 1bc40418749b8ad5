/-
The retry loop around calls of Privy's API.

The outcomes of the calls, the draws of the jitter and the clock are given by the number of
calls made before.  The counter of attempts is a double, so that it stops at 2^53.

The breaker admits or rejects a logical call, and records one outcome when its retries end.
-/
import AudioBlock.Auth.PrivyCircuitBreaker
import AudioBlock.Foundation.Doubles

namespace AudioBlock.Auth

open AudioBlock.Foundation

/-! ### Errors -/

/-- What `Number` and `Date.parse` read in a `Retry-After` header. -/
structure RetryAfterHeader where
  asNumber : Float
  asDate : Float
  deriving DecidableEq

structure HttpishError where
  isCircuitOpen : Bool
  message : String
  code : Option String
  status : Option Int
  retryAfterLower : Option RetryAfterHeader
  retryAfterUpper : Option RetryAfterHeader
  deriving DecidableEq

inductive Thrown
  | undefined
  | primitive (text : String)
  | object (error : HttpishError)
  deriving DecidableEq

def retryableCodes : List String :=
  ["ECONNABORTED", "ECONNREFUSED", "ECONNRESET", "EHOSTUNREACH", "ENETUNREACH", "ENOTFOUND",
    "EPIPE", "ETIMEDOUT", "ERR_NETWORK"]

def isRetryableError : Thrown → Bool
  | .undefined | .primitive _ => false
  | .object error =>
      if error.isCircuitOpen then false
      else
        match error.status with
        | some status => decide (status = 408 ∨ status = 429 ∨ 500 ≤ status)
        | none =>
            match error.code with
            | some code => retryableCodes.contains code
            | none => false

def HttpishError.retryAfter (error : HttpishError) : Option RetryAfterHeader :=
  match error.retryAfterLower with
  | some header => some header
  | none => error.retryAfterUpper

/-- `Math.max`. -/
def mathMax (first second : Float) : Float :=
  if first.isNaN then first
  else if second.isNaN then second
  else if first < second then second
  else first

def retryAfterMs (now : Float) : Thrown → Option Float
  | .undefined | .primitive _ => none
  | .object error =>
      match error.retryAfter with
      | none => none
      | some header =>
          if header.asNumber.isFinite ∧ 0 ≤ header.asNumber then some (header.asNumber * 1000)
          else if header.asDate.isNaN then none
          else some (mathMax 0 (header.asDate - now))

/-! ### Options -/

structure RetryOptions where
  attempts : Float
  baseDelayMs : Float
  maxDelayMs : Float
  isRetryable : Thrown → Bool

/-- A number of attempts: none at all for NaN, and endlessly many for Infinity. -/
inductive TotalAttempts
  | notANumber
  | count (total : Nat)
  | endless
  deriving DecidableEq

namespace TotalAttempts

/-- `attempt <= totalAttempts`. -/
def allows (attempt : Nat) : TotalAttempts → Bool
  | .notANumber => false
  | .count total => decide (attempt ≤ total)
  | .endless => true

/-- `attempt === totalAttempts`. -/
def isLast (attempt : Nat) : TotalAttempts → Bool
  | .notANumber | .endless => false
  | .count total => decide (attempt = total)

end TotalAttempts

/-- `Math.max(1, Math.floor(attempts))`. -/
def totalAttempts (attempts : Float) : TotalAttempts :=
  match exactValue attempts with
  | some value => .count (max 1 ⌊value⌋).toNat
  | none =>
      if attempts.isNaN then .notANumber
      else if 0 < attempts then .endless
      else .count 1

example : totalAttempts 2.75 = .count 2 := by decide +kernel

example : totalAttempts (-3) = .count 1 := by decide +kernel

/-- `attempt += 1`. -/
def nextAttempt (attempt : Nat) : Nat :=
  if attempt < 2 ^ 53 then attempt + 1 else attempt

/-! ### The retry loop -/

/-- A delay that the server asked for, or one of the backoff: `none` is NaN. -/
inductive Delay
  | hint (milliseconds : Float)
  | backoff (milliseconds : Option Int)
  deriving DecidableEq

/-- A call with its retries: what the n-th call of `fn` answers, and the draw and the clock
    after it. -/
structure LogicalCall (Value : Type) where
  options : RetryOptions
  outcome : Nat → Except Thrown Value
  random : Nat → Float
  now : Nat → Float

inductive RetryResult (Value : Type)
  | returned (value : Value)
  | exhausted (attempts : TotalAttempts) (cause : Thrown)
  | thrown (error : Thrown)
  deriving DecidableEq

structure RetryRun (Value : Type) where
  calls : Nat
  delays : List Delay
  result : RetryResult Value
  deriving DecidableEq

namespace LogicalCall

variable {Value : Type} (call : LogicalCall Value)

def total : TotalAttempts := totalAttempts call.options.attempts

/-- The delay after a call that is retried, `attempt` counted from 1. -/
def delayAfter (attempt made : Nat) (error : Thrown) : Delay :=
  match retryAfterMs (call.now made) error with
  | some milliseconds => .hint milliseconds
  | none =>
      .backoff (roundHalfUp (call.random made *
        mathMin call.options.maxDelayMs (call.options.baseDelayMs * powerOfTwo (attempt - 1))))

/-- After the loop. -/
def finish (made : Nat) (delays : List Delay) (lastError : Thrown) : RetryRun Value :=
  { calls := made
    delays
    result :=
      if call.options.isRetryable lastError then .exhausted call.total lastError
      else .thrown lastError }

/-- The loop with fuel: `made` calls were made, and `none` means that the fuel is used up. -/
def retryLoop : Nat → Nat → Nat → List Delay → Thrown → Option (RetryRun Value)
  | 0, _, _, _, _ => none
  | fuel + 1, attempt, made, delays, lastError =>
      if call.total.allows attempt then
        match call.outcome made with
        | .ok value => some { calls := made + 1, delays, result := .returned value }
        | .error error =>
            if !call.options.isRetryable error || call.total.isLast attempt then
              some (call.finish (made + 1) delays error)
            else
              retryLoop fuel (nextAttempt attempt) (made + 1)
                (delays ++ [call.delayAfter attempt made error]) error
      else some (call.finish made delays lastError)

def withRetry (fuel : Nat) : Option (RetryRun Value) := call.retryLoop fuel 1 0 [] .undefined

end LogicalCall

/-! ### Logical calls through the breaker -/

def RetryRun.succeeded {Value : Type} (run : RetryRun Value) : Bool :=
  match run.result with
  | .returned _ => true
  | .exhausted _ _ | .thrown _ => false

/-- Logical calls are numbered as they begin.  `records` has the calls for which
    `recordSuccess` or `recordFailure` ran. -/
structure ResilienceState where
  now : Nat
  breaker : CircuitBreaker
  started : Nat
  inFlight : List (Nat × CircuitState)
  rejected : List Nat
  records : List (Nat × Bool)
  deriving DecidableEq

namespace ResilienceState

def create (options : CircuitBreakerOptions) (now : Nat) : ResilienceState :=
  { now
    breaker := CircuitBreaker.create options now
    started := 0
    inFlight := []
    rejected := []
    records := [] }

/-- `resilientCall` up to the first call of its retry loop. -/
def begin (state : ResilienceState) : ResilienceState :=
  match state.breaker.beginExecute state.now with
  | (breaker, .error _) =>
      { state with
        breaker
        started := state.started + 1
        rejected := state.rejected ++ [state.started] }
  | (breaker, .ok admitted) =>
      { state with
        breaker
        started := state.started + 1
        inFlight := state.inFlight ++ [(state.started, admitted)] }

/-- `resilientCall` from the end of its retry loop on. -/
def complete (state : ResilienceState) (index call : Nat) (admitted : CircuitState)
    (succeeded : Bool) : ResilienceState :=
  { state with
    breaker := state.breaker.settle state.now admitted succeeded
    inFlight := state.inFlight.eraseIdx index
    records := state.records ++ [(call, succeeded)] }

end ResilienceState

inductive ResilienceLabel
  | elapse (milliseconds : Nat)
  | getState
  | begin
  | complete (index fuel : Nat)
  deriving DecidableEq

def resilienceStep {Value : Type} (calls : Nat → LogicalCall Value) (state : ResilienceState) :
    ResilienceLabel → Option ResilienceState
  | .elapse milliseconds => some { state with now := state.now + milliseconds }
  | .getState => some { state with breaker := state.breaker.getState state.now }
  | .begin => some state.begin
  | .complete index fuel =>
      match state.inFlight[index]? with
      | none => none
      | some (call, admitted) =>
          match (calls call).withRetry fuel with
          | none => none
          | some run => some (state.complete index call admitted run.succeeded)

def resilienceMachine {Value : Type} (calls : Nat → LogicalCall Value)
    (options : CircuitBreakerOptions) : Machine ResilienceState ResilienceLabel where
  initial state := ∃ now, state = ResilienceState.create options now
  step := resilienceStep calls

/-!
### Runs of the loop

The loop calls until an outcome is not retried or the attempts are used up.  Each logical
call that the breaker admits is recorded once, when its loop has ended.
-/

/-! ### What a run of the loop does -/

namespace TotalAttempts

def limit : TotalAttempts → Option ℕ∞
  | .notANumber => none
  | .count total => some total
  | .endless => some ⊤

def Counted (limit : ℕ∞) : Prop := limit ≤ (2 ^ 53 : ℕ) ∨ limit = ⊤

variable {total : TotalAttempts} {limit : ℕ∞} {made : Nat}

def counter (made : Nat) : Nat := min (made + 1) (2 ^ 53)

theorem nextAttempt_counter (made : Nat) : nextAttempt (counter made) = counter (made + 1) := by
  unfold nextAttempt counter
  split
  · omega
  · omega

theorem allows_counter (isLimit : total.limit = some limit) (counted : Counted limit)
    (below : made < limit) : total.allows (counter made) = true := by
  cases total with
  | notANumber => cases isLimit
  | endless => rfl
  | count total =>
      cases isLimit
      have less : made < total := ENat.natCast_lt_natCast.mp below
      apply decide_eq_true
      unfold counter
      omega

theorem isLast_counter (isLimit : total.limit = some limit) (counted : Counted limit)
    (below : made < limit) :
    total.isLast (counter made) = true ↔ ((made + 1 : ℕ) : ℕ∞) = limit := by
  cases total with
  | notANumber => cases isLimit
  | endless =>
      cases isLimit
      constructor
      · intro impossible
        cases impossible
      · intro impossible
        exact absurd impossible (ENat.natCast_ne_top _)
  | count total =>
      cases isLimit
      have less : made < total := ENat.natCast_lt_natCast.mp below
      have most : total ≤ 2 ^ 53 := by
        rcases counted with bounded | infinite
        · exact ENat.natCast_le_natCast.mp bounded
        · exact absurd infinite (ENat.natCast_ne_top _)
      rw [ENat.natCast_inj]
      unfold isLast counter
      rw [decide_eq_true_eq]
      omega

end TotalAttempts

def Thrown.carriesRetryAfter : Thrown → Bool
  | .undefined | .primitive _ => false
  | .object error => error.retryAfter.isSome

namespace LogicalCall

variable {Value : Type} (call : LogicalCall Value)

def isRetried (made : Nat) : Bool :=
  match call.outcome made with
  | .ok _ => false
  | .error error => call.options.isRetryable error

/-- What `withRetry` returns or throws for an outcome that is not retried. -/
def settledResult (made : Nat) : RetryResult Value :=
  match call.outcome made with
  | .ok value => .returned value
  | .error error => .thrown error

structure EndsAt (limit : ℕ∞) (run : RetryRun Value) (last : Nat) : Prop where
  calls : run.calls = last + 1
  within : ((last + 1 : ℕ) : ℕ∞) ≤ limit
  earlier : ∀ made < last, call.isRetried made = true
  ended : (call.isRetried last = false ∧ run.result = call.settledResult last) ∨
    (call.isRetried last = true ∧ ((last + 1 : ℕ) : ℕ∞) = limit ∧
      ∃ error, run.result = .exhausted call.total error)

section Loop

variable {call} {limit : ℕ∞} {made : Nat} {run : RetryRun Value}

theorem next_le_limit (below : (made : ℕ∞) < limit) : ((made + 1 : ℕ) : ℕ∞) ≤ limit := by
  rw [Nat.cast_succ]
  exact Order.add_one_le_of_lt below

theorem retryLoop_allowed {attempt : Nat} (allowed : call.total.allows attempt = true) (fuel : Nat)
    (delays : List Delay) (lastError : Thrown) :
    call.retryLoop (fuel + 1) attempt made delays lastError =
      match call.outcome made with
      | .ok value => some { calls := made + 1, delays, result := .returned value }
      | .error error =>
          if !call.options.isRetryable error || call.total.isLast attempt then
            some (call.finish (made + 1) delays error)
          else
            call.retryLoop fuel (nextAttempt attempt) (made + 1)
              (delays ++ [call.delayAfter attempt made error]) error := by
  conv_lhs => unfold retryLoop
  exact if_pos allowed

section

variable (isLimit : call.total.limit = some limit) (counted : TotalAttempts.Counted limit)
include isLimit counted

theorem retryLoop_turn (below : (made : ℕ∞) < limit) (fuel : Nat) (delays : List Delay)
    (lastError : Thrown) :
    (∃ run, call.retryLoop (fuel + 1) (TotalAttempts.counter made) made delays lastError = some run ∧
      run.calls = made + 1 ∧ run.delays = delays ∧
      ((call.isRetried made = false ∧ run.result = call.settledResult made) ∨
        (call.isRetried made = true ∧ ((made + 1 : ℕ) : ℕ∞) = limit ∧
          ∃ error, run.result = .exhausted call.total error))) ∨
    (call.isRetried made = true ∧ ((made + 1 : ℕ) : ℕ∞) < limit ∧
      ∃ error, call.outcome made = .error error ∧
        call.retryLoop (fuel + 1) (TotalAttempts.counter made) made delays lastError =
          call.retryLoop fuel (TotalAttempts.counter (made + 1)) (made + 1)
            (delays ++ [call.delayAfter (TotalAttempts.counter made) made error]) error) := by
  have isLast := TotalAttempts.isLast_counter isLimit counted below
  rw [retryLoop_allowed (TotalAttempts.allows_counter isLimit counted below)]
  unfold isRetried settledResult
  cases answered : call.outcome made with
  | ok value => exact .inl ⟨_, rfl, rfl, rfl, .inl ⟨rfl, rfl⟩⟩
  | error error =>
      dsimp only
      cases retryable : call.options.isRetryable error with
      | false =>
          refine .inl ⟨_, if_pos rfl, rfl, rfl, .inl ⟨rfl, ?_⟩⟩
          unfold finish
          rw [retryable, if_neg Bool.false_ne_true]
      | true =>
          cases last : call.total.isLast (TotalAttempts.counter made) with
          | true =>
              refine .inl ⟨_, if_pos rfl, rfl, rfl, .inr ⟨rfl, isLast.mp last, error, ?_⟩⟩
              unfold finish
              rw [retryable, if_pos rfl]
          | false =>
              refine .inr ⟨rfl, ?_, error, rfl, ?_⟩
              · refine lt_of_le_of_ne (next_le_limit below) fun same => ?_
                rw [isLast.mpr same] at last
                cases last
              · rw [if_neg (by decide), TotalAttempts.nextAttempt_counter]

theorem retryLoop_endsAt {fuel : Nat} {delays : List Delay} {lastError : Thrown}
    (below : (made : ℕ∞) < limit) (earlier : ∀ before < made, call.isRetried before = true)
    (ran : call.retryLoop fuel (TotalAttempts.counter made) made delays lastError = some run) :
    ∃ last, call.EndsAt limit run last := by
  induction fuel generalizing made delays lastError with
  | zero => cases ran
  | succ fuel ih =>
      rcases retryLoop_turn isLimit counted below fuel delays lastError with
        ⟨ended, isRun, calls, _, result⟩ | ⟨retried, more, error, _, continues⟩
      · rw [ran] at isRun
        cases isRun
        exact ⟨made, calls, next_le_limit below, earlier, result⟩
      · rw [continues] at ran
        refine ih more (fun before early => ?_) ran
        rcases Nat.lt_succ_iff_lt_or_eq.mp early with before | same
        · exact earlier _ before
        · rw [same]
          exact retried

theorem retryLoop_ends {last : Nat}
    (stops : call.isRetried last = false ∨ ((last + 1 : ℕ) : ℕ∞) = limit) (remaining : Nat)
    (delays : List Delay) (lastError : Thrown) (position : made + remaining = last)
    (below : (made : ℕ∞) < limit) :
    ∃ run, call.retryLoop (remaining + 1) (TotalAttempts.counter made) made delays lastError =
      some run := by
  induction remaining generalizing made delays lastError with
  | zero =>
      rcases retryLoop_turn isLimit counted below 0 delays lastError with
        ⟨ended, isRun, _⟩ | ⟨retried, more, _⟩
      · exact ⟨ended, isRun⟩
      · subst position
        rcases stops with settled | same
        · rw [Nat.add_zero, retried] at settled
          cases settled
        · exact absurd same (ne_of_lt more)
  | succ remaining ih =>
      rcases retryLoop_turn isLimit counted below (remaining + 1) delays lastError with
        ⟨ended, isRun, _⟩ | ⟨_, more, error, _, continues⟩
      · exact ⟨ended, isRun⟩
      · rw [continues]
        exact ih _ _ (by omega) more

def Waited (call : LogicalCall Value) (made : Nat) (delay : Delay) : Prop :=
  ∃ error, call.outcome made = .error error ∧
    delay = call.delayAfter (TotalAttempts.counter made) made error

theorem retryLoop_delays {fuel : Nat} {delays : List Delay} {lastError : Thrown}
    (below : (made : ℕ∞) < limit) (inOrder : delays.length = made)
    (waited : ∀ index delay, delays[index]? = some delay → Waited call index delay)
    (ran : call.retryLoop fuel (TotalAttempts.counter made) made delays lastError = some run) :
    ∀ index delay, run.delays[index]? = some delay → Waited call index delay := by
  induction fuel generalizing made delays lastError with
  | zero => cases ran
  | succ fuel ih =>
      rcases retryLoop_turn isLimit counted below fuel delays lastError with
        ⟨ended, isRun, _, sameDelays, _⟩ | ⟨_, more, error, answered, continues⟩
      · rw [ran] at isRun
        cases isRun
        rw [sameDelays]
        exact waited
      · rw [continues] at ran
        refine ih more (by rw [List.length_append, inOrder]; rfl) (fun index delay found => ?_) ran
        rcases Nat.lt_or_ge index delays.length with inside | outside
        · rw [List.getElem?_append_left inside] at found
          exact waited index delay found
        · rw [List.getElem?_append_right outside] at found
          obtain ⟨bound, isDelay⟩ := List.getElem?_eq_some_iff.mp found
          rw [List.length_singleton] at bound
          have same : index = made := by omega
          rw [same]
          refine ⟨error, answered, ?_⟩
          rw [← isDelay]
          exact List.getElem_singleton _

end

end Loop

/-! ### Delays -/

def WithinMaximum (maxDelayMs : Float) (delay : Delay) : Prop :=
  ∃ milliseconds most : Int, delay = .backoff (some milliseconds) ∧
    roundHalfUp maxDelayMs = some most ∧ milliseconds ≤ most

structure DelayOptions (call : LogicalCall Value) : Prop where
  basePositive : 0 < call.options.baseDelayMs
  maxNonneg : 0 ≤ call.options.maxDelayMs
  maxFinite : (exactValue call.options.maxDelayMs).isSome
  randomNonneg : ∀ made, 0 ≤ call.random made
  randomBelow : ∀ made, call.random made < 1

theorem retryAfterMs_none {now : Float} {error : Thrown}
    (none : error.carriesRetryAfter = false) : retryAfterMs now error = .none := by
  cases error with
  | undefined | primitive text => rfl
  | object error =>
      have absent : error.retryAfter = .none :=
        Option.isNone_iff_eq_none.mp (Option.isSome_eq_false_iff.mp none)
      unfold retryAfterMs
      dsimp only
      rw [absent]

theorem delayAfter_within {call : LogicalCall Value} (delayOptions : DelayOptions call)
    (attempt made : Nat) {error : Thrown} (none : error.carriesRetryAfter = false) :
    WithinMaximum call.options.maxDelayMs (call.delayAfter attempt made error) := by
  obtain ⟨most, isMost⟩ := Option.isSome_iff_exists.mp delayOptions.maxFinite
  have powerNonneg := mul_powerOfTwo_nonneg delayOptions.basePositive (attempt - 1)
  obtain ⟨ceilingNonneg, ceiling, isCeiling, ceilingMost⟩ :=
    mathMin_le delayOptions.maxNonneg powerNonneg isMost
  obtain ⟨product, isProduct, _, productMost⟩ := mul_fraction_le (delayOptions.randomNonneg made)
    (delayOptions.randomBelow made) ceilingNonneg isCeiling
  refine ⟨⌊product + 1 / 2⌋, ⌊most + 1 / 2⌋, ?_, ?_, ?_⟩
  · unfold delayAfter roundHalfUp
    rw [retryAfterMs_none none, isProduct]
    rfl
  · unfold roundHalfUp
    rw [isMost]
    rfl
  · apply Int.floor_mono
    linarith

end LogicalCall

end AudioBlock.Auth
