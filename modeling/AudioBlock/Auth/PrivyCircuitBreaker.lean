/-
The circuit breaker in front of Privy's API.

A call is admitted at once or refused, and completes in a later step, in whatever state the
breaker is by then.  The clock does not run back.  `openings` records when the breaker
opened, its creation in the open state included.
-/
import AudioBlock.Foundation.Breaker
import AudioBlock.Foundation.Machine

namespace AudioBlock.Auth

open AudioBlock.Foundation

structure CircuitBreakerOptions where
  failureThreshold : Int
  resetTimeoutMs : Int
  startsOpen : Bool

structure CircuitBreaker where
  state : CircuitState
  consecutiveFailures : Nat
  openedAt : Nat
  probeInFlight : Bool
  failureThreshold : Nat
  resetTimeoutMs : Nat
  deriving DecidableEq

namespace CircuitBreaker

def create (options : CircuitBreakerOptions) (now : Nat) : CircuitBreaker :=
  { state := if options.startsOpen then .opened else .closed
    consecutiveFailures := 0
    openedAt := if options.startsOpen then now else 0
    probeInFlight := false
    failureThreshold := (max 1 options.failureThreshold).toNat
    resetTimeoutMs := (max 0 options.resetTimeoutMs).toNat }

def transition (breaker : CircuitBreaker) (next : CircuitState) : CircuitBreaker :=
  if breaker.state = next then breaker
  else
    { breaker with
      state := next
      consecutiveFailures :=
        if next = .opened then breaker.failureThreshold else breaker.consecutiveFailures }

/-- The breaker after `getState`, which answers its state. -/
def getState (breaker : CircuitBreaker) (now : Nat) : CircuitBreaker :=
  if breaker.state = .opened ∧ breaker.openedAt + breaker.resetTimeoutMs ≤ now then
    breaker.transition .halfOpen
  else breaker

def getRetryAfterMs (breaker : CircuitBreaker) (now : Nat) : Nat :=
  if breaker.state = .opened then breaker.openedAt + breaker.resetTimeoutMs - now else 0

/-- `execute` up to its call: the state that the call is admitted in, or the time after
which to retry that `CircuitOpenError` carries. -/
def beginExecute (breaker : CircuitBreaker) (now : Nat) :
    CircuitBreaker × Except Nat CircuitState :=
  let breaker := breaker.getState now
  match breaker.state with
  | .opened => (breaker, .error (breaker.getRetryAfterMs now))
  | .halfOpen =>
      if breaker.probeInFlight then (breaker, .error breaker.resetTimeoutMs)
      else ({ breaker with probeInFlight := true }, .ok .halfOpen)
  | .closed => (breaker, .ok .closed)

def recordSuccess (breaker : CircuitBreaker) : CircuitBreaker :=
  let reset := { breaker with consecutiveFailures := 0 }
  if reset.state ≠ .closed then reset.transition .closed else reset

def recordFailure (breaker : CircuitBreaker) (now : Nat) : CircuitBreaker :=
  let counted :=
    { breaker with
      consecutiveFailures :=
        if breaker.state = .halfOpen then breaker.failureThreshold
        else breaker.consecutiveFailures + 1 }
  if counted.state = .opened then { counted with openedAt := now }
  else if counted.failureThreshold ≤ counted.consecutiveFailures then
    { counted with openedAt := now }.transition .opened
  else counted

/-- `execute` from the end of its call on. -/
def settle (breaker : CircuitBreaker) (now : Nat) (admitted : CircuitState) (succeeded : Bool) :
    CircuitBreaker :=
  let recorded := if succeeded then breaker.recordSuccess else breaker.recordFailure now
  if admitted = .halfOpen then { recorded with probeInFlight := false } else recorded

end CircuitBreaker

structure BreakerRun where
  now : Nat
  breaker : CircuitBreaker
  calls : List CircuitState
  openings : List Nat
  deriving DecidableEq

namespace BreakerRun

def create (options : CircuitBreakerOptions) (now : Nat) : BreakerRun :=
  { now
    breaker := CircuitBreaker.create options now
    calls := []
    openings := if options.startsOpen then [now] else [] }

def withBreaker (run : BreakerRun) (breaker : CircuitBreaker) : BreakerRun :=
  { run with
    breaker
    openings :=
      if run.breaker.state ≠ .opened ∧ breaker.state = .opened then run.openings ++ [run.now]
      else run.openings }

def probes (run : BreakerRun) : Nat := run.calls.count .halfOpen

end BreakerRun

inductive BreakerLabel
  | elapse (milliseconds : Nat)
  | getState
  | execute
  | complete (index : Nat) (succeeded : Bool)
  deriving DecidableEq

def breakerStep (run : BreakerRun) : BreakerLabel → Option BreakerRun
  | .elapse milliseconds => some { run with now := run.now + milliseconds }
  | .getState => some (run.withBreaker (run.breaker.getState run.now))
  | .execute =>
      match run.breaker.beginExecute run.now with
      | (breaker, .error _) => some (run.withBreaker breaker)
      | (breaker, .ok admitted) =>
          some { run.withBreaker breaker with calls := run.calls ++ [admitted] }
  | .complete index succeeded =>
      run.calls[index]?.map fun admitted =>
        { run.withBreaker (run.breaker.settle run.now admitted succeeded) with
          calls := run.calls.eraseIdx index }

def breakerMachine (options : CircuitBreakerOptions) : Machine BreakerRun BreakerLabel where
  initial run := ∃ now, run = BreakerRun.create options now
  step := breakerStep

end AudioBlock.Auth
