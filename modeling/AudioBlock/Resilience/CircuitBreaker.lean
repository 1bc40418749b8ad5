/-
The circuit breaker in front of the database and of the pinning service.

Calls and health checks complete in later steps than they begin in, and a reset timer fires
at some step once it is due.  A health check may begin at any time while they are on, so the
interval between them is left out.  The timers that are pending belong to the event loop:
`resetTimer` only names the latest one.  `openings` counts how often the breaker opened.
-/
import AudioBlock.Foundation.Breaker
import AudioBlock.Foundation.Machine

namespace AudioBlock.Resilience

open AudioBlock.Foundation

structure CircuitBreakerConfig where
  failureThreshold : Nat
  resetTimeoutMs : Nat
  deriving DecidableEq

structure CircuitBreaker where
  state : CircuitState
  failureCount : Nat
  lastFailure : Option Nat
  openedAt : Option Nat
  resetTimer : Option Nat
  healthTimer : Bool
  deriving DecidableEq

structure ResetTimer where
  opening : Nat
  due : Nat
  deriving DecidableEq

structure BreakerRun where
  config : CircuitBreakerConfig
  now : Nat
  breaker : CircuitBreaker
  timers : List ResetTimer
  openings : Nat
  calls : Nat
  checks : Nat
  deriving DecidableEq

namespace BreakerRun

def create (config : CircuitBreakerConfig) (now : Nat) : BreakerRun :=
  { config, now
    breaker :=
      { state := .closed
        failureCount := 0
        lastFailure := none
        openedAt := none
        resetTimer := none
        healthTimer := false }
    timers := []
    openings := 0
    calls := 0
    checks := 0 }

def transitionTo (run : BreakerRun) (newState : CircuitState) : BreakerRun :=
  { run with breaker := { run.breaker with state := newState } }

def recordSuccess (run : BreakerRun) : BreakerRun :=
  let reset := { run with breaker := { run.breaker with failureCount := 0, lastFailure := none } }
  if run.breaker.state = .halfOpen then reset.transitionTo .closed else reset

/-- A timer that is pending already stays so. -/
def recordFailure (run : BreakerRun) : BreakerRun :=
  let failureCount := run.breaker.failureCount + 1
  let counted := { run.breaker with failureCount, lastFailure := some run.now }
  if run.config.failureThreshold ≤ failureCount then
    { run with
      breaker :=
        { counted with
          state := .opened
          openedAt := some run.now
          resetTimer := some (run.openings + 1) }
      openings := run.openings + 1
      timers :=
        run.timers ++
          [{ opening := run.openings + 1, due := run.now + run.config.resetTimeoutMs }] }
  else { run with breaker := counted }

/-- The end of a call that `execute` has let through. -/
def completed (run : BreakerRun) (succeeded : Bool) : BreakerRun :=
  if succeeded then if run.breaker.state = .halfOpen then run.recordSuccess else run
  else run.recordFailure

def checked (run : BreakerRun) (healthy : Bool) : BreakerRun :=
  if healthy then if run.breaker.state = .halfOpen then run.recordSuccess else run
  else if run.breaker.state ≠ .opened then run.recordFailure else run

/-- `clearInterval`, and `clearTimeout` of the latest timer. -/
def destroy (run : BreakerRun) : BreakerRun :=
  { run with
    breaker := { run.breaker with healthTimer := false, resetTimer := none }
    timers := run.timers.filter fun timer => decide (some timer.opening ≠ run.breaker.resetTimer) }

end BreakerRun

inductive BreakerLabel
  | elapse (milliseconds : Nat)
  | execute
  | complete (succeeded : Bool)
  | startHealthChecks
  | stopHealthChecks
  | check
  | checked (healthy : Bool)
  | fire (index : Nat)
  | destroy
  deriving DecidableEq

def breakerStep (run : BreakerRun) : BreakerLabel → Option BreakerRun
  | .elapse milliseconds => some { run with now := run.now + milliseconds }
  | .execute =>
      if run.breaker.state = .opened then some run else some { run with calls := run.calls + 1 }
  | .complete succeeded =>
      if run.calls = 0 then none
      else some { run.completed succeeded with calls := run.calls - 1 }
  | .startHealthChecks => some { run with breaker := { run.breaker with healthTimer := true } }
  | .stopHealthChecks => some { run with breaker := { run.breaker with healthTimer := false } }
  | .check => if run.breaker.healthTimer then some { run with checks := run.checks + 1 } else none
  | .checked healthy =>
      if run.checks = 0 then none else some { run.checked healthy with checks := run.checks - 1 }
  | .fire index =>
      run.timers[index]?.bind fun timer =>
        if timer.due ≤ run.now then
          some ({ run with timers := run.timers.eraseIdx index }.transitionTo .halfOpen)
        else none
  | .destroy => some run.destroy

def breakerMachine (config : CircuitBreakerConfig) : Machine BreakerRun BreakerLabel where
  initial run := ∃ now, run = BreakerRun.create config now
  step := breakerStep

end AudioBlock.Resilience
