/-
The semaphore around the RPC calls of `SorobanService`, under any order of their turns.

A call that finds no permit free is parked.  A release hands its permit to the first parked call,
and the count of running calls stays as it is.  A call that is to be retried keeps its permit while
it sleeps, and acquires the next one in the turn in which it releases.
-/
import AudioBlock.Foundation.Broker
import AudioBlock.Foundation.Machine
import Mathlib.Data.List.Infix

namespace AudioBlock.Soroban

open AudioBlock.Foundation

/-- `queue` holds the calls that wait, each with its attempt. -/
structure Semaphore where
  max : Nat
  running : Int
  queue : List (Nat × Nat)
deriving DecidableEq, Repr

namespace Semaphore

/-- Whether the permit is granted at once. -/
def acquire (semaphore : Semaphore) (waiter : Nat × Nat) : Bool × Semaphore :=
  if semaphore.running < semaphore.max then
    (true, { semaphore with running := semaphore.running + 1 })
  else (false, { semaphore with queue := semaphore.queue ++ [waiter] })

/-- The waiter whose promise is resolved. -/
def release (semaphore : Semaphore) : Option (Nat × Nat) × Semaphore :=
  match semaphore.queue with
  | [] => (none, { semaphore with running := semaphore.running - 1 })
  | next :: queue => (some next, { semaphore with running := semaphore.running - 1 + 1, queue })

end Semaphore

inductive RpcError
  | preparedTransaction
  | error (message : String)
  | other
deriving DecidableEq, Repr

def includes (text part : String) : Bool := decide (part.toList <:+: text.toList)

def isRetryableError : RpcError → Bool
  | .preparedTransaction => false
  | .error message =>
      let msg := message.toLower
      includes msg "429" || includes msg "rate limit" ||
        (includes msg "5" && (includes msg "internal" || includes msg "server")) ||
        includes msg "econnrefused" || includes msg "etimedout"
  | .other => false

/-- Where a call of `withBackoff` stands, with its attempt. -/
inductive CallPhase
  | looping (attempt : Nat)
  | waiting (attempt : Nat)
  | calling (attempt : Nat)
  | sleeping (attempt : Nat)
  | finished (attempt : Nat)
deriving DecidableEq, Repr

namespace CallPhase

def holds : CallPhase → Bool
  | .calling _ => true
  | .sleeping _ => true
  | _ => false

def waits : CallPhase → Bool
  | .waiting _ => true
  | _ => false

def attempt : CallPhase → Nat
  | .looping attempt => attempt
  | .waiting attempt => attempt
  | .calling attempt => attempt
  | .sleeping attempt => attempt
  | .finished attempt => attempt

end CallPhase

/-- `parked` and `woken` record every waiter that was queued and every one that was woken. -/
structure RpcState where
  semaphore : Semaphore
  calls : List CallPhase
  parked : List (Nat × Nat)
  woken : List (Nat × Nat)
deriving DecidableEq, Repr

/-- A new call, the end of the guarded call, or the end of a sleep. -/
inductive RpcLabel
  | withBackoff
  | answer (call : Nat) (error : Option RpcError)
  | wake (call : Nat)
deriving DecidableEq, Repr

namespace RpcState

def withCall (state : RpcState) (call : Nat) (phase : CallPhase) : RpcState :=
  { state with calls := state.calls.set call phase }

def acquire (state : RpcState) (call attempt : Nat) : RpcState :=
  match state.semaphore.acquire (call, attempt) with
  | (true, semaphore) => { state.withCall call (.calling attempt) with semaphore }
  | (false, semaphore) =>
      { state.withCall call (.waiting attempt) with
        semaphore
        parked := state.parked ++ [(call, attempt)] }

/-- The `finally` of a call. -/
def release (state : RpcState) (call : Nat) (phase : CallPhase) : RpcState :=
  match state.semaphore.release with
  | (none, semaphore) => { state.withCall call phase with semaphore }
  | (some next, semaphore) =>
      { (state.withCall call phase).withCall next.1 (.calling next.2) with
        semaphore
        woken := state.woken ++ [next] }

variable (maxRetries : Int)

def loop (state : RpcState) (call attempt : Nat) : RpcState :=
  if attempt ≤ maxRetries then state.acquire call attempt
  else state.withCall call (.finished attempt)

def answer (state : RpcState) (call : Nat) (error : Option RpcError) : Option RpcState :=
  match state.calls[call]? with
  | some (.calling attempt) =>
      match error with
      | none => some (state.release call (.finished attempt))
      | some error =>
          if attempt < maxRetries ∧ isRetryableError error = true then
            some (state.withCall call (.sleeping attempt))
          else some (state.release call (.finished attempt))
  | _ => none

def wake (state : RpcState) (call : Nat) : Option RpcState :=
  match state.calls[call]? with
  | some (.sleeping attempt) =>
      some ((state.release call (.looping attempt)).loop maxRetries call (attempt + 1))
  | _ => none

def step (state : RpcState) : RpcLabel → Option RpcState
  | .withBackoff =>
      some ({ state with calls := state.calls ++ [CallPhase.looping 0] }.loop maxRetries
        state.calls.length 0)
  | .answer call error => state.answer maxRetries call error
  | .wake call => state.wake maxRetries call

def idle (max : Nat) : RpcState :=
  { semaphore := { max, running := 0, queue := [] }, calls := [], parked := [], woken := [] }

end RpcState

def rpcMachine (max : Nat) (maxRetries : Int) : Machine RpcState RpcLabel where
  initial state := state = RpcState.idle max
  step := RpcState.step maxRetries

/-! ### The accounting -/

structure Accounted (max : Nat) (state : RpcState) : Prop where
  limit : state.semaphore.max = max
  count : state.semaphore.running = state.calls.countP CallPhase.holds
  most : state.semaphore.running ≤ max
  full : state.semaphore.queue ≠ [] → state.semaphore.running = max
  order : state.parked = state.woken ++ state.semaphore.queue
  distinct : state.parked.Nodup
  waiting : ∀ call attempt, (call, attempt) ∈ state.semaphore.queue ↔
    state.calls[call]? = some (.waiting attempt)
  past : ∀ entry ∈ state.parked, ∃ phase, state.calls[entry.1]? = some phase ∧
    entry.2 ≤ phase.attempt

variable {calls : List CallPhase} {call : Nat} {before phase : CallPhase} {state : RpcState}

theorem read_set (found : calls[call]? = some before) (phase : CallPhase) (other : Nat) :
    (calls.set call phase)[other]? = if other = call then some phase else calls[other]? := by
  obtain ⟨inside, _same⟩ := List.getElem?_eq_some_iff.mp found
  by_cases same : other = call
  · rw [if_pos same, same, List.getElem?_set_self inside]
  · rw [if_neg same, List.getElem?_set_ne (Ne.symm same)]

theorem waiting_set {queue : List (Nat × Nat)}
    (waiting : ∀ other attempt, (other, attempt) ∈ queue ↔
      calls[other]? = some (.waiting attempt)) (found : calls[call]? = some before)
    (calm : before.waits = false) (calm' : phase.waits = false) (other attempt : Nat) :
    (other, attempt) ∈ queue ↔ (calls.set call phase)[other]? = some (.waiting attempt) := by
  rw [read_set found phase other, waiting other attempt]
  by_cases here : other = call
  · rw [if_pos here, here, found]
    constructor
    · intro waits
      rw [Option.some.inj waits] at calm
      cases calm
    · intro waits
      rw [Option.some.inj waits] at calm'
      cases calm'
  · rw [if_neg here]

theorem past_set {parked : List (Nat × Nat)}
    (past : ∀ entry ∈ parked, ∃ now, calls[entry.1]? = some now ∧ entry.2 ≤ now.attempt)
    (found : calls[call]? = some before) (later : before.attempt ≤ phase.attempt) :
    ∀ entry ∈ parked, ∃ now, (calls.set call phase)[entry.1]? = some now ∧
      entry.2 ≤ now.attempt := by
  intro entry member
  obtain ⟨now, stands, least⟩ := past entry member
  rw [read_set found phase entry.1]
  by_cases here : entry.1 = call
  · rw [here, found] at stands
    cases stands
    exact ⟨phase, if_pos here, Nat.le_trans least later⟩
  · exact ⟨now, (if_neg here).trans stands, least⟩

theorem acquire_granted (call attempt : Nat)
    (free : state.semaphore.running < state.semaphore.max) :
    state.acquire call attempt =
      { state.withCall call (.calling attempt) with
        semaphore := { state.semaphore with running := state.semaphore.running + 1 } } := by
  unfold RpcState.acquire Semaphore.acquire
  rw [if_pos free]

theorem acquire_parks (call attempt : Nat)
    (taken : ¬ state.semaphore.running < state.semaphore.max) :
    state.acquire call attempt =
      { state.withCall call (.waiting attempt) with
        semaphore :=
          { state.semaphore with queue := state.semaphore.queue ++ [(call, attempt)] }
        parked := state.parked ++ [(call, attempt)] } := by
  unfold RpcState.acquire Semaphore.acquire
  rw [if_neg taken]

theorem release_frees (call : Nat) (phase : CallPhase) (alone : state.semaphore.queue = []) :
    state.release call phase =
      { state.withCall call phase with
        semaphore := { state.semaphore with running := state.semaphore.running - 1 } } := by
  simp only [RpcState.release, Semaphore.release, alone]

theorem release_wakes (call : Nat) (phase : CallPhase) {next : Nat × Nat}
    {rest : List (Nat × Nat)} (queued : state.semaphore.queue = next :: rest) :
    state.release call phase =
      { (state.withCall call phase).withCall next.1 (.calling next.2) with
        semaphore :=
          { state.semaphore with running := state.semaphore.running - 1 + 1, queue := rest }
        woken := state.woken ++ [next] } := by
  simp only [RpcState.release, Semaphore.release, queued]

theorem calm_of_holds (holds : phase.holds = true) : phase.waits = false := by
  cases phase with
  | waiting attempt => cases holds
  | looping attempt | calling attempt | sleeping attempt | finished attempt => rfl

namespace Accounted

variable {max : Nat} {state : RpcState} {call attempt : Nat} {before phase : CallPhase}

theorem idle : Accounted max (RpcState.idle max) where
  limit := rfl
  count := rfl
  most := Int.natCast_nonneg max
  full queued := absurd rfl queued
  order := rfl
  distinct := List.nodup_nil
  waiting call attempt := by simp [RpcState.idle]
  past entry member := (List.not_mem_nil member).elim

section

variable (account : Accounted max state) (found : state.calls[call]? = some before)
include account found

theorem withCall (same : phase.holds = before.holds) (calm : before.waits = false)
    (calm' : phase.waits = false) (later : before.attempt ≤ phase.attempt) :
    Accounted max (state.withCall call phase) := by
  refine ⟨account.limit, ?_, account.most, account.full, account.order, account.distinct,
    waiting_set account.waiting found calm calm', past_set account.past found later⟩
  have counted := Broker.countP_set_of_found CallPhase.holds phase found
  rw [same] at counted
  change state.semaphore.running = (state.calls.set call phase).countP CallPhase.holds
  rw [Nat.add_right_cancel counted]
  exact account.count

theorem acquire (without : before.holds = false) (calm : before.waits = false)
    (later : before.attempt ≤ attempt) (fresh : (call, attempt) ∉ state.parked) :
    Accounted max (state.acquire call attempt) := by
  by_cases free : state.semaphore.running < state.semaphore.max
  · rw [acquire_granted call attempt free]
    rw [account.limit] at free
    have counted := Broker.countP_set_of_found CallPhase.holds (.calling attempt) found
    have holds : CallPhase.holds (.calling attempt) = true := rfl
    rw [without, holds, if_neg Bool.false_ne_true, if_pos rfl] at counted
    refine ⟨account.limit, ?_, ?_, ?_, account.order, account.distinct,
      waiting_set account.waiting found calm rfl, past_set account.past found later⟩
    · change state.semaphore.running + 1 = ((state.calls.set call _).countP _ : Nat)
      rw [account.count]
      omega
    · change state.semaphore.running + 1 ≤ max
      omega
    · intro queued
      have full := account.full queued
      omega
  · rw [acquire_parks call attempt free]
    rw [account.limit] at free
    have counted := Broker.countP_set_of_found CallPhase.holds (.waiting attempt) found
    rw [without] at counted
    have most := account.most
    refine ⟨account.limit, ?_, most, fun _queued => ?_, ?_, ?_, ?_, ?_⟩
    · change state.semaphore.running = ((state.calls.set call _).countP _ : Nat)
      rw [Nat.add_right_cancel counted]
      exact account.count
    · change state.semaphore.running = max
      omega
    · change state.parked ++ [(call, attempt)] = state.woken ++ (state.semaphore.queue ++ _)
      rw [account.order, List.append_assoc]
    · refine List.nodup_append.mpr ⟨account.distinct, List.pairwise_singleton _ _, ?_⟩
      intro entry member last single same
      rw [List.mem_singleton.mp single] at same
      exact fresh (same ▸ member)
    · intro other attempt'
      change (other, attempt') ∈ state.semaphore.queue ++ [(call, attempt)] ↔
        (state.calls.set call _)[other]? = _
      rw [List.mem_append, List.mem_singleton, account.waiting, read_set found]
      by_cases here : other = call
      · have notWaiting : state.calls[other]? ≠ some (.waiting attempt') := by
          intro waits
          rw [here, found] at waits
          rw [Option.some.inj waits] at calm
          cases calm
        rw [if_pos here, here]
        constructor
        · intro either
          cases either with
          | inl waits => exact absurd (here ▸ waits) notWaiting
          | inr same => rw [(Prod.mk.inj same).2]
        · intro same
          rw [CallPhase.waiting.inj (Option.some.inj same)]
          exact Or.inr rfl
      · rw [if_neg here]
        constructor
        · intro either
          cases either with
          | inl waits => exact waits
          | inr same => exact absurd (Prod.mk.inj same).1 here
        · exact Or.inl
    · intro entry member
      cases List.mem_append.mp member with
      | inl earlier =>
          have later : before.attempt ≤ CallPhase.attempt (.waiting attempt) := later
          exact past_set account.past found later entry earlier
      | inr single =>
          rw [List.mem_singleton.mp single]
          exact ⟨_, (read_set found _ call).trans (if_pos rfl), Nat.le_refl attempt⟩

theorem release (held : before.holds = true) (without : phase.holds = false)
    (calm : phase.waits = false) (later : before.attempt ≤ phase.attempt) :
    Accounted max (state.release call phase) ∧
      (state.release call phase).calls[call]? = some phase ∧
      (state.release call phase).parked = state.parked := by
  have counted := Broker.countP_set_of_found CallPhase.holds phase found
  rw [held, without, if_pos rfl, if_neg Bool.false_ne_true] at counted
  have count := account.count
  have most := account.most
  have waiting := waiting_set account.waiting found (calm_of_holds held) calm
  have past := past_set account.past found later
  have stands : (state.calls.set call phase)[call]? = some phase :=
    (read_set found phase call).trans (if_pos rfl)
  cases queued : state.semaphore.queue with
  | nil =>
      rw [release_frees call phase queued]
      refine ⟨⟨account.limit, ?_, ?_, ?_, ?_, account.distinct, ?_, past⟩, stands, rfl⟩
      · change state.semaphore.running - 1 = ((state.calls.set call phase).countP _ : Nat)
        omega
      · change state.semaphore.running - 1 ≤ max
        omega
      · intro nonempty
        exact absurd queued nonempty
      · exact account.order
      · exact waiting
  | cons next rest =>
      rw [release_wakes call phase queued]
      have order := account.order
      have distinct := account.distinct
      rw [order, queued] at distinct
      have first : next ∉ rest := (List.nodup_cons.mp (List.nodup_append.mp distinct).2.1).1
      have parked : (state.calls.set call phase)[next.1]? = some (.waiting next.2) :=
        (waiting next.1 next.2).mp (queued ▸ List.mem_cons_self)
      have other : call ≠ next.1 := by
        intro same
        rw [← same, stands] at parked
        rw [Option.some.inj parked] at calm
        cases calm
      have counted' := Broker.countP_set_of_found CallPhase.holds (.calling next.2) parked
      have holds : CallPhase.holds (.calling next.2) = true := rfl
      have released : CallPhase.holds (.waiting next.2) = false := rfl
      rw [holds, released, if_neg Bool.false_ne_true, if_pos rfl] at counted'
      have full := account.full (queued ▸ List.cons_ne_nil next rest)
      refine ⟨⟨account.limit, ?_, ?_, fun _more => ?_, ?_, account.distinct, ?_,
        past_set past parked (Nat.le_refl next.2)⟩, ?_, rfl⟩
      · change state.semaphore.running - 1 + 1 =
          (((state.calls.set call phase).set next.1 _).countP _ : Nat)
        omega
      · change state.semaphore.running - 1 + 1 ≤ max
        omega
      · change state.semaphore.running - 1 + 1 = max
        omega
      · change state.parked = (state.woken ++ [next]) ++ rest
        rw [order, queued, List.append_assoc, List.singleton_append]
      · intro one attempt'
        change (one, attempt') ∈ rest ↔ ((state.calls.set call phase).set next.1 _)[one]? = _
        have listed := waiting one attempt'
        rw [queued, List.mem_cons] at listed
        rw [read_set parked]
        by_cases here : one = next.1
        · rw [if_pos here]
          constructor
          · intro member
            have waits := listed.mp (Or.inr member)
            rw [here, parked] at waits
            have same : next.2 = attempt' := CallPhase.waiting.inj (Option.some.inj waits)
            exact absurd (by rwa [here, ← same] at member) first
          · intro impossible
            cases impossible
        · rw [if_neg here, ← listed]
          constructor
          · exact Or.inr
          · intro either
            cases either with
            | inl same => exact absurd (congrArg Prod.fst same) here
            | inr member => exact member
      · change ((state.calls.set call phase).set next.1 _)[call]? = some phase
        rw [read_set parked, if_neg other]
        exact stands

end

theorem loop {earlier : Nat} (account : Accounted max state) (maxRetries : Int)
    (found : state.calls[call]? = some (.looping earlier)) (later : earlier ≤ attempt)
    (fresh : (call, attempt) ∉ state.parked) :
    Accounted max (state.loop maxRetries call attempt) := by
  unfold RpcState.loop
  split
  · exact account.acquire found rfl rfl later fresh
  · exact account.withCall found rfl rfl rfl later

theorem begun (account : Accounted max state) :
    Accounted max { state with calls := state.calls ++ [CallPhase.looping 0] } := by
  refine ⟨account.limit, ?_, account.most, account.full, account.order, account.distinct, ?_, ?_⟩
  · change state.semaphore.running = ((state.calls ++ [_]).countP _ : Nat)
    rw [List.countP_append]
    exact account.count
  · intro other attempt'
    change _ ↔ (state.calls ++ [_])[other]? = _
    rw [account.waiting other attempt']
    by_cases inside : other < state.calls.length
    · rw [List.getElem?_append_left inside]
    · rw [List.getElem?_append_right (Nat.not_lt.mp inside),
        List.getElem?_eq_none (Nat.not_lt.mp inside)]
      constructor
      · intro impossible
        cases impossible
      · intro last
        have phase := List.mem_singleton.mp (List.mem_of_getElem? last)
        cases phase
  · intro entry member
    obtain ⟨now, stands, least⟩ := account.past entry member
    have inside := (List.getElem?_eq_some_iff.mp stands).1
    exact ⟨now, (List.getElem?_append_left inside).trans stands, least⟩

variable {after : RpcState}

section

variable (account : Accounted max state) (maxRetries : Int)
include account maxRetries

theorem withBackoff (moved : state.step maxRetries .withBackoff = some after) :
    Accounted max after := by
  cases moved
  refine account.begun.loop maxRetries ?_ (Nat.le_refl 0) ?_
  · change (state.calls ++ [_])[state.calls.length]? = _
    rw [List.getElem?_append_right (Nat.le_refl _), Nat.sub_self]
    rfl
  · intro member
    obtain ⟨now, stands, _least⟩ := account.past _ member
    have inside := (List.getElem?_eq_some_iff.mp stands).1
    exact absurd inside (Nat.lt_irrefl _)

theorem answer {error : Option RpcError} (moved : state.answer maxRetries call error = some after) :
    Accounted max after := by
  unfold RpcState.answer at moved
  split at moved
  · rename_i attempt found
    have ended : Accounted max (state.release call (.finished attempt)) :=
      (account.release found rfl (rfl : CallPhase.holds (.finished attempt) = false) rfl
        (Nat.le_refl attempt)).1
    cases error with
    | none => exact Option.some.inj moved ▸ ended
    | some error =>
        dsimp only at moved
        by_cases again : attempt < maxRetries ∧ isRetryableError error = true
        · rw [if_pos again] at moved
          exact Option.some.inj moved ▸ account.withCall found rfl rfl rfl (Nat.le_refl attempt)
        · rw [if_neg again] at moved
          exact Option.some.inj moved ▸ ended
  · cases moved

theorem wake (moved : state.wake maxRetries call = some after) : Accounted max after := by
  unfold RpcState.wake at moved
  split at moved
  · rename_i attempt found
    obtain ⟨released, stands, parked⟩ :=
      account.release found rfl (rfl : CallPhase.holds (.looping attempt) = false) rfl
        (Nat.le_refl attempt)
    rw [← Option.some.inj moved]
    refine released.loop maxRetries stands (Nat.le_succ attempt) ?_
    rw [parked]
    intro member
    obtain ⟨now, before, least⟩ := account.past _ member
    cases found.symm.trans before
    exact absurd least (Nat.not_succ_le_self attempt)
  · cases moved

theorem step {label : RpcLabel} (moved : state.step maxRetries label = some after) :
    Accounted max after := by
  cases label with
  | withBackoff => exact account.withBackoff maxRetries moved
  | answer call error => exact account.answer maxRetries moved
  | wake call => exact account.wake maxRetries moved

end

end Accounted

/-- The count of running calls is that of the calls with a permit and stays within the limit; every
waiter was woken once, in order, or is still queued, and there are some only at the limit. -/
theorem semaphore_accounts (max : Nat) (maxRetries : Int) (labels : List RpcLabel)
    (after : RpcState)
    (ran : (rpcMachine max maxRetries).run (RpcState.idle max) labels = some after) :
    (0 ≤ after.semaphore.running ∧ after.semaphore.running ≤ max) ∧
      after.semaphore.running = after.calls.countP CallPhase.holds ∧
      after.parked = after.woken ++ after.semaphore.queue ∧ after.parked.Nodup ∧
      (∀ call attempt, (call, attempt) ∈ after.semaphore.queue ↔
        after.calls[call]? = some (.waiting attempt)) ∧
      (after.semaphore.queue ≠ [] → after.semaphore.running = max) := by
  have account : Accounted max after :=
    Machine.run_preserves (Accounted max)
      (fun _before _label _after holds _allowed moved => holds.step maxRetries moved) labels
      Accounted.idle (Machine.permits_always _ _ _) ran
  refine ⟨⟨?_, account.most⟩, account.count, account.order, account.distinct, account.waiting,
    account.full⟩
  rw [account.count]
  exact Int.natCast_nonneg _

/-- A call is parked while another sleeps, and runs before its next attempt. -/
def oneRetried : List RpcLabel :=
  [.withBackoff, .withBackoff, .answer 0 (some (.error "ETIMEDOUT")), .wake 0]

theorem semaphore_accounts_oneRetried : ∃ after : RpcState,
    (rpcMachine 1 5).run (RpcState.idle 1) oneRetried = some after ∧
      after.woken = [(1, 0)] ∧ after.semaphore.running = 1 := by
  have seen : ((rpcMachine 1 5).run (RpcState.idle 1) oneRetried).map
      (fun state => (state.woken, state.semaphore.queue)) = some ([(1, 0)], [(0, 1)]) := by
    decide +kernel
  obtain ⟨after, ran, shown⟩ := Option.map_eq_some_iff.mp seen
  obtain ⟨woken, queued⟩ := Prod.mk.inj shown
  refine ⟨after, ran, woken, ?_⟩
  exact (semaphore_accounts 1 5 oneRetried after ran).2.2.2.2.2 (queued ▸ List.cons_ne_nil _ _)

end AudioBlock.Soroban
