/-
The background job queue, one Redis command at a time.

Callers of `enqueue` and worker loops are activities, each at the command it
issues next or inside a job's handler.  A step performs that command and the code
after it up to the next await.  A pipeline is not a transaction, so its two
counters move in two steps, and a failure inside it is not thrown.  Retry timers
live in memory.  Any activity may crash, any command may fail without effect, and
the record of a completed job may expire.

Timestamps, backoff delays, logs and the read-only queries of the admin endpoint
are left out; identifiers are drawn in order, and handlers do not change the job.
The state records history beside Redis: the jobs created, the enqueue calls that
returned, the handler runs, the status a job was given last, the jobs completed,
and the jobs that a fault dropped.
-/
import AudioBlock.Foundation.Machine

namespace AudioBlock.Jobs

open AudioBlock.Foundation

inductive JobPriority
  | critical
  | normal
  | low
  deriving DecidableEq

inductive JobStatus
  | pending
  | processing
  | completed
  | failed
  deriving DecidableEq

structure Job where
  id : Nat
  type : String
  payload : String
  priority : JobPriority
  status : JobStatus
  attempts : Nat
  maxAttempts : Int
  lastError : Option String
  deriving DecidableEq

structure EnqueueOptions where
  priority : Option JobPriority := none
  maxAttempts : Option Int := none
  deriving DecidableEq

/-- `MAX_ATTEMPTS` with `JOB_MAX_ATTEMPTS` unset. -/
def defaultMaxAttempts : Int := 3

/-- Why a job changes its status. -/
inductive Transition
  | reserve
  | complete
  | retry
  | deadLetter
  deriving DecidableEq

def Transition.status : Transition → JobStatus
  | .reserve => .processing
  | .complete => .completed
  | .retry => .pending
  | .deadLetter => .failed

inductive Activity
  | enqueueSave (job : Job)
  | enqueueCount (job : Job)
  | enqueuePush (job : Job)
  | reservePop
  | reserveGet (jobId : Nat)
  | countOld (job : Job) (transition : Transition)
  | countNew (job : Job) (transition : Transition)
  | saveRecord (job : Job) (transition : Transition)
  | handling (job : Job)
  | pushDlq (job : Job)
  | stopped
  deriving DecidableEq

def Activity.jobId : Activity → Option Nat
  | .enqueueSave job | .enqueueCount job | .enqueuePush job => some job.id
  | .reserveGet jobId => some jobId
  | .countOld job _ | .countNew job _ | .saveRecord job _ => some job.id
  | .handling job | .pushDlq job => some job.id
  | .reservePop | .stopped => none

structure QueueState where
  queues : JobPriority → List Nat
  records : Nat → Option Job
  dlq : List Nat
  stats : JobStatus → Int
  activities : List Activity
  timers : List Job
  created : List Job
  accepted : List Nat
  runs : List Nat
  latest : Nat → JobStatus
  completed : List Nat
  dropped : List Nat

namespace QueueState

def lpush (state : QueueState) (priority : JobPriority) (jobId : Nat) : QueueState :=
  { state with
    queues := fun other =>
      if other = priority then jobId :: state.queues other else state.queues other }

def dropTail (state : QueueState) (priority : JobPriority) : QueueState :=
  { state with
    queues := fun other =>
      if other = priority then (state.queues other).dropLast else state.queues other }

/-- The tail of the first list that is not empty. -/
def brpop (state : QueueState) : Option (Nat × JobPriority) :=
  [JobPriority.critical, .normal, .low].findSome? fun priority =>
    (state.queues priority).getLast?.map fun jobId => (jobId, priority)

def setRecord (state : QueueState) (jobId : Nat) (record : Option Job) : QueueState :=
  { state with records := fun other => if other = jobId then record else state.records other }

def hincrby (state : QueueState) (status : JobStatus) (amount : Int) : QueueState :=
  { state with
    stats := fun other =>
      if other = status then state.stats other + amount else state.stats other }

def setLatest (state : QueueState) (jobId : Nat) (status : JobStatus) : QueueState :=
  { state with latest := fun other => if other = jobId then status else state.latest other }

def create (state : QueueState) (job : Job) : QueueState :=
  { state with created := state.created ++ [job] }

def accept (state : QueueState) (jobId : Nat) : QueueState :=
  { state with accepted := state.accepted ++ [jobId] }

def startRun (state : QueueState) (jobId : Nat) : QueueState :=
  { state with runs := state.runs ++ [jobId] }

def finish (state : QueueState) (jobId : Nat) : QueueState :=
  { state with completed := state.completed ++ [jobId] }

def deadLetter (state : QueueState) (jobId : Nat) : QueueState :=
  { state with dlq := jobId :: state.dlq }

def addTimer (state : QueueState) (job : Job) : QueueState :=
  { state with timers := state.timers ++ [job] }

def removeTimer (state : QueueState) (index : Nat) : QueueState :=
  { state with timers := state.timers.eraseIdx index }

def drop (state : QueueState) (jobId : Option Nat) : QueueState :=
  { state with dropped := state.dropped ++ jobId.toList }

def spawn (state : QueueState) (activity : Activity) : QueueState :=
  { state with activities := state.activities ++ [activity] }

def place (state : QueueState) (index : Nat) (next : Activity) : QueueState :=
  { state with activities := state.activities.set index next }

end QueueState

/-! ### What an operation does first -/

/-- `setStatus` skips its pipeline when the status is the same. -/
def beginSetStatus (job : Job) (transition : Transition) : Activity :=
  if job.status = transition.status then .saveRecord job transition
  else .countOld job transition

def beginFail (job : Job) (error : String) : Activity :=
  if (job.attempts : Int) < job.maxAttempts then
    beginSetStatus { job with lastError := some error } .retry
  else beginSetStatus { job with lastError := some error } .deadLetter

/-- The loop body after `reserve` returns a job. -/
def dispatch (handlers : String → Bool) (job : Job) : Activity :=
  if handlers job.type then .handling job
  else beginFail job ("No handler registered for job type \"" ++ job.type ++ "\"")

def afterSettle (job : Job) : Option String → Activity
  | none => beginSetStatus job .complete
  | some error => beginFail job error

/-! ### Commands -/

/-- The effect of a saved record and what follows it. -/
def afterSave (handlers : String → Bool) (state : QueueState) (job : Job) :
    Transition → QueueState × Activity
  | .reserve =>
      (if handlers job.type then state.startRun job.id else state, dispatch handlers job)
  | .complete => (state.finish job.id, .reservePop)
  | .retry => (state.addTimer job, .reservePop)
  | .deadLetter => (state, .pushDlq job)

def perform (handlers : String → Bool) (state : QueueState) : Activity → QueueState × Activity
  | .enqueueSave job => (state.setRecord job.id (some job), .enqueueCount job)
  | .enqueueCount job => (state.hincrby .pending 1, .enqueuePush job)
  | .enqueuePush job =>
      ((state.lpush job.priority job.id).accept job.id, .stopped)
  | .reservePop =>
      match state.brpop with
      | none => (state, .reservePop)
      | some (jobId, priority) => (state.dropTail priority, .reserveGet jobId)
  | .reserveGet jobId =>
      match state.records jobId with
      | none => (state, .reservePop)
      | some job => (state, beginSetStatus { job with attempts := job.attempts + 1 } .reserve)
  | .countOld job transition => (state.hincrby job.status (-1), .countNew job transition)
  | .countNew job transition =>
      ((state.hincrby transition.status 1).setLatest job.id transition.status,
        .saveRecord { job with status := transition.status } transition)
  | .saveRecord job transition =>
      afterSave handlers (state.setRecord job.id (some job)) job transition
  | .handling job => (state, .handling job)
  | .pushDlq job => (state.deadLetter job.id, .reservePop)
  | .stopped => (state, .stopped)

/-- A command that fails.  `enqueue` rejects, a failure inside a pipeline goes
unnoticed, a failing save of a completed job is handled like a handler's error,
and the loop logs every other failure and reserves again. -/
def commandFails (state : QueueState) (error : String) : Activity → QueueState × Activity
  | .enqueueSave job | .enqueueCount job | .enqueuePush job => (state.drop (some job.id), .stopped)
  | .reservePop => (state, .reservePop)
  | .reserveGet jobId => (state.drop (some jobId), .reservePop)
  | .countOld job transition => (state, .countNew job transition)
  | .countNew job transition =>
      (state.setLatest job.id transition.status,
        .saveRecord { job with status := transition.status } transition)
  | .saveRecord job .complete => (state, beginFail job error)
  | .saveRecord job _ => (state.drop (some job.id), .reservePop)
  | .handling job => (state, .handling job)
  | .pushDlq job => (state.drop (some job.id), .reservePop)
  | .stopped => (state, .stopped)

/-! ### The machine -/

inductive QueueLabel
  | enqueue (type payload : String) (options : EnqueueOptions)
  | startWorker
  | perform (index : Nat)
  | settle (index : Nat) (outcome : Option String)
  | fire (index : Nat)
  | expire (jobId : Nat)
  | commandFails (index : Nat) (error : String)
  | crash (index : Nat)
  | timerLost (index : Nat)

def newJob (state : QueueState) (type payload : String) (options : EnqueueOptions) : Job :=
  { id := state.created.length
    type, payload
    priority := options.priority.getD .normal
    status := .pending
    attempts := 0
    maxAttempts := options.maxAttempts.getD defaultMaxAttempts
    lastError := none }

/-- `timerLost` is a timer whose process died or whose push failed. -/
def queueStep (handlers : String → Bool) (state : QueueState) : QueueLabel → Option QueueState
  | .enqueue type payload options =>
      let job := newJob state type payload options
      some (((state.create job).setLatest job.id .pending).spawn (.enqueueSave job))
  | .startWorker => some (state.spawn .reservePop)
  | .perform index =>
      match state.activities[index]? with
      | none => none
      | some activity =>
          some ((perform handlers state activity).1.place index (perform handlers state activity).2)
  | .settle index outcome =>
      match state.activities[index]? with
      | some (.handling job) => some (state.place index (afterSettle job outcome))
      | _ => none
  | .fire index =>
      match state.timers[index]? with
      | none => none
      | some job => some ((state.removeTimer index).lpush job.priority job.id)
  | .expire jobId =>
      match state.records jobId with
      | none => none
      | some job => if job.status = .completed then some (state.setRecord jobId none) else none
  | .commandFails index error =>
      match state.activities[index]? with
      | none => none
      | some activity =>
          some ((commandFails state error activity).1.place index
            (commandFails state error activity).2)
  | .crash index =>
      match state.activities[index]? with
      | none => none
      | some activity => some ((state.drop activity.jobId).place index .stopped)
  | .timerLost index =>
      match state.timers[index]? with
      | none => none
      | some job => some ((state.removeTimer index).drop (some job.id))

def emptyQueue : QueueState :=
  { queues := fun _ => []
    records := fun _ => none
    dlq := []
    stats := fun _ => 0
    activities := []
    timers := []
    created := []
    accepted := []
    runs := []
    latest := fun _ => .pending
    completed := []
    dropped := [] }

def queueMachine (handlers : String → Bool) : Machine QueueState QueueLabel where
  initial state := state = emptyQueue
  step := queueStep handlers

/-! ### What a step can be -/

inductive Moves (handlers : String → Bool) (state : QueueState) : QueueLabel → QueueState → Prop
  | enqueue (type payload : String) (options : EnqueueOptions) (job : Job)
      (fresh : job = newJob state type payload options) :
      Moves handlers state (.enqueue type payload options)
        (((state.create job).setLatest job.id .pending).spawn (.enqueueSave job))
  | startWorker : Moves handlers state .startWorker (state.spawn .reservePop)
  | perform (index : Nat) (activity : Activity)
      (present : state.activities[index]? = some activity) :
      Moves handlers state (.perform index)
        ((perform handlers state activity).1.place index (perform handlers state activity).2)
  | settle (index : Nat) (job : Job) (outcome : Option String)
      (present : state.activities[index]? = some (.handling job)) :
      Moves handlers state (.settle index outcome) (state.place index (afterSettle job outcome))
  | fire (index : Nat) (job : Job) (present : state.timers[index]? = some job) :
      Moves handlers state (.fire index) ((state.removeTimer index).lpush job.priority job.id)
  | expire (jobId : Nat) (record : Job) (found : state.records jobId = some record)
      (done : record.status = .completed) :
      Moves handlers state (.expire jobId) (state.setRecord jobId none)
  | commandFails (index : Nat) (error : String) (activity : Activity)
      (present : state.activities[index]? = some activity) :
      Moves handlers state (.commandFails index error)
        ((commandFails state error activity).1.place index (commandFails state error activity).2)
  | crash (index : Nat) (activity : Activity)
      (present : state.activities[index]? = some activity) :
      Moves handlers state (.crash index) ((state.drop activity.jobId).place index .stopped)
  | timerLost (index : Nat) (job : Job) (present : state.timers[index]? = some job) :
      Moves handlers state (.timerLost index) ((state.removeTimer index).drop (some job.id))

theorem queueStep_moves {handlers : String → Bool} {state after : QueueState} {label : QueueLabel}
    (moved : queueStep handlers state label = some after) : Moves handlers state label after := by
  cases label with
  | enqueue type payload options =>
      cases moved
      exact .enqueue type payload options _ rfl
  | startWorker =>
      cases moved
      exact .startWorker
  | perform index =>
      simp only [queueStep] at moved
      split at moved
      · cases moved
      · rename_i activity present
        cases moved
        exact .perform index activity present
  | settle index outcome =>
      simp only [queueStep] at moved
      split at moved
      · rename_i job present
        cases moved
        exact .settle index job outcome present
      · cases moved
  | fire index =>
      simp only [queueStep] at moved
      split at moved
      · cases moved
      · rename_i job present
        cases moved
        exact .fire index job present
  | expire jobId =>
      simp only [queueStep] at moved
      split at moved
      · cases moved
      · rename_i record found
        split at moved
        · rename_i done
          cases moved
          exact .expire jobId record found done
        · cases moved
  | commandFails index error =>
      simp only [queueStep] at moved
      split at moved
      · cases moved
      · rename_i activity present
        cases moved
        exact .commandFails index error activity present
  | crash index =>
      simp only [queueStep] at moved
      split at moved
      · cases moved
      · rename_i activity present
        cases moved
        exact .crash index activity present
  | timerLost index =>
      simp only [queueStep] at moved
      split at moved
      · cases moved
      · rename_i job present
        cases moved
        exact .timerLost index job present

end AudioBlock.Jobs
