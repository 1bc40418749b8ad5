/-
Where a job is.

An identifier is on a waiting list, on a timer, among the completed, dead-lettered
or dropped jobs, or in the hand of an activity.  `places` counts it over all of
these; a command moves it from one to another.
-/
import AudioBlock.Foundation.Weighing
import AudioBlock.Jobs.JobQueueService

namespace AudioBlock.Jobs

open AudioBlock.Foundation

namespace QueueState

def waiting (state : QueueState) : List Nat :=
  state.queues .critical ++ state.queues .normal ++ state.queues .low

def timerIds (state : QueueState) : List Nat :=
  state.timers.map Job.id

/-- The copies of an identifier outside the activities. -/
def stored (state : QueueState) (jobId : Nat) : Nat :=
  state.waiting.count jobId + state.timerIds.count jobId + state.completed.count jobId +
    state.dlq.count jobId + state.dropped.count jobId

end QueueState

/-- The copies of an identifier in the hand of an activity. -/
def Activity.held (jobId : Nat) (activity : Activity) : Nat :=
  activity.jobId.toList.count jobId

def QueueState.places (state : QueueState) (jobId : Nat) : Nat :=
  state.stored jobId + weigh (Activity.held jobId) state.activities

theorem Activity.held_self {activity : Activity} {jobId : Nat}
    (own : activity.jobId = some jobId) : activity.held jobId = 1 := by
  unfold Activity.held
  rw [own]
  exact List.count_singleton_self

variable (handlers : String → Bool) (state : QueueState) (job : Job)

@[simp] theorem beginSetStatus_jobId (transition : Transition) :
    (beginSetStatus job transition).jobId = some job.id := by
  unfold beginSetStatus
  split
  · rfl
  · rfl

@[simp] theorem beginFail_jobId (error : String) :
    (beginFail job error).jobId = some job.id := by
  unfold beginFail
  split
  · exact beginSetStatus_jobId _ _
  · exact beginSetStatus_jobId _ _

@[simp] theorem dispatch_jobId :
    (dispatch handlers job).jobId = some job.id := by
  unfold dispatch
  split
  · rfl
  · exact beginFail_jobId _ _

@[simp] theorem afterSettle_jobId (outcome : Option String) :
    (afterSettle job outcome).jobId = some job.id := by
  cases outcome with
  | none => exact beginSetStatus_jobId _ _
  | some error => exact beginFail_jobId _ _

namespace QueueState

variable (state : QueueState) (jobId other : Nat)

/-! ### The effect of each command on the copies -/

private theorem count_cons_split (head : Nat) (rest : List Nat) :
    (head :: rest).count other = [head].count other + rest.count other := by
  rw [← List.count_append]
  rfl

theorem waiting_count :
    state.waiting.count other = (state.queues .critical).count other +
      (state.queues .normal).count other + (state.queues .low).count other := by
  unfold waiting
  rw [List.count_append, List.count_append]

theorem waiting_lpush (priority : JobPriority) :
    (state.lpush priority jobId).waiting.count other =
      [jobId].count other + state.waiting.count other := by
  have pushed : ∀ source, (jobId :: state.queues source).count other =
      [jobId].count other + (state.queues source).count other :=
    fun source => count_cons_split other jobId (state.queues source)
  rw [waiting_count, waiting_count]
  cases priority with
  | critical | normal | low =>
      simp only [lpush, reduceCtorEq, if_false, if_true, pushed]
      omega

theorem dropTail_waiting {priority : JobPriority} (popped : state.brpop = some (jobId, priority)) :
    (state.dropTail priority).waiting.count other + [jobId].count other =
      state.waiting.count other := by
  obtain ⟨source, _, found⟩ := List.exists_of_findSome?_eq_some popped
  obtain ⟨tail, last, same⟩ := Option.map_eq_some_iff.mp found
  obtain ⟨rfl, rfl⟩ := Prod.mk.inj same
  have whole : (state.queues source).count other =
      (state.queues source).dropLast.count other + [tail].count other := by
    rw [← List.count_append, List.dropLast_append_getLast? tail last]
  rw [waiting_count, waiting_count]
  cases source with
  | critical | normal | low =>
      simp only [dropTail, reduceCtorEq, if_false, if_true]
      omega

@[simp] theorem stored_lpush (priority : JobPriority) :
    (state.lpush priority jobId).stored other = state.stored other + [jobId].count other := by
  have counted := state.waiting_lpush jobId other priority
  unfold stored
  rw [counted]
  change _ + _ + state.timerIds.count other + state.completed.count other +
    state.dlq.count other + state.dropped.count other = _
  omega

@[simp] theorem stored_finish :
    (state.finish jobId).stored other = state.stored other + [jobId].count other := by
  unfold stored
  change state.waiting.count other + state.timerIds.count other +
    (state.completed ++ [jobId]).count other + state.dlq.count other +
      state.dropped.count other = _
  rw [List.count_append]
  omega

@[simp] theorem stored_deadLetter :
    (state.deadLetter jobId).stored other = state.stored other + [jobId].count other := by
  unfold stored
  change state.waiting.count other + state.timerIds.count other + state.completed.count other +
    ([jobId] ++ state.dlq).count other + state.dropped.count other = _
  rw [List.count_append]
  omega

@[simp] theorem stored_addTimer (job : Job) :
    (state.addTimer job).stored other = state.stored other + [job.id].count other := by
  unfold stored
  have grown : (state.addTimer job).timerIds = state.timerIds ++ [job.id] := by
    simp [timerIds, addTimer]
  rw [grown, List.count_append]
  change state.waiting.count other + _ + state.completed.count other + state.dlq.count other +
    state.dropped.count other = _
  omega

theorem stored_dropTail {priority : JobPriority} (popped : state.brpop = some (jobId, priority)) :
    (state.dropTail priority).stored other + [jobId].count other = state.stored other := by
  have counted := state.dropTail_waiting jobId other popped
  unfold stored
  change _ + state.timerIds.count other + state.completed.count other + state.dlq.count other +
    state.dropped.count other + _ = _
  omega

@[simp] theorem stored_drop (held : Option Nat) :
    (state.drop held).stored other = state.stored other + held.toList.count other := by
  unfold stored
  change state.waiting.count other + state.timerIds.count other + state.completed.count other +
    state.dlq.count other + (state.dropped ++ held.toList).count other = _
  rw [List.count_append]
  omega

theorem stored_removeTimer {index : Nat} {job : Job} (present : state.timers[index]? = some job) :
    (state.removeTimer index).stored other + [job.id].count other = state.stored other := by
  have inside := (List.getElem?_eq_some_iff.mp present).1
  have value := (List.getElem?_eq_some_iff.mp present).2
  have permuted := List.getElem_cons_eraseIdx_perm inside
  have counted := (permuted.map Job.id).count_eq other
  rw [value, List.map_cons, count_cons_split] at counted
  unfold stored
  change state.waiting.count other + ((state.timers.eraseIdx index).map Job.id).count other +
    state.completed.count other + state.dlq.count other + state.dropped.count other +
      [job.id].count other = state.waiting.count other + (state.timers.map Job.id).count other +
        state.completed.count other + state.dlq.count other + state.dropped.count other
  omega

end QueueState

/-! ### Commands conserve the copies -/

theorem afterSave_stored (transition : Transition) (other : Nat) :
    (afterSave handlers state job transition).1.stored other +
        (afterSave handlers state job transition).2.held other =
      state.stored other + [job.id].count other := by
  cases transition with
  | reserve =>
      simp only [afterSave, Activity.held, dispatch_jobId, Option.toList_some]
      split
      · rfl
      · rfl
  | complete => exact QueueState.stored_finish state job.id other
  | retry => exact QueueState.stored_addTimer state other job
  | deadLetter => rfl

theorem perform_stored (activity : Activity) (other : Nat)
    (known : ∀ jobId, activity = .reserveGet jobId →
      ∃ job, state.records jobId = some job ∧ job.id = jobId) :
    (perform handlers state activity).1.stored other +
        (perform handlers state activity).2.held other =
      state.stored other + activity.held other := by
  cases activity with
  | reservePop =>
      simp only [perform]
      cases popped : state.brpop with
      | none => rfl
      | some answer => exact state.stored_dropTail answer.1 other popped
  | reserveGet jobId =>
      obtain ⟨job, found, same⟩ := known jobId rfl
      simp only [perform, found, Activity.held, beginSetStatus_jobId, Option.toList_some, same]
      rfl
  | saveRecord job transition => exact afterSave_stored handlers _ job transition other
  | enqueuePush job => exact state.stored_lpush job.id other job.priority
  | pushDlq job => exact state.stored_deadLetter job.id other
  | enqueueSave job | enqueueCount job | countOld job transition | countNew job transition
  | handling job | stopped => rfl

theorem commandFails_stored (error : String) (activity : Activity) (other : Nat) :
    (commandFails state error activity).1.stored other +
        (commandFails state error activity).2.held other =
      state.stored other + activity.held other := by
  cases activity with
  | enqueueSave job | enqueueCount job | enqueuePush job | pushDlq job =>
      exact state.stored_drop other (some job.id)
  | reserveGet jobId => exact state.stored_drop other (some jobId)
  | saveRecord job transition =>
      cases transition with
      | complete =>
          simp only [commandFails, Activity.held, beginFail_jobId]
          rfl
      | reserve | retry | deadLetter => exact state.stored_drop other (some job.id)
  | reservePop | countOld job transition | countNew job transition | handling job | stopped => rfl

/-!
### What is known of a job

`Fits` says what an activity knows of the job in its hand, `Resting` what Redis
says of a job that waits, and `Settled` of one that is completed or
dead-lettered.  A step about one job leaves what is known of the others.
-/

/-- A job in hand is one that `enqueue` created, with its limit. -/
def Created (state : QueueState) (job : Job) : Prop :=
  ∃ original ∈ state.created, original.id = job.id ∧ original.maxAttempts = job.maxAttempts

def WithinLimit (job : Job) : Prop :=
  (job.attempts : Int) ≤ max 1 job.maxAttempts

def Attempted (state : QueueState) (job : Job) : Transition → Prop
  | .reserve => state.runs.count job.id < job.attempts ∧ WithinLimit job
  | .retry => state.runs.count job.id ≤ job.attempts ∧ (job.attempts : Int) < job.maxAttempts
  | .complete | .deadLetter => state.runs.count job.id ≤ job.attempts ∧ WithinLimit job

structure Underway (state : QueueState) (job : Job) (transition : Transition) : Prop where
  created : Created state job
  latest : state.latest job.id = job.status
  attempted : Attempted state job transition

structure Fresh (state : QueueState) (job : Job) : Prop where
  created : Created state job
  pending : job.status = .pending
  latest : state.latest job.id = .pending
  unattempted : job.attempts = 0
  unrun : state.runs.count job.id = 0

/-- A job on a waiting list or a timer. -/
def Resting (state : QueueState) (jobId : Nat) : Prop :=
  ∃ job, state.records jobId = some job ∧ job.id = jobId ∧ Created state job ∧
    job.status = .pending ∧ state.latest jobId = .pending ∧
      state.runs.count jobId ≤ job.attempts ∧
        (job.attempts = 0 ∨ (job.attempts : Int) < job.maxAttempts)

def Settled (state : QueueState) (jobId : Nat) : Prop :=
  ∀ job, state.records jobId = some job → job.status = state.latest jobId

def Fits (state : QueueState) : Activity → Prop
  | .enqueueSave job => Fresh state job
  | .enqueueCount job | .enqueuePush job => Fresh state job ∧ state.records job.id = some job
  | .reserveGet jobId => Resting state jobId
  | .countOld job transition | .countNew job transition =>
      Underway state job transition ∧ job.status ≠ transition.status
  | .saveRecord job transition =>
      Underway state job transition ∧ job.status = transition.status
  | .handling job =>
      Underway state job .complete ∧ job.status = .processing ∧ state.records job.id = some job
  | .pushDlq job =>
      state.latest job.id = .failed ∧ job.status = .failed ∧ state.records job.id = some job
  | .reservePop | .stopped => True

structure Frame (jobId : Nat) (state after : QueueState) : Prop where
  records : ∀ other, other ≠ jobId → after.records other = state.records other
  latest : ∀ other, other ≠ jobId → after.latest other = state.latest other
  runs : ∀ other, other ≠ jobId → after.runs.count other = state.runs.count other
  created : ∀ job ∈ state.created, job ∈ after.created

section Frames

variable {state after : QueueState} {jobId : Nat}

variable {job : Job} {other : Nat}

theorem Created.frame (known : Created state job) (frame : Frame jobId state after) :
    Created after job := by
  obtain ⟨original, member, same⟩ := known
  exact ⟨original, frame.created original member, same⟩

theorem Underway.frame {transition : Transition} (known : Underway state job transition)
    (other : job.id ≠ jobId) (frame : Frame jobId state after) : Underway after job transition := by
  refine ⟨known.created.frame frame, ?_, ?_⟩
  · rw [frame.latest job.id other]
    exact known.latest
  · have attempted := known.attempted
    cases transition with
    | reserve | complete | retry | deadLetter =>
        unfold Attempted at attempted ⊢
        rw [frame.runs job.id other]
        exact attempted

theorem Fresh.frame (known : Fresh state job) (other : job.id ≠ jobId)
    (frame : Frame jobId state after) : Fresh after job := by
  refine ⟨known.created.frame frame, known.pending, ?_, known.unattempted, ?_⟩
  · rw [frame.latest job.id other]
    exact known.latest
  · rw [frame.runs job.id other]
    exact known.unrun

theorem Resting.frame (known : Resting state other) (different : other ≠ jobId)
    (frame : Frame jobId state after) : Resting after other := by
  obtain ⟨job, found, same, created, pending, latest, runs, attempts⟩ := known
  refine ⟨job, ?_, same, created.frame frame, pending, ?_, ?_, attempts⟩
  · rw [frame.records other different]
    exact found
  · rw [frame.latest other different]
    exact latest
  · rw [frame.runs other different]
    exact runs

theorem Settled.frame (known : Settled state other) (different : other ≠ jobId)
    (frame : Frame jobId state after) : Settled after other := by
  unfold Settled at known ⊢
  rw [frame.records other different, frame.latest other different]
  exact known

theorem Fits.frame {activity : Activity} (known : Fits state activity)
    (different : activity.jobId ≠ some jobId) (frame : Frame jobId state after) :
    Fits after activity := by
  have apart : ∀ {other : Nat}, some other ≠ some jobId → other ≠ jobId :=
    fun unequal same => unequal (congrArg some same)
  cases activity with
  | enqueueSave job => exact Fresh.frame known (apart different) frame
  | enqueueCount job | enqueuePush job =>
      refine ⟨known.1.frame (apart different) frame, ?_⟩
      rw [frame.records job.id (apart different)]
      exact known.2
  | reserveGet other => exact Resting.frame known (apart different) frame
  | countOld job transition | countNew job transition | saveRecord job transition =>
      exact ⟨known.1.frame (apart different) frame, known.2⟩
  | handling job =>
      refine ⟨known.1.frame (apart different) frame, known.2.1, ?_⟩
      rw [frame.records job.id (apart different)]
      exact known.2.2
  | pushDlq job =>
      refine ⟨?_, known.2.1, ?_⟩
      · rw [frame.latest job.id (apart different)]
        exact known.1
      · rw [frame.records job.id (apart different)]
        exact known.2.2
  | reservePop | stopped => trivial

/-- A step that changes no record, status, run or creation. -/
def Unchanged (state after : QueueState) : Prop := ∀ jobId, Frame jobId state after

theorem Unchanged.of_same (records : after.records = state.records)
    (latest : after.latest = state.latest) (runs : after.runs = state.runs)
    (created : after.created = state.created) : Unchanged state after := by
  intro jobId
  refine ⟨?_, ?_, ?_, ?_⟩
  · intro other _
    exact congrFun records other
  · intro other _
    exact congrFun latest other
  · intro other _
    rw [runs]
  · intro job member
    rw [created]
    exact member

theorem Fits.unchanged {activity : Activity} (known : Fits state activity)
    (same : Unchanged state after) : Fits after activity := by
  apply known.frame _ (same (activity.jobId.getD 0 + 1))
  intro own
  rw [own, Option.getD_some] at own
  exact absurd (Option.some.inj own) (Nat.ne_of_lt (Nat.lt_succ_self _))

theorem Resting.unchanged (known : Resting state other) (same : Unchanged state after) :
    Resting after other :=
  known.frame (Nat.ne_of_lt (Nat.lt_succ_self other)) (same (other + 1))

theorem Settled.unchanged (known : Settled state other) (same : Unchanged state after) :
    Settled after other :=
  known.frame (Nat.ne_of_lt (Nat.lt_succ_self other)) (same (other + 1))

end Frames

/-! ### What the first activity of an operation knows -/

section Begins

variable {state : QueueState} {job : Job}

theorem Underway.begins {transition : Transition} (known : Underway state job transition) :
    Fits state (beginSetStatus job transition) := by
  unfold beginSetStatus
  split
  · rename_i same
    exact ⟨known, same⟩
  · rename_i different
    exact ⟨known, different⟩

theorem beginFail_fits (created : Created state job) (latest : state.latest job.id = job.status)
    (runs : state.runs.count job.id ≤ job.attempts) (limit : WithinLimit job) (error : String) :
    Fits state (beginFail job error) := by
  unfold beginFail
  split
  · rename_i left
    exact Underway.begins ⟨created, latest, runs, left⟩
  · exact Underway.begins ⟨created, latest, runs, limit⟩

theorem afterSettle_fits (known : Fits state (.handling job)) (outcome : Option String) :
    Fits state (afterSettle job outcome) := by
  obtain ⟨underway, _, _⟩ := known
  cases outcome with
  | none => exact underway.begins
  | some error =>
      exact beginFail_fits underway.created underway.latest underway.attempted.1
        underway.attempted.2 error

end Begins

end AudioBlock.Jobs
