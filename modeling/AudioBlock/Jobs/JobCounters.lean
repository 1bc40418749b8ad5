/-
The counters and the places of the jobs while no command fails.

Between the two commands of a status change a counter lags behind the jobs, as it
does while a new job has not been counted.  `Lagging` names the activities in such
a moment; adding them in makes the counters exact at every command, and exact
alone when no operation is under way.
-/
import AudioBlock.Jobs.JobConservation

namespace AudioBlock.Jobs

open AudioBlock.Foundation

def QueueLabel.isFault : QueueLabel → Bool
  | .commandFails _ _ | .crash _ | .timerLost _ => true
  | .enqueue _ _ _ | .startWorker | .perform _ | .settle _ _ | .fire _ | .expire _ => false

/-- Commands are atomic and never fail, and no process stops. -/
def Faultless (_state : QueueState) (label : QueueLabel) : Prop := label.isFault = false

instance (state : QueueState) (label : QueueLabel) : Decidable (Faultless state label) :=
  inferInstanceAs (Decidable (label.isFault = false))

def hasLatest (state : QueueState) (status : JobStatus) (job : Job) : Bool :=
  decide (state.latest job.id = status)

def lagging (status : JobStatus) : Activity → Bool
  | .enqueueSave _ | .enqueueCount _ => decide (status = .pending)
  | .countNew job _ => decide (status = job.status)
  | _ => false

def latestCount (state : QueueState) (status : JobStatus) : Nat :=
  weigh (indicator (hasLatest state status)) state.created

def laggingCount (state : QueueState) (status : JobStatus) : Nat :=
  weigh (indicator (lagging status)) state.activities

structure Counted (state : QueueState) : Prop where
  kept : state.dropped = []
  counters : ∀ status, state.stats status + laggingCount state status = latestCount state status

variable {state after : QueueState} {index : Nat}

variable (status : JobStatus) (handlers : String → Bool) (job : Job)

@[simp] theorem lagging_beginSetStatus (transition : Transition) :
    lagging status (beginSetStatus job transition) = false := by
  unfold beginSetStatus
  split
  · rfl
  · rfl

@[simp] theorem lagging_beginFail (error : String) :
    lagging status (beginFail job error) = false := by
  unfold beginFail
  split
  · exact lagging_beginSetStatus status _ _
  · exact lagging_beginSetStatus status _ _

@[simp] theorem lagging_dispatch :
    lagging status (dispatch handlers job) = false := by
  unfold dispatch
  split
  · rfl
  · exact lagging_beginFail status _ _

@[simp] theorem lagging_afterSettle (outcome : Option String) :
    lagging status (afterSettle job outcome) = false := by
  cases outcome with
  | none => exact lagging_beginSetStatus status _ _
  | some error => exact lagging_beginFail status _ _

variable {activity : Activity} {job : Job}

theorem Counted.move (counted : Counted state) {next : Activity}
    (present : state.activities[index]? = some activity)
    (activities : after.activities = state.activities.set index next)
    (kept : after.dropped = state.dropped)
    (balanced : ∀ status,
      after.stats status + indicator (lagging status) next + latestCount state status =
        state.stats status + indicator (lagging status) activity + latestCount after status) :
    Counted after := by
  refine ⟨kept.trans counted.kept, ?_⟩
  intro status
  have weighed := weigh_set (indicator (lagging status)) state.activities index activity next
    present
  have before := counted.counters status
  have moved := balanced status
  unfold laggingCount at before ⊢
  rw [activities]
  omega

theorem Counted.idle (counted : Counted state) {next : Activity}
    (present : state.activities[index]? = some activity)
    (activities : after.activities = state.activities.set index next)
    (kept : after.dropped = state.dropped) (stats : after.stats = state.stats)
    (created : after.created = state.created) (latest : after.latest = state.latest)
    (same : ∀ status, lagging status next = lagging status activity) : Counted after := by
  apply counted.move present activities kept
  intro status
  unfold indicator latestCount hasLatest
  rw [stats, created, latest, same]

theorem Counted.enqueueCount (counted : Counted state)
    (present : state.activities[index]? = some (.enqueueCount job)) :
    Counted ((state.hincrby .pending 1).place index (.enqueuePush job)) := by
  refine counted.move present rfl rfl fun status => ?_
  change (if status = .pending then state.stats status + 1 else state.stats status) +
    ((0 : Nat) : Int) + latestCount state status =
      state.stats status + (if decide (status = .pending) = true then 1 else 0 : Nat) +
        latestCount state status
  by_cases same : status = .pending
  · simp only [same, if_true, decide_true]
    omega
  · simp only [same, if_false, decide_false, Bool.false_eq_true]

theorem Counted.countOld (counted : Counted state) {transition : Transition}
    (present : state.activities[index]? = some (.countOld job transition)) :
    Counted ((state.hincrby job.status (-1)).place index (.countNew job transition)) := by
  refine counted.move present rfl rfl fun status => ?_
  change (if status = job.status then state.stats status + (-1) else state.stats status) +
    (if decide (status = job.status) = true then 1 else 0 : Nat) + latestCount state status =
      state.stats status + ((0 : Nat) : Int) + latestCount state status
  by_cases same : status = job.status
  · simp only [same, if_true, decide_true]
    omega
  · simp only [same, if_false, decide_false, Bool.false_eq_true]

section

variable (sound : QueueSound state)
include sound

theorem QueueSound.latestCount_setLatest (member : job ∈ state.created) (next status : JobStatus) :
    latestCount (state.setLatest job.id next) status +
        (if state.latest job.id = status then 1 else 0) =
      latestCount state status + (if next = status then 1 else 0) := by
  have distinct : (state.created.map Job.id).Nodup := by
    rw [sound.numbered]
    exact List.nodup_range
  have others : ∀ other : Job, other.id ≠ job.id →
      indicator (hasLatest (state.setLatest job.id next) status) other =
        indicator (hasLatest state status) other := by
    intro other apart
    have kept : (state.setLatest job.id next).latest other.id = state.latest other.id :=
      if_neg apart
    unfold indicator hasLatest
    rw [kept]
  have changed := weigh_change Job.id (indicator (hasLatest state status))
    (indicator (hasLatest (state.setLatest job.id next) status)) state.created distinct job member
    others
  have before : indicator (hasLatest state status) job =
      if state.latest job.id = status then 1 else 0 := by
    simp only [indicator, hasLatest, decide_eq_true_eq]
  have after : indicator (hasLatest (state.setLatest job.id next) status) job =
      if next = status then 1 else 0 := by
    simp only [indicator, hasLatest, QueueState.setLatest, if_true, decide_eq_true_eq]
  rw [before, after] at changed
  exact changed

theorem Counted.countNew (counted : Counted state) {transition : Transition}
    (present : state.activities[index]? = some (.countNew job transition)) :
    Counted (((state.hincrby transition.status 1).setLatest job.id transition.status).place index
      (.saveRecord { job with status := transition.status } transition)) := by
  obtain ⟨underway, _⟩ := sound.fits _ (List.mem_of_getElem? present)
  obtain ⟨original, member, named, _⟩ := underway.created
  refine counted.move present rfl rfl fun status => ?_
  have changed := sound.latestCount_setLatest member transition.status status
  rw [named, underway.latest] at changed
  change (if status = transition.status then state.stats status + 1 else state.stats status) +
    ((0 : Nat) : Int) + latestCount state status =
      state.stats status + (if decide (status = job.status) = true then 1 else 0 : Nat) +
        latestCount (state.setLatest job.id transition.status) status
  simp only [decide_eq_true_eq, eq_comm (a := status)]
  by_cases new : transition.status = status
  · rw [if_pos new] at changed ⊢
    omega
  · rw [if_neg new] at changed ⊢
    omega

theorem Counted.perform (counted : Counted state)
    (present : state.activities[index]? = some activity) :
    Counted ((perform handlers state activity).1.place index
      (perform handlers state activity).2) := by
  cases activity with
  | enqueueSave job => exact counted.idle present rfl rfl rfl rfl rfl fun _ => rfl
  | enqueueCount job => exact counted.enqueueCount present
  | enqueuePush job => exact counted.idle present rfl rfl rfl rfl rfl fun _ => rfl
  | reservePop =>
      simp only [Jobs.perform]
      split
      · exact counted.idle present rfl rfl rfl rfl rfl fun _ => rfl
      · exact counted.idle present rfl rfl rfl rfl rfl fun _ => rfl
  | reserveGet jobId =>
      simp only [Jobs.perform]
      split
      · exact counted.idle present rfl rfl rfl rfl rfl fun _ => rfl
      · exact counted.idle present rfl rfl rfl rfl rfl fun status =>
          lagging_beginSetStatus status _ _
  | countOld job transition => exact counted.countOld present
  | countNew job transition => exact counted.countNew sound present
  | saveRecord job transition =>
      cases transition with
      | reserve =>
          simp only [Jobs.perform, afterSave]
          split
          · exact counted.idle present rfl rfl rfl rfl rfl fun status => lagging_dispatch status _ _
          · exact counted.idle present rfl rfl rfl rfl rfl fun status => lagging_dispatch status _ _
      | complete | retry | deadLetter =>
          exact counted.idle present rfl rfl rfl rfl rfl fun _ => rfl
  | handling job | pushDlq job | stopped =>
      exact counted.idle present rfl rfl rfl rfl rfl fun _ => rfl

theorem Counted.enqueue (counted : Counted state) (job : Job)
    (named : job.id = state.created.length) :
    Counted (((state.create job).setLatest job.id .pending).spawn (.enqueueSave job)) := by
  refine ⟨counted.kept, ?_⟩
  intro status
  have before := counted.counters status
  have old : weigh (indicator (hasLatest (state.setLatest job.id .pending) status)) state.created =
      latestCount state status := by
    refine weigh_congr state.created fun other member => ?_
    have listed : other.id ∈ state.created.map Job.id := List.mem_map.mpr ⟨other, member, rfl⟩
    rw [sound.numbered] at listed
    have below := List.mem_range.mp listed
    have kept : (state.setLatest job.id .pending).latest other.id = state.latest other.id :=
      if_neg (by omega)
    unfold indicator hasLatest
    rw [kept]
  have new : indicator (hasLatest (state.setLatest job.id .pending) status) job =
      indicator (lagging status) (.enqueueSave job) := by
    simp only [indicator, hasLatest, lagging, QueueState.setLatest, if_true, decide_eq_true_eq,
      eq_comm (a := status)]
  unfold laggingCount latestCount at before old ⊢
  change state.stats status + (weigh _ (state.activities ++ [.enqueueSave job]) : Nat) =
    (weigh (indicator (hasLatest (state.setLatest job.id .pending) status))
      (state.created ++ [job]) : Nat)
  rw [weigh_snoc, weigh_snoc, old, new]
  omega

theorem queueStep_counted {label : QueueLabel} (counted : Counted state)
    (faultless : Faultless state label) (moved : queueStep handlers state label = some after) :
    Counted after := by
  cases queueStep_moves moved with
  | enqueue type payload options job fresh =>
      exact counted.enqueue sound job (congrArg Job.id fresh)
  | startWorker =>
      refine ⟨counted.kept, fun status => ?_⟩
      have before := counted.counters status
      unfold laggingCount at before ⊢
      change state.stats status + (weigh _ (state.activities ++ [.reservePop]) : Nat) =
        latestCount state status
      rw [weigh_snoc]
      exact before
  | perform index activity present => exact counted.perform handlers sound present
  | settle index job outcome present =>
      exact counted.idle present rfl rfl rfl rfl rfl fun status =>
        lagging_afterSettle status job outcome
  | fire index job present => exact ⟨counted.kept, counted.counters⟩
  | expire jobId record found done => exact ⟨counted.kept, counted.counters⟩
  | commandFails index error activity present => cases faultless
  | crash index activity present => cases faultless
  | timerLost index job present => cases faultless

end

theorem queueMachine_counted (reached : (queueMachine handlers).Reachable Faultless state) :
    Counted state := by
  apply reached.invariant_given QueueSound Counted fun _ earlier => queueMachine_sound handlers earlier
  · rintro initial rfl
    exact ⟨rfl, fun _ => rfl⟩
  · intro before label after sound counted faultless moved
    exact queueStep_counted handlers sound counted faultless moved

/-! ### When no operation is under way -/

/-- A `reserve` that waits for a job has changed nothing yet. -/
def Activity.outsideCalls : Activity → Bool
  | .reservePop | .handling _ | .stopped => true
  | _ => false

def Quiet (state : QueueState) : Prop :=
  ∀ activity ∈ state.activities, activity.outsideCalls = true

instance (state : QueueState) : Decidable (Quiet state) :=
  inferInstanceAs (Decidable (∀ activity ∈ state.activities, activity.outsideCalls = true))

def handles (jobId : Nat) : Activity → Bool
  | .handling job => decide (job.id = jobId)
  | _ => false

theorem Quiet.held (quiet : Quiet state) (jobId : Nat) :
    weigh (Activity.held jobId) state.activities = state.activities.countP (handles jobId) := by
  rw [← weigh_indicator]
  refine weigh_congr state.activities fun activity member => ?_
  have outside := quiet activity member
  cases activity with
  | handling job =>
      change [job.id].count jobId = if decide (job.id = jobId) = true then 1 else 0
      rw [List.count_singleton]
      simp only [beq_iff_eq, decide_eq_true_eq]
  | reservePop | stopped => rfl
  | enqueueSave job | enqueueCount job | enqueuePush job | reserveGet jobId
  | countOld job transition | countNew job transition | saveRecord job transition | pushDlq job =>
      cases outside

theorem Quiet.counters (quiet : Quiet state) (counted : Counted state) (status : JobStatus) :
    state.stats status = (state.created.countP (hasLatest state status) : Nat) := by
  have counters := counted.counters status
  have none : laggingCount state status = 0 := by
    refine weigh_eq_zero _ _ fun activity member => ?_
    have outside := quiet activity member
    cases activity with
    | reservePop | handling job | stopped => rfl
    | enqueueSave job | enqueueCount job | enqueuePush job | reserveGet jobId
    | countOld job transition | countNew job transition | saveRecord job transition
    | pushDlq job => cases outside
  unfold latestCount at counters
  rw [none, weigh_indicator] at counters
  omega

theorem Resting.settled {jobId : Nat} (known : Resting state jobId) : Settled state jobId := by
  obtain ⟨job, saved, _, _, pending, latest, _⟩ := known
  intro record found
  cases saved.symm.trans found
  exact pending.trans latest.symm

theorem QueueSound.settled_of_handled (sound : QueueSound state) {jobId : Nat}
    (handled : 0 < state.activities.countP (handles jobId)) : Settled state jobId := by
  obtain ⟨activity, member, isHandled⟩ := List.countP_pos_iff.mp handled
  cases activity with
  | handling job =>
      obtain ⟨underway, _, saved⟩ := sound.fits _ member
      have same : job.id = jobId := of_decide_eq_true isHandled
      intro record found
      rw [← same] at found ⊢
      cases saved.symm.trans found
      exact underway.latest.symm
  | reservePop | stopped | enqueueSave job | enqueueCount job | enqueuePush job | reserveGet jobId
  | countOld job transition | countNew job transition | saveRecord job transition | pushDlq job =>
      cases isHandled

/-- Each job is in one place, has run within its limit and is counted under its
latest status, which is that of its record. -/
theorem queueMachine_conserves_jobs (handlers : String → Bool) (state : QueueState)
    (reached : (queueMachine handlers).Reachable Faultless state) (quiet : Quiet state) :
    (∀ job ∈ state.created,
      state.waiting.count job.id + state.activities.countP (handles job.id) +
          state.timerIds.count job.id + state.completed.count job.id +
            state.dlq.count job.id = 1 ∧
        (state.runs.count job.id : Int) ≤ max 1 job.maxAttempts ∧
          ∀ record, state.records job.id = some record →
            record.status = state.latest job.id) ∧
      ∀ status, state.stats status = (state.created.countP (hasLatest state status) : Nat) := by
  have sound := queueMachine_sound handlers reached
  have counted := queueMachine_counted handlers reached
  refine ⟨fun job member => ?_, quiet.counters counted⟩
  have listed : job.id ∈ state.created.map Job.id := List.mem_map.mpr ⟨job, member, rfl⟩
  rw [sound.numbered] at listed
  have once := sound.conserved job.id
  rw [if_pos (List.mem_range.mp listed)] at once
  unfold QueueState.places QueueState.stored at once
  rw [quiet.held, counted.kept, List.count_nil] at once
  have partition : state.waiting.count job.id + state.activities.countP (handles job.id) +
      state.timerIds.count job.id + state.completed.count job.id + state.dlq.count job.id = 1 := by
    omega
  have settled : Settled state job.id := by
    by_cases handled : 0 < state.activities.countP (handles job.id)
    · exact sound.settled_of_handled handled
    · by_cases rests : job.id ∈ state.waiting ∨ job.id ∈ state.timerIds
      · exact (sound.resting job.id rests).settled
      · apply sound.settled job.id
        by_contra unsettled
        have notWaiting := List.count_eq_zero.mpr (not_or.mp rests).1
        have notTimed := List.count_eq_zero.mpr (not_or.mp rests).2
        have notCompleted := List.count_eq_zero.mpr (not_or.mp unsettled).1
        have notDead := List.count_eq_zero.mpr (not_or.mp unsettled).2
        omega
  exact ⟨partition, sound.bounded job member, settled⟩

/-! A job that runs again after a failure, beside one that has no handler. -/

def onlyEmail (type : String) : Bool := decide (type = "email.send")

def retriedJob : List QueueLabel :=
  .enqueue "email.send" "welcome" { maxAttempts := some 2 } ::
    .enqueue "reindex" "songs" { priority := some .low, maxAttempts := some 0 } :: .startWorker ::
    List.replicate 3 (.perform 0) ++ List.replicate 3 (.perform 1) ++
      List.replicate 5 (.perform 2) ++ .settle 2 (some "timeout") ::
        List.replicate 3 (.perform 2) ++ .fire 0 :: List.replicate 5 (.perform 2) ++
          .startWorker :: List.replicate 9 (.perform 3)

theorem queueMachine_conserves_retried :
    ∃ state, (queueMachine onlyEmail).run emptyQueue retriedJob = some state ∧
      (∀ job ∈ state.created,
        state.waiting.count job.id + state.activities.countP (handles job.id) +
            state.timerIds.count job.id + state.completed.count job.id +
              state.dlq.count job.id = 1 ∧
          (state.runs.count job.id : Int) ≤ max 1 job.maxAttempts ∧
            ∀ record, state.records job.id = some record →
              record.status = state.latest job.id) ∧
        ∀ status, state.stats status = (state.created.countP (hasLatest state status) : Nat) := by
  have permitted : (queueMachine onlyEmail).Permits Faultless emptyQueue retriedJob := by
    decide +kernel
  have executed : ∃ state, (queueMachine onlyEmail).run emptyQueue retriedJob = some state ∧
      Quiet state :=
    ⟨_, rfl, by decide +kernel⟩
  obtain ⟨state, ran, quiet⟩ := executed
  exact ⟨state, ran, queueMachine_conserves_jobs onlyEmail state
    (Machine.Reachable.of_run retriedJob (.start rfl) permitted ran) quiet⟩

end AudioBlock.Jobs
