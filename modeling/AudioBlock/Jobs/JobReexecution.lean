/-
What happens to a job after its handler has returned.

The loop puts `handler(job)` and `complete(job)` in one `try`, so a fault while
the completion is saved is handled like an error of the handler.  A job whose
handler returned is closing: it is on its way to the completed or to the
dead-lettered jobs.  It stays closing as long as no save of a completion fails
while attempts are left, and a closing job is never handed to its handler.
-/
import AudioBlock.Jobs.JobConservation

namespace AudioBlock.Jobs

open AudioBlock.Foundation

/-- An activity that will not put its job back on a list. -/
def Activity.Closing : Activity → Prop
  | .countOld _ transition | .countNew _ transition | .saveRecord _ transition =>
      transition = .complete ∨ transition = .deadLetter
  | .pushDlq _ => True
  | .enqueueSave _ | .enqueueCount _ | .enqueuePush _ | .reservePop | .reserveGet _
  | .handling _ | .stopped => False

structure Closed (state : QueueState) (jobId : Nat) : Prop where
  known : jobId < state.created.length
  notWaiting : jobId ∉ state.waiting
  notTimed : jobId ∉ state.timerIds
  closing : ∀ activity ∈ state.activities, activity.jobId = some jobId → activity.Closing

def CompletionStands (jobId : Nat) (state : QueueState) : QueueLabel → Prop
  | .commandFails index _ =>
      match state.activities[index]? with
      | some (.saveRecord job .complete) => job.id = jobId → job.maxAttempts ≤ job.attempts
      | _ => True
  | _ => True

instance (jobId : Nat) (state : QueueState) (label : QueueLabel) :
    Decidable (CompletionStands jobId state label) := by
  cases label with
  | commandFails index error =>
      unfold CompletionStands
      dsimp only
      split
      · infer_instance
      · infer_instance
  | enqueue type payload options | startWorker | perform index | settle index outcome
  | fire index | expire jobId | crash index | timerLost index => exact isTrue trivial

theorem beginSetStatus_closing (job : Job) {transition : Transition}
    (ends : transition = .complete ∨ transition = .deadLetter) :
    (beginSetStatus job transition).Closing := by
  unfold beginSetStatus
  split
  · exact ends
  · exact ends

theorem beginFail_closing {job : Job} (spent : job.maxAttempts ≤ job.attempts) (error : String) :
    (beginFail job error).Closing := by
  unfold beginFail
  rw [if_neg (Int.not_lt.mpr spent)]
  exact beginSetStatus_closing _ (Or.inr rfl)

theorem QueueSound.holder_unique {state : QueueState} (sound : QueueSound state) {jobId : Nat}
    {first second : Activity} (isFirst : first ∈ state.activities)
    (isSecond : second ∈ state.activities) (ownFirst : first.jobId = some jobId)
    (ownSecond : second.jobId = some jobId) : first = second := by
  by_contra different
  have once := sound.place_le_one jobId
  have two := weight_add_le_weigh (Activity.held jobId) state.activities first second isFirst
    isSecond different
  rw [Activity.held_self ownFirst, Activity.held_self ownSecond] at two
  unfold QueueState.places at once
  omega

namespace QueueState

variable {state : QueueState} {jobId other : Nat}

theorem mem_waiting_lpush {priority : JobPriority}
    (member : other ∈ (state.lpush priority jobId).waiting) :
    other = jobId ∨ other ∈ state.waiting := by
  by_cases same : other = jobId
  · exact Or.inl same
  · have counted := List.count_pos_iff.mpr member
    rw [waiting_lpush, count_ne same, Nat.zero_add] at counted
    exact Or.inr (List.count_pos_iff.mp counted)

theorem mem_waiting_of_brpop {priority : JobPriority}
    (popped : state.brpop = some (jobId, priority)) : jobId ∈ state.waiting := by
  have total := state.dropTail_waiting jobId jobId popped
  rw [List.count_singleton_self] at total
  exact List.count_pos_iff.mp (by omega)

theorem mem_waiting_dropTail {priority : JobPriority}
    (popped : state.brpop = some (jobId, priority))
    (member : other ∈ (state.dropTail priority).waiting) : other ∈ state.waiting := by
  have total := state.dropTail_waiting jobId other popped
  have counted := List.count_pos_iff.mpr member
  exact List.count_pos_iff.mp (by omega)

end QueueState

/-! ### One activity moves -/

section Moving

variable {state : QueueState} {jobId index : Nat} {activity next : Activity}

theorem Closed.place (closed : Closed state jobId) {moved : QueueState}
    (created : moved.created = state.created) (activities : moved.activities = state.activities)
    (notWaiting : jobId ∉ moved.waiting) (notTimed : jobId ∉ moved.timerIds)
    (closing : next.jobId = some jobId → next.Closing) :
    Closed (moved.place index next) jobId := by
  refine ⟨?_, notWaiting, notTimed, ?_⟩
  · change jobId < moved.created.length
    rw [created]
    exact closed.known
  · intro other member own
    change other ∈ moved.activities.set index next at member
    rw [activities] at member
    rcases List.mem_or_eq_of_mem_set member with before | rfl
    · exact closed.closing other before own
    · exact closing own

theorem count_startRun {other : Nat} (apart : other ≠ jobId) :
    (state.startRun other).runs.count jobId = state.runs.count jobId := by
  change (state.runs ++ [other]).count jobId = state.runs.count jobId
  rw [List.count_append, count_ne apart.symm, Nat.add_zero]

variable (handlers : String → Bool)

theorem Closed.save_other (closed : Closed state jobId) {job : Job} (apart : job.id ≠ jobId)
    (transition : Transition) :
    Closed ((afterSave handlers state job transition).1.place index
        (afterSave handlers state job transition).2) jobId ∧
      (afterSave handlers state job transition).1.runs.count jobId = state.runs.count jobId := by
  have foreign : ∀ {activity : Activity}, activity.jobId = some job.id →
      activity.jobId = some jobId → activity.Closing :=
    fun own about => absurd (Option.some.inj (own.symm.trans about)) apart
  cases transition with
  | reserve =>
      unfold afterSave
      dsimp only
      split
      · exact ⟨closed.place rfl rfl closed.notWaiting closed.notTimed (foreign (dispatch_jobId _ _)),
          count_startRun apart⟩
      · exact ⟨closed.place rfl rfl closed.notWaiting closed.notTimed (foreign (dispatch_jobId _ _)),
          rfl⟩
  | complete =>
      refine ⟨closed.place rfl rfl closed.notWaiting closed.notTimed ?_, rfl⟩
      exact fun about => nomatch about
  | retry =>
      refine ⟨closed.place rfl rfl closed.notWaiting ?_ ?_, rfl⟩
      · intro member
        change jobId ∈ (state.timers ++ [job]).map Job.id at member
        rw [List.map_append] at member
        rcases List.mem_append.mp member with before | now
        · exact closed.notTimed before
        · exact apart (List.mem_singleton.mp now).symm
      · exact fun about => nomatch about
  | deadLetter =>
      exact ⟨closed.place rfl rfl closed.notWaiting closed.notTimed (fun _ => trivial), rfl⟩

theorem Closed.perform_other (sound : QueueSound state) (closed : Closed state jobId)
    (present : state.activities[index]? = some activity) (apart : activity.jobId ≠ some jobId) :
    Closed ((perform handlers state activity).1.place index (perform handlers state activity).2)
        jobId ∧
      (perform handlers state activity).1.runs.count jobId = state.runs.count jobId := by
  have foreign : ∀ {other : Activity}, other.jobId = activity.jobId →
      other.jobId = some jobId → other.Closing :=
    fun same about => absurd (same.symm.trans about) apart
  have idle : ∀ {other : Activity}, other.jobId = none →
      other.jobId = some jobId → other.Closing :=
    fun free about => nomatch free.symm.trans about
  have fits := sound.fits activity (List.mem_of_getElem? present)
  cases activity with
  | enqueueSave job | enqueueCount job | countOld job transition | countNew job transition =>
      exact ⟨closed.place rfl rfl closed.notWaiting closed.notTimed (foreign rfl), rfl⟩
  | enqueuePush job =>
      refine ⟨closed.place rfl rfl ?_ closed.notTimed (idle rfl), rfl⟩
      intro member
      rcases QueueState.mem_waiting_lpush member with same | before
      · exact apart (congrArg some same.symm)
      · exact closed.notWaiting before
  | reservePop =>
      unfold perform
      dsimp only
      split
      · exact ⟨closed.place rfl rfl closed.notWaiting closed.notTimed (idle rfl), rfl⟩
      · rename_i popped priority found
        refine ⟨closed.place rfl rfl ?_ closed.notTimed ?_, rfl⟩
        · exact fun member => closed.notWaiting (QueueState.mem_waiting_dropTail found member)
        · intro about
          have waits := QueueState.mem_waiting_of_brpop found
          rw [Option.some.inj about] at waits
          exact absurd waits closed.notWaiting
  | reserveGet other =>
      obtain ⟨job, found, named, _⟩ := fits
      simp only [perform, found]
      refine ⟨closed.place rfl rfl closed.notWaiting closed.notTimed (foreign ?_), trivial⟩
      rw [beginSetStatus_jobId]
      exact congrArg some named
  | saveRecord job transition =>
      have other : job.id ≠ jobId := fun same => apart (congrArg some same)
      have saved : Closed (state.setRecord job.id (some job)) jobId :=
        ⟨closed.known, closed.notWaiting, closed.notTimed, closed.closing⟩
      exact saved.save_other handlers other transition
  | handling job | stopped =>
      exact ⟨closed.place rfl rfl closed.notWaiting closed.notTimed (foreign rfl), rfl⟩
  | pushDlq job =>
      exact ⟨closed.place rfl rfl closed.notWaiting closed.notTimed (idle rfl), rfl⟩

theorem Closed.perform_own (closed : Closed state jobId) (closing : activity.Closing) :
    Closed ((perform handlers state activity).1.place index (perform handlers state activity).2)
        jobId ∧
      (perform handlers state activity).1.runs.count jobId = state.runs.count jobId := by
  cases activity with
  | countOld job transition | countNew job transition =>
      exact ⟨closed.place rfl rfl closed.notWaiting closed.notTimed (fun _ => closing), rfl⟩
  | saveRecord job transition =>
      rcases closing with rfl | rfl
      · refine ⟨closed.place rfl rfl closed.notWaiting closed.notTimed ?_, rfl⟩
        exact fun about => nomatch about
      · exact ⟨closed.place rfl rfl closed.notWaiting closed.notTimed (fun _ => trivial), rfl⟩
  | pushDlq job =>
      refine ⟨closed.place rfl rfl closed.notWaiting closed.notTimed ?_, rfl⟩
      exact fun about => nomatch about
  | enqueueSave job | enqueueCount job | enqueuePush job | reservePop | reserveGet other
  | handling job | stopped => cases closing

theorem Closed.commandFails (closed : Closed state jobId) (error : String)
    (present : state.activities[index]? = some activity)
    (stands : CompletionStands jobId state (.commandFails index error)) :
    Closed ((commandFails state error activity).1.place index
        (commandFails state error activity).2) jobId ∧
      (commandFails state error activity).1.runs.count jobId = state.runs.count jobId := by
  have own := closed.closing activity (List.mem_of_getElem? present)
  have idle : ∀ {other : Activity}, other.jobId = none →
      other.jobId = some jobId → other.Closing :=
    fun free about => nomatch free.symm.trans about
  cases activity with
  | enqueueSave job | enqueueCount job | enqueuePush job | reserveGet other | pushDlq job =>
      exact ⟨closed.place rfl rfl closed.notWaiting closed.notTimed (idle rfl), rfl⟩
  | reservePop | handling job | stopped | countOld job transition | countNew job transition =>
      exact ⟨closed.place rfl rfl closed.notWaiting closed.notTimed own, rfl⟩
  | saveRecord job transition =>
      cases transition with
      | reserve | retry | deadLetter =>
          exact ⟨closed.place rfl rfl closed.notWaiting closed.notTimed (idle rfl), rfl⟩
      | complete =>
          simp only [CompletionStands, present] at stands
          refine ⟨closed.place rfl rfl closed.notWaiting closed.notTimed ?_, rfl⟩
          intro about
          change (beginFail job error).jobId = some jobId at about
          rw [beginFail_jobId] at about
          exact beginFail_closing (stands (Option.some.inj about)) error

end Moving

/-! ### Steps and runs -/

section Runs

variable {state after : QueueState} {jobId : Nat}

theorem Closed.keep (closed : Closed state jobId)
    (created : state.created.length ≤ after.created.length)
    (activities : ∀ activity ∈ after.activities, activity ∈ state.activities ∨
      activity.jobId ≠ some jobId)
    (waiting : jobId ∈ after.waiting → jobId ∈ state.waiting)
    (timers : jobId ∈ after.timerIds → jobId ∈ state.timerIds) : Closed after jobId := by
  refine ⟨Nat.lt_of_lt_of_le closed.known created, ?_, ?_, ?_⟩
  · exact fun member => closed.notWaiting (waiting member)
  · exact fun member => closed.notTimed (timers member)
  · intro activity member own
    rcases activities activity member with before | apart
    · exact closed.closing activity before own
    · exact absurd own apart

theorem queueStep_closed (handlers : String → Bool) {label : QueueLabel} (sound : QueueSound state)
    (closed : Closed state jobId) (stands : CompletionStands jobId state label)
    (moved : queueStep handlers state label = some after) :
    Closed after jobId ∧ after.runs.count jobId = state.runs.count jobId := by
  cases queueStep_moves moved with
  | enqueue type payload options job fresh =>
      refine ⟨closed.keep ?_ ?_ id id, rfl⟩
      · change state.created.length ≤ (state.created ++ [job]).length
        rw [List.length_append]
        exact Nat.le_add_right _ _
      · intro activity member
        rcases List.mem_append.mp member with before | now
        · exact Or.inl before
        · right
          rw [List.mem_singleton.mp now, fresh]
          exact fun own => absurd (Option.some.inj own) (Nat.ne_of_gt closed.known)
  | startWorker =>
      refine ⟨closed.keep (Nat.le_refl _) ?_ id id, rfl⟩
      intro activity member
      rcases List.mem_append.mp member with before | now
      · exact Or.inl before
      · right
        rw [List.mem_singleton.mp now]
        exact fun own => nomatch own
  | perform index activity present =>
      by_cases about : activity.jobId = some jobId
      · exact closed.perform_own handlers
          (closed.closing activity (List.mem_of_getElem? present) about)
      · exact closed.perform_other handlers sound present about
  | settle index job outcome present =>
      refine ⟨closed.place rfl rfl closed.notWaiting closed.notTimed ?_, rfl⟩
      intro about
      rw [afterSettle_jobId] at about
      exact (closed.closing _ (List.mem_of_getElem? present) about).elim
  | fire index job present =>
      refine ⟨closed.keep (Nat.le_refl _) (fun _ => Or.inl) ?_ timerIds_removeTimer, rfl⟩
      intro member
      rcases QueueState.mem_waiting_lpush member with same | before
      · refine absurd ?_ closed.notTimed
        rw [same]
        exact List.mem_map_of_mem (List.mem_of_getElem? present)
      · exact before
  | expire other record found done =>
      exact ⟨closed.keep (Nat.le_refl _) (fun _ => Or.inl) id id, rfl⟩
  | commandFails index error activity present =>
      exact closed.commandFails error present stands
  | crash index activity present =>
      refine ⟨closed.place rfl rfl closed.notWaiting closed.notTimed ?_, rfl⟩
      exact fun about => nomatch about
  | timerLost index job present =>
      exact ⟨closed.keep (Nat.le_refl _) (fun _ => Or.inl) id timerIds_removeTimer, rfl⟩

theorem Closed.of_success (handlers : String → Bool) {index : Nat} {job : Job}
    (sound : QueueSound state) (handled : state.activities[index]? = some (.handling job))
    (succeeded : queueStep handlers state (.settle index none) = some after) :
    Closed after job.id := by
  have soundAfter := queueStep_sound handlers sound succeeded
  simp only [queueStep, handled, Option.some.injEq] at succeeded
  subst succeeded
  have placed : (state.place index (afterSettle job none)).activities[index]? =
      some (afterSettle job none) :=
    List.getElem?_set_self (List.getElem?_eq_some_iff.mp handled).1
  have own := afterSettle_jobId job none
  obtain ⟨notWaiting, notTimed, _⟩ := soundAfter.elsewhere placed own
  refine ⟨soundAfter.lt_created placed own, notWaiting, notTimed, ?_⟩
  intro activity member about
  rw [soundAfter.holder_unique member (List.mem_of_getElem? placed) about own]
  exact beginSetStatus_closing job (Or.inl rfl)

/-- After a handler has returned, the job does not run again in any run where no
save of its completion fails while it has attempts left. -/
theorem queueMachine_never_reruns (handlers : String → Bool) {before middle after : QueueState}
    {index : Nat} {job : Job}
    (reached : (queueMachine handlers).Reachable (fun _ _ => True) before)
    (handled : before.activities[index]? = some (.handling job))
    (succeeded : queueStep handlers before (.settle index none) = some middle)
    (labels : List QueueLabel)
    (stands : (queueMachine handlers).Permits (CompletionStands job.id) middle labels)
    (ran : (queueMachine handlers).run middle labels = some after) :
    after.runs.count job.id = middle.runs.count job.id := by
  have sound := queueMachine_sound handlers reached
  have settled := queueStep_sound handlers sound succeeded
  have closed := Closed.of_success handlers sound handled succeeded
  have kept := Machine.run_preserves
    (fun state => QueueSound state ∧ Closed state job.id ∧
      state.runs.count job.id = middle.runs.count job.id)
    (fun earlier label later ⟨holds, closing, same⟩ standing moved =>
      have ⟨still, counted⟩ := queueStep_closed handlers holds closing standing moved
      ⟨queueStep_sound handlers holds moved, still, counted.trans same⟩)
    labels ⟨settled, closed, rfl⟩ stands ran
  exact kept.2.2

end Runs

/-! One job, reserved and handed to its handler. -/

def handledJob : List QueueLabel :=
  .enqueue "mint" "song" {} :: List.replicate 3 (.perform 0) ++
    .startWorker :: List.replicate 5 (.perform 1)

def handlesAll (_type : String) : Bool := true

theorem queueMachine_never_reruns_completed :
    ∃ before middle after job,
      queueStep handlesAll before (.settle 1 none) = some middle ∧
        (queueMachine handlesAll).run middle (List.replicate 4 (.perform 1)) = some after ∧
          after.runs.count job = middle.runs.count job := by
  have executed : ∃ before middle after job,
      (queueMachine handlesAll).run emptyQueue handledJob = some before ∧
        before.activities[1]? = some (.handling job) ∧
          queueStep handlesAll before (.settle 1 none) = some middle ∧
            (queueMachine handlesAll).Permits (CompletionStands job.id) middle
                (List.replicate 4 (.perform 1)) ∧
              (queueMachine handlesAll).run middle (List.replicate 4 (.perform 1)) = some after :=
    ⟨_, _, _, _, rfl, rfl, rfl, by decide +kernel, rfl⟩
  obtain ⟨before, middle, after, job, begun, handled, succeeded, stands, ran⟩ := executed
  exact ⟨before, middle, after, job.id, succeeded, ran,
    queueMachine_never_reruns handlesAll
      (.of_run handledJob (.start rfl) (Machine.permits_always _ _ _) begun) handled succeeded _
      stands ran⟩

/-- The third command of `complete` fails, and the retry runs the handler again. -/
def unsavedCompletion : List QueueLabel :=
  List.replicate 2 (.perform 1) ++ .commandFails 1 "ECONNRESET" ::
    List.replicate 3 (.perform 1) ++ .fire 0 :: List.replicate 5 (.perform 1)

theorem queueMachine_reruns_after_success :
    ∃ before middle after job,
      (queueMachine handlesAll).run emptyQueue handledJob = some before ∧
        before.activities[1]? = some (.handling job) ∧
          queueStep handlesAll before (.settle 1 none) = some middle ∧
            (queueMachine handlesAll).run middle unsavedCompletion = some after ∧
              middle.runs.count job.id = 1 ∧ after.runs.count job.id = 2 :=
  ⟨_, _, _, _, rfl, rfl, rfl, rfl, by decide +kernel, by decide +kernel⟩

end AudioBlock.Jobs
