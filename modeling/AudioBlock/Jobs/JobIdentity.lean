/-
What stays the same of a job: its identifier, its type and its payload.

Commands copy a job between Redis, timers and activities and change its status, its
attempts and its last error only.  Every copy is one of a job that `enqueue` created.
-/
import AudioBlock.Jobs.JobConservation

namespace AudioBlock.Jobs

open AudioBlock.Foundation

def Activity.job : Activity → Option Job
  | .enqueueSave job | .enqueueCount job | .enqueuePush job => some job
  | .countOld job _ | .countNew job _ | .saveRecord job _ => some job
  | .handling job | .pushDlq job => some job
  | .reservePop | .reserveGet _ | .stopped => none

structure SameJob (one other : Job) : Prop where
  id : one.id = other.id
  type : one.type = other.type
  payload : one.payload = other.payload

def Known (created : List Job) (job : Job) : Prop := ∃ original ∈ created, SameJob original job

variable {created : List Job} {job : Job}

theorem Known.copy {copy : Job} (known : Known created job) (same : SameJob job copy) :
    Known created copy := by
  obtain ⟨original, member, first⟩ := known
  exact ⟨original, member, first.id.trans same.id, first.type.trans same.type,
    first.payload.trans same.payload⟩

theorem Known.more {after : List Job} (known : Known created job)
    (kept : ∀ other ∈ created, other ∈ after) : Known after job := by
  obtain ⟨original, member, same⟩ := known
  exact ⟨original, kept original member, same⟩

theorem beginSetStatus_job (job : Job) (transition : Transition) :
    (beginSetStatus job transition).job = some job := by
  unfold beginSetStatus
  split
  · rfl
  · rfl

theorem beginFail_job (job : Job) (error : String) :
    (beginFail job error).job = some { job with lastError := some error } := by
  unfold beginFail
  split
  · exact beginSetStatus_job _ _
  · exact beginSetStatus_job _ _

theorem SameJob.refl (job : Job) : SameJob job job := ⟨rfl, rfl, rfl⟩

theorem beginSetStatus_known (known : Known created job) (transition : Transition) :
    ∀ held ∈ (beginSetStatus job transition).job, Known created held := by
  rw [beginSetStatus_job]
  intro held same
  cases Option.mem_some_iff.mp same
  exact known

theorem beginFail_known (known : Known created job) (error : String) :
    ∀ held ∈ (beginFail job error).job, Known created held := by
  rw [beginFail_job]
  intro held same
  cases Option.mem_some_iff.mp same
  exact known.copy ⟨rfl, rfl, rfl⟩

structure StoredKnown (created : List Job) (state : QueueState) : Prop where
  recorded : ∀ jobId job, state.records jobId = some job → Known created job
  timed : ∀ job ∈ state.timers, Known created job

structure Identified (state : QueueState) : Prop where
  held : ∀ activity ∈ state.activities, ∀ job ∈ activity.job, Known state.created job
  stored : StoredKnown state.created state

section Commands

variable {created : List Job} {state : QueueState}

variable {job : Job}

theorem StoredKnown.setRecord (stored : StoredKnown created state) (known : Known created job)
    (jobId : Nat) :
    StoredKnown created (state.setRecord jobId (some job)) := by
  refine ⟨?_, stored.timed⟩
  intro other found recorded
  change (if other = jobId then some job else state.records other) = some found at recorded
  split at recorded
  · cases recorded
    exact known
  · exact stored.recorded other found recorded

theorem StoredKnown.addTimer (stored : StoredKnown created state) (known : Known created job) :
    StoredKnown created (state.addTimer job) := by
  refine ⟨stored.recorded, ?_⟩
  intro other member
  rcases List.mem_append.mp member with before | new
  · exact stored.timed other before
  · exact List.mem_singleton.mp new ▸ known

structure CommandKnown (created : List Job) (result : QueueState × Activity) : Prop where
  stored : StoredKnown created result.1
  held : ∀ job ∈ result.2.job, Known created job

theorem dispatch_known (known : Known created job) (handlers : String → Bool) :
    ∀ held ∈ (dispatch handlers job).job, Known created held := by
  unfold dispatch
  split
  · intro held same
    cases Option.mem_some_iff.mp same
    exact known
  · exact beginFail_known known _

theorem afterSave_known (stored : StoredKnown created state) (known : Known created job)
    (handlers : String → Bool) (transition : Transition) :
    CommandKnown created (afterSave handlers state job transition) := by
  cases transition with
  | reserve =>
      refine ⟨?_, dispatch_known known handlers⟩
      unfold afterSave
      dsimp only
      split
      · exact ⟨stored.recorded, stored.timed⟩
      · exact stored
  | complete => exact ⟨⟨stored.recorded, stored.timed⟩, fun _ none => absurd none (Option.not_mem_none _)⟩
  | retry => exact ⟨stored.addTimer known, fun _ none => absurd none (Option.not_mem_none _)⟩
  | deadLetter =>
      refine ⟨stored, ?_⟩
      intro held same
      cases Option.mem_some_iff.mp same
      exact known

theorem perform_known {activity : Activity} (stored : StoredKnown created state)
    (held : ∀ job ∈ activity.job, Known created job) (handlers : String → Bool) :
    CommandKnown created (perform handlers state activity) := by
  cases activity with
  | enqueueSave job => exact ⟨stored.setRecord (held job rfl) job.id, held⟩
  | enqueueCount job => exact ⟨⟨stored.recorded, stored.timed⟩, held⟩
  | enqueuePush job =>
      exact ⟨⟨stored.recorded, stored.timed⟩, fun _ none => absurd none (Option.not_mem_none _)⟩
  | reservePop =>
      simp only [perform]
      split
      · exact ⟨stored, fun _ none => absurd none (Option.not_mem_none _)⟩
      · exact ⟨⟨stored.recorded, stored.timed⟩, fun _ none => absurd none (Option.not_mem_none _)⟩
  | reserveGet jobId =>
      simp only [perform]
      split
      · exact ⟨stored, fun _ none => absurd none (Option.not_mem_none _)⟩
      · rename_i job found
        have known : Known created { job with attempts := job.attempts + 1 } :=
          (stored.recorded jobId job found).copy ⟨rfl, rfl, rfl⟩
        exact ⟨stored, beginSetStatus_known known .reserve⟩
  | countOld job transition => exact ⟨⟨stored.recorded, stored.timed⟩, held⟩
  | countNew job transition =>
      refine ⟨⟨stored.recorded, stored.timed⟩, ?_⟩
      intro saved same
      cases Option.mem_some_iff.mp same
      exact (held job rfl).copy ⟨rfl, rfl, rfl⟩
  | saveRecord job transition =>
      exact afterSave_known (stored.setRecord (held job rfl) job.id) (held job rfl) handlers transition
  | handling job => exact ⟨stored, held⟩
  | pushDlq job =>
      exact ⟨⟨stored.recorded, stored.timed⟩, fun _ none => absurd none (Option.not_mem_none _)⟩
  | stopped => exact ⟨stored, held⟩

theorem commandFails_known {activity : Activity} (stored : StoredKnown created state)
    (held : ∀ job ∈ activity.job, Known created job) (error : String) :
    CommandKnown created (commandFails state error activity) := by
  have nothing : ∀ job ∈ (none : Option Job), Known created job :=
    fun _ none => absurd none (Option.not_mem_none _)
  cases activity with
  | enqueueSave job => exact ⟨⟨stored.recorded, stored.timed⟩, nothing⟩
  | enqueueCount job => exact ⟨⟨stored.recorded, stored.timed⟩, nothing⟩
  | enqueuePush job => exact ⟨⟨stored.recorded, stored.timed⟩, nothing⟩
  | reservePop => exact ⟨stored, nothing⟩
  | reserveGet jobId => exact ⟨⟨stored.recorded, stored.timed⟩, nothing⟩
  | countOld job transition => exact ⟨stored, held⟩
  | countNew job transition =>
      refine ⟨⟨stored.recorded, stored.timed⟩, ?_⟩
      intro saved same
      cases Option.mem_some_iff.mp same
      exact (held job rfl).copy ⟨rfl, rfl, rfl⟩
  | saveRecord job transition =>
      cases transition with
      | complete => exact ⟨stored, beginFail_known (held job rfl) error⟩
      | reserve | retry | deadLetter => exact ⟨⟨stored.recorded, stored.timed⟩, nothing⟩
  | handling job => exact ⟨stored, held⟩
  | pushDlq job => exact ⟨⟨stored.recorded, stored.timed⟩, nothing⟩
  | stopped => exact ⟨stored, held⟩

end Commands

/-! ### Every run -/

section Steps

variable {state : QueueState} {index : Nat}

theorem Identified.place (identified : Identified state) {result : QueueState × Activity}
    (known : CommandKnown state.created result)
    (created : result.1.created = state.created)
    (activities : result.1.activities = state.activities) :
    Identified (result.1.place index result.2) := by
  refine ⟨?_, ?_⟩
  · change ∀ activity ∈ result.1.activities.set index result.2,
      ∀ job ∈ Activity.job activity, Known result.1.created job
    rw [created, activities]
    exact forall_mem_set _ _ _ identified.held known.held
  · change StoredKnown result.1.created _
    rw [created]
    exact ⟨known.stored.recorded, known.stored.timed⟩

theorem perform_frame (handlers : String → Bool) (state : QueueState) (activity : Activity) :
    (perform handlers state activity).1.created = state.created ∧
      (perform handlers state activity).1.activities = state.activities := by
  cases activity with
  | reservePop | reserveGet jobId =>
      simp only [perform]
      split
      · exact ⟨rfl, rfl⟩
      · exact ⟨rfl, rfl⟩
  | saveRecord job transition =>
      cases transition with
      | reserve =>
          simp only [perform, afterSave]
          split
          · exact ⟨rfl, rfl⟩
          · exact ⟨rfl, rfl⟩
      | complete | retry | deadLetter => exact ⟨rfl, rfl⟩
  | enqueueSave job | enqueueCount job | enqueuePush job | countOld job transition
  | countNew job transition | handling job | pushDlq job | stopped => exact ⟨rfl, rfl⟩

theorem commandFails_frame (state : QueueState) (error : String) (activity : Activity) :
    (commandFails state error activity).1.created = state.created ∧
      (commandFails state error activity).1.activities = state.activities := by
  cases activity with
  | saveRecord job transition =>
      cases transition with
      | reserve | complete | retry | deadLetter => exact ⟨rfl, rfl⟩
  | enqueueSave job | enqueueCount job | enqueuePush job | reservePop | reserveGet jobId
  | countOld job transition | countNew job transition | handling job | pushDlq job
  | stopped => exact ⟨rfl, rfl⟩

theorem afterSettle_known {created : List Job} {job : Job} (known : Known created job)
    (outcome : Option String) : ∀ held ∈ (afterSettle job outcome).job, Known created held := by
  cases outcome with
  | none => exact beginSetStatus_known known .complete
  | some error => exact beginFail_known known error

theorem Identified.spawn (identified : Identified state) {activity : Activity}
    (known : ∀ job ∈ activity.job, Known state.created job) : Identified (state.spawn activity) := by
  refine ⟨?_, ⟨identified.stored.recorded, identified.stored.timed⟩⟩
  intro other member
  rcases List.mem_append.mp member with before | new
  · exact identified.held other before
  · exact List.mem_singleton.mp new ▸ known

theorem Identified.create (identified : Identified state) (job : Job) :
    Identified (state.create job) := by
  have kept : ∀ other ∈ state.created, other ∈ state.created ++ [job] :=
    fun _ => List.mem_append_left _
  refine ⟨?_, ⟨?_, ?_⟩⟩
  · exact fun activity member other own => (identified.held activity member other own).more kept
  · exact fun jobId other found => (identified.stored.recorded jobId other found).more kept
  · exact fun other member => (identified.stored.timed other member).more kept

theorem Identified.removeTimer (identified : Identified state) (index : Nat) :
    StoredKnown state.created (state.removeTimer index) :=
  ⟨identified.stored.recorded, fun job member =>
    identified.stored.timed job (List.mem_of_mem_eraseIdx member)⟩

theorem queueStep_identified (handlers : String → Bool) {after : QueueState} {label : QueueLabel}
    (identified : Identified state) (moved : queueStep handlers state label = some after) :
    Identified after := by
  cases queueStep_moves moved with
  | enqueue type payload options job fresh =>
      have created := identified.create job
      have started : Identified ((state.create job).setLatest job.id .pending) :=
        ⟨created.held, ⟨created.stored.recorded, created.stored.timed⟩⟩
      apply started.spawn
      intro held same
      cases Option.mem_some_iff.mp same
      exact ⟨job, List.mem_append_right _ List.mem_cons_self, .refl job⟩
  | startWorker => exact identified.spawn fun _ none => absurd none (Option.not_mem_none _)
  | perform index activity present =>
      have known := perform_known identified.stored
        (identified.held activity (List.mem_of_getElem? present)) handlers
      have frame := perform_frame handlers state activity
      exact identified.place known frame.1 frame.2
  | settle index job outcome present =>
      have known := identified.held _ (List.mem_of_getElem? present) job rfl
      have settled : CommandKnown state.created (state, afterSettle job outcome) :=
        ⟨identified.stored, afterSettle_known known outcome⟩
      exact identified.place settled rfl rfl
  | fire index job present =>
      have left := identified.removeTimer index
      exact ⟨identified.held, ⟨left.recorded, left.timed⟩⟩
  | expire jobId record found done =>
      refine ⟨identified.held, ⟨?_, identified.stored.timed⟩⟩
      intro other job recorded
      change (if other = jobId then none else state.records other) = some job at recorded
      split at recorded
      · cases recorded
      · exact identified.stored.recorded other job recorded
  | commandFails index error activity present =>
      have known := commandFails_known identified.stored
        (identified.held activity (List.mem_of_getElem? present)) error
      have frame := commandFails_frame state error activity
      exact identified.place known frame.1 frame.2
  | crash index activity present =>
      have known : CommandKnown state.created (state.drop activity.jobId, Activity.stopped) :=
        ⟨⟨identified.stored.recorded, identified.stored.timed⟩,
          fun _ none => absurd none (Option.not_mem_none _)⟩
      exact identified.place known rfl rfl
  | timerLost index job present =>
      have left := identified.removeTimer index
      exact ⟨identified.held, ⟨left.recorded, left.timed⟩⟩

end Steps

end AudioBlock.Jobs
