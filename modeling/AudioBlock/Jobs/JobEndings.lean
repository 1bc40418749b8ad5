/-
How a job leaves the queue.

A job is ending when its activity is about to complete or to dead-letter it.  Only an
ending job becomes completed or dead-lettered, and a fault drops only the job it strikes.
A job starts to end when its handler returns, when its handler throws with no attempts
left, or when nothing handles its type.
-/
import AudioBlock.Jobs.JobIdentity
import AudioBlock.Jobs.JobDurability

namespace AudioBlock.Jobs

open AudioBlock.Foundation

def Transition.ends : Transition → Bool
  | .complete | .deadLetter => true
  | .reserve | .retry => false

/-- The job that an activity is about to complete or to dead-letter. -/
def Activity.ending : Activity → Option Job
  | .countOld job transition | .countNew job transition | .saveRecord job transition =>
      if transition.ends then some job else none
  | .pushDlq job => some job
  | .enqueueSave _ | .enqueueCount _ | .enqueuePush _ | .reservePop | .reserveGet _
  | .handling _ | .stopped => none

def QueueState.Left (state : QueueState) (jobId : Nat) : Prop :=
  jobId ∈ state.completed ∨ jobId ∈ state.dlq ∨ jobId ∈ state.dropped

/-- No handler returned, and none may try again. -/
def Spent (job : Job) (outcome : Option String) : Prop :=
  outcome = none ∨ job.maxAttempts ≤ job.attempts

section Commands

variable {state : QueueState}

variable {job held : Job} {activity : Activity}

theorem beginSetStatus_ending {transition : Transition}
    (ending : held ∈ (beginSetStatus job transition).ending) :
    held = job ∧ transition.ends = true := by
  unfold beginSetStatus at ending
  split at ending
  · change held ∈ (if transition.ends then some job else none) at ending
    split at ending
    · rename_i ends
      exact ⟨(Option.mem_some_iff.mp ending).symm, ends⟩
    · cases ending
  · change held ∈ (if transition.ends then some job else none) at ending
    split at ending
    · rename_i ends
      exact ⟨(Option.mem_some_iff.mp ending).symm, ends⟩
    · cases ending

theorem beginFail_ending {error : String} (ending : held ∈ (beginFail job error).ending) :
    SameJob job held ∧ job.maxAttempts ≤ job.attempts := by
  unfold beginFail at ending
  split at ending
  · cases (beginSetStatus_ending ending).2
  · rename_i spent
    obtain ⟨rfl, _⟩ := beginSetStatus_ending ending
    exact ⟨⟨rfl, rfl, rfl⟩, Int.not_lt.mp spent⟩

theorem afterSettle_ending {outcome : Option String}
    (ending : held ∈ (afterSettle job outcome).ending) : SameJob job held ∧ Spent job outcome := by
  cases outcome with
  | none =>
      obtain ⟨rfl, _⟩ := beginSetStatus_ending ending
      exact ⟨.refl held, Or.inl rfl⟩
  | some error =>
      obtain ⟨same, spent⟩ := beginFail_ending ending
      exact ⟨same, Or.inr spent⟩

theorem perform_ending (handlers : String → Bool)
    (ending : held ∈ (perform handlers state activity).2.ending) :
    (∃ former ∈ activity.ending, SameJob former held) ∨ handlers held.type = false := by
  cases activity with
  | enqueueSave job | enqueueCount job | enqueuePush job | handling job | stopped => cases ending
  | reservePop =>
      simp only [perform] at ending
      split at ending
      · cases ending
      · cases ending
  | reserveGet jobId =>
      simp only [perform] at ending
      split at ending
      · cases ending
      · cases (beginSetStatus_ending ending).2
  | countOld job transition => exact Or.inl ⟨held, ending, .refl held⟩
  | countNew job transition =>
      change held ∈ (if transition.ends then some { job with status := _ } else none) at ending
      split at ending
      · rename_i ends
        cases Option.mem_some_iff.mp ending
        exact Or.inl ⟨job, if_pos ends, ⟨rfl, rfl, rfl⟩⟩
      · cases ending
  | saveRecord job transition =>
      cases transition with
      | reserve =>
          simp only [perform, afterSave, dispatch] at ending
          split at ending
          · cases ending
          · rename_i unhandled
            obtain ⟨same, _⟩ := beginFail_ending ending
            exact Or.inr (same.type ▸ Bool.eq_false_iff.mpr unhandled)
      | complete | retry => cases ending
      | deadLetter => exact Or.inl ⟨held, ending, .refl held⟩
  | pushDlq job => cases ending

theorem perform_left (handlers : String → Bool) {jobId : Nat}
    (left : (perform handlers state activity).1.Left jobId) :
    state.Left jobId ∨ ∃ job ∈ activity.ending, job.id = jobId := by
  cases activity with
  | reservePop | reserveGet other =>
      simp only [perform] at left
      split at left
      · exact Or.inl left
      · exact Or.inl left
  | saveRecord job transition =>
      cases transition with
      | reserve =>
          simp only [perform, afterSave] at left
          split at left
          · exact Or.inl left
          · exact Or.inl left
      | complete =>
          rcases left with completed | other
          · rcases List.mem_append.mp completed with before | new
            · exact Or.inl (Or.inl before)
            · exact Or.inr ⟨job, rfl, (List.mem_singleton.mp new).symm⟩
          · exact Or.inl (Or.inr other)
      | retry | deadLetter => exact Or.inl left
  | pushDlq job =>
      rcases left with completed | dead | lost
      · exact Or.inl (Or.inl completed)
      · rcases List.mem_cons.mp dead with new | before
        · exact Or.inr ⟨job, rfl, new.symm⟩
        · exact Or.inl (Or.inr (Or.inl before))
      · exact Or.inl (Or.inr (Or.inr lost))
  | enqueueSave job | enqueueCount job | enqueuePush job | countOld job transition
  | countNew job transition | handling job | stopped => exact Or.inl left

theorem commandFails_ending {error : String}
    (ending : held ∈ (commandFails state error activity).2.ending) :
    ∃ former ∈ activity.ending, SameJob former held := by
  cases activity with
  | enqueueSave job | enqueueCount job | enqueuePush job | handling job | stopped | reservePop
  | reserveGet jobId | pushDlq job => cases ending
  | countOld job transition => exact ⟨held, ending, .refl held⟩
  | countNew job transition =>
      change held ∈ (if transition.ends then some { job with status := _ } else none) at ending
      split at ending
      · rename_i ends
        cases Option.mem_some_iff.mp ending
        exact ⟨job, if_pos ends, ⟨rfl, rfl, rfl⟩⟩
      · cases ending
  | saveRecord job transition =>
      cases transition with
      | complete => exact ⟨job, rfl, (beginFail_ending ending).1⟩
      | reserve | retry | deadLetter => cases ending

theorem commandFails_kept (state : QueueState) (error : String) (activity : Activity) :
    (commandFails state error activity).1.completed = state.completed ∧
      (commandFails state error activity).1.dlq = state.dlq := by
  cases activity with
  | saveRecord job transition =>
      cases transition with
      | reserve | complete | retry | deadLetter => exact ⟨rfl, rfl⟩
  | enqueueSave job | enqueueCount job | enqueuePush job | reservePop | reserveGet jobId
  | countOld job transition | countNew job transition | handling job | pushDlq job
  | stopped => exact ⟨rfl, rfl⟩

end Commands

/-! ### One step of the queue -/

structure ActivitiesChange (handlers : String → Bool) (state after : QueueState)
    (label : QueueLabel) : Prop where
  ending : ∀ activity ∈ after.activities, ∀ job ∈ activity.ending,
    (∃ old ∈ state.activities, ∃ former ∈ old.ending, SameJob former job) ∨
      handlers job.type = false ∨
      ∃ index former outcome, label = .settle index outcome ∧
        state.activities[index]? = some (.handling former) ∧ SameJob former job ∧
          Spent former outcome
  handling : ∀ index job, state.activities[index]? = some (.handling job) →
    after.activities[index]? = some (.handling job) ∨ label = .crash index ∨
      ∃ outcome, label = .settle index outcome

section Steps

variable {handlers : String → Bool} {state after : QueueState} {label : QueueLabel} {index : Nat}

theorem ActivitiesChange.same (same : after.activities = state.activities) :
    ActivitiesChange handlers state after label := by
  refine ⟨?_, ?_⟩
  · intro activity member job ending
    exact Or.inl ⟨activity, same ▸ member, job, ending, .refl job⟩
  · intro index job present
    exact Or.inl (same ▸ present)

theorem ActivitiesChange.spawned {activity : Activity} (none : activity.ending = none)
    (activities : after.activities = state.activities ++ [activity]) :
    ActivitiesChange handlers state after label := by
  refine ⟨?_, ?_⟩
  · intro other member job ending
    rw [activities] at member
    rcases List.mem_append.mp member with before | new
    · exact Or.inl ⟨other, before, job, ending, .refl job⟩
    · rw [List.mem_singleton.mp new, none] at ending
      cases ending
  · intro index job present
    have within := (List.getElem?_eq_some_iff.mp present).1
    rw [activities, List.getElem?_append_left within]
    exact Or.inl present

theorem ActivitiesChange.placed {activity next : Activity}
    (present : state.activities[index]? = some activity)
    (activities : after.activities = state.activities.set index next)
    (ends : ∀ job ∈ next.ending, (∃ former ∈ activity.ending, SameJob former job) ∨
      handlers job.type = false ∨
      ∃ former outcome, label = .settle index outcome ∧ activity = .handling former ∧
        SameJob former job ∧ Spent former outcome)
    (handles : ∀ job, activity = .handling job →
      next = .handling job ∨ label = .crash index ∨ ∃ outcome, label = .settle index outcome) :
    ActivitiesChange handlers state after label := by
  refine ⟨?_, ?_⟩
  · intro other member job ending
    rw [activities] at member
    rcases List.mem_or_eq_of_mem_set member with before | rfl
    · exact Or.inl ⟨other, before, job, ending, .refl job⟩
    · rcases ends job ending with ⟨former, was, same⟩ | unhandled | ⟨former, outcome, rfl, rfl, rest⟩
      · exact Or.inl ⟨activity, List.mem_of_getElem? present, former, was, same⟩
      · exact Or.inr (Or.inl unhandled)
      · exact Or.inr (Or.inr ⟨index, former, outcome, rfl, present, rest⟩)
  · intro other job handled
    rw [activities]
    by_cases here : index = other
    · subst here
      rw [present] at handled
      have within := (List.getElem?_eq_some_iff.mp present).1
      rw [List.getElem?_set_self within]
      rcases handles job (Option.some.inj handled) with rfl | ended
      · exact Or.inl rfl
      · exact Or.inr ended
    · rw [List.getElem?_set_ne here]
      exact Or.inl handled

section

variable (moved : queueStep handlers state label = some after)
include moved

theorem queueStep_activities :
    ActivitiesChange handlers state after label := by
  cases queueStep_moves moved with
  | enqueue type payload options job fresh => exact .spawned rfl rfl
  | startWorker => exact .spawned rfl rfl
  | perform index activity present =>
      have frame := (perform_frame handlers state activity).2
      refine .placed present (congrArg (List.set · index _) frame) ?_ ?_
      · intro job ending
        rcases perform_ending handlers ending with was | unhandled
        · exact Or.inl was
        · exact Or.inr (Or.inl unhandled)
      · rintro job rfl
        exact Or.inl rfl
  | settle index job outcome present =>
      refine .placed present rfl ?_ ?_
      · intro held ending
        obtain ⟨same, spent⟩ := afterSettle_ending ending
        exact Or.inr (Or.inr ⟨job, outcome, rfl, rfl, same, spent⟩)
      · exact fun _ _ => Or.inr (Or.inr ⟨outcome, rfl⟩)
  | fire index job present => exact .same rfl
  | expire jobId record found done => exact .same rfl
  | commandFails index error activity present =>
      have frame := (commandFails_frame state error activity).2
      refine .placed present (congrArg (List.set · index _) frame) ?_ ?_
      · exact fun job ending => Or.inl (commandFails_ending ending)
      · rintro job rfl
        exact Or.inl rfl
  | crash index activity present =>
      refine .placed present rfl ?_ ?_
      · exact fun job none => absurd none (Option.not_mem_none _)
      · exact fun _ _ => Or.inr (Or.inl rfl)
  | timerLost index job present => exact .same rfl

theorem queueStep_left {jobId : Nat} (left : after.Left jobId) :
    state.Left jobId ∨ strikes state label = some jobId ∨
      ∃ activity ∈ state.activities, ∃ job ∈ activity.ending, job.id = jobId := by
  have dropped := queueStep_dropped handlers moved
  have lost : jobId ∈ after.dropped → state.Left jobId ∨ strikes state label = some jobId := by
    intro member
    rw [dropped] at member
    rcases List.mem_append.mp member with before | struckNow
    · exact Or.inl (Or.inr (Or.inr before))
    · exact Or.inr (Option.mem_toList.mp struckNow)
  have known : after.completed = state.completed → after.dlq = state.dlq →
      state.Left jobId ∨ strikes state label = some jobId ∨
        ∃ activity ∈ state.activities, ∃ job ∈ activity.ending, job.id = jobId := by
    intro completed dlq
    rcases left with finished | dead | gone
    · exact Or.inl (Or.inl (completed ▸ finished))
    · exact Or.inl (Or.inr (Or.inl (dlq ▸ dead)))
    · exact (lost gone).imp_right Or.inl
  cases queueStep_moves moved with
  | perform index activity present =>
      rcases perform_left handlers left with before | ⟨job, ending, own⟩
      · exact Or.inl before
      · exact Or.inr (Or.inr ⟨activity, List.mem_of_getElem? present, job, ending, own⟩)
  | commandFails index error activity present =>
      have kept := commandFails_kept state error activity
      exact known kept.1 kept.2
  | enqueue type payload options job fresh => exact known rfl rfl
  | startWorker => exact known rfl rfl
  | settle index job outcome present => exact known rfl rfl
  | fire index job present => exact known rfl rfl
  | expire other record found done => exact known rfl rfl
  | crash index activity present => exact known rfl rfl
  | timerLost index job present => exact known rfl rfl

theorem queueStep_created :
    (∀ job ∈ state.created, job ∈ after.created) ∧
      ∀ job ∈ after.created, job ∈ state.created ∨
        ∃ payload options, label = .enqueue job.type payload options := by
  cases queueStep_moves moved with
  | enqueue type payload options job fresh =>
      subst fresh
      refine ⟨fun _ => List.mem_append_left _, ?_⟩
      intro other member
      rcases List.mem_append.mp member with before | new
      · exact Or.inl before
      · cases List.mem_singleton.mp new
        exact Or.inr ⟨payload, options, rfl⟩
  | perform index activity present =>
      have frame := (perform_frame handlers state activity).1
      change (∀ job ∈ state.created, job ∈ (perform handlers state activity).1.created) ∧
        ∀ job ∈ (perform handlers state activity).1.created, _
      rw [frame]
      exact ⟨fun _ => id, fun _ => Or.inl⟩
  | commandFails index error activity present =>
      have frame := (commandFails_frame state error activity).1
      change (∀ job ∈ state.created, job ∈ (commandFails state error activity).1.created) ∧
        ∀ job ∈ (commandFails state error activity).1.created, _
      rw [frame]
      exact ⟨fun _ => id, fun _ => Or.inl⟩
  | startWorker => exact ⟨fun _ => id, fun _ => Or.inl⟩
  | settle index job outcome present => exact ⟨fun _ => id, fun _ => Or.inl⟩
  | fire index job present => exact ⟨fun _ => id, fun _ => Or.inl⟩
  | expire jobId record found done => exact ⟨fun _ => id, fun _ => Or.inl⟩
  | crash index activity present => exact ⟨fun _ => id, fun _ => Or.inl⟩
  | timerLost index job present => exact ⟨fun _ => id, fun _ => Or.inl⟩

end

end Steps

end AudioBlock.Jobs
