/-
What a fault costs a job.

The waiting lists hold an identifier only until `brpop` takes it, and a retry
waits in the memory of its process.  A crash or a failing command loses the job
that it finds off the lists; the record of the job stays in Redis, where no worker
looks for it.
-/
import AudioBlock.Jobs.JobConservation

namespace AudioBlock.Jobs

open AudioBlock.Foundation

def Activity.loses : Activity → Option Nat
  | .enqueueSave job | .enqueueCount job | .enqueuePush job => some job.id
  | .reserveGet jobId => some jobId
  | .saveRecord _ .complete => none
  | .saveRecord job _ => some job.id
  | .pushDlq job => some job.id
  | .reservePop | .countOld _ _ | .countNew _ _ | .handling _ | .stopped => none

def strikes (state : QueueState) : QueueLabel → Option Nat
  | .commandFails index _ => state.activities[index]?.bind Activity.loses
  | .crash index => state.activities[index]?.bind Activity.jobId
  | .timerLost index => state.timers[index]?.map Job.id
  | .enqueue _ _ _ | .startWorker | .perform _ | .settle _ _ | .fire _ | .expire _ => none

/-- The jobs that the faults of a run struck. -/
def struck (handlers : String → Bool) : QueueState → List QueueLabel → List Nat
  | _, [] => []
  | state, label :: rest =>
      (strikes state label).toList ++
        match queueStep handlers state label with
        | none => []
        | some after => struck handlers after rest

section Dropped

variable {state after : QueueState}

variable (handlers : String → Bool)

theorem perform_dropped (activity : Activity) :
    (perform handlers state activity).1.dropped = state.dropped := by
  cases activity with
  | reservePop =>
      simp only [perform]
      split
      · rfl
      · rfl
  | reserveGet jobId =>
      simp only [perform]
      split
      · rfl
      · rfl
  | saveRecord job transition =>
      cases transition with
      | reserve =>
          simp only [perform, afterSave]
          split
          · rfl
          · rfl
      | complete | retry | deadLetter => rfl
  | enqueueSave job | enqueueCount job | enqueuePush job | countOld job transition
  | countNew job transition | handling job | pushDlq job | stopped => rfl

theorem commandFails_dropped (error : String) (activity : Activity) :
    (commandFails state error activity).1.dropped =
      state.dropped ++ activity.loses.toList := by
  cases activity with
  | saveRecord job transition =>
      cases transition with
      | complete => exact (List.append_nil _).symm
      | reserve | retry | deadLetter => rfl
  | enqueueSave job | enqueueCount job | enqueuePush job | reserveGet jobId | pushDlq job => rfl
  | reservePop | countOld job transition | countNew job transition | handling job | stopped =>
      exact (List.append_nil _).symm

theorem queueStep_dropped {label : QueueLabel}
    (moved : queueStep handlers state label = some after) :
    after.dropped = state.dropped ++ (strikes state label).toList := by
  cases queueStep_moves moved with
  | enqueue type payload options job fresh => exact (List.append_nil _).symm
  | startWorker => exact (List.append_nil _).symm
  | perform index activity present =>
      exact (perform_dropped handlers activity).trans (List.append_nil _).symm
  | settle index job outcome present => exact (List.append_nil _).symm
  | fire index job present => exact (List.append_nil _).symm
  | expire jobId record found done => exact (List.append_nil _).symm
  | commandFails index error activity present =>
      simp only [strikes, present, Option.bind_some]
      exact commandFails_dropped error activity
  | crash index activity present =>
      simp only [strikes, present, Option.bind_some]
      rfl
  | timerLost index job present =>
      simp only [strikes, present, Option.map_some]
      rfl

theorem run_dropped (labels : List QueueLabel)
    (ran : (queueMachine handlers).run state labels = some after) :
    after.dropped = state.dropped ++ struck handlers state labels := by
  induction labels generalizing state with
  | nil =>
      cases ran
      exact (List.append_nil _).symm
  | cons label rest ih =>
      simp only [Machine.run, queueMachine] at ran
      cases moved : queueStep handlers state label with
      | none =>
          rw [moved] at ran
          cases ran
      | some middle =>
          rw [moved] at ran
          rw [ih ran, queueStep_dropped handlers moved, List.append_assoc]
          simp only [struck, moved]

end Dropped

/-! ### The record of an accepted job -/

structure Recorded (state : QueueState) : Prop where
  saved : ∀ jobId ∈ state.accepted, jobId ∉ state.completed →
    ∃ record, state.records jobId = some record
  finished : ∀ jobId record, state.records jobId = some record → record.status = .completed →
    jobId ∈ state.completed

section Records

variable {state after : QueueState} {index : Nat}

theorem Recorded.keep (recorded : Recorded state) (records : after.records = state.records)
    (accepted : ∀ jobId ∈ after.accepted, jobId ∈ state.accepted ∨
      ∃ record, state.records jobId = some record)
    (completed : after.completed = state.completed) : Recorded after := by
  constructor
  · intro jobId member unfinished
    rw [records]
    rw [completed] at unfinished
    exact (accepted jobId member).elim (fun old => recorded.saved jobId old unfinished) id
  · rw [records, completed]
    exact recorded.finished

theorem Recorded.save (recorded : Recorded state) (job : Job)
    (records : after.records = (state.setRecord job.id (some job)).records)
    (accepted : after.accepted = state.accepted)
    (completed : ∀ jobId ∈ state.completed, jobId ∈ after.completed)
    (finished : job.status = .completed → job.id ∈ after.completed) : Recorded after := by
  constructor
  · intro jobId member unfinished
    rw [records]
    by_cases same : jobId = job.id
    · exact ⟨job, if_pos same⟩
    · rw [accepted] at member
      obtain ⟨record, found⟩ := recorded.saved jobId member fun old =>
        unfinished (completed jobId old)
      exact ⟨record, (if_neg same).trans found⟩
  · intro jobId record found done
    rw [records] at found
    by_cases same : jobId = job.id
    · cases (if_pos same).symm.trans found
      rw [same]
      exact finished done
    · exact completed jobId (recorded.finished jobId record ((if_neg same).symm.trans found) done)

variable (handlers : String → Bool)

theorem Recorded.perform (sound : QueueSound state) (recorded : Recorded state)
    {activity : Activity} (present : state.activities[index]? = some activity) :
    Recorded ((perform handlers state activity).1.place index
      (perform handlers state activity).2) := by
  have known := sound.fits _ (List.mem_of_getElem? present)
  cases activity with
  | enqueueSave job =>
      refine recorded.save job rfl rfl (fun _ => id) fun done => ?_
      cases known.pending.symm.trans done
  | enqueuePush job =>
      refine recorded.keep rfl (fun jobId member => ?_) rfl
      refine (List.mem_append.mp member).imp_right fun now => ?_
      rw [List.mem_singleton.mp now]
      exact ⟨job, known.2⟩
  | reservePop =>
      simp only [Jobs.perform]
      split
      · exact recorded.keep rfl (fun _ => Or.inl) rfl
      · exact recorded.keep rfl (fun _ => Or.inl) rfl
  | reserveGet jobId =>
      simp only [Jobs.perform]
      split
      · exact recorded.keep rfl (fun _ => Or.inl) rfl
      · exact recorded.keep rfl (fun _ => Or.inl) rfl
  | saveRecord job transition =>
      have status := known.2
      cases transition with
      | reserve =>
          simp only [Jobs.perform, afterSave]
          split
          · refine recorded.save job rfl rfl (fun _ => id) fun done => ?_
            cases status.symm.trans done
          · refine recorded.save job rfl rfl (fun _ => id) fun done => ?_
            cases status.symm.trans done
      | complete =>
          exact recorded.save job rfl rfl (fun _ => List.mem_append_left _)
            fun _ => List.mem_append_right _ List.mem_cons_self
      | retry | deadLetter =>
          refine recorded.save job rfl rfl (fun _ => id) fun done => ?_
          cases status.symm.trans done
  | enqueueCount job | countOld job transition | countNew job transition | handling job
  | pushDlq job | stopped => exact recorded.keep rfl (fun _ => Or.inl) rfl

theorem Recorded.commandFails (recorded : Recorded state) (error : String) (activity : Activity) :
    Recorded ((commandFails state error activity).1.place index
      (commandFails state error activity).2) := by
  cases activity with
  | saveRecord job transition =>
      cases transition with
      | reserve | complete | retry | deadLetter =>
          exact recorded.keep rfl (fun _ => Or.inl) rfl
  | enqueueSave job | enqueueCount job | enqueuePush job | reservePop | reserveGet jobId
  | countOld job transition | countNew job transition | handling job | pushDlq job | stopped =>
      exact recorded.keep rfl (fun _ => Or.inl) rfl

theorem queueStep_recorded {label : QueueLabel} (sound : QueueSound state)
    (recorded : Recorded state) (moved : queueStep handlers state label = some after) :
    Recorded after := by
  cases queueStep_moves moved with
  | perform index activity present => exact recorded.perform handlers sound present
  | commandFails index error activity present => exact recorded.commandFails error activity
  | expire jobId record found done =>
      have completed := recorded.finished jobId record found done
      constructor
      · intro other member unfinished
        have apart : other ≠ jobId := fun same => unfinished (same ▸ completed)
        obtain ⟨saved, present⟩ := recorded.saved other member unfinished
        exact ⟨saved, (if_neg apart).trans present⟩
      · intro other saved present finished
        by_cases same : other = jobId
        · rw [same]
          exact completed
        · exact recorded.finished other saved ((if_neg same).symm.trans present) finished
  | enqueue type payload options job fresh =>
      exact recorded.keep rfl (fun _ => Or.inl) rfl
  | startWorker => exact recorded.keep rfl (fun _ => Or.inl) rfl
  | settle index job outcome present => exact recorded.keep rfl (fun _ => Or.inl) rfl
  | fire index job present => exact recorded.keep rfl (fun _ => Or.inl) rfl
  | crash index activity present => exact recorded.keep rfl (fun _ => Or.inl) rfl
  | timerLost index job present => exact recorded.keep rfl (fun _ => Or.inl) rfl

theorem queueMachine_recorded {allowed : QueueState → QueueLabel → Prop}
    (reached : (queueMachine handlers).Reachable allowed state) : Recorded state := by
  apply reached.invariant_given QueueSound Recorded fun _ earlier =>
    queueMachine_sound handlers earlier
  · rintro initial rfl
    refine ⟨?_, nofun⟩
    exact fun jobId member => absurd member List.not_mem_nil
  · intro before label after sound recorded _ moved
    exact queueStep_recorded handlers sound recorded moved

end Records

/-! ### What a run loses -/

/-- On a waiting list, on a timer, or in the hand of a call or a worker. -/
def Alive (state : QueueState) (jobId : Nat) : Prop :=
  jobId ∈ state.waiting ∨ jobId ∈ state.timerIds ∨
    ∃ activity ∈ state.activities, activity.jobId = some jobId

instance (state : QueueState) (jobId : Nat) : Decidable (Alive state jobId) :=
  inferInstanceAs (Decidable (_ ∨ _ ∨ _))

section Losses

variable {state : QueueState} {jobId : Nat}

theorem held_pos_iff :
    0 < weigh (Activity.held jobId) state.activities ↔
      ∃ activity ∈ state.activities, activity.jobId = some jobId := by
  constructor
  · intro held
    by_contra nobody
    have none := weigh_eq_zero (Activity.held jobId) state.activities fun activity member => by
      unfold Activity.held
      refine List.count_eq_zero.mpr fun own => nobody ⟨activity, member, ?_⟩
      exact Option.mem_toList.mp own
    omega
  · rintro ⟨activity, member, own⟩
    have inHand := weight_le_weigh (Activity.held jobId) state.activities activity member
    rw [Activity.held_self own] at inHand
    exact inHand

theorem alive_iff :
    Alive state jobId ↔ 0 < state.waiting.count jobId + state.timerIds.count jobId +
      weigh (Activity.held jobId) state.activities := by
  unfold Alive
  rw [← held_pos_iff, ← List.count_pos_iff, ← List.count_pos_iff]
  omega

theorem QueueSound.alive_iff_kept (sound : QueueSound state)
    (created : jobId < state.created.length) (notCompleted : jobId ∉ state.completed)
    (notDead : jobId ∉ state.dlq) : Alive state jobId ↔ jobId ∉ state.dropped := by
  have once := sound.conserved jobId
  rw [if_pos created] at once
  unfold QueueState.places QueueState.stored at once
  rw [List.count_eq_zero.mpr notCompleted, List.count_eq_zero.mpr notDead] at once
  rw [alive_iff, ← List.count_eq_zero]
  omega

theorem Activity.jobId_of_loses {activity : Activity} (lost : activity.loses = some jobId) :
    activity.jobId = some jobId := by
  cases activity with
  | saveRecord job transition =>
      cases transition with
      | complete => cases lost
      | reserve | retry | deadLetter => exact lost
  | enqueueSave job | enqueueCount job | enqueuePush job | reserveGet other | pushDlq job =>
      exact lost
  | reservePop | countOld job transition | countNew job transition | handling job | stopped =>
      cases lost

theorem QueueSound.strikes_off_list (sound : QueueSound state) {label : QueueLabel}
    (struckNow : strikes state label = some jobId) : jobId ∉ state.waiting := by
  cases label with
  | commandFails index error =>
      obtain ⟨activity, present, lost⟩ := Option.bind_eq_some_iff.mp struckNow
      exact (sound.elsewhere present (Activity.jobId_of_loses lost)).1
  | crash index =>
      obtain ⟨activity, present, own⟩ := Option.bind_eq_some_iff.mp struckNow
      exact (sound.elsewhere present own).1
  | timerLost index =>
      obtain ⟨job, present, rfl⟩ := Option.map_eq_some_iff.mp struckNow
      have timed : job.id ∈ state.timerIds :=
        List.mem_map.mpr ⟨job, List.mem_of_getElem? present, rfl⟩
      have once := sound.place_le_one job.id
      have timers := List.count_pos_iff.mpr timed
      intro waits
      have lists := List.count_pos_iff.mpr waits
      unfold QueueState.places QueueState.stored at once
      omega
  | enqueue type payload options | startWorker | perform index
  | settle index outcome | fire index | expire other => cases struckNow

end Losses

/-- An accepted job that has neither completed nor been dead-lettered keeps its
record; a fault that finds it off the lists, and nothing else, loses it. -/
theorem queueMachine_loses_struck (handlers : String → Bool) (labels : List QueueLabel)
    (state : QueueState) (ran : (queueMachine handlers).run emptyQueue labels = some state)
    (jobId : Nat) (accepted : jobId ∈ state.accepted) (notCompleted : jobId ∉ state.completed)
    (notDead : jobId ∉ state.dlq) :
    (∃ record, state.records jobId = some record) ∧
      (Alive state jobId ↔ jobId ∉ struck handlers emptyQueue labels) ∧
        (jobId ∈ state.waiting → ∀ label, strikes state label ≠ some jobId) := by
  have reached : (queueMachine handlers).Reachable (fun _ _ => True) state :=
    .of_run labels (.start rfl) (Machine.permits_always _ _ _) ran
  have sound := queueMachine_sound handlers reached
  have recorded := queueMachine_recorded handlers reached
  have dropped : state.dropped = struck handlers emptyQueue labels := run_dropped handlers labels ran
  refine ⟨recorded.saved jobId accepted notCompleted, ?_, ?_⟩
  · rw [← dropped]
    exact sound.alive_iff_kept (sound.accepted jobId accepted) notCompleted notDead
  · exact fun waits label struckNow => sound.strikes_off_list struckNow waits

/-! A worker takes a job and reads its record. -/

def everyType (_type : String) : Bool := true

def takenJob : List QueueLabel :=
  .enqueue "reindex" "songs" {} :: List.replicate 3 (.perform 0) ++
    .startWorker :: [.perform 1]

theorem queueMachine_loses_nothing_taken :
    ∃ state, (queueMachine everyType).run emptyQueue takenJob = some state ∧
      (∃ record, state.records 0 = some record) ∧
        (Alive state 0 ↔ 0 ∉ struck everyType emptyQueue takenJob) ∧
          (0 ∈ state.waiting → ∀ label, strikes state label ≠ some 0) := by
  have executed : ∃ state, (queueMachine everyType).run emptyQueue takenJob = some state ∧
      0 ∈ state.accepted ∧ 0 ∉ state.completed ∧ 0 ∉ state.dlq :=
    ⟨_, rfl, by decide +kernel, by decide +kernel, by decide +kernel⟩
  obtain ⟨state, ran, accepted, notCompleted, notDead⟩ := executed
  exact ⟨state, ran, queueMachine_loses_struck everyType takenJob state ran 0 accepted notCompleted
    notDead⟩

def delayedJob : List QueueLabel :=
  takenJob ++ List.replicate 4 (.perform 1) ++ .settle 1 (some "timeout") ::
    List.replicate 3 (.perform 1)

/-- The first job was accepted and is unfinished, and no list, timer, call or worker
has it. -/
def LosesFirst (labels : List QueueLabel) : Prop :=
  ∃ state, (queueMachine everyType).run emptyQueue labels = some state ∧
    0 ∈ state.accepted ∧ 0 ∉ state.completed ∧ 0 ∉ state.dlq ∧ ¬ Alive state 0

/-- One failing command, one crash and one lost timer. -/
theorem queueMachine_loses_accepted :
    LosesFirst (takenJob ++ [.commandFails 1 "READONLY"]) ∧ LosesFirst (takenJob ++ [.crash 1]) ∧
      LosesFirst (delayedJob ++ [.timerLost 0]) := by
  refine ⟨?_, ?_, ?_⟩
  · exact ⟨_, rfl, by decide +kernel, by decide +kernel, by decide +kernel, by decide +kernel⟩
  · exact ⟨_, rfl, by decide +kernel, by decide +kernel, by decide +kernel, by decide +kernel⟩
  · exact ⟨_, rfl, by decide +kernel, by decide +kernel, by decide +kernel, by decide +kernel⟩

/-- Whatever fails, a job lies in one place, the hand of an activity and the record of the dropped
jobs among them, runs within its limit, and is marked as completed only when it is. -/
theorem queueMachine_accounts_faults (handlers : String → Bool) (labels : List QueueLabel)
    (state : QueueState) (ran : (queueMachine handlers).run emptyQueue labels = some state) :
    (∀ job ∈ state.created, state.places job.id = 1 ∧
      (state.runs.count job.id : Int) ≤ max 1 job.maxAttempts) ∧
      ∀ jobId record, state.records jobId = some record → record.status = .completed →
        jobId ∈ state.completed := by
  have reached : (queueMachine handlers).Reachable (fun _ _ => True) state :=
    .of_run labels (.start rfl) (Machine.permits_always _ _ _) ran
  have sound := queueMachine_sound handlers reached
  refine ⟨fun job member => ⟨?_, sound.bounded job member⟩,
    (queueMachine_recorded handlers reached).finished⟩
  have listed : job.id ∈ state.created.map Job.id := List.mem_map_of_mem member
  rw [sound.numbered] at listed
  rw [sound.conserved, if_pos (List.mem_range.mp listed)]

theorem queueMachine_accounts_crash : ∃ state,
    (queueMachine everyType).run emptyQueue (takenJob ++ [.crash 1]) = some state ∧
      state.dropped = [0] ∧ ∀ job ∈ state.created, state.places job.id = 1 := by
  obtain ⟨state, ran, dropped⟩ : ∃ state, (queueMachine everyType).run emptyQueue
      (takenJob ++ [.crash 1]) = some state ∧ state.dropped = [0] := ⟨_, rfl, by decide +kernel⟩
  exact ⟨state, ran, dropped, fun job member =>
    ((queueMachine_accounts_faults everyType _ state ran).1 job member).1⟩

end AudioBlock.Jobs
