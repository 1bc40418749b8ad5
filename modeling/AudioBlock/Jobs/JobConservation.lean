/-
Every job created is in one place, under any faults.

An identifier is in one place, so a step that moves it changes what is known of
that job alone.  The invariant survives every command, also one that fails, and a
crash at any of them.
-/
import AudioBlock.Jobs.JobKnowledge

namespace AudioBlock.Jobs

open AudioBlock.Foundation

structure QueueSound (state : QueueState) : Prop where
  numbered : state.created.map Job.id = List.range state.created.length
  conserved : ∀ jobId, state.places jobId = if jobId < state.created.length then 1 else 0
  bounded : ∀ job ∈ state.created, (state.runs.count job.id : Int) ≤ max 1 job.maxAttempts
  ran : ∀ jobId ∈ state.runs, jobId < state.created.length
  fits : ∀ activity ∈ state.activities, Fits state activity
  resting : ∀ jobId, jobId ∈ state.waiting ∨ jobId ∈ state.timerIds → Resting state jobId
  settled : ∀ jobId, jobId ∈ state.completed ∨ jobId ∈ state.dlq → Settled state jobId
  accepted : ∀ jobId ∈ state.accepted, jobId < state.created.length

/-! ### One step about one job -/

section Steps

variable {state after : QueueState} {index : Nat} {activity next : Activity}

theorem QueueSound.place_le_one (sound : QueueSound state) (jobId : Nat) :
    state.places jobId ≤ 1 := by
  rw [sound.conserved]
  split
  · exact Nat.le_refl 1
  · exact Nat.zero_le 1

variable {jobId : Nat}

section

variable (sound : QueueSound state)
include sound

theorem QueueSound.lt_of_placed (placed : 1 ≤ state.places jobId) :
    jobId < state.created.length := by
  rw [sound.conserved] at placed
  split at placed
  · assumption
  · omega

section

variable (present : state.activities[index]? = some activity) (own : activity.jobId = some jobId)
include present own

theorem QueueSound.lt_created :
    jobId < state.created.length := by
  have inHand := weight_le_weigh (Activity.held jobId) state.activities activity
    (List.mem_of_getElem? present)
  rw [Activity.held_self own] at inHand
  apply sound.lt_of_placed
  unfold QueueState.places
  omega

theorem QueueSound.elsewhere :
    jobId ∉ state.waiting ∧ jobId ∉ state.timerIds ∧ jobId ∉ state.completed ∧
      jobId ∉ state.dlq := by
  have once := sound.place_le_one jobId
  have inHand := weight_le_weigh (Activity.held jobId) state.activities activity
    (List.mem_of_getElem? present)
  rw [Activity.held_self own] at inHand
  unfold QueueState.places QueueState.stored at once
  refine ⟨?_, ?_, ?_, ?_⟩
  · exact fun member => by
      have counted := List.count_pos_iff.mpr member
      omega
  · exact fun member => by
      have counted := List.count_pos_iff.mpr member
      omega
  · exact fun member => by
      have counted := List.count_pos_iff.mpr member
      omega
  · exact fun member => by
      have counted := List.count_pos_iff.mpr member
      omega

end

theorem QueueSound.change (jobId : Nat) (present : state.activities[index]? = some activity)
    (activities : after.activities = state.activities.set index next)
    (moved : ∀ other, after.stored other + next.held other =
      state.stored other + activity.held other) (alone : 1 ≤ after.stored jobId + next.held jobId)
    (frame : Frame jobId state after) (created : after.created = state.created)
    (bounded : ∀ job ∈ state.created, (after.runs.count job.id : Int) ≤ max 1 job.maxAttempts)
    (fits : Fits after next)
    (waits : ∀ other, other ≠ jobId → other ∈ after.waiting ∨ other ∈ after.timerIds →
      other ∈ state.waiting ∨ other ∈ state.timerIds)
    (rests : jobId ∈ after.waiting ∨ jobId ∈ after.timerIds → Resting after jobId)
    (ends : ∀ other, other ≠ jobId → other ∈ after.completed ∨ other ∈ after.dlq →
      other ∈ state.completed ∨ other ∈ state.dlq)
    (settles : jobId ∈ after.completed ∨ jobId ∈ after.dlq → Settled after jobId)
    (accepted : ∀ other ∈ after.accepted, other ∈ state.accepted ∨ other < state.created.length) :
    QueueSound after := by
  have conserved : ∀ other, after.places other = state.places other := by
    intro other
    have weighed := weigh_set (Activity.held other) state.activities index activity next present
    have shifted := moved other
    unfold QueueState.places
    rw [activities]
    omega
  have placed : next ∈ after.activities := by
    rw [activities]
    exact List.mem_set (List.getElem?_eq_some_iff.mp present).1 next
  refine ⟨?_, ?_, ?_, ?_, ?_, ?_, ?_, ?_⟩
  · rw [created]
    exact sound.numbered
  · intro other
    rw [conserved, created]
    exact sound.conserved other
  · rw [created]
    exact bounded
  · intro other member
    rw [created]
    by_cases same : other = jobId
    · rw [same]
      apply sound.lt_of_placed
      have inHand := weight_le_weigh (Activity.held jobId) after.activities next placed
      have kept := conserved jobId
      unfold QueueState.places at kept ⊢
      omega
    · have counted := List.count_pos_iff.mpr member
      rw [frame.runs other same] at counted
      exact sound.ran other (List.count_pos_iff.mp counted)
  · intro other member
    by_cases same : other = next
    · rw [same]
      exact fits
    · have apart : other.jobId ≠ some jobId := by
        intro own
        have once := sound.place_le_one jobId
        have two := weight_add_le_weigh (Activity.held jobId) after.activities other next member
          placed same
        rw [Activity.held_self own] at two
        have kept := conserved jobId
        unfold QueueState.places at kept once
        omega
      rw [activities] at member
      have old := (List.mem_or_eq_of_mem_set member).resolve_right same
      exact (sound.fits other old).frame apart frame
  · intro other member
    by_cases same : other = jobId
    · rw [same] at member ⊢
      exact rests member
    · exact (sound.resting other (waits other same member)).frame same frame
  · intro other member
    by_cases same : other = jobId
    · rw [same] at member ⊢
      exact settles member
    · exact (sound.settled other (ends other same member)).frame same frame
  · intro other member
    rw [created]
    rcases accepted other member with before | below
    · exact sound.accepted other before
    · exact below

theorem QueueSound.advance (present : state.activities[index]? = some activity)
    (own : activity.jobId = some jobId)
    (activities : after.activities = state.activities.set index next)
    (moved : ∀ other, after.stored other + next.held other =
      state.stored other + activity.held other) (frame : Frame jobId state after)
    (created : after.created = state.created)
    (bounded : ∀ job ∈ state.created, (after.runs.count job.id : Int) ≤ max 1 job.maxAttempts)
    (fits : Fits after next)
    (lists : after.waiting = state.waiting ∧ after.timerIds = state.timerIds ∧
      after.completed = state.completed ∧ after.dlq = state.dlq)
    (accepted : after.accepted = state.accepted) : QueueSound after := by
  obtain ⟨notWaiting, notTimed, notCompleted, notDead⟩ := sound.elsewhere present own
  obtain ⟨waiting, timers, completed, dlq⟩ := lists
  have alone := moved jobId
  rw [Activity.held_self own] at alone
  apply sound.change jobId present activities moved (by omega) frame created bounded fits
  · intro other _ member
    rw [waiting, timers] at member
    exact member
  · rw [waiting, timers]
    exact fun member => absurd member (not_or.mpr ⟨notWaiting, notTimed⟩)
  · intro other _ member
    rw [completed, dlq] at member
    exact member
  · rw [completed, dlq]
    exact fun member => absurd member (not_or.mpr ⟨notCompleted, notDead⟩)
  · intro other member
    rw [accepted] at member
    exact Or.inl member

end

theorem count_ne {other : Nat} (different : other ≠ jobId) : [jobId].count other = 0 :=
  List.count_eq_zero.mpr fun member => different (List.mem_singleton.mp member)

end Steps

section Commands

variable {state : QueueState} {index : Nat} {job : Job} {transition : Transition}
  (handlers : String → Bool)

theorem QueueSound.enqueueSave (sound : QueueSound state)
    (present : state.activities[index]? = some (.enqueueSave job)) :
    QueueSound ((state.setRecord job.id (some job)).place index (.enqueueCount job)) := by
  have known := sound.fits _ (List.mem_of_getElem? present)
  refine sound.advance present rfl rfl (fun _ => rfl) ?_ rfl sound.bounded ?_
    ⟨rfl, rfl, rfl, rfl⟩ rfl
  · exact ⟨fun other different => if_neg different, fun _ _ => rfl, fun _ _ => rfl, fun _ => id⟩
  · exact ⟨⟨known.created, known.pending, known.latest, known.unattempted, known.unrun⟩, if_pos rfl⟩

theorem QueueSound.enqueuePush (sound : QueueSound state)
    (present : state.activities[index]? = some (.enqueuePush job)) :
    QueueSound (((state.lpush job.priority job.id).accept job.id).place index .stopped) := by
  obtain ⟨fresh, saved⟩ := sound.fits _ (List.mem_of_getElem? present)
  have same : Unchanged state
      (((state.lpush job.priority job.id).accept job.id).place index .stopped) :=
    .of_same rfl rfl rfl rfl
  have moved := fun other => state.stored_lpush job.id other job.priority
  have one : [job.id].count job.id = 1 := List.count_singleton_self
  obtain ⟨_, _, notCompleted, notDead⟩ := sound.elsewhere present rfl
  refine sound.change job.id present rfl moved ?_ (same _) rfl sound.bounded trivial ?_ ?_ ?_ ?_ ?_
  · change 1 ≤ (state.lpush job.priority job.id).stored job.id + _
    rw [moved]
    omega
  · intro other different member
    rcases member with pushed | timed
    · have counted := List.count_pos_iff.mpr pushed
      change 0 < (state.lpush job.priority job.id).waiting.count other at counted
      rw [state.waiting_lpush, count_ne different, Nat.zero_add] at counted
      exact Or.inl (List.count_pos_iff.mp counted)
    · exact Or.inr timed
  · intro _
    refine ⟨job, saved, rfl, fresh.created, fresh.pending, fresh.latest, ?_, Or.inl fresh.unattempted⟩
    exact Nat.le_of_eq (fresh.unrun.trans fresh.unattempted.symm)
  · exact fun other _ => id
  · exact fun member => absurd member (not_or.mpr ⟨notCompleted, notDead⟩)
  · intro other member
    rcases List.mem_append.mp member with before | now
    · exact Or.inl before
    · rw [List.mem_singleton.mp now]
      exact Or.inr (sound.lt_created present rfl)

variable {jobId : Nat} {activity : Activity}

section

variable (sound : QueueSound state)
include sound

theorem QueueSound.reserveGet (present : state.activities[index]? = some (.reserveGet jobId)) :
    QueueSound ((perform handlers state (.reserveGet jobId)).1.place index
      (perform handlers state (.reserveGet jobId)).2) := by
  obtain ⟨job, found, named, created, pending, latest, runs, attempts⟩ :=
    sound.fits _ (List.mem_of_getElem? present)
  have underway : Underway state { job with attempts := job.attempts + 1 } .reserve := by
    refine ⟨created, ?_, ?_, ?_⟩
    · exact (named ▸ latest).trans pending.symm
    · exact Nat.lt_succ_of_le (named ▸ runs)
    · unfold WithinLimit
      dsimp only
      rcases attempts with zero | more
      · omega
      · omega
  have moved := fun other => perform_stored handlers state (.reserveGet jobId) other
    fun _ same => by
      cases same
      exact ⟨job, found, named⟩
  simp only [perform, found] at moved ⊢
  have same : Unchanged state
      (state.place index (beginSetStatus { job with attempts := job.attempts + 1 } .reserve)) :=
    .of_same rfl rfl rfl rfl
  exact sound.advance present rfl rfl moved (same jobId) rfl sound.bounded
    (underway.begins.unchanged same) ⟨rfl, rfl, rfl, rfl⟩ rfl

theorem QueueSound.reservePop (present : state.activities[index]? = some .reservePop)
    {priority : JobPriority} (popped : state.brpop = some (jobId, priority)) :
    QueueSound ((state.dropTail priority).place index (.reserveGet jobId)) := by
  have same : Unchanged state ((state.dropTail priority).place index (.reserveGet jobId)) :=
    .of_same rfl rfl rfl rfl
  have counted := fun other => state.dropTail_waiting jobId other popped
  have shrinks : ∀ other, other ∈ (state.dropTail priority).waiting → other ∈ state.waiting := by
    intro other member
    have remaining := List.count_pos_iff.mpr member
    have total := counted other
    exact List.count_pos_iff.mp (by omega)
  have held : [jobId].count jobId = 1 := List.count_singleton_self
  have waits : jobId ∈ state.waiting := by
    have total := counted jobId
    exact List.count_pos_iff.mp (by omega)
  have moved := fun other => state.stored_dropTail jobId other popped
  refine sound.change jobId present rfl moved ?_ (same _) rfl sound.bounded
    ((sound.resting jobId (Or.inl waits)).unchanged same) ?_ ?_ ?_ ?_ (fun _ => Or.inl)
  · change 1 ≤ _ + [jobId].count jobId
    omega
  · intro other _ member
    exact member.imp_left (shrinks other)
  · intro member
    exact (sound.resting jobId (member.imp_left (shrinks jobId))).unchanged same
  · exact fun other _ => id
  · exact fun member => (sound.settled jobId member).unchanged same

theorem QueueSound.countNew (present : state.activities[index]? = some (.countNew job transition))
    (counted : QueueState) (same : counted = state ∨ counted = state.hincrby transition.status 1) :
    QueueSound ((counted.setLatest job.id transition.status).place index
      (.saveRecord { job with status := transition.status } transition)) := by
  obtain ⟨underway, _⟩ := sound.fits _ (List.mem_of_getElem? present)
  rcases same with rfl | rfl
  · refine sound.advance present rfl rfl (fun _ => rfl) ?_ rfl sound.bounded ?_
      ⟨rfl, rfl, rfl, rfl⟩ rfl
    · exact ⟨fun _ _ => rfl, fun other different => if_neg different, fun _ _ => rfl, fun _ => id⟩
    · exact ⟨⟨underway.created, if_pos rfl, underway.attempted⟩, rfl⟩
  · refine sound.advance present rfl rfl (fun _ => rfl) ?_ rfl sound.bounded ?_
      ⟨rfl, rfl, rfl, rfl⟩ rfl
    · exact ⟨fun _ _ => rfl, fun other different => if_neg different, fun _ _ => rfl, fun _ => id⟩
    · exact ⟨⟨underway.created, if_pos rfl, underway.attempted⟩, rfl⟩

theorem QueueSound.created_unique {first second : Job} (isFirst : first ∈ state.created)
    (isSecond : second ∈ state.created) (same : first.id = second.id) : first = second := by
  have distinct : (state.created.map Job.id).Nodup := by
    rw [sound.numbered]
    exact List.nodup_range
  exact List.inj_on_of_nodup_map distinct isFirst isSecond same

theorem QueueSound.saveReserved
    (present : state.activities[index]? = some (.saveRecord job .reserve)) :
    QueueSound ((perform handlers state (.saveRecord job .reserve)).1.place index
      (perform handlers state (.saveRecord job .reserve)).2) := by
  obtain ⟨underway, processing⟩ := sound.fits _ (List.mem_of_getElem? present)
  obtain ⟨unrun, limit⟩ := underway.attempted
  have moved := fun other => perform_stored handlers state (.saveRecord job .reserve) other
    fun _ absurdity => by cases absurdity
  by_cases handled : handlers job.type = true
  · simp only [perform, afterSave, dispatch, handled, if_true] at moved ⊢
    have counted : ∀ other, ((state.setRecord job.id (some job)).startRun job.id).runs.count other =
        state.runs.count other + [job.id].count other :=
      fun other => List.count_append
    refine sound.advance present rfl rfl moved ?_ rfl ?_ ?_ ⟨rfl, rfl, rfl, rfl⟩ rfl
    · refine ⟨fun other different => if_neg different, fun _ _ => rfl, ?_, fun _ => id⟩
      intro other different
      refine (counted other).trans ?_
      rw [count_ne different, Nat.add_zero]
    · intro created member
      change ((((state.setRecord job.id (some job)).startRun job.id).runs.count created.id : Nat) :
        Int) ≤ _
      rw [counted]
      by_cases same : created.id = job.id
      · obtain ⟨original, isOriginal, named, bound⟩ := underway.created
        have unique := sound.created_unique member isOriginal (same.trans named.symm)
        rw [unique, bound, named, List.count_singleton_self]
        unfold WithinLimit at limit
        omega
      · rw [count_ne same, Nat.add_zero]
        exact sound.bounded created member
    · refine ⟨⟨underway.created, underway.latest, ?_, limit⟩, processing, if_pos rfl⟩
      change ((state.setRecord job.id (some job)).startRun job.id).runs.count job.id ≤ _
      rw [counted, List.count_singleton_self]
      exact unrun
  · simp only [perform, afterSave, dispatch, handled, Bool.false_eq_true, if_false] at moved ⊢
    refine sound.advance present rfl rfl moved ?_ rfl sound.bounded ?_ ⟨rfl, rfl, rfl, rfl⟩ rfl
    · exact ⟨fun other different => if_neg different, fun _ _ => rfl, fun _ _ => rfl, fun _ => id⟩
    · refine beginFail_fits ?_ ?_ ?_ limit _
      · exact underway.created
      · exact underway.latest
      · exact Nat.le_of_lt unrun

theorem QueueSound.saveCompleted
    (present : state.activities[index]? = some (.saveRecord job .complete)) :
    QueueSound (((state.setRecord job.id (some job)).finish job.id).place index .reservePop) := by
  obtain ⟨underway, completed⟩ := sound.fits _ (List.mem_of_getElem? present)
  obtain ⟨notWaiting, notTimed, _, _⟩ := sound.elsewhere present rfl
  have moved := fun other => (state.setRecord job.id (some job)).stored_finish job.id other
  have one : [job.id].count job.id = 1 := List.count_singleton_self
  refine sound.change job.id present rfl moved ?_ ?_ rfl sound.bounded trivial ?_ ?_ ?_ ?_
    (fun _ => Or.inl)
  · change 1 ≤ ((state.setRecord job.id (some job)).finish job.id).stored job.id + _
    rw [moved]
    omega
  · exact ⟨fun other different => if_neg different, fun _ _ => rfl, fun _ _ => rfl, fun _ => id⟩
  · exact fun other _ => id
  · exact fun member => absurd member (not_or.mpr ⟨notWaiting, notTimed⟩)
  · intro other different member
    rcases member with finished | dead
    · rcases List.mem_append.mp finished with before | now
      · exact Or.inl before
      · exact absurd (List.mem_singleton.mp now) different
    · exact Or.inr dead
  · intro _ record found
    change (if job.id = job.id then some job else _) = some record at found
    rw [if_pos rfl] at found
    cases found
    exact underway.latest.symm

theorem QueueSound.saveRetried
    (present : state.activities[index]? = some (.saveRecord job .retry)) :
    QueueSound (((state.setRecord job.id (some job)).addTimer job).place index .reservePop) := by
  obtain ⟨underway, pending⟩ := sound.fits _ (List.mem_of_getElem? present)
  obtain ⟨runs, left⟩ := underway.attempted
  obtain ⟨_, _, notCompleted, notDead⟩ := sound.elsewhere present rfl
  have moved := fun other => (state.setRecord job.id (some job)).stored_addTimer other job
  have one : [job.id].count job.id = 1 := List.count_singleton_self
  refine sound.change job.id present rfl moved ?_ ?_ rfl sound.bounded trivial ?_ ?_ ?_ ?_
    (fun _ => Or.inl)
  · change 1 ≤ ((state.setRecord job.id (some job)).addTimer job).stored job.id + _
    rw [moved]
    omega
  · exact ⟨fun other different => if_neg different, fun _ _ => rfl, fun _ _ => rfl, fun _ => id⟩
  · intro other different member
    rcases member with waits | timed
    · exact Or.inl waits
    · obtain ⟨timer, placed, named⟩ := List.mem_map.mp timed
      rcases List.mem_append.mp placed with before | now
      · exact Or.inr (List.mem_map.mpr ⟨timer, before, named⟩)
      · rw [List.mem_singleton.mp now] at named
        exact absurd named.symm different
  · intro _
    exact ⟨job, if_pos rfl, rfl, underway.created, pending, underway.latest.trans pending, runs,
      Or.inr left⟩
  · exact fun other _ => id
  · exact fun member => absurd member (not_or.mpr ⟨notCompleted, notDead⟩)

theorem QueueSound.pushDlq (present : state.activities[index]? = some (.pushDlq job)) :
    QueueSound ((state.deadLetter job.id).place index .reservePop) := by
  obtain ⟨latest, failed, saved⟩ := sound.fits _ (List.mem_of_getElem? present)
  obtain ⟨notWaiting, notTimed, _, _⟩ := sound.elsewhere present rfl
  have same : Unchanged state ((state.deadLetter job.id).place index .reservePop) :=
    .of_same rfl rfl rfl rfl
  have moved := fun other => state.stored_deadLetter job.id other
  have one : [job.id].count job.id = 1 := List.count_singleton_self
  refine sound.change job.id present rfl moved ?_ (same _) rfl sound.bounded trivial ?_ ?_ ?_ ?_
    (fun _ => Or.inl)
  · change 1 ≤ (state.deadLetter job.id).stored job.id + _
    rw [moved]
    omega
  · exact fun other _ => id
  · exact fun member => absurd member (not_or.mpr ⟨notWaiting, notTimed⟩)
  · intro other different member
    rcases member with finished | dead
    · exact Or.inl finished
    · rcases List.mem_cons.mp dead with now | before
      · exact absurd now different
      · exact Or.inr before
  · intro _ record found
    have known : some job = some record := saved.symm.trans found
    cases known
    exact failed.trans latest.symm

end

theorem QueueState.place_self (present : state.activities[index]? = some activity) :
    state.place index activity = state := by
  obtain ⟨inside, value⟩ := List.getElem?_eq_some_iff.mp present
  unfold QueueState.place
  rw [← value, List.set_getElem_self]

section

variable (sound : QueueSound state)
include sound

theorem QueueSound.perform (present : state.activities[index]? = some activity) :
    QueueSound ((perform handlers state activity).1.place index
      (perform handlers state activity).2) := by
  have known := sound.fits _ (List.mem_of_getElem? present)
  cases activity with
  | enqueueSave job => exact sound.enqueueSave present
  | enqueueCount job =>
      have same : Unchanged state ((state.hincrby .pending 1).place index (.enqueuePush job)) :=
        .of_same rfl rfl rfl rfl
      have next : Fits state (.enqueuePush job) := known
      exact sound.advance present rfl rfl (fun _ => rfl) (same _) rfl sound.bounded
        (next.unchanged same) ⟨rfl, rfl, rfl, rfl⟩ rfl
  | enqueuePush job => exact sound.enqueuePush present
  | reservePop =>
      simp only [Jobs.perform]
      cases popped : state.brpop with
      | none =>
          dsimp only
          rw [QueueState.place_self present]
          exact sound
      | some answer => exact sound.reservePop present popped
  | reserveGet jobId => exact sound.reserveGet handlers present
  | countOld job transition =>
      have same : Unchanged state
          ((state.hincrby job.status (-1)).place index (.countNew job transition)) :=
        .of_same rfl rfl rfl rfl
      have next : Fits state (.countNew job transition) := known
      exact sound.advance present rfl rfl (fun _ => rfl) (same _) rfl sound.bounded
        (next.unchanged same) ⟨rfl, rfl, rfl, rfl⟩ rfl
  | countNew job transition => exact sound.countNew present _ (Or.inr rfl)
  | saveRecord job transition =>
      cases transition with
      | reserve => exact sound.saveReserved handlers present
      | complete => exact sound.saveCompleted present
      | retry => exact sound.saveRetried present
      | deadLetter =>
          refine sound.advance present rfl rfl (fun _ => rfl) ?_ rfl sound.bounded ?_
            ⟨rfl, rfl, rfl, rfl⟩ rfl
          · exact ⟨fun other different => if_neg different, fun _ _ => rfl, fun _ _ => rfl,
              fun _ => id⟩
          · exact ⟨known.1.latest.trans known.2, known.2, if_pos rfl⟩
  | handling job | stopped =>
      simp only [Jobs.perform]
      rw [QueueState.place_self present]
      exact sound
  | pushDlq job => exact sound.pushDlq present

theorem QueueSound.lose {next : Activity} (present : state.activities[index]? = some activity)
    (own : activity.jobId = some jobId) (free : next.jobId = none) (fits : Fits state next) :
    QueueSound ((state.drop (some jobId)).place index next) := by
  have same : Unchanged state ((state.drop (some jobId)).place index next) :=
    .of_same rfl rfl rfl rfl
  refine sound.advance present own rfl ?_ (same jobId) rfl sound.bounded (fits.unchanged same)
    ⟨rfl, rfl, rfl, rfl⟩ rfl
  intro other
  have emptied : next.held other = 0 := by
    unfold Activity.held
    rw [free]
    rfl
  have inHand : activity.held other = [jobId].count other := by
    unfold Activity.held
    rw [own]
    rfl
  rw [emptied, inHand]
  exact state.stored_drop other (some jobId)

theorem QueueSound.commandFails (error : String)
    (present : state.activities[index]? = some activity) :
    QueueSound ((commandFails state error activity).1.place index
      (commandFails state error activity).2) := by
  have known := sound.fits _ (List.mem_of_getElem? present)
  cases activity with
  | enqueueSave job | enqueueCount job | enqueuePush job | reserveGet jobId | pushDlq job =>
      exact sound.lose present rfl rfl trivial
  | countOld job transition =>
      have same : Unchanged state (state.place index (.countNew job transition)) :=
        .of_same rfl rfl rfl rfl
      have next : Fits state (.countNew job transition) := known
      exact sound.advance present rfl rfl (fun _ => rfl) (same _) rfl sound.bounded
        (next.unchanged same) ⟨rfl, rfl, rfl, rfl⟩ rfl
  | countNew job transition => exact sound.countNew present _ (Or.inl rfl)
  | saveRecord job transition =>
      cases transition with
      | reserve | retry | deadLetter => exact sound.lose present rfl rfl trivial
      | complete =>
          obtain ⟨underway, _⟩ := known
          have same : Unchanged state (state.place index (beginFail job error)) :=
            .of_same rfl rfl rfl rfl
          have next : Fits state (beginFail job error) :=
            beginFail_fits underway.created underway.latest underway.attempted.1
              underway.attempted.2 error
          have moved := fun other => commandFails_stored state error (.saveRecord job .complete) other
          exact sound.advance present rfl rfl moved (same _) rfl sound.bounded
            (next.unchanged same) ⟨rfl, rfl, rfl, rfl⟩ rfl
  | reservePop | handling job | stopped =>
      simp only [Jobs.commandFails]
      rw [QueueState.place_self present]
      exact sound

theorem QueueSound.settle (present : state.activities[index]? = some (.handling job))
    (outcome : Option String) :
    QueueSound (state.place index (afterSettle job outcome)) := by
  have same : Unchanged state (state.place index (afterSettle job outcome)) :=
    .of_same rfl rfl rfl rfl
  have known := afterSettle_fits (sound.fits _ (List.mem_of_getElem? present)) outcome
  refine sound.advance present rfl rfl ?_ (same job.id) rfl sound.bounded (known.unchanged same)
    ⟨rfl, rfl, rfl, rfl⟩ rfl
  intro other
  unfold Activity.held
  rw [afterSettle_jobId]
  rfl

end

end Commands

/-! ### Steps that no activity takes -/

section Environment

variable {state after : QueueState} {index : Nat} {job : Job}

theorem QueueSound.relist (sound : QueueSound state) (same : Unchanged state after)
    (created : after.created = state.created) (accepted : after.accepted = state.accepted)
    (conserved : ∀ other, after.places other = state.places other)
    (activities : ∀ activity ∈ after.activities, activity ∈ state.activities ∨
      Fits state activity)
    (waits : ∀ other, other ∈ after.waiting ∨ other ∈ after.timerIds →
      other ∈ state.waiting ∨ other ∈ state.timerIds)
    (ends : ∀ other, other ∈ after.completed ∨ other ∈ after.dlq →
      other ∈ state.completed ∨ other ∈ state.dlq) : QueueSound after := by
  have runs : ∀ other, after.runs.count other = state.runs.count other :=
    fun other => (same (other + 1)).runs other (Nat.ne_of_lt (Nat.lt_succ_self other))
  refine ⟨?_, ?_, ?_, ?_, ?_, ?_, ?_, ?_⟩
  · rw [created]
    exact sound.numbered
  · intro other
    rw [conserved, created]
    exact sound.conserved other
  · intro job member
    rw [created] at member
    rw [runs]
    exact sound.bounded job member
  · intro other member
    have counted := List.count_pos_iff.mpr member
    rw [runs] at counted
    rw [created]
    exact sound.ran other (List.count_pos_iff.mp counted)
  · intro activity member
    rcases activities activity member with old | fits
    · exact (sound.fits activity old).unchanged same
    · exact fits.unchanged same
  · exact fun other member => (sound.resting other (waits other member)).unchanged same
  · exact fun other member => (sound.settled other (ends other member)).unchanged same
  · rw [created, accepted]
    exact sound.accepted

theorem timerIds_removeTimer {other : Nat} (member : other ∈ (state.removeTimer index).timerIds) :
    other ∈ state.timerIds := by
  obtain ⟨timer, kept, named⟩ := List.mem_map.mp member
  exact List.mem_map.mpr ⟨timer, List.mem_of_mem_eraseIdx kept, named⟩

section

variable (sound : QueueSound state)
include sound

theorem QueueSound.fire (present : state.timers[index]? = some job) :
    QueueSound ((state.removeTimer index).lpush job.priority job.id) := by
  have timed : job.id ∈ state.timerIds :=
    List.mem_map.mpr ⟨job, List.mem_of_getElem? present, rfl⟩
  refine sound.relist (.of_same rfl rfl rfl rfl) rfl rfl ?_ (fun _ => Or.inl) ?_ (fun _ => id)
  · intro other
    have removed := state.stored_removeTimer other present
    have pushed := (state.removeTimer index).stored_lpush job.id other job.priority
    unfold QueueState.places
    change _ + weigh _ state.activities = _
    omega
  · intro other member
    rcases member with waits | timer
    · by_cases same : other = job.id
      · rw [same]
        exact Or.inr timed
      · have counted := List.count_pos_iff.mpr waits
        rw [QueueState.waiting_lpush, count_ne same, Nat.zero_add] at counted
        exact Or.inl (List.count_pos_iff.mp counted)
    · exact Or.inr (timerIds_removeTimer timer)

theorem QueueSound.timerLost (present : state.timers[index]? = some job) :
    QueueSound ((state.removeTimer index).drop (some job.id)) := by
  refine sound.relist (.of_same rfl rfl rfl rfl) rfl rfl ?_ (fun _ => Or.inl) ?_ (fun _ => id)
  · intro other
    have removed := state.stored_removeTimer other present
    have dropped := (state.removeTimer index).stored_drop other (some job.id)
    rw [Option.toList_some] at dropped
    unfold QueueState.places
    change _ + weigh _ state.activities = _
    omega
  · exact fun other member => member.imp_right timerIds_removeTimer

theorem QueueSound.startWorker :
    QueueSound (state.spawn .reservePop) := by
  refine sound.relist (.of_same rfl rfl rfl rfl) rfl rfl ?_ ?_ (fun _ => id) (fun _ => id)
  · intro other
    unfold QueueState.places
    change state.stored other + weigh _ (state.activities ++ [.reservePop]) = _
    rw [weigh_snoc]
    rfl
  · intro activity member
    rcases List.mem_append.mp member with old | new
    · exact Or.inl old
    · rw [List.mem_singleton.mp new]
      exact Or.inr trivial

theorem QueueSound.crash {activity : Activity}
    (present : state.activities[index]? = some activity) :
    QueueSound ((state.drop activity.jobId).place index .stopped) := by
  cases own : activity.jobId with
  | some jobId => exact sound.lose present own rfl trivial
  | none =>
      have idle : ∀ other, activity.held other = 0 := by
        intro other
        unfold Activity.held
        rw [own]
        rfl
      refine sound.relist (.of_same rfl rfl rfl rfl) rfl rfl ?_ ?_ (fun _ => id) (fun _ => id)
      · intro other
        have dropped := state.stored_drop other none
        have weighed := weigh_set_same (Activity.held other) state.activities index activity
          .stopped present (idle other).symm
        unfold QueueState.places
        change (state.drop none).stored other + weigh _ (state.activities.set index .stopped) = _
        rw [dropped, weighed]
        rfl
      · intro other member
        rcases List.mem_or_eq_of_mem_set member with old | rfl
        · exact Or.inl old
        · exact Or.inr trivial

end

/-! The record of a completed job expires, which nothing under way reads. -/

variable {record : Job} {jobId : Nat}

theorem keeps_record {other : Job} {status : JobStatus}
    (found : state.records jobId = some record) (done : record.status = .completed)
    (saved : state.records other.id = some other) (unfinished : other.status = status)
    (different : status ≠ .completed) :
    (state.setRecord jobId none).records other.id = some other := by
  have apart : other.id ≠ jobId := by
    intro same
    rw [same, found] at saved
    cases saved
    exact different (unfinished.symm.trans done)
  exact (if_neg apart).trans saved

theorem Resting.expire {other : Nat} (known : Resting state other)
    (found : state.records jobId = some record) (done : record.status = .completed) :
    Resting (state.setRecord jobId none) other := by
  obtain ⟨job, saved, rfl, created, pending, rest⟩ := known
  exact ⟨job, keeps_record found done saved pending nofun, rfl, created, pending, rest⟩

theorem Fits.expire {activity : Activity} (known : Fits state activity)
    (found : state.records jobId = some record) (done : record.status = .completed) :
    Fits (state.setRecord jobId none) activity := by
  cases activity with
  | enqueueSave job =>
      exact ⟨known.created, known.pending, known.latest, known.unattempted, known.unrun⟩
  | enqueueCount job | enqueuePush job =>
      obtain ⟨⟨created, pending, latest, unattempted, unrun⟩, saved⟩ := known
      exact ⟨⟨created, pending, latest, unattempted, unrun⟩,
        keeps_record found done saved pending nofun⟩
  | reserveGet other => exact Resting.expire known found done
  | countOld job transition | countNew job transition | saveRecord job transition =>
      exact ⟨⟨known.1.created, known.1.latest, known.1.attempted⟩, known.2⟩
  | handling job =>
      obtain ⟨⟨created, latest, attempted⟩, processing, saved⟩ := known
      exact ⟨⟨created, latest, attempted⟩, processing,
        keeps_record found done saved processing nofun⟩
  | pushDlq job =>
      obtain ⟨latest, failed, saved⟩ := known
      exact ⟨latest, failed, keeps_record found done saved failed nofun⟩
  | reservePop | stopped => trivial

theorem QueueSound.expire (sound : QueueSound state) (found : state.records jobId = some record)
    (done : record.status = .completed) :
    QueueSound (state.setRecord jobId none) := by
  refine ⟨sound.numbered, sound.conserved, sound.bounded, sound.ran, ?_, ?_, ?_, sound.accepted⟩
  · exact fun activity member => (sound.fits activity member).expire found done
  · exact fun other member => (sound.resting other member).expire found done
  · intro other member job kept
    by_cases same : other = jobId
    · exact absurd kept (by rw [same]; exact fun saved => by cases (if_pos rfl).symm.trans saved)
    · exact sound.settled other member job ((if_neg same).symm.trans kept)

theorem QueueSound.enqueue (sound : QueueSound state) (job : Job)
    (named : job.id = state.created.length) (pending : job.status = .pending)
    (unattempted : job.attempts = 0) :
    QueueSound (((state.create job).setLatest job.id .pending).spawn (.enqueueSave job)) := by
  have absent : state.places job.id = 0 := by
    rw [sound.conserved, named, if_neg (Nat.lt_irrefl _)]
  have unrun : state.runs.count job.id = 0 := by
    refine List.count_eq_zero.mpr fun member => ?_
    have below := sound.ran job.id member
    omega
  have grown : ((state.create job).setLatest job.id .pending).created.length =
      state.created.length + 1 := List.length_append
  have frame : Frame job.id state
      (((state.create job).setLatest job.id .pending).spawn (.enqueueSave job)) := by
    refine ⟨fun _ _ => rfl, fun other different => if_neg different, fun _ _ => rfl, ?_⟩
    exact fun other member => List.mem_append_left [job] member
  unfold QueueState.places QueueState.stored at absent
  have apart : ∀ (list : List Nat) other, list.count job.id = 0 → other ∈ list →
      other ≠ job.id := by
    intro list other none member same
    exact List.count_eq_zero.mp none (same ▸ member)
  refine ⟨?_, ?_, ?_, ?_, ?_, ?_, ?_, ?_⟩
  · change (state.created ++ [job]).map Job.id = List.range (state.created ++ [job]).length
    rw [List.length_append, List.map_append, sound.numbered, List.length_singleton,
      List.range_succ, List.map_singleton, named]
  · intro other
    have before := sound.conserved other
    have held : (Activity.enqueueSave job).held other = [job.id].count other := rfl
    unfold QueueState.places at before ⊢
    change state.stored other + weigh _ (state.activities ++ [.enqueueSave job]) =
      if other < ((state.create job).setLatest job.id .pending).created.length then 1 else 0
    rw [weigh_snoc, held, grown]
    by_cases same : other = job.id
    · rw [same, named] at before ⊢
      rw [if_neg (Nat.lt_irrefl _)] at before
      rw [List.count_singleton_self, if_pos (Nat.lt_succ_self _)]
      omega
    · rw [count_ne same]
      split at before
      · rw [if_pos (by omega)]
        omega
      · rw [if_neg (by omega)]
        omega
  · intro created member
    rcases List.mem_append.mp member with old | new
    · exact sound.bounded created old
    · rw [List.mem_singleton.mp new]
      change (state.runs.count job.id : Int) ≤ _
      rw [unrun]
      omega
  · intro other member
    exact Nat.lt_of_lt_of_eq (Nat.lt_succ_of_lt (sound.ran other member)) grown.symm
  · intro activity member
    rcases List.mem_append.mp member with old | new
    · refine (sound.fits activity old).frame ?_ frame
      intro own
      have inHand := weight_le_weigh (Activity.held job.id) state.activities activity old
      rw [Activity.held_self own] at inHand
      omega
    · rw [List.mem_singleton.mp new]
      exact ⟨⟨job, List.mem_append_right _ List.mem_cons_self, rfl, rfl⟩, pending, if_pos rfl,
        unattempted, unrun⟩
  · intro other member
    have different : other ≠ job.id :=
      member.elim (apart state.waiting other (by omega)) (apart state.timerIds other (by omega))
    exact (sound.resting other member).frame different frame
  · intro other member
    have different : other ≠ job.id :=
      member.elim (apart state.completed other (by omega)) (apart state.dlq other (by omega))
    exact (sound.settled other member).frame different frame
  · intro other member
    exact Nat.lt_of_lt_of_eq (Nat.lt_succ_of_lt (sound.accepted other member)) grown.symm

end Environment

/-! ### Every run -/

theorem QueueSound.initially : QueueSound emptyQueue where
  numbered := rfl
  conserved _ := rfl
  bounded _ member := absurd member List.not_mem_nil
  ran _ member := absurd member List.not_mem_nil
  fits _ member := absurd member List.not_mem_nil
  resting _ member := absurd member (not_or.mpr ⟨List.not_mem_nil, List.not_mem_nil⟩)
  settled _ member := absurd member (not_or.mpr ⟨List.not_mem_nil, List.not_mem_nil⟩)
  accepted _ member := absurd member List.not_mem_nil

theorem queueStep_sound (handlers : String → Bool) {state after : QueueState} {label : QueueLabel}
    (sound : QueueSound state) (moved : queueStep handlers state label = some after) :
    QueueSound after := by
  cases queueStep_moves moved with
  | enqueue type payload options job fresh =>
      subst fresh
      exact sound.enqueue _ rfl rfl rfl
  | startWorker => exact sound.startWorker
  | perform index activity present => exact sound.perform handlers present
  | settle index job outcome present => exact sound.settle present outcome
  | fire index job present => exact sound.fire present
  | expire jobId record found done => exact sound.expire found done
  | commandFails index error activity present => exact sound.commandFails error present
  | crash index activity present => exact sound.crash present
  | timerLost index job present => exact sound.timerLost present

theorem queueMachine_sound (handlers : String → Bool) {allowed : QueueState → QueueLabel → Prop}
    {state : QueueState} (reached : (queueMachine handlers).Reachable allowed state) :
    QueueSound state := by
  apply reached.invariant QueueSound
  · rintro initial rfl
    exact .initially
  · exact fun before label after sound _ moved => queueStep_sound handlers sound moved

end AudioBlock.Jobs
