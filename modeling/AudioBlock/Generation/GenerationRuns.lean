/-
The life of a generation record, in every run.

Each step of the queue leaves the table as it is, and a handler changes its own record.
A record has one job, and a job is in one hand, so no two handlers share a record.
-/
import AudioBlock.Generation.GenerationLifecycle
import AudioBlock.Jobs.JobReexecution

namespace AudioBlock.Generation

open AudioBlock.Foundation AudioBlock.Jobs

/-! ### The job of a record -/

section Jobs

variable {state : GenerationState} {index : Nat} {job : Job} {feature : AiGenerationFeature}

theorem aiRun_some (handled : aiRun state.queue index = some (job, feature)) :
    state.queue.activities[index]? = some (.handling job) ∧
      handledFeature job.type = some feature := by
  unfold aiRun at handled
  split at handled
  · rename_i held present
    obtain ⟨found, isFeature, same⟩ := Option.map_eq_some_iff.mp handled
    cases same
    exact ⟨present, isFeature⟩
  · cases handled

theorem aiRun_of_handling {queue : QueueState}
    (present : queue.activities[index]? = some (.handling job)) :
    aiRun queue index = (handledFeature job.type).map fun feature => (job, feature) := by
  simp only [aiRun, present]

theorem isAi_same {one other : Job} (same : SameJob one other) : IsAi one ↔ IsAi other := by
  unfold IsAi
  rw [same.type]

section

variable (sound : GenerationSound state) (handled : aiRun state.queue index = some (job, feature))
include sound handled

theorem GenerationSound.running :
    ∃ original ∈ state.queue.created, IsAi original ∧ SameJob original job := by
  obtain ⟨present, isFeature⟩ := aiRun_some handled
  obtain ⟨original, created, same⟩ :=
    sound.identified.held _ (List.mem_of_getElem? present) job rfl
  have isAi : IsAi job := Option.isSome_of_mem (Option.mem_def.mpr isFeature)
  exact ⟨original, created, (isAi_same same).mpr isAi, same⟩

theorem GenerationSound.running_listed :
    job.payload ∈ state.table.records.map AiGenerationRecord.id := by
  obtain ⟨original, created, isAi, same⟩ := sound.running handled
  exact same.payload ▸ sound.owned original created isAi

end

theorem QueueSound.index_unique {queue : QueueState} (sound : QueueSound queue) {jobId : Nat}
    {other : Nat} {one another : Activity} (first : queue.activities[index]? = some one)
    (second : queue.activities[other]? = some another) (ownFirst : one.jobId = some jobId)
    (ownSecond : another.jobId = some jobId) : index = other := by
  by_contra apart
  have replaced := weigh_set (Activity.held jobId) queue.activities index one .stopped first
  have still : (queue.activities.set index .stopped)[other]? = some another :=
    (List.getElem?_set_ne apart).trans second
  have holds := weight_le_weigh (Activity.held jobId) _ another (List.mem_of_getElem? still)
  rw [Activity.held_self ownFirst] at replaced
  rw [Activity.held_self ownSecond] at holds
  have nothing : Activity.held jobId .stopped = 0 := rfl
  have once := sound.place_le_one jobId
  unfold QueueState.places at once
  omega

theorem GenerationSound.apart (sound : GenerationSound state) {other : Nat} {another : Job}
    {otherFeature : AiGenerationFeature}
    (first : aiRun state.queue index = some (job, feature))
    (second : aiRun state.queue other = some (another, otherFeature)) (different : other ≠ index) :
    another.payload ≠ job.payload := by
  intro same
  obtain ⟨one, isOne, oneAi, sameOne⟩ := sound.running first
  obtain ⟨two, isTwo, twoAi, sameTwo⟩ := sound.running second
  have payload : two.payload = one.payload :=
    sameTwo.payload.trans (same.trans sameOne.payload.symm)
  have single := sound.single two isTwo one isOne twoAi oneAi payload
  have ids : another.id = job.id := sameTwo.id.symm.trans (single.trans sameOne.id)
  exact different (QueueSound.index_unique sound.queue (aiRun_some second).1 (aiRun_some first).1
    (congrArg some ids) rfl)

end Jobs

/-! ### A handler goes on -/

theorem GenerationSound.advance {state : GenerationState} {index : Nat} {job : Job}
    {feature : AiGenerationFeature} {table : GenerationTable} {call : HandlerCall}
    (sound : GenerationSound state) (handled : aiRun state.queue index = some (job, feature))
    (change : Handled job.payload state.table table) (known : RunSound table job.payload call) :
    GenerationSound ({ state with table }.setProgress index call) := by
  have listed := sound.running_listed handled
  refine ⟨sound.queue, sound.identified, change.sound, ?_, ?_, sound.single, ?_, ?_, ?_, ?_⟩
  · intro id member
    exact sound.owner id (change.ids ▸ member)
  · intro one created isAi
    have member := sound.owned one created isAi
    change one.payload ∈ table.records.map AiGenerationRecord.id
    rw [change.ids]
    exact member
  · exact fun one created isAi left => change.still (sound.left one created isAi left)
  · exact fun activity member one ending isAi =>
      change.still (sound.ending activity member one ending isAi)
  · intro other another otherFeature running
    change RunSound table another.payload (if other = index then call else state.progress other)
    by_cases own : other = index
    · subst own
      cases handled.symm.trans running
      rw [if_pos rfl]
      exact known
    · rw [if_neg own]
      exact change.rest (sound.apart handled running own)
        (sound.runs other another otherFeature running)
  · intro other nobody
    have apart : other ≠ index := by
      rintro rfl
      cases handled.symm.trans nobody
    exact (if_neg apart).trans (sound.idle other nobody)

/-! ### A step of the queue -/

section Queue

variable {config : GenerationConfig} {state : GenerationState} {queue : QueueState}
  {label : QueueLabel} {progress : Nat → HandlerCall}

structure ProgressKept (state : GenerationState) (label : QueueLabel)
    (progress : Nat → HandlerCall) : Prop where
  same : ∀ index, progress index = .findRecord ∨ progress index = state.progress index
  ended : ∀ index, (label = .crash index ∨ ∃ outcome, label = .settle index outcome) →
    progress index = .findRecord

theorem GenerationSound.goesOn (sound : GenerationSound state)
    (moved : queueStep config.handlers state.queue label = some queue)
    (kept : ProgressKept state label progress) (index : Nat) :
    progress index = .findRecord ∨
      aiRun queue index = aiRun state.queue index ∧ progress index = state.progress index := by
  rcases kept.same index with first | same
  · exact Or.inl first
  · cases before : aiRun state.queue index with
    | none => exact Or.inl (same.trans (sound.idle index before))
    | some running =>
        obtain ⟨job, feature⟩ := running
        have present := (aiRun_some before).1
        rcases (queueStep_activities moved).handling index job present with still | ended
        · refine Or.inr ⟨?_, same⟩
          rw [← before, aiRun_of_handling still, aiRun_of_handling present]
        · exact Or.inl (kept.ended index ended)

theorem Activity.job_of_ending {activity : Activity} {job : Job} (ending : job ∈ activity.ending) :
    job ∈ activity.job := by
  cases activity with
  | countOld held transition | countNew held transition | saveRecord held transition =>
      change job ∈ (if transition.ends then some held else none) at ending
      split at ending
      · exact ending
      · cases ending
  | pushDlq held => exact ending
  | enqueueSave held | enqueueCount held | enqueuePush held | reservePop | reserveGet jobId
  | handling held | stopped => cases ending

section

variable (sound : GenerationSound state)
  (moved : queueStep config.handlers state.queue label = some queue)
include sound moved

theorem GenerationSound.left_after (struck : KeepsLifecycle config state (.queue label))
    {job : Job} (created : job ∈ state.queue.created) (isAi : IsAi job) (left : queue.Left job.id) :
    ¬Pending state.table job.payload := by
  rcases queueStep_left moved left with before | strike | ⟨activity, member, held, ending, own⟩
  · exact sound.left job created isAi before
  · exact struck job.id strike job created rfl isAi
  · obtain ⟨original, isCreated, same⟩ :=
      sound.identified.held activity member held (Activity.job_of_ending ending)
    have equal := sound.queue.created_unique isCreated created (same.id.trans own)
    subst equal
    rw [same.payload]
    exact sound.ending activity member held ending ((isAi_same same).mp isAi)

theorem GenerationSound.ending_after
    (settles : ∀ index job outcome, label = .settle index outcome →
      state.queue.activities[index]? = some (.handling job) → IsAi job → Spent job outcome →
        ¬Pending state.table job.payload) :
    ∀ activity ∈ queue.activities, ∀ job ∈ activity.ending, IsAi job →
      ¬Pending state.table job.payload := by
  intro activity member job ending isAi
  rcases (queueStep_activities moved).ending activity member job ending with
    ⟨old, before, former, was, same⟩ | unhandled | ⟨index, former, outcome, rfl, present, same, spent⟩
  · have formerAi := (isAi_same same).mpr isAi
    exact same.payload ▸ sound.ending old before former was formerAi
  · have handled : config.handlers job.type = true := by
      unfold GenerationConfig.handlers
      rw [isAi, Bool.true_or]
    rw [unhandled] at handled
    cases handled
  · have formerAi := (isAi_same same).mpr isAi
    exact same.payload ▸ settles index former outcome rfl present formerAi spent

theorem GenerationSound.queueMoves (struck : KeepsLifecycle config state (.queue label))
    (foreign : ∀ type payload options, label = .enqueue type payload options →
      handledFeature type = none)
    (settles : ∀ index job outcome, label = .settle index outcome →
      state.queue.activities[index]? = some (.handling job) → IsAi job → Spent job outcome →
        ¬Pending state.table job.payload) (kept : ProgressKept state label progress) :
    GenerationSound { state with queue, progress } := by
  obtain ⟨more, known⟩ := queueStep_created moved
  have before : ∀ job ∈ queue.created, IsAi job → job ∈ state.queue.created := by
    intro job created isAi
    rcases known job created with old | ⟨payload, options, rfl⟩
    · exact old
    · have other := foreign job.type payload options rfl
      unfold IsAi at isAi
      rw [other] at isAi
      cases isAi
  refine ⟨queueStep_sound config.handlers sound.queue moved,
    queueStep_identified config.handlers sound.identified moved, sound.table, ?_, ?_, ?_, ?_,
    sound.ending_after moved settles, ?_, ?_⟩
  · intro id listed
    obtain ⟨job, created, owns⟩ := sound.owner id listed
    exact ⟨job, more job created, owns⟩
  · exact fun job created isAi => sound.owned job (before job created isAi) isAi
  · exact fun one isOne other isOther oneAi otherAi =>
      sound.single one (before one isOne oneAi) other (before other isOther otherAi) oneAi otherAi
  · exact fun job created isAi => sound.left_after moved struck (before job created isAi) isAi
  · intro index job feature running
    change RunSound state.table job.payload (progress index)
    rcases sound.goesOn moved kept index with first | ⟨sameRun, sameProgress⟩
    · rw [first]
      trivial
    · rw [sameProgress]
      exact sound.runs index job feature (sameRun ▸ running)
  · intro index nobody
    change progress index = .findRecord
    rcases sound.goesOn moved kept index with first | ⟨sameRun, sameProgress⟩
    · exact first
    · exact sameProgress.trans (sound.idle index (sameRun ▸ nobody))

end

end Queue

/-! ### A request -/

section Requests

variable {state : GenerationState} {feature : AiGenerationFeature}

theorem enqueueRecord_step (handlers : String → Bool) (queue : QueueState)
    (feature : AiGenerationFeature) (recordId : String) :
    queueStep handlers queue (.enqueue (aiJobType feature) recordId { priority := some .low }) =
      some (enqueueRecord queue feature recordId) := rfl

theorem handledFeature_isSome (known : feature ≠ .playlistCoverArt) :
    (handledFeature (aiJobType feature)).isSome = true := by
  cases feature with
  | coverArt => decide +kernel
  | descriptions => decide +kernel
  | lyricsTranscription => decide +kernel
  | playlistCoverArt => exact absurd rfl known

theorem enqueueRecord_created (feature : AiGenerationFeature) (queue : QueueState)
    (recordId : String) :
    ∃ job, (enqueueRecord queue feature recordId).created = queue.created ++ [job] ∧
      job.id = queue.created.length ∧ job.type = aiJobType feature ∧ job.payload = recordId :=
  ⟨_, rfl, rfl, rfl, rfl⟩

theorem left_created {queue : QueueState} (sound : QueueSound queue) {jobId : Nat}
    (left : queue.Left jobId) : jobId < queue.created.length := by
  apply sound.lt_of_placed
  unfold QueueState.places QueueState.stored
  rcases left with completed | dead | dropped
  · have counted := List.count_pos_iff.mpr completed
    omega
  · have counted := List.count_pos_iff.mpr dead
    omega
  · have counted := List.count_pos_iff.mpr dropped
    omega

structure JobAdded (state : GenerationState) (record : AiGenerationRecord) (queue : QueueState)
    (added : Job) : Prop where
  created : queue.created = state.queue.created ++ [added]
  numbered : added.id = state.queue.created.length
  isAi : IsAi added
  payload : added.payload = record.id
  apart : ∀ job ∈ state.queue.created, IsAi job → job.payload ≠ record.id

section Added

variable {record : AiGenerationRecord} {queue : QueueState} {added : Job}

theorem JobAdded.mem_iff (request : JobAdded state record queue added) {job : Job} :
    job ∈ queue.created ↔ job ∈ state.queue.created ∨ job = added := by
  rw [request.created, List.mem_append, List.mem_singleton]

theorem mem_addedIds {id : String} :
    id ∈ (state.table.records ++ [record]).map AiGenerationRecord.id ↔
      id ∈ state.table.records.map AiGenerationRecord.id ∨ id = record.id := by
  rw [List.map_append, List.mem_append]
  exact or_congr_right List.mem_singleton

section

variable (request : JobAdded state record queue added) (sound : GenerationSound state)
include request sound

theorem JobAdded.owner {id : String}
    (listed : id ∈ (state.table.records ++ [record]).map AiGenerationRecord.id) :
    ∃ job ∈ queue.created, IsAi job ∧ job.payload = id := by
  rcases mem_addedIds.mp listed with before | rfl
  · obtain ⟨job, member, owns⟩ := sound.owner id before
    exact ⟨job, request.mem_iff.mpr (Or.inl member), owns⟩
  · exact ⟨added, request.mem_iff.mpr (Or.inr rfl), request.isAi, request.payload⟩

theorem JobAdded.owned {job : Job} (member : job ∈ queue.created) (isAi : IsAi job) :
    job.payload ∈ (state.table.records ++ [record]).map AiGenerationRecord.id := by
  rcases request.mem_iff.mp member with before | rfl
  · exact mem_addedIds.mpr (Or.inl (sound.owned job before isAi))
  · exact mem_addedIds.mpr (Or.inr request.payload)

theorem JobAdded.single {one other : Job} (isOne : one ∈ queue.created)
    (isOther : other ∈ queue.created) (oneAi : IsAi one) (otherAi : IsAi other)
    (same : one.payload = other.payload) : one.id = other.id := by
  rcases request.mem_iff.mp isOne with oneBefore | rfl
  · rcases request.mem_iff.mp isOther with otherBefore | rfl
    · exact sound.single one oneBefore other otherBefore oneAi otherAi same
    · exact absurd (same.trans request.payload) (request.apart one oneBefore oneAi)
  · rcases request.mem_iff.mp isOther with otherBefore | rfl
    · exact absurd (same.symm.trans request.payload) (request.apart other otherBefore otherAi)
    · rfl

end

end Added

theorem GenerationSound.request (config : GenerationConfig) (sound : GenerationSound state)
    (record : AiGenerationRecord) (known : feature ≠ .playlistCoverArt)
    (fresh : record.id ∉ state.table.records.map AiGenerationRecord.id) :
    GenerationSound { state with
      table := { state.table with records := state.table.records ++ [record] }
      queue := enqueueRecord state.queue feature record.id } := by
  obtain ⟨added, created, numbered, type, payload⟩ :=
    enqueueRecord_created feature state.queue record.id
  have moved := enqueueRecord_step config.handlers state.queue feature record.id
  have change := TableChange.add sound.table fresh
  have addedAi : IsAi added := by
    unfold IsAi
    rw [type]
    exact handledFeature_isSome known
  have apart : ∀ job ∈ state.queue.created, IsAi job → job.payload ≠ record.id := by
    intro job member isAi same
    exact fresh (same ▸ sound.owned job member isAi)
  have request : JobAdded state record (enqueueRecord state.queue feature record.id) added :=
    ⟨created, numbered, addedAi, payload, apart⟩
  have still : ∀ job ∈ state.queue.created, IsAi job → ¬Pending state.table job.payload →
      ¬Pending { state.table with records := state.table.records ++ [record] } job.payload :=
    fun job member isAi settled pending =>
      settled ((change.pending _ (apart job member isAi)).mpr pending)
  have kept : ProgressKept state
      (.enqueue (aiJobType feature) record.id { priority := some .low }) state.progress := by
    refine ⟨fun _ => Or.inr rfl, ?_⟩
    rintro index (crashed | ⟨outcome, settled⟩)
    · cases crashed
    · cases settled
  refine ⟨queueStep_sound config.handlers sound.queue moved,
    queueStep_identified config.handlers sound.identified moved, change.sound,
    fun id listed => request.owner sound listed, fun job member isAi =>
      request.owned sound member isAi, fun one isOne other isOther oneAi otherAi same =>
        request.single sound isOne isOther oneAi otherAi same, ?_, ?_, ?_, ?_⟩
  · intro job member isAi left
    have before : state.queue.Left job.id := left
    rcases request.mem_iff.mp member with old | rfl
    · exact still job old isAi (sound.left job old isAi before)
    · have bound := left_created sound.queue before
      omega
  · intro activity member job ending isAi
    rcases List.mem_append.mp member with before | new
    · obtain ⟨original, isCreated, same⟩ :=
        sound.identified.held activity before job (Activity.job_of_ending ending)
      have settled := sound.ending activity before job ending isAi
      rw [← same.payload] at settled ⊢
      exact still original isCreated ((isAi_same same).mpr isAi) settled
    · cases List.mem_singleton.mp new
      cases ending
  · intro index job runFeature running
    rcases sound.goesOn moved kept index with first | ⟨sameRun, _⟩
    · change RunSound _ job.payload (state.progress index)
      rw [first]
      trivial
    · have before : aiRun state.queue index = some (job, runFeature) := sameRun ▸ running
      obtain ⟨original, isCreated, originalAi, same⟩ := sound.running before
      have different := same.payload ▸ apart original isCreated originalAi
      exact change.rest different (sound.runs index job runFeature before)
  · intro index nobody
    rcases sound.goesOn moved kept index with first | ⟨sameRun, _⟩
    · exact first
    · exact sound.idle index (sameRun ▸ nobody)

end Requests

/-! ### Every run -/

section Runs

variable {config : GenerationConfig} {state after : GenerationState}

theorem GenerationSound.settle {index : Nat} {job : Job} {feature : AiGenerationFeature}
    {outcome : Option String} (config : GenerationConfig) (sound : GenerationSound state)
    (handled : aiRun state.queue index = some (job, feature))
    (first : state.progress index = .findRecord)
    (settled : Spent job outcome → ¬Pending state.table job.payload) :
    GenerationSound { state with queue := state.queue.place index (afterSettle job outcome) } := by
  have present := (aiRun_some handled).1
  have moved : queueStep config.handlers state.queue (.settle index outcome) =
      some (state.queue.place index (afterSettle job outcome)) := by
    simp only [queueStep, present]
  apply sound.queueMoves moved
  · exact fun jobId none => absurd none (Option.not_mem_none _)
  · intro type payload options other
    cases other
  · intro other held given same isHeld isAi spent
    cases same
    cases present.symm.trans isHeld
    exact settled spent
  · refine ⟨fun _ => Or.inr rfl, ?_⟩
    rintro other (crashed | ⟨given, same⟩)
    · cases crashed
    · cases same
      exact first

theorem GenerationSound.handle {index : Nat} {answer : HandlerAnswer}
    (sound : GenerationSound state)
    (permitted : KeepsLifecycle config state (.handle index answer))
    (moved : generationStep config state (.handle index answer) = some after) :
    GenerationSound after := by
  simp only [generationStep] at moved
  cases handled : aiRun state.queue index with
  | none =>
      rw [handled] at moved
      cases moved
  | some running =>
      obtain ⟨job, feature⟩ := running
      simp only [handled] at moved
      cases answered : answerCall feature config.providerName job state.table
          (state.progress index) answer with
      | none =>
          rw [answered] at moved
          cases moved
      | some result =>
          obtain ⟨table, next⟩ := result
          rw [answered] at moved
          cases moved
          obtain ⟨change, known⟩ := answerCall_sound sound.table (sound.running_listed handled)
            (sound.runs index job feature handled) (permitted (job, feature) handled) answered
          cases next with
          | goes call => exact sound.advance handled change known
          | ends outcome =>
              have advanced : GenerationSound
                  (GenerationState.setProgress { state with table } index .findRecord) :=
                sound.advance handled change trivial
              exact advanced.settle config handled (if_pos rfl) known

theorem GenerationSound.queueLabel {label : QueueLabel} (sound : GenerationSound state)
    (permitted : KeepsLifecycle config state (.queue label))
    (moved : queueLabelStep config.handlers state label = some after) : GenerationSound after := by
  have otherwise : (∀ type payload options, label ≠ .enqueue type payload options) →
      (∀ index outcome, label ≠ .settle index outcome) → (∀ index, label ≠ .crash index) →
      ∀ queue, queueStep config.handlers state.queue label = some queue →
        GenerationSound { state with queue } := by
    intro notEnqueue notSettle notCrash queue stepped
    apply sound.queueMoves stepped permitted
    · exact fun type payload options same => absurd same (notEnqueue type payload options)
    · exact fun index job outcome same => absurd same (notSettle index outcome)
    · refine ⟨fun _ => Or.inr rfl, ?_⟩
      rintro index (crashed | ⟨outcome, settled⟩)
      · exact absurd crashed (notCrash index)
      · exact absurd settled (notSettle index outcome)
  cases label with
  | enqueue type payload options =>
      simp only [queueLabelStep] at moved
      split at moved
      · cases moved
      · rename_i foreign
        obtain ⟨queue, stepped, rfl⟩ := Option.map_eq_some_iff.mp moved
        apply sound.queueMoves stepped permitted
        · intro other payload options same
          cases same
          exact Option.not_isSome_iff_eq_none.mp foreign
        · exact fun index job outcome same => nomatch same
        · exact ⟨fun _ => Or.inr rfl, fun index ended => by rcases ended with h | ⟨_, h⟩ <;> cases h⟩
  | settle index outcome =>
      simp only [queueLabelStep] at moved
      split at moved
      · cases moved
      · rename_i foreign
        have nobody := Option.not_isSome_iff_eq_none.mp foreign
        obtain ⟨queue, stepped, rfl⟩ := Option.map_eq_some_iff.mp moved
        apply sound.queueMoves stepped permitted
        · exact fun type payload options same => nomatch same
        · intro other job given same present isAi _
          cases same
          rw [aiRun_of_handling present] at nobody
          have absent : handledFeature job.type = none := Option.map_eq_none_iff.mp nobody
          unfold IsAi at isAi
          rw [absent] at isAi
          cases isAi
        · refine ⟨fun _ => Or.inr rfl, ?_⟩
          rintro other (crashed | ⟨given, same⟩)
          · cases crashed
          · cases same
            exact sound.idle index nobody
  | crash index =>
      obtain ⟨queue, stepped, rfl⟩ := Option.map_eq_some_iff.mp moved
      apply sound.queueMoves stepped permitted
      · exact fun type payload options same => nomatch same
      · exact fun other job outcome same => nomatch same
      · refine ⟨?_, ?_⟩
        · intro other
          by_cases own : other = index
          · exact Or.inl (if_pos own)
          · exact Or.inr (if_neg own)
        · rintro other (crashed | ⟨given, same⟩)
          · cases crashed
            exact if_pos rfl
          · cases same
  | startWorker | perform index | fire index | expire jobId | commandFails index error
  | timerLost index =>
      simp only [queueLabelStep] at moved
      obtain ⟨queue, stepped, rfl⟩ := Option.map_eq_some_iff.mp moved
      exact otherwise (fun _ _ _ same => nomatch same) (fun _ _ same => nomatch same)
        (fun _ same => nomatch same) queue stepped

theorem generationStep_sound {label : GenerationLabel} (sound : GenerationSound state)
    (permitted : KeepsLifecycle config state label)
    (moved : generationStep config state label = some after) : GenerationSound after := by
  cases label with
  | request feature song userId rightsConfirmed recordId =>
      simp only [generationStep] at moved
      cases checked : checkRequest config.env feature song userId rightsConfirmed with
      | error failure =>
          rw [checked] at moved
          cases moved
          exact sound
      | ok found =>
          have known : feature ≠ .playlistCoverArt := by
            intro same
            have refused := permitted same
            rw [checked] at refused
            cases refused
          simp only [checked] at moved
          split at moved
          · cases moved
          · rename_i fresh
            cases moved
            exact sound.request config (pendingRecord recordId found.id userId feature) known fresh
  | handle index answer => exact sound.handle permitted moved
  | queue label => exact sound.queueLabel permitted moved

theorem GenerationSound.initially : GenerationSound noGenerations := by
  have table : TableSound noGenerations.table := by
    refine ⟨List.nodup_nil, ?_, ?_, ?_, fun _ => Nat.zero_le _⟩
    · exact fun record member => absurd member List.not_mem_nil
    · exact fun id status member => absurd member List.not_mem_nil
    · exact fun id member => absurd member List.not_mem_nil
  have identified : Identified noGenerations.queue := by
    refine ⟨?_, ⟨fun jobId job found => (nomatch found), ?_⟩⟩
    · exact fun activity member => absurd member List.not_mem_nil
    · exact fun job member => absurd member List.not_mem_nil
  refine ⟨.initially, identified, table, ?_, ?_, ?_, ?_, ?_, ?_, fun _ _ => rfl⟩
  · exact fun id member => absurd member List.not_mem_nil
  · exact fun job member => absurd member List.not_mem_nil
  · exact fun one member => absurd member List.not_mem_nil
  · exact fun job member => absurd member List.not_mem_nil
  · exact fun activity member => absurd member List.not_mem_nil
  · exact fun index job feature running => nomatch running

/-- Every feature, and every order of requests, handlers, retries, dead letters and faults
that the condition leaves. -/
theorem generationMachine_lifecycle (config : GenerationConfig)
    (reached : (generationMachine config).Reachable (KeepsLifecycle config) state) :
    Lifecycle state := by
  have sound : GenerationSound state := by
    refine reached.invariant GenerationSound ?_ ?_
    · rintro initial rfl
      exact .initially
    · exact fun before label after known permitted moved =>
        generationStep_sound known permitted moved
  exact sound.lifecycle

end Runs

instance (table : GenerationTable) (id : String) (call : HandlerCall) (answer : HandlerAnswer) :
    Decidable (MayAnswer table id call answer) := by
  unfold MayAnswer
  split <;> infer_instance

instance (config : GenerationConfig) (state : GenerationState) (label : GenerationLabel) :
    Decidable (KeepsLifecycle config state label) :=
  match label with
  | .request _ _ _ _ _ => inferInstanceAs (Decidable (_ → _ = false))
  | .handle index _ => inferInstanceAs (Decidable (∀ run ∈ aiRun state.queue index, _))
  | .queue label => inferInstanceAs (Decidable (∀ jobId ∈ strikes state.queue label, _))

/-! One transcription. -/

def openConfig : GenerationConfig :=
  { env := fun _ => some "true", providerName := "stub", others := fun _ => false }

def sungSong : AiSong :=
  { id := "song", artistId := "artist", s3OriginalUrl := some "s3://original.wav"
    hlsMasterUrl := none, lyricsRightsConfirmed := true
    lyricsRightsConfirmedBy := some "artist" }

def queued (labels : List QueueLabel) : List GenerationLabel := labels.map .queue

def requestedTranscription : List GenerationLabel :=
  .request .lyricsTranscription (some sungSong) "artist" true "generation" ::
    queued (List.replicate 3 (.perform 0) ++ .startWorker :: List.replicate 5 (.perform 1))

def transcribes (lyrics : String) (calls : Nat) : List GenerationLabel :=
  .handle 1 .done :: .handle 1 (.song (some sungSong)) :: .handle 1 (.generated ⟨"", "", lyrics⟩) ::
    List.replicate calls (.handle 1 .done)

/-- The provider fails at first, and the retry completes the record. -/
def retriedTranscription : List GenerationLabel :=
  requestedTranscription ++
    [.handle 1 .done, .handle 1 (.song (some sungSong)), .handle 1 (.fails "ETIMEDOUT")] ++
      queued (List.replicate 3 (.perform 1) ++ .fire 0 :: List.replicate 5 (.perform 1)) ++
        transcribes "la la" 3 ++ queued (List.replicate 3 (.perform 1))

theorem generationMachine_transcribes :
    ∃ state, (generationMachine openConfig).run noGenerations retriedTranscription = some state ∧
      state.queue.completed = [0] ∧ state.table.published = ["generation"] ∧ Lifecycle state := by
  have permitted : (generationMachine openConfig).Permits (KeepsLifecycle openConfig)
      noGenerations retriedTranscription := by
    decide +kernel
  have executed : ((generationMachine openConfig).run noGenerations retriedTranscription).map
      (fun state => (state.queue.completed, state.table.published)) =
        some ([0], ["generation"]) := by
    decide +kernel
  obtain ⟨state, ran, seen⟩ := Option.map_eq_some_iff.mp executed
  obtain ⟨completed, published⟩ := Prod.mk.inj seen
  exact ⟨state, ran, completed, published,
    generationMachine_lifecycle openConfig (.of_run _ (.start rfl) permitted ran)⟩

/-- The last command of `complete` fails after a transcription, and the retry is answered
without one. -/
def rerunTranscription : List GenerationLabel :=
  requestedTranscription ++ transcribes "la la" 3 ++ queued unsavedCompletion ++
    transcribes " " 3

theorem generationMachine_fails_completed :
    ∃ state, (generationMachine openConfig).run noGenerations rerunTranscription = some state ∧
      state.table.published = ["generation", "generation"] ∧
        state.table.outcomes = [("generation", .completed), ("generation", .failed)] ∧
          ¬Lifecycle state := by
  have executed : ((generationMachine openConfig).run noGenerations rerunTranscription).map
      (fun state => (state.table.published, state.table.outcomes)) =
        some (["generation", "generation"],
          [("generation", RecordStatus.completed), ("generation", RecordStatus.failed)]) := by
    decide +kernel
  obtain ⟨state, ran, seen⟩ := Option.map_eq_some_iff.mp executed
  obtain ⟨published, outcomes⟩ := Prod.mk.inj seen
  refine ⟨state, ran, published, outcomes, fun lifecycle => ?_⟩
  have once := lifecycle.publishedOnce "generation"
  rw [published] at once
  exact absurd once (by decide +kernel)

end AudioBlock.Generation
