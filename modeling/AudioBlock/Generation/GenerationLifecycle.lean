/-
The life of a generation record.

A record is pending while its job is alive, it is settled once, and its webhook is
published at most once, in every run where a handler starts on a pending record only, no
fault strikes the job of a pending record, and the database accepts what the last
`markFailed` of a job asks.
-/
import AudioBlock.Jobs.JobEndings
import AudioBlock.Generation.AiGenerationService

namespace AudioBlock.Generation

open AudioBlock.Foundation AudioBlock.Jobs

def IsAi (job : Job) : Prop := (handledFeature job.type).isSome = true

instance (job : Job) : Decidable (IsAi job) := inferInstanceAs (Decidable (_ = true))

structure Lifecycle (state : GenerationState) : Prop where
  pendingAlive : ∀ record ∈ state.table.records, record.status = .pending →
    ∃ job ∈ state.queue.created, IsAi job ∧ job.payload = record.id ∧ Alive state.queue job.id
  oneOutcome : ∀ id, (id, RecordStatus.completed) ∈ state.table.outcomes →
    (id, RecordStatus.failed) ∉ state.table.outcomes
  publishedOnce : ∀ id, state.table.published.count id ≤ 1

def Pending (table : GenerationTable) (id : String) : Prop :=
  ∃ record ∈ table.find id, record.status = .pending

instance (table : GenerationTable) (id : String) : Decidable (Pending table id) :=
  inferInstanceAs (Decidable (∃ record ∈ table.find id, _))

def MayAnswer (table : GenerationTable) (id : String) : HandlerCall → HandlerAnswer → Prop
  | .findRecord, _ => Pending table id
  | .findFailed _ (some _), .fails _ => False
  | .saveFailed _ (some _), .fails _ => False
  | _, _ => True

/-- The condition on a step. -/
def KeepsLifecycle (config : GenerationConfig) (state : GenerationState) : GenerationLabel → Prop
  | .request feature song userId rightsConfirmed _ =>
      feature = .playlistCoverArt →
        (checkRequest config.env feature song userId rightsConfirmed).isOk = false
  | .handle index answer =>
      ∀ run ∈ aiRun state.queue index,
        MayAnswer state.table run.1.payload (state.progress index) answer
  | .queue label =>
      ∀ jobId ∈ strikes state.queue label, ∀ job ∈ state.queue.created, job.id = jobId →
        IsAi job → ¬Pending state.table job.payload

/-! ### The invariant -/

def RunSound (table : GenerationTable) (id : String) : HandlerCall → Prop
  | .findRecord => True
  | .findSong record | .callProvider record | .saveSong record =>
      record.id = id ∧ Pending table id
  | .saveCompleted record => record.id = id ∧ record.status = .completed ∧ Pending table id
  | .findFailed _ _ => Pending table id
  | .saveFailed record _ => record.id = id ∧ record.status = .failed ∧ Pending table id
  | .publish record _ => record.id = id ∧ ¬Pending table id ∧ id ∉ table.published

structure TableSound (table : GenerationTable) : Prop where
  distinct : (table.records.map AiGenerationRecord.id).Nodup
  outcome : ∀ record ∈ table.records, ∀ status, (record.id, status) ∈ table.outcomes →
    status = record.status ∧ status ≠ .pending
  listed : ∀ id status, (id, status) ∈ table.outcomes → id ∈ table.records.map AiGenerationRecord.id
  announced : ∀ id ∈ table.published, id ∈ table.records.map AiGenerationRecord.id ∧ ¬Pending table id
  once : ∀ id, table.published.count id ≤ 1

structure GenerationSound (state : GenerationState) : Prop where
  queue : QueueSound state.queue
  identified : Identified state.queue
  table : TableSound state.table
  owner : ∀ id ∈ state.table.records.map AiGenerationRecord.id,
    ∃ job ∈ state.queue.created, IsAi job ∧ job.payload = id
  owned : ∀ job ∈ state.queue.created, IsAi job →
    job.payload ∈ state.table.records.map AiGenerationRecord.id
  single : ∀ one ∈ state.queue.created, ∀ other ∈ state.queue.created, IsAi one → IsAi other →
    one.payload = other.payload → one.id = other.id
  left : ∀ job ∈ state.queue.created, IsAi job → state.queue.Left job.id →
    ¬Pending state.table job.payload
  ending : ∀ activity ∈ state.queue.activities, ∀ job ∈ activity.ending, IsAi job →
    ¬Pending state.table job.payload
  runs : ∀ index job feature, aiRun state.queue index = some (job, feature) →
    RunSound state.table job.payload (state.progress index)
  idle : ∀ index, aiRun state.queue index = none → state.progress index = .findRecord

theorem GenerationSound.lifecycle {state : GenerationState} (sound : GenerationSound state) :
    Lifecycle state := by
  refine ⟨?_, ?_, sound.table.once⟩
  · intro record member pending
    obtain ⟨job, created, isAi, payload⟩ := sound.owner _ (List.mem_map_of_mem member)
    refine ⟨job, created, isAi, payload, ?_⟩
    have here : Pending state.table job.payload := by
      rw [payload]
      exact ⟨record, findRow_of_mem sound.table.distinct member, pending⟩
    have notLeft : ¬state.queue.Left job.id := fun left => sound.left job created isAi left here
    have numbered : job.id < state.queue.created.length := by
      have listed : job.id ∈ List.range state.queue.created.length :=
        sound.queue.numbered ▸ List.mem_map_of_mem created
      exact List.mem_range.mp listed
    obtain ⟨notCompleted, rest⟩ := not_or.mp notLeft
    obtain ⟨notDead, notDropped⟩ := not_or.mp rest
    exact (sound.queue.alive_iff_kept numbered notCompleted notDead).mpr notDropped
  · intro id completed failed
    obtain ⟨record, member, rfl⟩ := List.mem_map.mp (sound.table.listed id _ completed)
    have first := (sound.table.outcome record member _ completed).1
    have second := (sound.table.outcome record member _ failed).1
    cases first.trans second.symm

/-! ### The table -/

section Table

variable {table after : GenerationTable} {id : String}

theorem Pending.listed (pending : Pending table id) :
    id ∈ table.records.map AiGenerationRecord.id := by
  obtain ⟨record, found, _⟩ := pending
  obtain ⟨member, named⟩ := findRow_mem found
  exact named ▸ List.mem_map_of_mem member

theorem TableSound.untouched (sound : TableSound table) (pending : Pending table id) :
    (∀ status, (id, status) ∉ table.outcomes) ∧ id ∉ table.published := by
  constructor
  · intro status saved
    obtain ⟨record, found, isPending⟩ := pending
    obtain ⟨member, named⟩ := findRow_mem found
    obtain ⟨same, settled⟩ := sound.outcome record member status (named.symm ▸ saved)
    exact settled (same.trans isPending)
  · exact fun published => (sound.announced id published).2 pending

/-- What a step for one record leaves of the table. -/
structure TableChange (id : String) (table after : GenerationTable) : Prop where
  sound : TableSound after
  pending : ∀ other, other ≠ id → (Pending table other ↔ Pending after other)
  published : ∀ other, other ≠ id → other ∈ after.published → other ∈ table.published

structure Handled (id : String) (table after : GenerationTable) : Prop extends
    TableChange id table after where
  ids : after.records.map AiGenerationRecord.id = table.records.map AiGenerationRecord.id
  settles : Pending after id → Pending table id

variable {other : String} {record : AiGenerationRecord}

theorem TableChange.rest (change : TableChange id table after) {call : HandlerCall}
    (different : other ≠ id) (known : RunSound table other call) :
    RunSound after other call := by
  have same := change.pending other different
  cases call with
  | findRecord => trivial
  | findSong record | callProvider record | saveSong record => exact known.imp_right same.mp
  | saveCompleted record | saveFailed record rethrow =>
      exact ⟨known.1, known.2.1, same.mp known.2.2⟩
  | findFailed message rethrow => exact same.mp known
  | publish record rethrow =>
      obtain ⟨named, settled, unpublished⟩ := known
      exact ⟨named, fun pending => settled (same.mpr pending),
        fun published => unpublished (change.published other different published)⟩

theorem Handled.refl (sound : TableSound table) : Handled id table table :=
  ⟨⟨sound, fun _ _ => Iff.rfl, fun _ _ published => published⟩, rfl, fun pending => pending⟩

theorem Handled.still (handled : Handled id table after) (settled : ¬Pending table other) :
    ¬Pending after other := by
  intro pending
  by_cases own : other = id
  · subst own
    exact settled (handled.settles pending)
  · exact settled ((handled.pending other own).mpr pending)

theorem pending_save_other (different : other ≠ record.id) :
    Pending (table.save record) other ↔ Pending table other := by
  have same : (table.save record).find other = table.find other :=
    findRow_storeRow_other _ different
  unfold Pending
  rw [same]

theorem not_pending_save (settled : record.status ≠ .pending) :
    ¬Pending (table.save record) record.id := by
  rintro ⟨saved, found, pending⟩
  have stored : (table.save record).find record.id = some record := findRow_storeRow _ _
  rw [stored] at found
  cases Option.mem_some_iff.mp found
  exact settled pending

theorem save_ids (listed : record.id ∈ table.records.map AiGenerationRecord.id) :
    (table.save record).records.map AiGenerationRecord.id =
      table.records.map AiGenerationRecord.id := by
  change (storeRow AiGenerationRecord.id record table.records).map _ = _
  unfold storeRow
  rw [if_pos listed, saveRow_keys]

theorem Handled.save (sound : TableSound table) (pending : Pending table record.id)
    (settled : record.status ≠ .pending) :
    Handled record.id table (table.save record) := by
  have ids := save_ids pending.listed
  have untouched := sound.untouched pending
  have after : ¬Pending (table.save record) record.id := not_pending_save settled
  have still : ∀ other, ¬Pending table other → ¬Pending (table.save record) other := by
    intro other before
    by_cases own : other = record.id
    · exact own ▸ after
    · exact fun now => before ((pending_save_other own).mp now)
  refine ⟨⟨⟨?_, ?_, ?_, ?_, sound.once⟩, ?_, fun _ _ => id⟩, ids, fun now => absurd now after⟩
  · exact storeRow_nodup sound.distinct
  · intro row member status saved
    rcases List.mem_append.mp saved with before | new
    · rcases mem_storeRow member with rfl | present
      · exact absurd before (untouched.1 status)
      · exact sound.outcome row present status before
    · obtain ⟨named, rfl⟩ := Prod.mk.inj (List.mem_singleton.mp new)
      have own : row = record := by
        have found := findRow_of_mem (storeRow_nodup sound.distinct) member
        rw [named, findRow_storeRow] at found
        exact (Option.some.inj found).symm
      exact ⟨own ▸ rfl, settled⟩
  · intro other status saved
    rw [ids]
    rcases List.mem_append.mp saved with before | new
    · exact sound.listed other status before
    · rw [(Prod.mk.inj (List.mem_singleton.mp new)).1]
      exact pending.listed
  · intro other published
    obtain ⟨listed, before⟩ := sound.announced other published
    exact ⟨ids ▸ listed, still other before⟩
  · exact fun other different => (pending_save_other different).symm

theorem Handled.publish (sound : TableSound table)
    (listed : record.id ∈ table.records.map AiGenerationRecord.id)
    (settled : ¬Pending table record.id) (fresh : record.id ∉ table.published) :
    Handled record.id table (table.publish record) := by
  refine ⟨⟨⟨sound.distinct, sound.outcome, sound.listed, ?_, ?_⟩, fun _ _ => Iff.rfl, ?_⟩, rfl,
    fun pending => pending⟩
  · intro other published
    rcases List.mem_append.mp published with before | new
    · exact sound.announced other before
    · cases List.mem_singleton.mp new
      exact ⟨listed, settled⟩
  · intro other
    change (table.published ++ [record.id]).count other ≤ 1
    rw [List.count_append]
    by_cases own : other = record.id
    · subst own
      rw [List.count_eq_zero.mpr fresh, List.count_singleton_self]
    · have once := sound.once other
      rw [List.count_eq_zero.mpr fun member => own (List.mem_singleton.mp member)]
      omega
  · intro other different published
    rcases List.mem_append.mp published with before | new
    · exact before
    · exact absurd (List.mem_singleton.mp new) different

theorem TableChange.add (sound : TableSound table)
    (fresh : record.id ∉ table.records.map AiGenerationRecord.id) :
    TableChange record.id table { table with records := table.records ++ [record] } := by
  have kept : ∀ other, other ≠ record.id → (Pending table other ↔
      Pending { table with records := table.records ++ [record] } other) := by
    intro other different
    have same : findRow AiGenerationRecord.id other (table.records ++ [record]) =
        table.find other := by
      rw [findRow_append, if_neg different.symm, Option.or_none]
      rfl
    unfold Pending
    change _ ↔ ∃ found ∈ findRow AiGenerationRecord.id other (table.records ++ [record]), _
    rw [same]
  have more : ∀ other ∈ table.records.map AiGenerationRecord.id,
      other ∈ (table.records ++ [record]).map AiGenerationRecord.id := by
    intro other member
    rw [List.map_append]
    exact List.mem_append_left _ member
  refine ⟨⟨?_, ?_, ?_, ?_, sound.once⟩, kept, fun _ _ => id⟩
  · change ((table.records ++ [record]).map AiGenerationRecord.id).Nodup
    rw [List.map_append]
    refine List.Nodup.append sound.distinct (List.nodup_singleton _) ?_
    exact List.disjoint_singleton.mpr fresh
  · intro row member status saved
    rcases List.mem_append.mp member with before | new
    · exact sound.outcome row before status saved
    · cases List.mem_singleton.mp new
      exact absurd (sound.listed record.id status saved) fresh
  · exact fun other status saved => more other (sound.listed other status saved)
  · intro other published
    obtain ⟨listed, settled⟩ := sound.announced other published
    have different : other ≠ record.id := by
      rintro rfl
      exact fresh listed
    exact ⟨more other listed, fun pending => settled ((kept other different).mpr pending)⟩

end Table

/-! ### One call of a handler -/

def NextSound (table : GenerationTable) (job : Job) : HandlerNext → Prop
  | .goes call => RunSound table job.payload call
  | .ends outcome => Spent job outcome → ¬Pending table job.payload

section Calls

variable {table : GenerationTable} {job : Job} {feature : AiGenerationFeature}
  {providerName : String}

theorem caught_sound (pending : Pending table job.payload) (error : String) :
    NextSound table job (caught job error) := by
  unfold caught
  split
  · exact pending
  · rename_i left
    intro spent
    rcases spent with returned | last
    · cases returned
    · exact absurd last left

variable {record : AiGenerationRecord} {call : HandlerCall} {result : GenerationTable × HandlerNext}

theorem beginTranscription_sound (named : record.id = job.payload)
    (pending : Pending table job.payload) (song : AiSong) :
    NextSound table job (beginTranscription job record song) := by
  unfold beginTranscription
  split
  · exact pending
  · split
    · exact caught_sound pending _
    · exact ⟨named, pending⟩

theorem afterProvider_sound (named : record.id = job.payload)
    (pending : Pending table job.payload) (result : ProviderResult) :
    NextSound table job (afterProvider feature providerName record result) := by
  cases feature with
  | coverArt | playlistCoverArt | descriptions => exact ⟨named, rfl, pending⟩
  | lyricsTranscription =>
      simp only [afterProvider]
      split
      · exact pending
      · exact ⟨named, pending⟩

/-- What the answer to a call leaves. -/
structure Answered (table : GenerationTable) (job : Job)
    (result : GenerationTable × HandlerNext) : Prop where
  handled : Handled job.payload table result.1
  next : NextSound result.1 job result.2

section

variable (sound : TableSound table)
include sound

theorem Answered.same {next : HandlerNext} (known : NextSound table job next) :
    Answered table job (table, next) :=
  ⟨.refl sound, known⟩

theorem Answered.failed (pending : Pending table job.payload) (error : String) :
    Answered table job (table, caught job error) :=
  .same sound (caught_sound pending error)

theorem Answered.saved (named : record.id = job.payload) (settled : record.status ≠ .pending)
    (pending : Pending table job.payload) (rethrow : Option String) :
    Answered table job (table.save record, .goes (.publish record rethrow)) := by
  rw [← named] at pending
  refine ⟨named ▸ .save sound pending settled, named, ?_, ?_⟩
  · exact named ▸ not_pending_save settled
  · exact named ▸ (sound.untouched pending).2

theorem answerCall_fails {error : String} (known : RunSound table job.payload call)
    (may : MayAnswer table job.payload call (.fails error))
    (answered : answerCall feature providerName job table call (.fails error) = some result) :
    Answered table job result := by
  cases call with
  | findRecord =>
      cases answered
      exact .failed sound may error
  | findSong record | callProvider record | saveSong record =>
      cases answered
      exact .failed sound known.2 error
  | saveCompleted record =>
      cases answered
      exact .failed sound known.2.2 error
  | findFailed message rethrow =>
      cases rethrow with
      | some first => exact absurd may id
      | none =>
          cases answered
          exact .failed sound known error
  | saveFailed record rethrow =>
      cases rethrow with
      | some first => exact absurd may id
      | none =>
          cases answered
          exact .failed sound known.2.2 error
  | publish record rethrow =>
      cases answered
      exact .same sound fun _ => known.2.1

theorem answerCall_song {found : Option AiSong} (known : RunSound table job.payload call)
    (answered : answerCall feature providerName job table call (.song found) = some result) :
    Answered table job result := by
  cases call with
  | findSong record =>
      obtain ⟨named, pending⟩ := known
      cases found with
      | none =>
          cases answered
          exact .failed sound pending _
      | some song =>
          simp only [answerCall] at answered
          split at answered
          · cases answered
            exact .same sound (beginTranscription_sound named pending song)
          · cases answered
            exact .same sound ⟨named, pending⟩
  | findRecord | callProvider record | saveSong record | saveCompleted record
  | findFailed message rethrow | saveFailed record rethrow | publish record rethrow =>
      cases answered

section

variable (listed : job.payload ∈ table.records.map AiGenerationRecord.id)
  (known : RunSound table job.payload call)
include listed known

theorem answerCall_done (may : MayAnswer table job.payload call .done)
    (answered : answerCall feature providerName job table call .done = some result) :
    Answered table job result := by
  cases call with
  | findRecord =>
      have pending : Pending table job.payload := may
      obtain ⟨record, found, _⟩ := id pending
      rw [Option.mem_def] at found
      simp only [answerCall, found] at answered
      cases answered
      exact .same sound ⟨(findRow_mem found).2, pending⟩
  | findSong record | callProvider record => cases answered
  | saveSong record =>
      obtain ⟨named, pending⟩ := known
      cases answered
      exact .same sound ⟨named, rfl, pending⟩
  | saveCompleted record =>
      obtain ⟨named, completed, pending⟩ := known
      cases answered
      exact .saved sound named (by simp [completed]) pending none
  | findFailed message rethrow =>
      obtain ⟨record, found, _⟩ := id known
      rw [Option.mem_def] at found
      simp only [answerCall, found] at answered
      cases answered
      exact .same sound ⟨(findRow_mem found).2, rfl, known⟩
  | saveFailed record rethrow =>
      obtain ⟨named, failed, pending⟩ := known
      cases answered
      exact .saved sound named (by simp [failed]) pending rethrow
  | publish record rethrow =>
      obtain ⟨named, settled, unpublished⟩ := known
      cases answered
      rw [← named] at settled unpublished listed
      have handled := Handled.publish sound listed settled unpublished
      exact ⟨named ▸ handled, fun _ => named ▸ handled.still settled⟩

theorem answerCall_sound {answer : HandlerAnswer} (may : MayAnswer table job.payload call answer)
    (answered : answerCall feature providerName job table call answer = some result) :
    Answered table job result := by
  cases answer with
  | done => exact answerCall_done sound listed known may answered
  | song found => exact answerCall_song sound known answered
  | fails error => exact answerCall_fails sound known may answered
  | generated generation =>
      cases call with
      | callProvider record =>
          obtain ⟨named, pending⟩ := known
          cases answered
          exact .same sound (afterProvider_sound named pending generation)
      | findRecord | findSong record | saveSong record | saveCompleted record
      | findFailed message rethrow | saveFailed record rethrow | publish record rethrow =>
          cases answered

end

end

end Calls

end AudioBlock.Generation
