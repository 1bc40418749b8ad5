/-
Songs in processing and the jobs that they wait for.

An upload and a retry save their song first and publish afterwards, a rollback brings
the status of an old version back without a job, and a job that is given up leaves the
song as it is.  Where none of these loses the last job, every song in processing has one.
-/
import AudioBlock.Foundation.Weighing
import AudioBlock.Processing.SongProcessorWorker

namespace AudioBlock.Processing

open AudioBlock.Foundation AudioBlock.Songs

def Outstanding (state : ProcessingState) (songId : String) : Prop :=
  (∃ job ∈ state.queue, job.payload.songId = songId) ∨
    ∃ run ∈ state.runs, run.holds = true ∧ run.payload.songId = songId

instance (state : ProcessingState) (songId : String) : Decidable (Outstanding state songId) :=
  inferInstanceAs (Decidable ((∃ job ∈ state.queue, _) ∨ ∃ run ∈ state.runs, _))

def ProcessingOutstanding (state : ProcessingState) : Prop :=
  ∀ song ∈ state.table.songs, song.status = .processing → Outstanding state song.id

instance (state : ProcessingState) : Decidable (ProcessingOutstanding state) :=
  inferInstanceAs (Decidable (∀ song ∈ state.table.songs, _))

/-! ### The condition -/

def Dispensable (left : ProcessingState) (payload : SongPayload) : Prop :=
  ∀ song ∈ left.table.songs, song.id = payload.songId → song.status = .processing →
    Outstanding left payload.songId

instance (left : ProcessingState) (payload : SongPayload) : Decidable (Dispensable left payload) :=
  inferInstanceAs (Decidable (∀ song ∈ left.table.songs, _))

/-- The step settles the message of a job for good. -/
def gaveUp (media : MediaStore) (state : ProcessingState) (run : WorkerRun)
    (answer : WorkerAnswer) : Bool :=
  match performWork media state run.payload run.next answer with
  | some (_, .failed) => (nextAttempt run.payload).isNone
  | some (_, .processed) => true
  | _ => false

def ProcessingState.released (state : ProcessingState) (index : Nat) (run : WorkerRun) :
    ProcessingState :=
  state.withRun index { run with next := .ended, holds := false }

def SavesOutstanding (state : ProcessingState) : WorkerCall → WorkerAnswer → Prop
  | .saveLoudness copy, .done | .saveWaveform copy, .done =>
      copy.status = .processing → Outstanding state copy.id
  | _, _ => True

instance (state : ProcessingState) (call : WorkerCall) (answer : WorkerAnswer) :
    Decidable (SavesOutstanding state call answer) := by
  unfold SavesOutstanding
  split <;> infer_instance

def KeepsJobs (media : MediaStore) (state : ProcessingState) : ProcessingLabel → Prop
  | .finalizeUpload _ _ .stored _ => state.connected = true
  | .finalizeReupload songId _ artistId _ .stored =>
      ∀ song ∈ state.row songId, song.artistId = artistId →
        state.connected = true ∨ Outstanding state songId
  | .rollbackVersion songId targetVersionNumber artistId _ =>
      ∀ song ∈ state.row songId, song.artistId = artistId →
        ∀ target ∈ (getVersion state.table songId targetVersionNumber).toOption,
          target.coverArtPath ≠ none → target.status = .processing → Outstanding state songId
  | .retryFailedSong songId =>
      ∀ song ∈ state.row songId, song.status = .failed →
        state.connected = true ∨ Outstanding state songId
  | .deliver index =>
      ∀ job ∈ state.queue[index]?, parsePayload job.payload = none →
        Dispensable (state.taken index) job.payload
  | .expire index => ∀ job ∈ state.queue[index]?, Dispensable (state.taken index) job.payload
  | .work index answer =>
      ∀ run ∈ state.runs[index]?, SavesOutstanding state run.next answer ∧
        (run.holds = true → gaveUp media state run answer = true →
          Dispensable (state.released index run) run.payload)
  | _ => True

instance (media : MediaStore) (state : ProcessingState) : DecidablePred (KeepsJobs media state)
  | .finalizeUpload _ _ .stored _ => inferInstanceAs (Decidable (state.connected = true))
  | .finalizeReupload songId _ _ _ .stored =>
      inferInstanceAs (Decidable (∀ song ∈ state.row songId, _))
  | .rollbackVersion songId _ _ _ => inferInstanceAs (Decidable (∀ song ∈ state.row songId, _))
  | .retryFailedSong songId => inferInstanceAs (Decidable (∀ song ∈ state.row songId, _))
  | .deliver index => inferInstanceAs (Decidable (∀ job ∈ state.queue[index]?, _))
  | .expire index => inferInstanceAs (Decidable (∀ job ∈ state.queue[index]?, _))
  | .work index _ => inferInstanceAs (Decidable (∀ run ∈ state.runs[index]?, _))
  | .finalizeUpload _ _ (.threw _) _ | .finalizeReupload _ _ _ _ (.threw _) | .connects
  | .disconnects | .redeliver .. => isTrue trivial

/-! ### One step -/

section Step

variable {media : MediaStore} {state after : ProcessingState} {songId : String}

theorem Outstanding.mono (outstanding : Outstanding state songId)
    (queue : ∀ job ∈ state.queue, job ∈ after.queue) (runs : ∀ run ∈ state.runs, run ∈ after.runs) :
    Outstanding after songId := by
  rcases outstanding with ⟨job, queued, named⟩ | ⟨run, running, holds⟩
  · exact Or.inl ⟨job, queue job queued, named⟩
  · exact Or.inr ⟨run, runs run running, holds⟩

theorem ProcessingOutstanding.grown (kept : ProcessingOutstanding state)
    (queue : ∀ job ∈ state.queue, job ∈ after.queue) (runs : ∀ run ∈ state.runs, run ∈ after.runs)
    (songs : ∀ song ∈ after.table.songs, song ∈ state.table.songs ∨
      (song.status = .processing → Outstanding after song.id)) : ProcessingOutstanding after := by
  intro song member processing
  rcases songs song member with before | outstanding
  · exact (kept song before processing).mono queue runs
  · exact outstanding processing

variable {Value : Type} {payload : SongPayload} {index : Nat} {job : QueuedJob} {run : WorkerRun}
  {answered : ProcessingState × WorkerOutcome}

theorem publish_queue (state : ProcessingState) (payload : SongPayload) (value : Value) :
    ∀ job ∈ state.queue, job ∈ (publish state payload value).1.queue := by
  unfold publish
  split
  · exact fun job queued => List.mem_append_left _ queued
  · exact fun job queued => queued

theorem publish_outstanding (payload : SongPayload) (value : Value)
    (connected : state.connected = true) :
    Outstanding (publish state payload value).1 payload.songId := by
  unfold publish
  rw [if_pos connected]
  exact Or.inl ⟨_, List.mem_append_right _ List.mem_cons_self, rfl⟩

theorem recordInitialVersion_songs (table : SongState) (song : Song) (recorded : Bool) :
    (recordInitialVersion table song recorded).songs = table.songs := by
  unfold recordInitialVersion
  split
  · rfl
  · rfl

section

variable (kept : ProcessingOutstanding state)
include kept

theorem ProcessingOutstanding.published {table : SongState} {merged : List String}
    (payload : SongPayload) (value : Value)
    (songs : ∀ song ∈ table.songs, song ∈ state.table.songs ∨
      song.id = payload.songId ∧ (state.connected = true ∨ Outstanding state payload.songId)) :
    ProcessingOutstanding
      (publish { state with table := table, merged := merged } payload value).1 := by
  obtain ⟨queue, same⟩ :=
    publish_eq { state with table := table, merged := merged } payload value
  have grows : ∀ job ∈ state.queue,
      job ∈ (publish { state with table := table, merged := merged } payload value).1.queue :=
    publish_queue { state with table := table, merged := merged } payload value
  rw [same] at grows
  apply kept.grown
  · rw [same]
    exact grows
  · rw [same]
    exact fun run running => running
  · intro song member
    rw [same] at member
    rcases songs song member with before | ⟨named, connected | outstanding⟩
    · exact Or.inl before
    · right
      intro _
      rw [named]
      exact publish_outstanding payload value connected
    · right
      intro _
      rw [named, same]
      exact outstanding.mono grows fun run running => running

theorem ProcessingOutstanding.withMerged (fileId : String) (outcome : MergeOutcome) :
    ProcessingOutstanding (state.withMerged fileId outcome) := by
  obtain ⟨merged, same⟩ := withMerged_eq state fileId outcome
  rw [same]
  exact kept

theorem ProcessingOutstanding.finalizeUpload (upload : UploadOptions) (drawn : String)
    {outcome : MergeOutcome} (recorded : Bool)
    (permitted : KeepsJobs media state (.finalizeUpload upload drawn outcome recorded)) :
    ProcessingOutstanding (finalizeUpload media state upload drawn outcome recorded).1 := by
  cases outcome with
  | threw fileLeft => exact kept.withMerged upload.fileId (.threw fileLeft)
  | stored =>
      apply kept.published
      intro song member
      rw [recordInitialVersion_songs] at member
      rcases List.mem_append.mp member with before | new
      · exact Or.inl before
      · cases List.mem_singleton.mp new
        exact Or.inr ⟨rfl, Or.inl permitted⟩

theorem ProcessingOutstanding.finalizeReupload (songId fileId artistId : String)
    (changes : VersionInput) {outcome : MergeOutcome}
    (permitted : KeepsJobs media state (.finalizeReupload songId fileId artistId changes outcome)) :
    ProcessingOutstanding
      (finalizeReupload media state songId fileId artistId changes outcome).1 := by
  unfold Processing.finalizeReupload
  split
  · exact kept
  · split
    · exact kept
    · cases outcome with
      | threw fileLeft => exact kept.withMerged fileId (.threw fileLeft)
      | stored =>
          dsimp only
          rcases createVersionFromReupload_cases state.table songId artistId
              { changes with
                s3OriginalUrl := some (media.location fileId)
                createdBy := some artistId } with
            same | ⟨row, version, saved, found, owner, named, same, succeeded⟩
          · have unsaved : ∀ song ∈ _, song ∈ state.table.songs := fun song member => same ▸ member
            split
            · exact fun song member => kept song (unsaved song member)
            · apply kept.published
              exact fun song member => Or.inl (unsaved song member)
          · rw [succeeded]
            apply kept.published
            intro song member
            rw [same] at member
            rcases mem_saveRow member with rfl | ⟨before, _⟩
            · exact Or.inr ⟨named, permitted row found owner⟩
            · exact Or.inl before

theorem ProcessingOutstanding.rollbackVersion (songId : String) (targetVersionNumber : Option Int)
    (artistId : String) (changeNote : Option String)
    (permitted : KeepsJobs media state
      (.rollbackVersion songId targetVersionNumber artistId changeNote)) :
    ProcessingOutstanding { state with
      table := (rollbackVersion state.table songId targetVersionNumber artistId changeNote).1 } := by
  apply kept.grown
  · exact fun job queued => queued
  · exact fun run running => running
  · intro song member
    rcases rollbackVersion_cases state.table songId targetVersionNumber artistId changeNote with
      same | ⟨row, target, saved, found, owner, chosen, covered, named, status, same⟩
    · exact Or.inl (same ▸ member)
    · rw [same] at member
      rcases mem_saveRow member with rfl | ⟨before, _⟩
      · right
        intro processing
        have outstanding := permitted row found owner target (by rw [chosen]; rfl) covered
          (status.symm.trans processing)
        exact named ▸ outstanding
      · exact Or.inl before

theorem ProcessingOutstanding.retryFailedSong (songId : String)
    (permitted : KeepsJobs media state (.retryFailedSong songId)) :
    ProcessingOutstanding (retryFailedSong state songId).1 := by
  unfold Processing.retryFailedSong
  split
  · exact kept
  · rename_i song found
    split
    · exact kept
    · rename_i failed
      have asked := permitted song found (not_not.mp failed)
      rw [← (findRow_mem found).2] at asked
      apply kept.published
      intro other member
      rcases mem_storeRow member with rfl | before
      · exact Or.inr ⟨rfl, asked⟩
      · exact Or.inl before

/-! The jobs that move. -/

theorem ProcessingOutstanding.dropped (table : after.table = state.table)
    (spare : Dispensable after payload)
    (others : ∀ songId, songId ≠ payload.songId → Outstanding state songId →
      Outstanding after songId) : ProcessingOutstanding after := by
  intro song member processing
  by_cases own : song.id = payload.songId
  · rw [own]
    exact spare song member own processing
  · exact others song.id own (kept song (table ▸ member) processing)

end

theorem mem_eraseIdx_other {other : QueuedJob} (present : state.queue[index]? = some job)
    (queued : other ∈ state.queue) (different : other ≠ job) :
    other ∈ state.queue.eraseIdx index := by
  obtain ⟨place, atPlace⟩ := List.getElem?_of_mem queued
  apply List.mem_eraseIdx_iff_getElem?.mpr
  refine ⟨place, fun same => ?_, atPlace⟩
  subst same
  exact different (Option.some.inj (atPlace.symm.trans present))

theorem taken_outstanding (present : state.queue[index]? = some job)
    (different : songId ≠ job.payload.songId) (outstanding : Outstanding state songId) :
    Outstanding (state.taken index) songId := by
  rcases outstanding with ⟨other, queued, named⟩ | holder
  · have notJob : other ≠ job := by
      rintro rfl
      exact different named.symm
    exact Or.inl ⟨other, mem_eraseIdx_other present queued notJob, named⟩
  · exact Or.inr holder

theorem set_outstanding {next : WorkerRun} (present : state.runs[index]? = some run)
    (runs : after.runs = state.runs.set index next)
    (queue : ∀ job ∈ state.queue, job ∈ after.queue)
    (other : songId ≠ run.payload.songId ∨ next.holds = run.holds ∧ next.payload = run.payload)
    (outstanding : Outstanding state songId) : Outstanding after songId := by
  rcases outstanding with ⟨job, queued, named⟩ | ⟨holder, running, holds, named⟩
  · exact Or.inl ⟨job, queue job queued, named⟩
  · right
    rw [runs]
    by_cases same : holder = run
    · subst same
      obtain ⟨sameHolds, samePayload⟩ := other.resolve_left fun different => different named.symm
      exact ⟨next, mem_set_new next present, sameHolds.trans holds, samePayload ▸ named⟩
    · exact ⟨holder, mem_set_of_ne next present running same, holds, named⟩

theorem ProcessingOutstanding.delivered (kept : ProcessingOutstanding state)
    (present : state.queue[index]? = some job)
    (permitted : KeepsJobs media state (.deliver index)) :
    ProcessingOutstanding (state.delivered index job) := by
  unfold ProcessingState.delivered
  cases parsed : parsePayload job.payload with
  | none =>
      exact kept.dropped rfl (permitted job present parsed) fun songId different outstanding =>
        taken_outstanding present different outstanding
  | some payload =>
      have same : payload = job.payload :=
        (Option.some.inj (Option.ite_none_left_eq_some.mp parsed).2).symm
      intro song member processing
      by_cases own : song.id = job.payload.songId
      · right
        exact ⟨_, List.mem_append_right _ List.mem_cons_self, rfl, same ▸ own.symm⟩
      · have still := taken_outstanding present own (kept song member processing)
        exact still.mono (fun job queued => queued) fun run running => List.mem_append_left _ running

theorem performWork_settles {call : WorkerCall} {answer : WorkerAnswer}
    (performed : performWork media state payload call answer = some answered)
    (settles : ∀ call, answered.2 ≠ .next call) : answered.1 = state := by
  have writes := performWork_writes performed
  generalize left : answered.1 = after at writes ⊢
  cases writes with
  | quiet => rfl
  | loudness | waveform | file =>
      cases performed
      exact absurd rfl (settles _)

section

variable (kept : ProcessingOutstanding state)
include kept

theorem ProcessingOutstanding.storeSong {song : Song}
    (outstanding : song.status = .processing → Outstanding state song.id) :
    ProcessingOutstanding (state.storeSong song) := by
  apply kept.grown
  · exact fun job queued => queued
  · exact fun run running => running
  · intro other member
    rcases mem_storeRow member with rfl | before
    · exact Or.inr outstanding
    · exact Or.inl before

theorem ProcessingOutstanding.performWork {call : WorkerCall} {answer : WorkerAnswer}
    (performed : performWork media state payload call answer = some answered)
    (permitted : SavesOutstanding state call answer) :
    ProcessingOutstanding answered.1 ∧ answered.1.queue = state.queue ∧
      answered.1.runs = state.runs := by
  have writes := performWork_writes performed
  generalize answered.1 = after at writes ⊢
  cases writes with
  | quiet => exact ⟨kept, rfl, rfl⟩
  | loudness song | waveform song => exact ⟨kept.storeSong permitted, rfl, rfl⟩
  | file => exact ⟨kept, rfl, rfl⟩

section

variable (present : state.runs[index]? = some run)
include present

theorem ProcessingOutstanding.set {next : WorkerRun} (holds : next.holds = run.holds)
    (payload : next.payload = run.payload) :
    ProcessingOutstanding (state.withRun index next) :=
  fun song member processing =>
    set_outstanding present rfl (fun _ queued => queued) (Or.inr ⟨holds, payload⟩)
      (kept song member processing)

theorem ProcessingOutstanding.worked (answer : WorkerAnswer)
    (permitted : KeepsJobs media state (.work index answer))
    (performed : Processing.performWork media state run.payload run.next answer = some answered) :
    ProcessingOutstanding (answered.1.worked index run answered.2) := by
  obtain ⟨saves, settles⟩ := permitted run present
  obtain ⟨after, queue, runs⟩ := kept.performWork performed saves
  obtain ⟨answered, outcome⟩ := answered
  cases outcome with
  | next call =>
      have still : answered.runs[index]? = some run := by
        rw [runs]
        exact present
      exact after.set still rfl rfl
  | processed =>
      cases performWork_settles performed fun _ impossible => nomatch impossible
      by_cases holds : run.holds = true
      · have spare := settles holds (by
          unfold gaveUp
          rw [performed])
        exact kept.dropped rfl spare fun songId different outstanding =>
          set_outstanding present rfl (fun _ queued => queued) (Or.inl different) outstanding
      · exact kept.set present (Bool.eq_false_iff.mpr holds).symm rfl
  | failed =>
      cases performWork_settles performed fun _ impossible => nomatch impossible
      by_cases holds : run.holds = true
      · unfold ProcessingState.worked handleFailure
        dsimp only
        rw [if_pos holds]
        cases following : nextAttempt run.payload with
        | none =>
          have spare := settles holds (by
            unfold gaveUp
            rw [performed]
            exact Option.isNone_iff_eq_none.mpr following)
          exact kept.dropped rfl spare fun songId different outstanding =>
            set_outstanding present rfl (fun _ queued => queued) (Or.inl different) outstanding
        | some again =>
          intro song member processing
          by_cases own : song.id = run.payload.songId
          · have sameSong : again.songId = run.payload.songId := nextAttempt_songId following
            exact Or.inl ⟨_, List.mem_append_right _ List.mem_cons_self, sameSong.trans own.symm⟩
          · exact set_outstanding present rfl (fun _ queued => List.mem_append_left _ queued)
              (Or.inl own) (kept song member processing)
      · unfold ProcessingState.worked
        dsimp only
        rw [if_neg holds]
        exact kept.set present (Bool.eq_false_iff.mpr holds).symm rfl

theorem ProcessingOutstanding.redelivered (stops : Bool) :
    ProcessingOutstanding (state.redelivered index run stops) := by
  intro song member processing
  by_cases own : song.id = run.payload.songId
  · exact Or.inl ⟨_, List.mem_append_right _ List.mem_cons_self, own.symm⟩
  · exact set_outstanding present rfl (fun _ queued => List.mem_append_left _ queued)
      (Or.inl own) (kept song member processing)

end

theorem processingStep_outstanding {label : ProcessingLabel}
    (permitted : KeepsJobs media state label)
    (moved : processingStep media state label = some after) : ProcessingOutstanding after := by
  cases label with
  | finalizeUpload upload drawn outcome recorded =>
      obtain ⟨_, same⟩ := Option.ite_none_left_eq_some.mp moved
      cases same
      exact kept.finalizeUpload upload drawn recorded permitted
  | finalizeReupload songId fileId artistId changes outcome =>
      cases moved
      exact kept.finalizeReupload songId fileId artistId changes permitted
  | rollbackVersion songId targetVersionNumber artistId changeNote =>
      cases moved
      exact kept.rollbackVersion songId targetVersionNumber artistId changeNote permitted
  | retryFailedSong songId =>
      cases moved
      exact kept.retryFailedSong songId permitted
  | connects | disconnects =>
      cases moved
      exact kept
  | deliver index =>
      obtain ⟨job, present, rfl⟩ := Option.map_eq_some_iff.mp moved
      exact kept.delivered present permitted
  | expire index =>
      obtain ⟨job, present, moved⟩ := Option.bind_eq_some_iff.mp moved
      obtain ⟨_, same⟩ := Option.ite_none_right_eq_some.mp moved
      cases same
      exact kept.dropped rfl (permitted job present) fun songId different outstanding =>
        taken_outstanding present different outstanding
  | work index answer =>
      obtain ⟨run, present, moved⟩ := Option.bind_eq_some_iff.mp moved
      obtain ⟨answered, performed, rfl⟩ := Option.map_eq_some_iff.mp moved
      exact kept.worked present answer permitted performed
  | redeliver index stops =>
      obtain ⟨run, present, moved⟩ := Option.bind_eq_some_iff.mp moved
      obtain ⟨_, same⟩ := Option.ite_none_right_eq_some.mp moved
      cases same
      exact kept.redelivered present stops

end

end Step

/-- In every run whose steps meet the condition, and that starts with a job for every song
in processing, every song in processing has a job on the queue or held by a worker. -/
theorem processingMachine_outstanding {media : MediaStore} {before after : ProcessingState}
    {labels : List ProcessingLabel} (kept : ProcessingOutstanding before)
    (permitted : (processingMachine media).Permits (KeepsJobs media) before labels)
    (ran : (processingMachine media).run before labels = some after) :
    ProcessingOutstanding after :=
  Machine.run_preserves ProcessingOutstanding
    (fun _ _ _ kept permitted moved => processingStep_outstanding kept permitted moved)
    labels kept permitted ran

/-! One upload, with the broker there and away. -/

def plainMedia : MediaStore where
  location fileId := "https://media.s3.amazonaws.com/uploads/" ++ fileId ++ ".mp3"
  renditions _ := ["master.m3u8"]
  bucket := "media"

def emptyCatalogue (connected : Bool) : ProcessingState :=
  { table := { songs := [], versions := [] }
    merged := []
    storage := []
    queue := []
    runs := []
    connected := connected }

def firstUpload : ProcessingLabel :=
  .finalizeUpload ⟨"f1", "Dawn", "artist", none, none, "covers/dawn.png", none⟩ "s1" .stored true

/-- The job fails once, and a worker takes it again. -/
def secondAttempt : List ProcessingLabel :=
  [firstUpload, .deliver 0, .work 0 .done, .work 0 .threw, .work 0 .threw, .work 0 .threw,
    .deliver 0, .work 1 .done]

theorem processingMachine_outstanding_attempts :
    ∃ after, (processingMachine plainMedia).run (emptyCatalogue true) secondAttempt = some after ∧
      after.table.songs.map Song.status = [.processing] ∧ ProcessingOutstanding after := by
  have executed : ∃ after,
      (processingMachine plainMedia).run (emptyCatalogue true) secondAttempt = some after ∧
        after.table.songs.map Song.status = [.processing] ∧
          (processingMachine plainMedia).Permits (KeepsJobs plainMedia) (emptyCatalogue true)
            secondAttempt :=
    ⟨_, rfl, by decide +kernel, by decide +kernel⟩
  obtain ⟨after, ran, statuses, permitted⟩ := executed
  exact ⟨after, ran, statuses, processingMachine_outstanding (by decide) permitted ran⟩

def leftAfter (start : ProcessingState) (labels : List ProcessingLabel) :
    Option (List SongStatus × Nat × Bool) :=
  ((processingMachine plainMedia).run start labels).map fun state =>
    (state.table.songs.map Song.status, state.queue.length, state.runs.any WorkerRun.holds)

def readyCatalogue : ProcessingState :=
  { emptyCatalogue true with
    table :=
      { songs := [{ Song.uploaded "s1" "artist" "Dawn" with status := .ready }]
        versions := [initialVersion (Song.uploaded "s1" "artist" "Dawn") "artist"] } }

/-- Without the broker the upload throws and its song stays in processing; with it the
job is given up at its second failure; and a rollback brings a status back without a
job. -/
theorem processingMachine_strands :
    leftAfter (emptyCatalogue false) [firstUpload] = some ([.processing], 0, false) ∧
      leftAfter (emptyCatalogue true)
        [firstUpload, .deliver 0, .work 0 .threw, .deliver 0, .work 1 .threw] =
          some ([.processing], 0, false) ∧
      leftAfter readyCatalogue [.rollbackVersion "s1" (some 1) "artist" none] =
        some ([.processing], 0, false) := by
  decide +kernel

end AudioBlock.Processing
