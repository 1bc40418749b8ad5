/-
Uploads, their processing jobs, and the worker.

Uploads, re-uploads, rollbacks and retries run one after another; the runs of the worker
interleave with them at their awaited calls.  A run keeps the copy of the song that it
has loaded and saves it as a whole.  `getChannel` throws while the broker is away.
A stored file is named from the master playlist that it belongs to, and the original
that was transcoded is kept with it.
A message that loses its channel is delivered again, whether or not its run goes on.
-/
import AudioBlock.Foundation.Machine
import AudioBlock.Songs.SongRequests

namespace AudioBlock.Processing

open AudioBlock.Foundation AudioBlock.Songs

def maxAttempts : Nat := 3

/-- The payload of a job; the version number of a re-upload is not read. -/
structure SongPayload where
  songId : String
  fileId : String
  attempt : Option Nat
  deriving DecidableEq

/-- A message on the main queue, which its broker may drop if it has an expiration. -/
structure QueuedJob where
  payload : SongPayload
  expires : Bool
  deriving DecidableEq

/-- What the code takes from its surroundings: the location that S3 reports for the
original of an upload, the files that its transcode consists of, and the bucket. -/
structure MediaStore where
  location : String → String
  renditions : String → List String
  bucket : String

def MediaStore.masterUrl (media : MediaStore) (songId : String) : String :=
  "https://" ++ media.bucket ++ ".s3.amazonaws.com/songs/" ++ songId ++ "/hls/master.m3u8"

structure StoredFile where
  masterUrl : String
  name : String
  original : String
  deriving DecidableEq

def StoredFile.key (file : StoredFile) : String × String := (file.masterUrl, file.name)

inductive WorkerCall
  | findSong
  | analyzeLoudness (song : Song)
  | saveLoudness (song : Song)
  | generateWaveformPeaks (song : Song)
  | saveWaveform (song : Song)
  | transcodeToHLS
  | uploadHLSToS3 (remaining : List String)
  | downloadCover
  | pinCover
  | pinMetadata
  /-- `logService.log`, a method that `TransactionLogService` does not have. -/
  | logEntry (metadataCid : String)
  | ended
  deriving DecidableEq

/-- How an awaited call of the worker ends. -/
inductive WorkerAnswer
  | threw
  | done
  | measured (integratedLoudness : Rat)
  | pinned (cid : String)

/-- A job that a worker runs.  It holds the message until it is settled, or until its
channel is lost. -/
structure WorkerRun where
  payload : SongPayload
  next : WorkerCall
  holds : Bool
  deriving DecidableEq

structure ProcessingState where
  table : SongState
  /-- The files under `uploads/merged`. -/
  merged : List String
  storage : List StoredFile
  queue : List QueuedJob
  runs : List WorkerRun
  connected : Bool
  deriving DecidableEq

/-- How merging, scanning and storing an upload end. -/
inductive MergeOutcome
  | stored
  | threw (fileLeft : Bool)

structure UploadOptions where
  fileId : String
  title : String
  artistId : String
  description : Option String
  genre : Option String
  coverArtPath : String
  composers : Option String

namespace ProcessingState

def row (state : ProcessingState) (songId : String) : Option Song :=
  findRow Song.id songId state.table.songs

def storeSong (state : ProcessingState) (song : Song) : ProcessingState :=
  { state with
    table := { state.table with songs := storeRow Song.id song state.table.songs } }

def enqueue (state : ProcessingState) (job : QueuedJob) : ProcessingState :=
  { state with queue := state.queue ++ [job] }

def putFile (state : ProcessingState) (file : StoredFile) : ProcessingState :=
  { state with storage := storeRow StoredFile.key file state.storage }

def withMerged (state : ProcessingState) (fileId : String) (outcome : MergeOutcome) :
    ProcessingState :=
  match outcome with
  | .stored | .threw true => { state with merged := fileId :: state.merged }
  | .threw false => state

end ProcessingState

def notInitialized : AppError := .plain "RabbitMQ not initialized"

/-- `getChannel` and a publish. -/
def publish {Value : Type} (state : ProcessingState) (payload : SongPayload) (value : Value) :
    ProcessingState × Except AppError Value :=
  if state.connected then (state.enqueue { payload := payload, expires := false }, .ok value)
  else (state, .error notInitialized)

theorem publish_eq {Value : Type} (state : ProcessingState) (payload : SongPayload)
    (value : Value) : ∃ queue, (publish state payload value).1 = { state with queue := queue } := by
  unfold publish
  split
  · exact ⟨_, rfl⟩
  · exact ⟨state.queue, rfl⟩

theorem withMerged_eq (state : ProcessingState) (fileId : String) (outcome : MergeOutcome) :
    ∃ merged, state.withMerged fileId outcome = { state with merged := merged } := by
  match outcome with
  | .stored | .threw true => exact ⟨_, rfl⟩
  | .threw false => exact ⟨state.merged, rfl⟩

/-! ### The services -/

def uploadedSong (media : MediaStore) (upload : UploadOptions) (drawn : String) : Song :=
  { Song.uploaded drawn upload.artistId upload.title with
    coverArtPath := upload.coverArtPath
    description := upload.description
    genre := upload.genre
    composers := upload.composers
    s3OriginalUrl := some (media.location upload.fileId) }

def recordInitialVersion (table : SongState) (song : Song) (recorded : Bool) : SongState :=
  if recorded = true ∧ versionsOf table.versions song.id = [] then
    { table with versions := table.versions ++ [initialVersion song song.artistId] }
  else table

def finalizeUpload (media : MediaStore) (state : ProcessingState) (upload : UploadOptions)
    (drawn : String) (outcome : MergeOutcome) (recorded : Bool) :
    ProcessingState × Except AppError Song :=
  match outcome with
  | .threw _ => (state.withMerged upload.fileId outcome, .error (.plain "upload failed"))
  | .stored =>
      let song := uploadedSong media upload drawn
      let songs := state.table.songs ++ [song]
      let table := recordInitialVersion { state.table with songs := songs } song recorded
      publish { state.withMerged upload.fileId outcome with table := table }
        { songId := drawn, fileId := upload.fileId, attempt := none } song

def finalizeReupload (media : MediaStore) (state : ProcessingState) (songId fileId artistId : String)
    (changes : VersionInput) (outcome : MergeOutcome) :
    ProcessingState × Except AppError SongVersion :=
  match state.row songId with
  | none => (state, .error (.notFound "Song not found" "SONG_NOT_FOUND"))
  | some song =>
      if song.artistId ≠ artistId then
        (state,
          .error (.authorization "Not authorized to re-upload this song" "NOT_SONG_OWNER"))
      else
        match outcome with
        | .threw _ => (state.withMerged fileId outcome, .error (.plain "upload failed"))
        | .stored =>
            let input :=
              { changes with
                s3OriginalUrl := some (media.location fileId)
                createdBy := some artistId }
            let created := createVersionFromReupload state.table songId artistId input
            let saved := { state.withMerged fileId outcome with table := created.1 }
            match created.2 with
            | .error failure => (saved, .error failure)
            | .ok version =>
                publish saved { songId := songId, fileId := fileId, attempt := none } version

def retryPayload (song : Song) : SongPayload :=
  { songId := song.id, fileId := song.id, attempt := some 1 }

def Song.retried (song : Song) : Song := { song with status := .processing, errorReason := none }

/-- A publish that throws is caught. -/
def retryFailedSong (state : ProcessingState) (songId : String) :
    ProcessingState × Except AppError Song :=
  match state.row songId with
  | none => (state, .error (.plain "Song not found"))
  | some song =>
      if song.status ≠ .failed then (state, .error (.plain "Only failed songs can be retried"))
      else
        let saved := state.storeSong (Song.retried song)
        ((publish saved (retryPayload song) song).1, .ok (Song.retried song))

/-! ### The worker -/

def parsePayload (payload : SongPayload) : Option SongPayload :=
  if payload.songId = "" ∨ payload.fileId = "" then none else some payload

inductive WorkerOutcome
  | next (call : WorkerCall)
  | failed
  | processed

def readsFile (state : ProcessingState) (payload : SongPayload)
    (answer : ProcessingState × WorkerOutcome) : Option (ProcessingState × WorkerOutcome) :=
  if payload.fileId ∈ state.merged then some answer else none

/-- `processSongMessage`, call by call. -/
def performWork (media : MediaStore) (state : ProcessingState) (payload : SongPayload)
    (call : WorkerCall) (answer : WorkerAnswer) : Option (ProcessingState × WorkerOutcome) :=
  match call, answer with
  | .findSong, .done =>
      some (state, match state.row payload.songId with
        | none => .failed
        | some song => .next (.analyzeLoudness song))
  | .analyzeLoudness song, .measured integratedLoudness =>
      readsFile state payload
        (state, .next (.saveLoudness { song with loudness := some integratedLoudness }))
  | .analyzeLoudness song, .threw => some (state, .next (.generateWaveformPeaks song))
  | .saveLoudness song, .done => some (state.storeSong song, .next (.generateWaveformPeaks song))
  | .saveLoudness song, .threw => some (state, .next (.generateWaveformPeaks song))
  | .generateWaveformPeaks song, .done =>
      readsFile state payload (state, .next (.saveWaveform song))
  | .generateWaveformPeaks _, .threw => some (state, .next .transcodeToHLS)
  | .saveWaveform song, .done => some (state.storeSong song, .next .transcodeToHLS)
  | .saveWaveform _, .threw => some (state, .next .transcodeToHLS)
  | .transcodeToHLS, .done =>
      readsFile state payload
        (state, .next (.uploadHLSToS3 (media.renditions (media.location payload.fileId))))
  | .uploadHLSToS3 [], .done => some (state, .next .downloadCover)
  | .uploadHLSToS3 (name :: remaining), .done =>
      some (state.putFile
        { masterUrl := media.masterUrl payload.songId
          name := name
          original := media.location payload.fileId }, .next (.uploadHLSToS3 remaining))
  | .downloadCover, .done => some (state, .next .pinCover)
  | .pinCover, .pinned _ => some (state, .next .pinMetadata)
  | .pinMetadata, .pinned metadataCid => some (state, .next (.logEntry metadataCid))
  | .logEntry _, _ => some (state, .failed)
  | .ended, _ => none
  | _, .threw => some (state, .failed)
  | _, _ => none

inductive WorkWrites (media : MediaStore) (state : ProcessingState) (payload : SongPayload) :
    WorkerCall → WorkerAnswer → ProcessingState → Prop
  | quiet (call : WorkerCall) (answer : WorkerAnswer) : WorkWrites media state payload call answer state
  | loudness (song : Song) :
      WorkWrites media state payload (.saveLoudness song) .done (state.storeSong song)
  | waveform (song : Song) :
      WorkWrites media state payload (.saveWaveform song) .done (state.storeSong song)
  | file (name : String) (remaining : List String) :
      WorkWrites media state payload (.uploadHLSToS3 (name :: remaining)) .done
        (state.putFile
          { masterUrl := media.masterUrl payload.songId
            name := name
            original := media.location payload.fileId })

theorem readsFile_some {state : ProcessingState} {payload : SongPayload}
    {answer answered : ProcessingState × WorkerOutcome}
    (read : readsFile state payload answer = some answered) : answered = answer :=
  (Option.some.inj (Option.ite_none_right_eq_some.mp read).2).symm

theorem performWork_writes {media : MediaStore} {state : ProcessingState} {payload : SongPayload}
    {call : WorkerCall} {answer : WorkerAnswer} {answered : ProcessingState × WorkerOutcome}
    (performed : performWork media state payload call answer = some answered) :
    WorkWrites media state payload call answer answered.1 := by
  cases call with
  | findSong | downloadCover =>
      cases answer with
      | threw | done =>
          cases performed
          exact .quiet _ _
      | measured | pinned => cases performed
  | pinCover | pinMetadata =>
      cases answer with
      | threw | pinned =>
          cases performed
          exact .quiet _ _
      | measured | done => cases performed
  | analyzeLoudness song =>
      cases answer with
      | threw =>
          cases performed
          exact .quiet _ _
      | measured integratedLoudness =>
          cases readsFile_some performed
          exact .quiet _ _
      | done | pinned => cases performed
  | generateWaveformPeaks song | transcodeToHLS =>
      cases answer with
      | threw =>
          cases performed
          exact .quiet _ _
      | done =>
          cases readsFile_some performed
          exact .quiet _ _
      | measured | pinned => cases performed
  | saveLoudness song =>
      cases answer with
      | threw =>
          cases performed
          exact .quiet _ _
      | done =>
          cases performed
          exact .loudness song
      | measured | pinned => cases performed
  | saveWaveform song =>
      cases answer with
      | threw =>
          cases performed
          exact .quiet _ _
      | done =>
          cases performed
          exact .waveform song
      | measured | pinned => cases performed
  | uploadHLSToS3 remaining =>
      cases remaining with
      | nil =>
          cases answer with
          | threw | done =>
              cases performed
              exact .quiet _ _
          | measured | pinned => cases performed
      | cons name remaining =>
          cases answer with
          | threw =>
              cases performed
              exact .quiet _ _
          | done =>
              cases performed
              exact .file name remaining
          | measured | pinned => cases performed
  | logEntry metadataCid =>
      cases answer with
      | threw | done | measured | pinned =>
          cases performed
          exact .quiet _ _
  | ended => cases performed

def nextAttempt (payload : SongPayload) : Option SongPayload :=
  let attempt := payload.attempt.getD 1 + 1
  if maxAttempts ≤ attempt then none else some { payload with attempt := some attempt }

theorem nextAttempt_songId {payload again : SongPayload}
    (attempted : nextAttempt payload = some again) : again.songId = payload.songId := by
  obtain ⟨_, same⟩ := Option.ite_none_left_eq_some.mp attempted
  cases same
  rfl

/-- A job that has failed goes to the end of the queue; the main queue has no dead
letters. -/
def handleFailure (state : ProcessingState) (payload : SongPayload) : ProcessingState :=
  match nextAttempt payload with
  | none => state
  | some again => state.enqueue { payload := again, expires := true }

/-! ### Runs among the services -/

inductive ProcessingLabel
  | finalizeUpload (upload : UploadOptions) (drawn : String) (outcome : MergeOutcome)
      (recorded : Bool)
  | finalizeReupload (songId fileId artistId : String) (changes : VersionInput)
      (outcome : MergeOutcome)
  | rollbackVersion (songId : String) (targetVersionNumber : Option Int) (artistId : String)
      (changeNote : Option String)
  | retryFailedSong (songId : String)
  | connects
  | disconnects
  | deliver (index : Nat)
  | expire (index : Nat)
  | work (index : Nat) (answer : WorkerAnswer)
  /-- A channel is lost, and the process of the run with it or not. -/
  | redeliver (index : Nat) (stops : Bool)

namespace ProcessingState

def withRun (state : ProcessingState) (index : Nat) (run : WorkerRun) : ProcessingState :=
  { state with runs := state.runs.set index run }

/-- The job at a place leaves the queue. -/
def taken (state : ProcessingState) (index : Nat) : ProcessingState :=
  { state with queue := state.queue.eraseIdx index }

def delivered (state : ProcessingState) (index : Nat) (job : QueuedJob) : ProcessingState :=
  match parsePayload job.payload with
  | none => state.taken index
  | some payload =>
      { state.taken index with
        runs := state.runs ++ [{ payload := payload, next := .findSong, holds := true }] }

def worked (state : ProcessingState) (index : Nat) (run : WorkerRun) (outcome : WorkerOutcome) :
    ProcessingState :=
  match outcome with
  | .next call => state.withRun index { run with next := call }
  | .processed => state.withRun index { run with next := .ended, holds := false }
  | .failed =>
      (if run.holds then handleFailure state run.payload else state).withRun index
        { run with next := .ended, holds := false }

theorem worked_eq (state : ProcessingState) (index : Nat) (run : WorkerRun)
    (outcome : WorkerOutcome) : ∃ queue runs,
      state.worked index run outcome = { state with queue := queue, runs := runs } := by
  cases outcome with
  | next | processed => exact ⟨state.queue, _, rfl⟩
  | failed =>
      unfold worked handleFailure
      dsimp only
      split
      · split
        · exact ⟨state.queue, _, rfl⟩
        · exact ⟨_, _, rfl⟩
      · exact ⟨state.queue, _, rfl⟩

/-- The broker takes the message of a run back. -/
def redelivered (state : ProcessingState) (index : Nat) (run : WorkerRun) (stops : Bool) :
    ProcessingState :=
  (state.enqueue { payload := run.payload, expires := false }).withRun index
    { run with next := if stops then .ended else run.next, holds := false }

end ProcessingState

def processingStep (media : MediaStore) (state : ProcessingState) :
    ProcessingLabel → Option ProcessingState
  | .finalizeUpload upload drawn outcome recorded =>
      if drawn ∈ state.table.songs.map Song.id then none
      else some (finalizeUpload media state upload drawn outcome recorded).1
  | .finalizeReupload songId fileId artistId changes outcome =>
      some (finalizeReupload media state songId fileId artistId changes outcome).1
  | .rollbackVersion songId targetVersionNumber artistId changeNote =>
      some { state with
        table := (rollbackVersion state.table songId targetVersionNumber artistId changeNote).1 }
  | .retryFailedSong songId => some (retryFailedSong state songId).1
  | .connects => some { state with connected := true }
  | .disconnects => some { state with connected := false }
  | .deliver index => state.queue[index]?.map fun job => state.delivered index job
  | .expire index =>
      state.queue[index]?.bind fun job => if job.expires then some (state.taken index) else none
  | .work index answer =>
      state.runs[index]?.bind fun run =>
        (performWork media state run.payload run.next answer).map fun answered =>
          answered.1.worked index run answered.2
  | .redeliver index stops =>
      state.runs[index]?.bind fun run =>
        if run.holds then some (state.redelivered index run stops) else none

def processingMachine (media : MediaStore) : Machine ProcessingState ProcessingLabel where
  initial _ := True
  step := processingStep media

end AudioBlock.Processing
