/-
AI generation requests, and the handlers of their jobs, one awaited call at a time.

A request creates its record and enters `enqueue` in one step.  A worker that handles an
AI job is at the call that its handler awaits next; `progress` keeps it by the worker's
activity.  Songs belong to other services, so a lookup answers any song; what a request
does before it saves its record leaves nothing here.  Records are not deleted.

`outcomes` and `published` are history: the statuses that handlers saved and the records
that `ai.generation.completed` was published for.  Timestamps and cost estimates are left
out.
-/
import AudioBlock.Jobs.JobIdentity
import AudioBlock.Jobs.JobDurability
import AudioBlock.Foundation.Rows
import AudioBlock.Foundation.Text
import AudioBlock.Songs.Song

namespace AudioBlock.Generation

open AudioBlock.Foundation AudioBlock.Jobs
open AudioBlock.Songs (AppError truthy)

inductive AiGenerationFeature
  | coverArt
  | descriptions
  | lyricsTranscription
  | playlistCoverArt
  deriving DecidableEq

/-- A feature without an entry has the job type `undefined`. -/
def aiJobType : AiGenerationFeature → String
  | .coverArt => "ai.generate_cover_art"
  | .descriptions => "ai.generate_description"
  | .lyricsTranscription => "ai.transcribe_lyrics"
  | .playlistCoverArt => "undefined"

/-- The environment variable of a feature's flag; one without an entry reads `undefined`. -/
def featureEnvVar : AiGenerationFeature → String
  | .coverArt => "AI_FEATURE_COVER_ART_ENABLED"
  | .descriptions => "AI_FEATURE_DESCRIPTIONS_ENABLED"
  | .lyricsTranscription => "AI_FEATURE_LYRICS_TRANSCRIPTION_ENABLED"
  | .playlistCoverArt => "undefined"

def AiGenerationFeature.name : AiGenerationFeature → String
  | .coverArt => "coverArt"
  | .descriptions => "descriptions"
  | .lyricsTranscription => "lyricsTranscription"
  | .playlistCoverArt => "playlistCoverArt"

def isAiFeatureEnabled (env : String → Option String) (feature : AiGenerationFeature) : Bool :=
  ((env (featureEnvVar feature)).getD "").toLower = "true"

/-- The feature whose handler `registerAiJobHandlers` registers for a job type. -/
def handledFeature (type : String) : Option AiGenerationFeature :=
  if type = aiJobType .coverArt then some .coverArt
  else if type = aiJobType .descriptions then some .descriptions
  else if type = aiJobType .lyricsTranscription then some .lyricsTranscription
  else none

/-- The columns of a song that a generation reads. -/
structure AiSong where
  id : String
  artistId : String
  s3OriginalUrl : Option String
  hlsMasterUrl : Option String
  lyricsRightsConfirmed : Bool
  lyricsRightsConfirmedBy : Option String

inductive RecordStatus
  | pending
  | completed
  | failed
  deriving DecidableEq

structure AiGenerationRecord where
  id : String
  songId : String
  userId : String
  feature : AiGenerationFeature
  status : RecordStatus
  provider : Option String
  resultText : Option String
  resultUrl : Option String
  errorMessage : Option String
  deriving DecidableEq

/-! ### A request -/

def businessLogic (message code : String) : AppError := ⟨message, some 400, some code⟩

def confirmLyricsRights (song : AiSong) (rightsConfirmed : Bool) : Except AppError Unit :=
  if rightsConfirmed = false then
    .error (.validation
      "You must confirm you hold the rights to these lyrics before transcription can run"
      "LYRICS_RIGHTS_NOT_CONFIRMED")
  else if truthy song.s3OriginalUrl = none ∧ truthy song.hlsMasterUrl = none then
    .error (businessLogic "Song audio is not available for transcription yet"
      "SONG_AUDIO_NOT_READY")
  else .ok ()

/-- The checks of `requestGeneration`, on the song that its lookup found. -/
def checkRequest (env : String → Option String) (feature : AiGenerationFeature)
    (song : Option AiSong) (userId : String) (rightsConfirmed : Bool) : Except AppError AiSong :=
  if isAiFeatureEnabled env feature = false then
    .error (businessLogic ("The \"" ++ feature.name ++ "\" AI feature is not enabled")
      "AI_FEATURE_DISABLED")
  else
    match song with
    | none => .error (.notFound "Song not found" "SONG_NOT_FOUND")
    | some song =>
        if song.artistId ≠ userId then
          .error (.authorization "You can only request AI generation for your own songs"
            "NOT_SONG_OWNER")
        else if feature = .lyricsTranscription then
          (confirmLyricsRights song rightsConfirmed).map fun _ => song
        else .ok song

def pendingRecord (id songId userId : String) (feature : AiGenerationFeature) :
    AiGenerationRecord :=
  { id, songId, userId, feature, status := .pending, provider := none, resultText := none
    resultUrl := none, errorMessage := none }

/-! ### A handler -/

/-- The call that a handler awaits next.  Where `markFailed` or a publication is over, the
handler throws what `rethrow` holds, or returns. -/
inductive HandlerCall
  | findRecord
  | findSong (record : AiGenerationRecord)
  | callProvider (record : AiGenerationRecord)
  | saveSong (record : AiGenerationRecord)
  | saveCompleted (record : AiGenerationRecord)
  | findFailed (message : String) (rethrow : Option String)
  | saveFailed (record : AiGenerationRecord) (rethrow : Option String)
  | publish (record : AiGenerationRecord) (rethrow : Option String)
  deriving DecidableEq

/-- What the provider answers; each feature reads its own field. -/
structure ProviderResult where
  imageUrl : String
  description : String
  lyrics : String

inductive HandlerAnswer
  | done
  | song (found : Option AiSong)
  | generated (result : ProviderResult)
  | fails (error : String)

inductive HandlerNext
  | goes (call : HandlerCall)
  | ends (outcome : Option String)

/-- The `catch` of `handle`: `markFailed` once no attempts are left. -/
def caught (job : Job) (error : String) : HandlerNext :=
  if job.maxAttempts ≤ job.attempts then .goes (.findFailed error (some error))
  else .ends (some error)

def completedRecord (record : AiGenerationRecord) (provider : String)
    (resultText resultUrl : Option String) : AiGenerationRecord :=
  { record with status := .completed, provider := some provider, resultText, resultUrl }

def failedRecord (record : AiGenerationRecord) (errorMessage : String) : AiGenerationRecord :=
  { record with status := .failed, errorMessage := some errorMessage }

/-- `transcribeLyrics` up to its call of the provider. -/
def beginTranscription (job : Job) (record : AiGenerationRecord) (song : AiSong) : HandlerNext :=
  if song.lyricsRightsConfirmed = false ∨ song.lyricsRightsConfirmedBy ≠ some record.userId then
    .goes (.findFailed "Lyric rights were not confirmed for this song" none)
  else if (truthy song.s3OriginalUrl).or (truthy song.hlsMasterUrl) = none then
    caught job ("Song " ++ song.id ++ " has no audio to transcribe")
  else .goes (.callProvider record)

def afterProvider (feature : AiGenerationFeature) (providerName : String)
    (record : AiGenerationRecord) (result : ProviderResult) : HandlerNext :=
  match feature with
  | .coverArt | .playlistCoverArt =>
      .goes (.saveCompleted (completedRecord record providerName none (some result.imageUrl)))
  | .descriptions =>
      .goes (.saveCompleted (completedRecord record providerName (some result.description) none))
  | .lyricsTranscription =>
      if trim result.lyrics.toList = [] then
        .goes (.findFailed ("Provider \"" ++ providerName ++ "\" returned no transcription") none)
      else .goes (.saveSong record)

/-- The records, and what a call does to them. -/
structure GenerationTable where
  records : List AiGenerationRecord
  outcomes : List (String × RecordStatus)
  published : List String

namespace GenerationTable

def save (table : GenerationTable) (record : AiGenerationRecord) : GenerationTable :=
  { table with
    records := storeRow AiGenerationRecord.id record table.records
    outcomes := table.outcomes ++ [(record.id, record.status)] }

def publish (table : GenerationTable) (record : AiGenerationRecord) : GenerationTable :=
  { table with published := table.published ++ [record.id] }

def find (table : GenerationTable) (id : String) : Option AiGenerationRecord :=
  findRow AiGenerationRecord.id id table.records

end GenerationTable

/-- The answer to the call that a handler awaits.  `emitWebhook` catches its errors, and an
error of the last `markFailed` takes the place of the handler's own. -/
def answerCall (feature : AiGenerationFeature) (providerName : String) (job : Job)
    (table : GenerationTable) : HandlerCall → HandlerAnswer → Option (GenerationTable × HandlerNext)
  | .findRecord, .done =>
      match table.find job.payload with
      | none => some (table, .ends none)
      | some record => some (table, .goes (.findSong record))
  | .findSong record, .song none =>
      some (table, caught job ("Song " ++ record.songId ++ " no longer exists"))
  | .findSong record, .song (some song) =>
      if feature = .lyricsTranscription then some (table, beginTranscription job record song)
      else some (table, .goes (.callProvider record))
  | .callProvider record, .generated result =>
      some (table, afterProvider feature providerName record result)
  | .saveSong record, .done =>
      some (table, .goes (.saveCompleted (completedRecord record providerName none none)))
  | .saveCompleted record, .done => some (table.save record, .goes (.publish record none))
  | .findFailed message rethrow, .done =>
      match table.find job.payload with
      | none => some (table, .ends rethrow)
      | some record => some (table, .goes (.saveFailed (failedRecord record message) rethrow))
  | .saveFailed record rethrow, .done => some (table.save record, .goes (.publish record rethrow))
  | .publish record rethrow, .done => some (table.publish record, .ends rethrow)
  | .publish _ rethrow, .fails _ => some (table, .ends rethrow)
  | .findFailed _ (some _), .fails error => some (table, .ends (some error))
  | .saveFailed _ (some _), .fails error => some (table, .ends (some error))
  | _, .fails error => some (table, caught job error)
  | _, _ => none

/-! ### The machine -/

structure GenerationState where
  queue : QueueState
  table : GenerationTable
  progress : Nat → HandlerCall

namespace GenerationState

def setProgress (state : GenerationState) (index : Nat) (call : HandlerCall) : GenerationState :=
  { state with
    progress := fun other => if other = index then call else state.progress other }

def proceed (state : GenerationState) (index : Nat) (job : Job) : HandlerNext → GenerationState
  | .goes call => state.setProgress index call
  | .ends outcome =>
      { state.setProgress index .findRecord with
        queue := state.queue.place index (afterSettle job outcome) }

end GenerationState

inductive GenerationLabel
  | request (feature : AiGenerationFeature) (song : Option AiSong) (userId : String)
      (rightsConfirmed : Bool) (recordId : String)
  | handle (index : Nat) (answer : HandlerAnswer)
  | queue (label : QueueLabel)

def aiRun (queue : QueueState) (index : Nat) : Option (Job × AiGenerationFeature) :=
  match queue.activities[index]? with
  | some (.handling job) => (handledFeature job.type).map fun feature => (job, feature)
  | _ => none

def queueLabelStep (handlers : String → Bool) (state : GenerationState) (label : QueueLabel) :
    Option GenerationState :=
  match label with
  | .enqueue type _ _ =>
      if (handledFeature type).isSome then none
      else (queueStep handlers state.queue label).map fun queue => { state with queue }
  | .settle index _ =>
      if (aiRun state.queue index).isSome then none
      else (queueStep handlers state.queue label).map fun queue => { state with queue }
  | .crash index =>
      (queueStep handlers state.queue label).map fun queue =>
        { state.setProgress index .findRecord with queue }
  | _ => (queueStep handlers state.queue label).map fun queue => { state with queue }

structure GenerationConfig where
  env : String → Option String
  providerName : String
  /-- The types of the handlers that other code registers. -/
  others : String → Bool

def GenerationConfig.handlers (config : GenerationConfig) (type : String) : Bool :=
  (handledFeature type).isSome || config.others type

/-- `enqueue` with the record as the payload. -/
def enqueueRecord (queue : QueueState) (feature : AiGenerationFeature) (recordId : String) :
    QueueState :=
  let job := newJob queue (aiJobType feature) recordId { priority := some .low }
  ((queue.create job).setLatest job.id .pending).spawn (.enqueueSave job)

def generationStep (config : GenerationConfig) (state : GenerationState) :
    GenerationLabel → Option GenerationState
  | .request feature song userId rightsConfirmed recordId =>
      match checkRequest config.env feature song userId rightsConfirmed with
      | .error _ => some state
      | .ok song =>
          if recordId ∈ state.table.records.map AiGenerationRecord.id then none
          else
            let record := pendingRecord recordId song.id userId feature
            some { state with
              table := { state.table with records := state.table.records ++ [record] }
              queue := enqueueRecord state.queue feature recordId }
  | .handle index answer =>
      match aiRun state.queue index with
      | none => none
      | some (job, feature) =>
          match answerCall feature config.providerName job state.table (state.progress index)
              answer with
          | none => none
          | some (table, next) => some ({ state with table }.proceed index job next)
  | .queue label => queueLabelStep config.handlers state label

def noGenerations : GenerationState :=
  { queue := emptyQueue, table := ⟨[], [], []⟩, progress := fun _ => .findRecord }

def generationMachine (config : GenerationConfig) : Machine GenerationState GenerationLabel where
  initial state := state = noGenerations
  step := generationStep config

end AudioBlock.Generation
