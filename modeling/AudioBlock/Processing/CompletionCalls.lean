/-
Completions of the processing, beside re-uploads, rollbacks and runs of the worker.

A completion names its song only: it loads the version that is active then, assigns what the
processing of an audio file has given, and saves the version whole.  Nothing in the code calls it
yet.  A run of the worker saves the copy of the song that it has loaded.  What processing can
give for an audio file is a relation between originals and outputs.
-/
import AudioBlock.Processing.SongProcessorWorker
import AudioBlock.Songs.VersionRequests

namespace AudioBlock.Processing

open AudioBlock.Foundation AudioBlock.Songs

/-- What the processing of an original can give. -/
structure Processing where
  status : String → SongStatus → Bool
  manifest : String → String → Bool
  duration : String → Int → Bool

/-- What a completion assigns; an absent property leaves its column. -/
structure VersionUpdate where
  status : Option SongStatus
  hlsMasterUrl : Option String
  metadataCid : Option String
  duration : Option Int
  loudness : Option Rat
  deriving DecidableEq

def Processing.gives (made : Processing) (original : String) (update : VersionUpdate) : Bool :=
  update.status.all (made.status original) && update.hlsMasterUrl.all (made.manifest original) &&
    update.duration.all (made.duration original)

def VersionUpdate.assign (update : VersionUpdate) (version : SongVersion) : SongVersion :=
  { version with
    status := update.status.getD version.status
    hlsMasterUrl := update.hlsMasterUrl.or version.hlsMasterUrl
    metadataCid := update.metadataCid.or version.metadataCid
    duration := update.duration.or version.duration
    loudness := update.loudness.or version.loudness }

/-- `syncActiveVersion` at its awaited calls; a version that is saved has been loaded. -/
inductive CompletionCall
  | getActiveVersion (songId : String) (update : VersionUpdate)
  | saveActive (loaded : SongVersion) (update : VersionUpdate)
  | ended
  deriving DecidableEq

structure ProcessingRun where
  payload : SongPayload
  next : WorkerCall
  deriving DecidableEq

structure CompletionState where
  table : SongState
  requests : List VersionRequest
  runs : List ProcessingRun
  completions : List CompletionCall

inductive CompletionLabel
  | beginRequest (songId : String) (task : VersionTask)
  | request (index : Nat)
  | requestFails (index : Nat)
  | beginRun (payload : SongPayload)
  | work (index : Nat) (answer : WorkerAnswer)
  | beginCompletion (songId original : String) (update : VersionUpdate)
  | completion (index : Nat)
  | completionFails (index : Nat)

def versionKey (version : SongVersion) : String × Nat := (version.songId, version.versionNumber)

def getActiveVersion (versions : List SongVersion) (songId : String) : Option SongVersion :=
  versions.find? fun version => decide (version.songId = songId ∧ version.isActive = true)

def performCompletion (table : SongState) : CompletionCall → Option (SongState × CompletionCall)
  | .getActiveVersion songId update =>
      some (table, match getActiveVersion table.versions songId with
        | none => .ended
        | some active => .saveActive active update)
  | .saveActive loaded update =>
      some ({ table with
        versions := storeRow versionKey (update.assign loaded) table.versions }, .ended)
  | .ended => none

def failCompletion : CompletionCall → Option CompletionCall
  | .getActiveVersion _ _ | .saveActive _ _ => some .ended
  | .ended => none

def workingState (table : SongState) (payload : SongPayload) : ProcessingState :=
  { table := table
    merged := [payload.fileId]
    storage := []
    queue := []
    runs := []
    connected := true }

def WorkerOutcome.call : WorkerOutcome → WorkerCall
  | .next call => call
  | .failed | .processed => .ended

def performRun (media : MediaStore) (table : SongState) (run : ProcessingRun)
    (answer : WorkerAnswer) : Option (SongState × ProcessingRun) :=
  (performWork media (workingState table run.payload) run.payload run.next answer).map
    fun answered => (answered.1.table, { run with next := answered.2.call })

def performRequest (table : SongState) (request : VersionRequest) :
    Option (SongState × VersionRequest) :=
  if request.next = .ended then none
  else
    let answer := performVersion table request.songId request.next
    some (answer.1, { request with next := answer.2 })

def failRequest (table : SongState) (request : VersionRequest) :
    Option (SongState × VersionRequest) :=
  if request.next = .ended then none else some (table, { request with next := .ended })

def completionStep (media : MediaStore) (made : Processing) (state : CompletionState)
    (label : CompletionLabel) : Option CompletionState :=
  match label with
  | .beginRequest songId task =>
      some { state with
        requests := state.requests ++ [{ songId := songId, next := .findSong task }] }
  | .request index =>
      state.requests[index]?.bind fun request =>
        (performRequest state.table request).map fun answer =>
          { state with table := answer.1, requests := state.requests.set index answer.2 }
  | .requestFails index =>
      state.requests[index]?.bind fun request =>
        (failRequest state.table request).map fun answer =>
          { state with table := answer.1, requests := state.requests.set index answer.2 }
  | .beginRun payload =>
      some { state with runs := state.runs ++ [{ payload := payload, next := .findSong }] }
  | .work index answer =>
      state.runs[index]?.bind fun run =>
        (performRun media state.table run answer).map fun answered =>
          { state with table := answered.1, runs := state.runs.set index answered.2 }
  | .beginCompletion songId original update =>
      if made.gives original update then
        some { state with
          completions := state.completions ++ [.getActiveVersion songId update] }
      else none
  | .completion index =>
      state.completions[index]?.bind fun call =>
        (performCompletion state.table call).map fun answer =>
          { state with table := answer.1, completions := state.completions.set index answer.2 }
  | .completionFails index =>
      state.completions[index]?.bind fun call =>
        (failCompletion call).map fun next =>
          { state with completions := state.completions.set index next }

end AudioBlock.Processing
