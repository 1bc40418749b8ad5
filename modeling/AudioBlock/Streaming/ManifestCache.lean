/-
Streams, the manifests that they cache, and the operations that change songs meanwhile.

Requests interleave at their awaited calls, of which each may fail.  A key of redis may
expire at any time, and the worker may replace a stored object.  A manifest remembers
how many re-uploads and rollbacks of its song had been saved when its computation loaded
the song, and `returned` which of them had returned; the code reads neither.
-/
import AudioBlock.Moderation.TakedownService
import AudioBlock.Songs.SongService
import AudioBlock.Songs.VersionRequests
import AudioBlock.Streaming.SignedManifest

namespace AudioBlock.Streaming

open AudioBlock.Foundation AudioBlock.Songs AudioBlock.Moderation

structure CachedManifest where
  text : String
  loadedAt : Nat
  deriving DecidableEq

structure RedisEntry where
  key : String
  value : CachedManifest
  deriving DecidableEq

structure StoredObject where
  key : String
  body : String
  deriving DecidableEq

inductive SongEdit
  | updateSong (data : UpdateSongInput) (requester : SongRequester)
  | deleteSong (requester : SongRequester) (now : Nat)
  | flagSong (adminId : String) (reason : Option String) (now : Nat)
  | unflagSong
  | applyAction (action : BulkModerationAction) (adminId : String) (now : Nat)

inductive SongWrite
  | save (song : Song)
  | remove (songId : String)

inductive StreamingCall
  | findStreamed
  | readCache
  | findSource
  | getObject (masterKey : String) (loadedAt : Nat)
  | storeManifest (manifest : CachedManifest)
  | version (call : VersionCall)
  /-- The cache is cleared after a re-upload or a rollback has been saved. -/
  | clearVersion (savedAt : Nat)
  | findEdited (edit : SongEdit)
  | saveEdited (write : SongWrite) (clears : Bool)
  | clearEdited
  | ended

/-- `since` lists the re-uploads and rollbacks of the song that had returned when the
request began. -/
structure StreamingRequest where
  songId : String
  streams : Bool
  since : List Nat
  next : StreamingCall

structure StreamAnswer where
  songId : String
  since : List Nat
  manifest : CachedManifest
  deriving DecidableEq

structure StreamingState where
  table : SongState
  objects : List StoredObject
  redis : List RedisEntry
  requests : List StreamingRequest
  /-- The song of each re-upload and rollback that has been saved. -/
  saves : List String
  returned : List (String × Nat)
  answers : List StreamAnswer

def manifestKey (songId : String) : String := "manifest:" ++ songId

/-- The key of `cacheSong` and `clearSong`. -/
def songKey (songId : String) : String := "song:" ++ songId

namespace StreamingState

def row (state : StreamingState) (songId : String) : Option Song :=
  findRow Song.id songId state.table.songs

/-- How many re-uploads and rollbacks of the song have been saved. -/
def saveCount (state : StreamingState) (songId : String) : Nat := state.saves.count songId

def cached (state : StreamingState) (songId : String) : Option CachedManifest :=
  (findRow RedisEntry.key (manifestKey songId) state.redis).map RedisEntry.value

def setex (state : StreamingState) (key : String) (value : CachedManifest) : StreamingState :=
  { state with redis := storeRow RedisEntry.key { key := key, value := value } state.redis }

def del (state : StreamingState) (key : String) : StreamingState :=
  { state with redis := removeRow RedisEntry.key key state.redis }

def clearSong (state : StreamingState) (songId : String) : StreamingState :=
  state.del (songKey songId)

def returns (state : StreamingState) (songId : String) (savedAt : Nat) : StreamingState :=
  { state with returned := (songId, savedAt) :: state.returned }

def answer (state : StreamingState) (request : StreamingRequest) (manifest : CachedManifest) :
    StreamingState :=
  { state with
    answers :=
      { songId := request.songId, since := request.since, manifest := manifest } :: state.answers }

/-- `save` inserts a row that has been removed meanwhile. -/
def saveSong (state : StreamingState) (song : Song) : StreamingState :=
  { state with
    table := { state.table with songs := storeRow Song.id song state.table.songs } }

def removeSong (state : StreamingState) (songId : String) : StreamingState :=
  { state with
    table :=
      { songs := removeRow Song.id songId state.table.songs
        versions := state.table.versions.filter fun version => decide (version.songId ≠ songId) } }

def write (state : StreamingState) : SongWrite → StreamingState
  | .save song => state.saveSong song
  | .remove songId => state.removeSong songId

end StreamingState

/-- The check of `streamSong` on the row that it has loaded. -/
def streamable (song : Song) : Bool :=
  song.status = .ready ∧ truthy song.hlsMasterUrl ≠ none ∧ song.flagged = false

def SongEdit.written (edit : SongEdit) (song : Song) : Except AppError SongWrite :=
  match edit with
  | .updateSong data requester => do
      assertCanModify song requester
      assertUnlocked song data
      (song.edited data).map .save
  | .deleteSong requester now => do
      assertCanModify song requester
      if song.mintStatus = .minted ∨ song.mintStatus = .pending then
        .ok (.save (song.hidden requester.id now))
      else .ok (.remove song.id)
  | .flagSong adminId reason now =>
      if song.flagged then .error (.plain "Song is already flagged")
      else .ok (.save (flaggedSong song adminId now (truthy reason)))
  | .unflagSong =>
      if song.flagged then .ok (.save (unflaggedSong song))
      else .error (.plain "Song is not flagged")
  | .applyAction action adminId now => (Moderation.applyAction song adminId now action).map .save

/-- Single flags leave the cache alone. -/
def SongEdit.clears : SongEdit → Bool
  | .flagSong _ _ _ | .unflagSong => false
  | .updateSong _ _ | .deleteSong _ _ | .applyAction _ _ _ => true

def performVersionCall (state : StreamingState) (songId : String) (call : VersionCall) :
    StreamingState × StreamingCall :=
  match call with
  | .saveSong plan version =>
      match plan.pointed version with
      | none => (state, .ended)
      | some song =>
          ({ state.saveSong song with saves := songId :: state.saves },
            .clearVersion (state.saveCount songId + 1))
  | _ =>
      let answered := performVersion state.table songId call
      ({ state with table := answered.1 },
        if answered.2 = .ended then .ended else .version answered.2)

def performStreaming (signing : ManifestSigning) (state : StreamingState)
    (request : StreamingRequest) : StreamingState × StreamingCall :=
  match request.next with
  | .findStreamed =>
      (state, if (state.row request.songId).any streamable then .readCache else .ended)
  | .readCache =>
      match (state.cached request.songId).filter fun manifest => decide (manifest.text ≠ "") with
      | some manifest => (state.answer request manifest, .ended)
      | none => (state, .findSource)
  | .findSource =>
      (state,
        match (state.row request.songId).bind fun song =>
          (truthy song.hlsMasterUrl).bind (s3KeyFromUrl signing) with
        | none => .ended
        | some masterKey => .getObject masterKey (state.saveCount request.songId))
  | .getObject masterKey loadedAt =>
      (state,
        match (findRow StoredObject.key masterKey state.objects).bind fun object =>
          rewriteManifest signing object.body request.songId with
        | none => .ended
        | some text => .storeManifest { text := text, loadedAt := loadedAt })
  | .storeManifest manifest =>
      let stored := state.setex (manifestKey request.songId) manifest
      (if request.streams then stored.answer request manifest else stored, .ended)
  | .version call => performVersionCall state request.songId call
  | .clearVersion savedAt =>
      ((state.clearSong request.songId).returns request.songId savedAt, .ended)
  | .findEdited edit =>
      (state,
        match state.row request.songId with
        | none => .ended
        | some song =>
            match edit.written song with
            | .error _ => .ended
            | .ok write => .saveEdited write edit.clears)
  | .saveEdited write clears => (state.write write, if clears then .clearEdited else .ended)
  | .clearEdited => (state.clearSong request.songId, .ended)
  | .ended => (state, .ended)

/-- A call that throws ends its request; a cache that cannot be cleared is let be. -/
def failStreaming (state : StreamingState) (request : StreamingRequest) : StreamingState :=
  match request.next with
  | .clearVersion savedAt => state.returns request.songId savedAt
  | _ => state

inductive StreamingLabel
  | streamSong (songId : String)
  | precomputeSignedManifest (songId : String)
  | version (songId : String) (task : VersionTask)
  | edit (songId : String) (edit : SongEdit)
  | step (index : Nat)
  | fails (index : Nat)
  | expire (key : String)
  | putObject (object : StoredObject)

namespace StreamingState

def returnedOf (state : StreamingState) (songId : String) : List Nat :=
  (state.returned.filter fun entry => decide (entry.1 = songId)).map Prod.snd

def begin (state : StreamingState) (songId : String) (streams : Bool) (next : StreamingCall) :
    StreamingState :=
  { state with
    requests :=
      state.requests ++
        [{ songId := songId, streams := streams, since := state.returnedOf songId, next := next }] }

def moved (state : StreamingState) (index : Nat) (request : StreamingRequest)
    (next : StreamingCall) : StreamingState :=
  { state with requests := state.requests.set index { request with next := next } }

end StreamingState

def streamingStep (signing : ManifestSigning) (state : StreamingState) :
    StreamingLabel → Option StreamingState
  | .streamSong songId => some (state.begin songId true .findStreamed)
  | .precomputeSignedManifest songId => some (state.begin songId false .findSource)
  | .version songId task => some (state.begin songId false (.version (.findSong task)))
  | .edit songId edit => some (state.begin songId false (.findEdited edit))
  | .step index =>
      state.requests[index]?.map fun request =>
        (performStreaming signing state request).1.moved index request
          (performStreaming signing state request).2
  | .fails index =>
      state.requests[index]?.map fun request =>
        (failStreaming state request).moved index request .ended
  | .expire key => some (state.del key)
  | .putObject object =>
      some { state with objects := storeRow StoredObject.key object state.objects }

/-- No request runs yet, and nothing has been cached. -/
def streamingMachine (signing : ManifestSigning) : Machine StreamingState StreamingLabel where
  initial state :=
    state.redis = [] ∧ state.requests = [] ∧ state.returned = [] ∧ state.answers = []
  step := streamingStep signing

end AudioBlock.Streaming
