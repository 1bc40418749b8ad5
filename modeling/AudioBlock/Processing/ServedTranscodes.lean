/-
Whose audio a served song plays.

The worker uploads every transcode of a song under one prefix, and a rollback brings
back the URL that the older version was served at.  The files there are those of the
active version where nothing else has been uploaded over them.
-/
import AudioBlock.Processing.SongProcessorWorker
import AudioBlock.Songs.VersionWrites

namespace AudioBlock.Processing

open AudioBlock.Foundation AudioBlock.Songs

def servedUrl (status : SongStatus) (hlsMasterUrl : Option String) : Option String :=
  if status = .ready then truthy hlsMasterUrl else none

def served (song : Song) : Option String := servedUrl song.status song.hlsMasterUrl

def OwnTranscode (media : MediaStore) (storage : List StoredFile) (url : String)
    (version : SongVersion) : Prop :=
  ∃ original ∈ version.s3OriginalUrl, ∀ name ∈ media.renditions original,
    ∃ file ∈ findRow StoredFile.key (url, name) storage, file.original = original

instance (media : MediaStore) (storage : List StoredFile) (url : String) (version : SongVersion) :
    Decidable (OwnTranscode media storage url version) :=
  inferInstanceAs (Decidable (∃ original ∈ version.s3OriginalUrl, _))

def ServedRight (media : MediaStore) (state : ProcessingState) : Prop :=
  ∀ song ∈ state.table.songs, ∀ url ∈ served song, ∀ version ∈ state.table.versions,
    version.songId = song.id → version.isActive = true →
      OwnTranscode media state.storage url version

instance (media : MediaStore) (state : ProcessingState) : Decidable (ServedRight media state) :=
  inferInstanceAs (Decidable (∀ song ∈ state.table.songs, ∀ url ∈ served song, _))

/-! ### The condition -/

def UploadsOwn (media : MediaStore) (state : ProcessingState) (payload : SongPayload) : Prop :=
  ∀ song ∈ state.table.songs, ∀ url ∈ served song, url = media.masterUrl payload.songId →
    ∀ version ∈ state.table.versions, version.songId = song.id → version.isActive = true →
      version.s3OriginalUrl = some (media.location payload.fileId)

instance (media : MediaStore) (state : ProcessingState) (payload : SongPayload) :
    Decidable (UploadsOwn media state payload) :=
  inferInstanceAs (Decidable (∀ song ∈ state.table.songs, ∀ url ∈ served song, _))

def ServesAlready (state : ProcessingState) (copy : Song) : Prop :=
  ∀ url ∈ served copy, ∃ song ∈ state.row copy.id, served song = some url

instance (state : ProcessingState) (copy : Song) : Decidable (ServesAlready state copy) :=
  inferInstanceAs (Decidable (∀ url ∈ served copy, _))

def RestoresOwn (media : MediaStore) (state : ProcessingState) (songId artistId : String)
    (target : SongVersion) : Prop :=
  ∀ song ∈ state.row songId, song.artistId = artistId →
    (∀ url ∈ servedUrl target.status target.hlsMasterUrl,
      OwnTranscode media state.storage url target) ∧
    (target.coverArtPath = none →
      ∀ other ∈ state.table.songs, other.id = songId → served other = none)

instance (media : MediaStore) (state : ProcessingState) (songId artistId : String)
    (target : SongVersion) : Decidable (RestoresOwn media state songId artistId target) :=
  inferInstanceAs (Decidable (∀ song ∈ state.row songId, _))

def WorkKeeps (media : MediaStore) (state : ProcessingState) (payload : SongPayload) :
    WorkerCall → WorkerAnswer → Prop
  | .uploadHLSToS3 (_ :: _), .done => UploadsOwn media state payload
  | .saveLoudness copy, .done | .saveWaveform copy, .done => ServesAlready state copy
  | _, _ => True

instance (media : MediaStore) (state : ProcessingState) (payload : SongPayload)
    (call : WorkerCall) (answer : WorkerAnswer) :
    Decidable (WorkKeeps media state payload call answer) :=
  match call, answer with
  | .uploadHLSToS3 (_ :: _), .done => inferInstanceAs (Decidable (UploadsOwn media state payload))
  | .saveLoudness copy, .done | .saveWaveform copy, .done =>
      inferInstanceAs (Decidable (ServesAlready state copy))
  | .uploadHLSToS3 [], _ | .uploadHLSToS3 (_ :: _), .threw | .uploadHLSToS3 (_ :: _), .measured _
  | .uploadHLSToS3 (_ :: _), .pinned _ | .saveLoudness _, .threw | .saveLoudness _, .measured _
  | .saveLoudness _, .pinned _ | .saveWaveform _, .threw | .saveWaveform _, .measured _
  | .saveWaveform _, .pinned _ | .findSong, _ | .analyzeLoudness _, _ | .generateWaveformPeaks _, _
  | .transcodeToHLS, _ | .downloadCover, _ | .pinCover, _ | .pinMetadata, _ | .logEntry _, _
  | .ended, _ => isTrue trivial

def KeepsTranscodes (media : MediaStore) (state : ProcessingState) : ProcessingLabel → Prop
  | .work index answer =>
      ∀ run ∈ state.runs[index]?, WorkKeeps media state run.payload run.next answer
  | .rollbackVersion songId targetVersionNumber artistId _ =>
      ∀ target ∈ (getVersion state.table songId targetVersionNumber).toOption,
        RestoresOwn media state songId artistId target
  | _ => True

instance (media : MediaStore) (state : ProcessingState) :
    DecidablePred (KeepsTranscodes media state)
  | .work index _ => inferInstanceAs (Decidable (∀ run ∈ state.runs[index]?, _))
  | .rollbackVersion songId targetVersionNumber _ _ =>
      inferInstanceAs
        (Decidable (∀ target ∈ (getVersion state.table songId targetVersionNumber).toOption, _))
  | .finalizeUpload .. | .finalizeReupload .. | .retryFailedSong _ | .connects | .disconnects
  | .deliver _ | .expire _ | .redeliver .. => isTrue trivial

/-! ### One step -/

section Step

variable {media : MediaStore} {state : ProcessingState}

theorem ServedRight.congr (right : ServedRight media state) {other : ProcessingState}
    (table : other.table = state.table) (storage : other.storage = state.storage) :
    ServedRight media other := by
  unfold ServedRight
  rw [table, storage]
  exact right

theorem ServedRight.storeSong (right : ServedRight media state) {song : Song}
    (already : ServesAlready state song) : ServedRight media (state.storeSong song) := by
  intro other member url shown version stored own active
  rcases mem_storeRow member with rfl | before
  · obtain ⟨row, found, same⟩ := already url shown
    obtain ⟨present, named⟩ := findRow_mem found
    exact right row present url same version stored (own.trans named.symm) active
  · exact right other before url shown version stored own active

theorem servesAlready_unserved {song : Song} (unserved : served song = none) :
    ServesAlready state song := by
  intro url shown
  rw [unserved] at shown
  cases shown

theorem ServedRight.putFile (right : ServedRight media state) {payload : SongPayload}
    (own : UploadsOwn media state payload) (name : String) :
    ServedRight media (state.putFile
      { masterUrl := media.masterUrl payload.songId
        name := name
        original := media.location payload.fileId }) := by
  intro song member url shown version stored ofSong active
  obtain ⟨original, isOriginal, files⟩ := right song member url shown version stored ofSong active
  refine ⟨original, isOriginal, fun wanted needed => ?_⟩
  by_cases replaced : (url, wanted) = (media.masterUrl payload.songId, name)
  · have sameOriginal := own song member url shown (congrArg Prod.fst replaced) version stored ofSong active
    refine ⟨⟨media.masterUrl payload.songId, name, media.location payload.fileId⟩, ?_,
      Option.some.inj (sameOriginal.symm.trans isOriginal)⟩
    rw [replaced]
    exact findRow_storeRow (⟨_, name, _⟩ : StoredFile) state.storage
  · obtain ⟨file, found, same⟩ := files wanted needed
    exact ⟨file, (findRow_storeRow_other state.storage replaced).trans found, same⟩

theorem servedRight_promote {table : SongState} {songId : String} {version : Nat → SongVersion}
    {pointed : SongVersion → Option Song}
    (elsewhere : ∀ song ∈ table.songs, ∀ url ∈ served song, ∀ version ∈ table.versions,
      version.songId = song.id → version.songId ≠ songId → version.isActive = true →
        OwnTranscode media state.storage url version)
    (ofSong : ∀ number, (version number).songId = songId)
    (own : ∀ number saved, pointed (version number) = some saved → saved.id = songId ∧
      ∀ url ∈ served saved, OwnTranscode media state.storage url (version number))
    (unpointed : ∀ number, pointed (version number) = none →
      ∀ song ∈ table.songs, song.id = songId → served song = none) :
    ServedRight media { state with table := (table.promote songId version pointed).1 } := by
  intro song member url shown other stored ofRow active
  have kept (demoted : other ∈ demoteVersions table.versions songId)
      (present : song ∈ table.songs) : OwnTranscode media state.storage url other := by
    obtain ⟨before, different⟩ := mem_demoteVersions demoted active
    exact elsewhere song present url shown other before ofRow different active
  rcases promote_cases table songId version pointed with
    same | ⟨number, ⟨refused, same⟩ | ⟨saved, written, same⟩⟩
  · rw [same] at member stored
    exact kept stored member
  · rw [same] at member stored
    rcases List.mem_append.mp stored with demoted | new
    · exact kept demoted member
    · cases List.mem_singleton.mp new
      rw [unpointed number refused song member (ofRow.symm.trans (ofSong number))] at shown
      cases shown
  · rw [same] at member stored
    obtain ⟨named, ownTranscode⟩ := own number saved written
    rcases mem_saveRow member with rfl | ⟨present, different⟩
    · rcases List.mem_append.mp stored with demoted | new
      · exact absurd (ofRow.trans named) (mem_demoteVersions demoted active).2
      · cases List.mem_singleton.mp new
        exact ownTranscode url shown
    · rcases List.mem_append.mp stored with demoted | new
      · exact kept demoted present
      · cases List.mem_singleton.mp new
        exact absurd (ofRow.symm.trans ((ofSong number).trans named.symm)) different

section

variable (right : ServedRight media state)
include right

theorem ServedRight.createVersion (songId artistId : String) (input : VersionInput) :
    ServedRight media
      { state with table := (createVersionFromReupload state.table songId artistId input).1 } := by
  unfold createVersionFromReupload
  split
  · exact right
  · rename_i song found
    split
    · exact right
    · have named := (findRow_mem found).2
      apply servedRight_promote
      · intro other member url shown version stored ofRow different active
        rw [withInitialVersion_songs] at member
        rcases mem_withInitialVersion stored with before | rfl
        · exact right other member url shown version before ofRow active
        · exact absurd named different
      · exact fun _ => rfl
      · rintro number saved ⟨⟩
        exact ⟨named, fun _ impossible => nomatch impossible⟩
      · exact fun _ impossible => nomatch impossible

theorem ServedRight.publish {Value : Type} (payload : SongPayload) (value : Value) :
    ServedRight media (publish state payload value).1 := by
  obtain ⟨queue, same⟩ := publish_eq state payload value
  exact right.congr (by rw [same]) (by rw [same])

theorem ServedRight.withMerged (fileId : String) (outcome : MergeOutcome) :
    ServedRight media (state.withMerged fileId outcome) := by
  obtain ⟨merged, same⟩ := withMerged_eq state fileId outcome
  exact right.congr (by rw [same]) (by rw [same])

theorem ServedRight.newSong {song : Song} (new : song.id ∉ state.table.songs.map Song.id)
    (unserved : served song = none) (recorded : Bool) :
    ServedRight media { state with
      table := recordInitialVersion { state.table with songs := state.table.songs ++ [song] } song
        recorded } := by
  intro other member url shown version stored ofRow active
  have songs : (recordInitialVersion { state.table with songs := state.table.songs ++ [song] } song
      recorded).songs = state.table.songs ++ [song] := by
    unfold recordInitialVersion
    split
    · rfl
    · rfl
  have versions : version ∈ state.table.versions ∨ version.songId = song.id := by
    unfold recordInitialVersion at stored
    split at stored
    · exact (List.mem_append.mp stored).imp_right fun initial => by
        rw [List.mem_singleton.mp initial]
        rfl
    · exact Or.inl stored
  rw [songs] at member
  rcases List.mem_append.mp member with present | single
  · rcases versions with before | initial
    · exact right other present url shown version before ofRow active
    · exact absurd (List.mem_map.mpr ⟨other, present, ofRow.symm.trans initial⟩) new
  · rw [List.mem_singleton.mp single, unserved] at shown
    cases shown

theorem ServedRight.finalizeUpload (upload : UploadOptions) {drawn : String}
    (new : drawn ∉ state.table.songs.map Song.id) (outcome : MergeOutcome) (recorded : Bool) :
    ServedRight media (finalizeUpload media state upload drawn outcome recorded).1 := by
  cases outcome with
  | threw fileLeft => exact right.withMerged upload.fileId (.threw fileLeft)
  | stored =>
      apply ServedRight.publish
      exact (right.withMerged upload.fileId .stored).newSong new rfl recorded

theorem ServedRight.finalizeReupload (songId fileId artistId : String) (changes : VersionInput)
    (outcome : MergeOutcome) :
    ServedRight media (finalizeReupload media state songId fileId artistId changes outcome).1 := by
  unfold Processing.finalizeReupload
  split
  · exact right
  · split
    · exact right
    · cases outcome with
      | threw fileLeft => exact right.withMerged fileId (.threw fileLeft)
      | stored =>
          dsimp only
          have created := (right.withMerged fileId .stored).createVersion songId artistId
            { changes with
              s3OriginalUrl := some (media.location fileId)
              createdBy := some artistId }
          split
          · exact created
          · exact created.publish _ _

theorem ServedRight.rollbackVersion (songId : String) (targetVersionNumber : Option Int)
    (artistId : String) (changeNote : Option String)
    (restores : ∀ target ∈ (getVersion state.table songId targetVersionNumber).toOption,
      RestoresOwn media state songId artistId target) :
    ServedRight media
      { state with
        table := (rollbackVersion state.table songId targetVersionNumber artistId changeNote).1 } := by
  unfold Songs.rollbackVersion
  split
  · exact right
  · rename_i song found
    split
    · exact right
    · rename_i owner
      cases chosen : getVersion state.table songId targetVersionNumber with
      | error failure => exact right
      | ok target =>
          rw [chosen] at restores
          obtain ⟨own, coverless⟩ := restores target rfl song found (not_not.mp owner)
          apply servedRight_promote
          · exact fun song member url shown version stored ofRow _ active =>
              right song member url shown version stored ofRow active
          · exact fun _ => rfl
          · intro number saved written
            obtain ⟨cover, _, rfl⟩ := Option.map_eq_some_iff.mp written
            exact ⟨(findRow_mem found).2, own⟩
          · exact fun number refused => coverless (Option.map_eq_none_iff.mp refused)

theorem ServedRight.retryFailedSong (songId : String) :
    ServedRight media (retryFailedSong state songId).1 := by
  unfold Processing.retryFailedSong
  split
  · exact right
  · split
    · exact right
    · exact (right.storeSong (servesAlready_unserved rfl)).publish _ _

theorem ServedRight.performWork {payload : SongPayload} {call : WorkerCall}
    {answer : WorkerAnswer} {answered : ProcessingState × WorkerOutcome}
    (performed : performWork media state payload call answer = some answered)
    (permitted : WorkKeeps media state payload call answer) : ServedRight media answered.1 := by
  have writes := performWork_writes performed
  generalize answered.1 = after at writes ⊢
  cases writes with
  | quiet => exact right
  | loudness song | waveform song => exact right.storeSong permitted
  | file name remaining => exact right.putFile permitted name

theorem processingStep_servedRight {label : ProcessingLabel} {after : ProcessingState}
    (permitted : KeepsTranscodes media state label)
    (moved : processingStep media state label = some after) : ServedRight media after := by
  cases label with
  | finalizeUpload upload drawn outcome recorded =>
      obtain ⟨new, same⟩ := Option.ite_none_left_eq_some.mp moved
      cases same
      exact right.finalizeUpload upload new outcome recorded
  | finalizeReupload songId fileId artistId changes outcome =>
      cases moved
      exact right.finalizeReupload songId fileId artistId changes outcome
  | rollbackVersion songId targetVersionNumber artistId changeNote =>
      cases moved
      exact right.rollbackVersion songId targetVersionNumber artistId changeNote permitted
  | retryFailedSong songId =>
      cases moved
      exact right.retryFailedSong songId
  | connects | disconnects =>
      cases moved
      exact right
  | deliver index =>
      obtain ⟨job, _, rfl⟩ := Option.map_eq_some_iff.mp moved
      unfold ProcessingState.delivered
      split
      · exact right
      · exact right
  | expire index =>
      obtain ⟨job, _, moved⟩ := Option.bind_eq_some_iff.mp moved
      obtain ⟨_, same⟩ := Option.ite_none_right_eq_some.mp moved
      cases same
      exact right
  | work index answer =>
      obtain ⟨run, present, moved⟩ := Option.bind_eq_some_iff.mp moved
      obtain ⟨answered, performed, rfl⟩ := Option.map_eq_some_iff.mp moved
      have kept := right.performWork performed (permitted run present)
      obtain ⟨queue, runs, same⟩ :=
        ProcessingState.worked_eq answered.1 index run answered.2
      exact kept.congr (by rw [same]) (by rw [same])
  | redeliver index stops =>
      obtain ⟨run, _, moved⟩ := Option.bind_eq_some_iff.mp moved
      obtain ⟨_, same⟩ := Option.ite_none_right_eq_some.mp moved
      cases same
      exact right

end

end Step

/-- In every run that starts with served songs that play their own audio, and whose steps
meet the condition, every served song plays the audio of its active version. -/
theorem processingMachine_serves_own_transcode {media : MediaStore}
    {before after : ProcessingState} {labels : List ProcessingLabel}
    (right : ServedRight media before)
    (permitted : (processingMachine media).Permits (KeepsTranscodes media) before labels)
    (ran : (processingMachine media).run before labels = some after) : ServedRight media after :=
  Machine.run_preserves (ServedRight media)
    (fun _ _ _ right permitted moved => processingStep_servedRight right permitted moved)
    labels right permitted ran

/-! A song that has been processed and served, and gets a second version. -/

def exampleMedia : MediaStore where
  location fileId := "https://media.s3.amazonaws.com/uploads/" ++ fileId ++ ".mp3"
  renditions _ := ["128/segment_000.m4s", "128/playlist.m3u8", "master.m3u8"]
  bucket := "media"

def servedSong : Song :=
  { Song.uploaded "s1" "artist" "Dawn" with
    s3OriginalUrl := some (exampleMedia.location "f1")
    hlsMasterUrl := some (exampleMedia.masterUrl "s1")
    status := .ready }

/-- The files of the transcode of an upload. -/
def transcodeOf (songId fileId : String) : List StoredFile :=
  (exampleMedia.renditions (exampleMedia.location fileId)).map fun name =>
    { masterUrl := exampleMedia.masterUrl songId
      name := name
      original := exampleMedia.location fileId }

def servedStart : ProcessingState :=
  { table := { songs := [servedSong], versions := [initialVersion servedSong "artist"] }
    merged := ["f1"]
    storage := transcodeOf "s1" "f1"
    queue := []
    runs := []
    connected := true }

def noChanges : VersionInput := ⟨none, none, none, none, none, none, none, none, none⟩

/-- A re-upload whose job is run up to its transcode. -/
def secondVersion : List ProcessingLabel :=
  [.finalizeReupload "s1" "f2" "artist" noChanges .stored, .deliver 0, .work 0 .done,
    .work 0 .threw, .work 0 .threw]

def restoredUnprocessed : List ProcessingLabel :=
  secondVersion ++ [.work 0 .threw, .rollbackVersion "s1" (some 1) "artist" none]

theorem processingMachine_serves_own_transcode_restored :
    ∃ after, (processingMachine exampleMedia).run servedStart restoredUnprocessed = some after ∧
      (after.table.songs.map served = [some (exampleMedia.masterUrl "s1")]) ∧
        ServedRight exampleMedia after := by
  have executed : ∃ after,
      (processingMachine exampleMedia).run servedStart restoredUnprocessed = some after ∧
        after.table.songs.map served = [some (exampleMedia.masterUrl "s1")] ∧
          (processingMachine exampleMedia).Permits (KeepsTranscodes exampleMedia) servedStart
            restoredUnprocessed :=
    ⟨_, rfl, by decide +kernel, by decide +kernel⟩
  obtain ⟨after, ran, shown, permitted⟩ := executed
  exact ⟨after, ran, shown, processingMachine_serves_own_transcode (by decide +kernel) permitted ran⟩

/-- The transcode of the second version is uploaded, and the first version is restored:
the song is served with the second version's audio. -/
theorem processingMachine_serves_other_transcode :
    ∃ after, (processingMachine exampleMedia).run servedStart
        (secondVersion ++ [.work 0 .done, .work 0 .done, .work 0 .done, .work 0 .done,
          .rollbackVersion "s1" (some 1) "artist" none]) = some after ∧
      ServedRight exampleMedia servedStart ∧ ¬ServedRight exampleMedia after ∧
        after.table.songs.map served = [some (exampleMedia.masterUrl "s1")] ∧
          (after.table.versions.filter SongVersion.isActive).map SongVersion.s3OriginalUrl =
            [some (exampleMedia.location "f1")] ∧
            after.storage = transcodeOf "s1" "f2" :=
  ⟨_, rfl, by decide +kernel, by decide +kernel, by decide +kernel, by decide +kernel,
    by decide +kernel⟩

end AudioBlock.Processing
