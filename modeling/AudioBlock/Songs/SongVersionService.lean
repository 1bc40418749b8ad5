/-
Versions of a song: re-uploads and rollbacks.

Both append a version with the next number, after demoting the active ones, and
point the row of the song at it.  A column that is `null` reads back as `null`,
so every property of a version that is loaded or copied from the song is defined.
The ids of the version rows and their error texts are left out.
-/
import AudioBlock.Foundation.Rows
import AudioBlock.Songs.Song

namespace AudioBlock.Songs

open AudioBlock.Foundation

structure SongVersion where
  songId : String
  versionNumber : Nat
  isActive : Bool
  title : Option String
  description : Option String
  genre : Option String
  composers : Option String
  coverArtPath : Option String
  s3OriginalUrl : Option String
  hlsMasterUrl : Option String
  ipfsCid : Option String
  metadataCid : Option String
  duration : Option Int
  loudness : Option Rat
  status : SongStatus
  changeNote : Option String
  createdBy : String
  deriving DecidableEq

/-- The fields of a re-upload; `null` counts as absent. -/
structure VersionInput where
  title : Option String
  description : Option String
  genre : Option String
  composers : Option String
  coverArtPath : Option String
  s3OriginalUrl : Option String
  ipfsCid : Option String
  changeNote : Option String
  createdBy : Option String
  deriving DecidableEq

/-! ### The rows of the versions -/

def versionsOf (versions : List SongVersion) (songId : String) : List SongVersion :=
  versions.filter fun version => decide (version.songId = songId)

def getLatestVersionNumber (versions : List SongVersion) (songId : String) : Nat :=
  (versionsOf versions songId).foldl (fun latest version => max latest version.versionNumber) 0

/-- `update({ songId, isActive: true }, { isActive: false })`. -/
def demoteVersions (versions : List SongVersion) (songId : String) : List SongVersion :=
  versions.map fun version =>
    if version.songId = songId then { version with isActive := false } else version

def findVersion (versions : List SongVersion) (songId : String) (versionNumber : Nat) :
    Option SongVersion :=
  (versionsOf versions songId).find? fun version => decide (version.versionNumber = versionNumber)

def insertVersion (versions : List SongVersion) (version : SongVersion) :
    Option (List SongVersion) :=
  if findVersion versions version.songId version.versionNumber = none then
    some (versions ++ [version])
  else none

def initialVersion (song : Song) (createdBy : String) : SongVersion :=
  { songId := song.id
    versionNumber := 1
    isActive := true
    title := some song.title
    description := song.description
    genre := song.genre
    composers := song.composers
    coverArtPath := some song.coverArtPath
    s3OriginalUrl := song.s3OriginalUrl
    hlsMasterUrl := song.hlsMasterUrl
    ipfsCid := song.ipfsCid
    metadataCid := song.metadataCid
    duration := song.duration
    loudness := song.loudness
    status := song.status
    changeNote := some "Initial upload"
    createdBy := createdBy }

def reuploadVersion (songId : String) (song : Song) (artistId : String) (input : VersionInput)
    (nextNumber : Nat) : SongVersion :=
  { songId := songId
    versionNumber := nextNumber
    isActive := true
    title := some (input.title.getD song.title)
    description := input.description.or song.description
    genre := input.genre.or song.genre
    composers := input.composers.or song.composers
    coverArtPath := some (input.coverArtPath.getD song.coverArtPath)
    s3OriginalUrl := input.s3OriginalUrl
    hlsMasterUrl := none
    ipfsCid := input.ipfsCid
    metadataCid := none
    duration := none
    loudness := none
    status := .processing
    changeNote := input.changeNote
    createdBy := input.createdBy.getD artistId }

def rollbackNote (versionNumber : Nat) : String :=
  "Rolled back to version " ++ toString versionNumber

def rolledBackVersion (songId : String) (target : SongVersion) (artistId : String)
    (changeNote : Option String) (nextNumber : Nat) : SongVersion :=
  { target with
    songId := songId
    versionNumber := nextNumber
    isActive := true
    changeNote := some (changeNote.getD (rollbackNote target.versionNumber))
    createdBy := artistId }

/-! ### The row of the song -/

def Song.pointAtReupload (song : Song) (version : SongVersion) (input : VersionInput) : Song :=
  { song with
    title := version.title.getD song.title
    description := version.description
    genre := version.genre
    composers := version.composers
    coverArtPath := (truthy input.coverArtPath).getD song.coverArtPath
    s3OriginalUrl := (truthy input.s3OriginalUrl).or song.s3OriginalUrl
    ipfsCid := (truthy input.ipfsCid).or song.ipfsCid
    status := .processing
    errorReason := none }

def Song.pointAtRollback (song : Song) (version : SongVersion) : Option Song :=
  version.coverArtPath.map fun coverArtPath =>
    { song with
      title := version.title.getD song.title
      description := version.description
      genre := version.genre
      composers := version.composers
      coverArtPath := coverArtPath
      s3OriginalUrl := version.s3OriginalUrl
      hlsMasterUrl := version.hlsMasterUrl
      ipfsCid := version.ipfsCid
      metadataCid := version.metadataCid
      duration := version.duration
      loudness := version.loudness
      status := version.status
      errorReason := none }

/-! ### Whole requests -/

structure SongState where
  songs : List Song
  versions : List SongVersion
  deriving DecidableEq

def SongState.saveSong (state : SongState) (song : Song) : SongState :=
  { state with songs := saveRow Song.id song state.songs }

def rejectedWrite : AppError := .plain "QueryFailedError"

def SongState.promote (state : SongState) (songId : String) (version : Nat → SongVersion)
    (pointed : SongVersion → Option Song) : SongState × Except AppError SongVersion :=
  let next := version (getLatestVersionNumber state.versions songId + 1)
  let demoted := { state with versions := demoteVersions state.versions songId }
  match insertVersion demoted.versions next with
  | none => (demoted, .error rejectedWrite)
  | some versions =>
      match pointed next with
      | none => ({ demoted with versions := versions }, .error rejectedWrite)
      | some song => (({ demoted with versions := versions }).saveSong song, .ok next)

variable (state : SongState) (songId : String)

theorem promote_cases (version : Nat → SongVersion) (pointed : SongVersion → Option Song) :
    let demoted := demoteVersions state.versions songId
    let after := state.promote songId version pointed
    after.1 = { state with versions := demoted } ∨
      ∃ number,
        pointed (version number) = none ∧
            after.1 = { state with versions := demoted ++ [version number] } ∨
          ∃ saved, pointed (version number) = some saved ∧
            after =
              ({ songs := saveRow Song.id saved state.songs
                 versions := demoted ++ [version number] }, .ok (version number)) := by
  dsimp only
  unfold SongState.promote insertVersion
  dsimp only
  split
  · exact Or.inl rfl
  · rename_i inserted
    obtain ⟨_, same⟩ := Option.ite_none_right_eq_some.mp inserted
    cases same
    refine Or.inr ⟨getLatestVersionNumber state.versions songId + 1, ?_⟩
    split
    · rename_i unpointed
      exact Or.inl ⟨unpointed, rfl⟩
    · rename_i saved written
      exact Or.inr ⟨saved, written, rfl⟩

theorem promote_songs (version : Nat → SongVersion) (pointed : SongVersion → Option Song) :
    (state.promote songId version pointed).1.songs = state.songs ∨
      ∃ number saved, pointed (version number) = some saved ∧
        (state.promote songId version pointed).1.songs = saveRow Song.id saved state.songs := by
  rcases promote_cases state songId version pointed with
    same | ⟨number, ⟨_, same⟩ | ⟨saved, written, same⟩⟩
  · exact Or.inl (by rw [same])
  · exact Or.inl (by rw [same])
  · exact Or.inr ⟨number, saved, written, by rw [same]⟩

theorem mem_demoteVersions {versions : List SongVersion} {songId : String} {version : SongVersion}
    (member : version ∈ demoteVersions versions songId) (active : version.isActive = true) :
    version ∈ versions ∧ version.songId ≠ songId := by
  obtain ⟨before, present, same⟩ := List.mem_map.mp member
  split at same
  · rw [← same] at active
    cases active
  · rename_i other
    exact same ▸ ⟨present, other⟩

/-- Songs that predate versions get their first one before a re-upload. -/
def SongState.withInitialVersion (state : SongState) (song : Song) : SongState :=
  if versionsOf state.versions song.id = [] then
    { state with versions := state.versions ++ [initialVersion song song.artistId] }
  else state

theorem withInitialVersion_songs (song : Song) :
    (state.withInitialVersion song).songs = state.songs := by
  unfold SongState.withInitialVersion
  split
  · rfl
  · rfl

theorem mem_withInitialVersion {state : SongState} {song : Song} {version : SongVersion}
    (member : version ∈ (state.withInitialVersion song).versions) :
    version ∈ state.versions ∨ version = initialVersion song song.artistId := by
  unfold SongState.withInitialVersion at member
  split at member
  · exact (List.mem_append.mp member).imp_right List.mem_singleton.mp
  · exact Or.inl member

def createVersionFromReupload (state : SongState) (songId artistId : String)
    (input : VersionInput) : SongState × Except AppError SongVersion :=
  match findRow Song.id songId state.songs with
  | none => (state, .error (.notFound "Song not found" "SONG_NOT_FOUND"))
  | some song =>
      if song.artistId ≠ artistId then
        (state, .error (.authorization "Not authorized to re-upload this song" "NOT_SONG_OWNER"))
      else
        (state.withInitialVersion song).promote songId (reuploadVersion songId song artistId input)
          fun version => some (song.pointAtReupload version input)

/-- `getVersion`, with `none` for a number that is not an integer. -/
def getVersion (state : SongState) (songId : String) (versionNumber : Option Int) :
    Except AppError SongVersion :=
  match versionNumber with
  | none => .error (.validation "version must be a positive integer" "INVALID_VERSION")
  | some number =>
      if number < 1 then .error (.validation "version must be a positive integer" "INVALID_VERSION")
      else
        match findVersion state.versions songId number.toNat with
        | none =>
            .error (.notFound ("Version " ++ toString number ++ " not found for this song")
              "VERSION_NOT_FOUND")
        | some version => .ok version

def rollbackVersion (state : SongState) (songId : String) (targetVersionNumber : Option Int)
    (artistId : String) (changeNote : Option String) : SongState × Except AppError SongVersion :=
  match findRow Song.id songId state.songs with
  | none => (state, .error (.notFound "Song not found" "SONG_NOT_FOUND"))
  | some song =>
      if song.artistId ≠ artistId then
        (state, .error (.authorization "Not authorized to roll back this song" "NOT_SONG_OWNER"))
      else
        match getVersion state songId targetVersionNumber with
        | .error failure => (state, .error failure)
        | .ok target =>
            state.promote songId (rolledBackVersion songId target artistId changeNote)
              song.pointAtRollback

theorem createVersionFromReupload_cases (artistId : String) (input : VersionInput) :
    let created := createVersionFromReupload state songId artistId input
    created.1.songs = state.songs ∨
      ∃ song version saved, findRow Song.id songId state.songs = some song ∧
        song.artistId = artistId ∧ saved.id = songId ∧
          created.1.songs = saveRow Song.id saved state.songs ∧ created.2 = .ok version := by
  dsimp only
  unfold createVersionFromReupload
  split
  · exact Or.inl rfl
  · rename_i song found
    split
    · exact Or.inl rfl
    · rename_i owner
      have songs := withInitialVersion_songs state song
      rcases promote_cases (state.withInitialVersion song) songId
          (reuploadVersion songId song artistId input)
          (fun version => some (song.pointAtReupload version input)) with
        same | ⟨number, ⟨unpointed, _⟩ | ⟨saved, written, same⟩⟩
      · exact Or.inl (by rw [same, ← songs])
      · cases unpointed
      · have named : saved.id = songId := by
          rw [← Option.some.inj written]
          exact (findRow_mem found).2
        refine Or.inr ⟨song, reuploadVersion songId song artistId input number, saved, found,
          not_not.mp owner, named, ?_, ?_⟩
        · rw [same, ← songs]
        · rw [same]

theorem rollbackVersion_cases (targetVersionNumber : Option Int) (artistId : String)
    (changeNote : Option String) :
    let restored := rollbackVersion state songId targetVersionNumber artistId changeNote
    restored.1.songs = state.songs ∨
      ∃ song target saved, findRow Song.id songId state.songs = some song ∧
        song.artistId = artistId ∧ getVersion state songId targetVersionNumber = .ok target ∧
          target.coverArtPath ≠ none ∧ saved.id = songId ∧ saved.status = target.status ∧
            restored.1.songs = saveRow Song.id saved state.songs := by
  dsimp only
  unfold rollbackVersion
  split
  · exact Or.inl rfl
  · rename_i song found
    split
    · exact Or.inl rfl
    · rename_i owner
      split
      · exact Or.inl rfl
      · rename_i target chosen
        rcases promote_songs state songId (rolledBackVersion songId target artistId changeNote)
            song.pointAtRollback with same | ⟨number, saved, written, same⟩
        · exact Or.inl same
        · obtain ⟨cover, covered, isSaved⟩ := Option.map_eq_some_iff.mp written
          have present : target.coverArtPath = some cover := covered
          have named : saved.id = songId := by
            rw [← isSaved]
            exact (findRow_mem found).2
          have status : saved.status = target.status := by
            rw [← isSaved]
            rfl
          exact Or.inr ⟨song, target, saved, found, not_not.mp owner, chosen,
            present ▸ Option.some_ne_none cover, named, status, same⟩

end AudioBlock.Songs
