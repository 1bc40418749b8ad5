/-
The analyses of a processing job, which write the loudness and the waveform of a song.

An analysis that fails is skipped.  Nothing that follows them in a job writes the row.
-/
import AudioBlock.Songs.ActiveVersion
import AudioBlock.Songs.SongVersionService

namespace AudioBlock.Songs

open AudioBlock.Foundation
open scoped List

section Analyses

/-- What the analyses of a job find, unless they fail. -/
structure AudioAnalysis where
  loudness : Option Rat
  waveformPeaks : Option (List Rat)

structure ProcessedSongs where
  state : SongState
  waveformPeaks : String → Option (List Rat)

def Song.analysed (song : Song) (analysis : AudioAnalysis) : Song :=
  { song with loudness := analysis.loudness.or song.loudness }

def processSongMessage (tables : ProcessedSongs) (songId : String) (analysis : AudioAnalysis) :
    ProcessedSongs :=
  match findRow Song.id songId tables.state.songs with
  | none => tables
  | some song =>
      { state := tables.state.saveSong (song.analysed analysis)
        waveformPeaks := fun id =>
          if id = songId then analysis.waveformPeaks.or (tables.waveformPeaks id)
          else tables.waveformPeaks id }

def processSongMessages (tables : ProcessedSongs) (songId : String)
    (analyses : List AudioAnalysis) : ProcessedSongs :=
  analyses.foldl (fun before analysis => processSongMessage before songId analysis) tables

def lastWaveform (before : Option (List Rat)) (analyses : List AudioAnalysis) :
    Option (List Rat) :=
  analyses.foldl (fun peaks analysis => analysis.waveformPeaks.or peaks) before

variable {tables : ProcessedSongs} {songId : String} {song : Song}

theorem processSongMessages_writes (found : findRow Song.id songId tables.state.songs = some song)
    (analyses : List AudioAnalysis) :
    (∃ loudness, findRow Song.id songId (processSongMessages tables songId analyses).state.songs =
        some { song with loudness }) ∧
      (processSongMessages tables songId analyses).state.versions = tables.state.versions ∧
      (processSongMessages tables songId analyses).waveformPeaks songId =
        lastWaveform (tables.waveformPeaks songId) analyses := by
  induction analyses generalizing tables song with
  | nil => exact ⟨⟨song.loudness, found⟩, rfl, rfl⟩
  | cons analysis rest ih =>
      have processed : processSongMessage tables songId analysis =
          { state := tables.state.saveSong (song.analysed analysis)
            waveformPeaks := fun id =>
              if id = songId then analysis.waveformPeaks.or (tables.waveformPeaks id)
              else tables.waveformPeaks id } := by
        unfold processSongMessage
        rw [found]
      have saved : findRow Song.id songId (processSongMessage tables songId analysis).state.songs =
          some (song.analysed analysis) := by
        rw [processed]
        exact findRow_saveRow_same found (song.analysed analysis) rfl
      obtain ⟨⟨loudness, row⟩, versions, peaks⟩ := ih saved
      refine ⟨⟨loudness, row⟩, versions.trans ?_, peaks.trans ?_⟩
      · rw [processed]
        rfl
      · rw [processed]
        dsimp only
        rw [if_pos rfl]
        rfl

end Analyses

/-!
### Re-upload and rollback

A re-upload, and the rollback to the version that was active before it.

Processing jobs may run in between; they write the song only, and no version.
-/

def WasActive (state : SongState) (song : Song) (prior : SongVersion) : Prop :=
  prior ∈ (state.withInitialVersion song).versions ∧ prior.songId = song.id ∧
    prior.isActive = true

def RoundTrips (tables : ProcessedSongs) (songId artistId : String) (input : VersionInput)
    (analyses : List AudioAnalysis) (prior : SongVersion) (changeNote : Option String) : Prop :=
  let reuploaded := createVersionFromReupload tables.state songId artistId input
  let between := processSongMessages { tables with state := reuploaded.1 } songId analyses
  let restored :=
    rollbackVersion between.state songId (some prior.versionNumber) artistId changeNote
  (∃ version, restored.2 = .ok version) ∧
    findRow Song.id songId restored.1.songs = findRow Song.id songId tables.state.songs ∧
      between.waveformPeaks songId = tables.waveformPeaks songId

structure Mirrors (prior : SongVersion) (song : Song) (input : VersionInput) : Prop where
  title : prior.title.getD (input.title.getD song.title) = song.title
  description : prior.description = song.description
  genre : prior.genre = song.genre
  composers : prior.composers = song.composers
  coverArtPath : prior.coverArtPath = some song.coverArtPath
  s3OriginalUrl : prior.s3OriginalUrl = song.s3OriginalUrl
  hlsMasterUrl : prior.hlsMasterUrl = song.hlsMasterUrl
  ipfsCid : prior.ipfsCid = song.ipfsCid
  metadataCid : prior.metadataCid = song.metadataCid
  duration : prior.duration = song.duration
  loudness : prior.loudness = song.loudness
  status : prior.status = song.status
  errorReason : song.errorReason = none

/-! ### Promotions one after another -/

section Promotion

variable {state : SongState} {versions : List SongVersion} {songId : String} {song : Song}

theorem Numbered.demoted (numbered : Numbered versions songId) :
    Numbered (demoteVersions versions songId) songId := by
  unfold Numbered
  rw [numbersOf_demote, countVersions_demote]
  exact numbered

theorem Numbered.insert (numbered : Numbered versions songId) {version : SongVersion}
    (own : version.songId = songId)
    (next : version.versionNumber = countVersions versions songId + 1) :
    insertVersion versions version = some (versions ++ [version]) := by
  unfold insertVersion
  apply if_pos
  apply List.find?_eq_none.mpr
  intro other member same
  have taken : other.versionNumber ∈ numbersOf versions songId := by
    rw [own] at member
    exact List.mem_map_of_mem member
  have within := List.mem_range'_1.mp (numbered.mem_iff.mp taken)
  have equal := of_decide_eq_true same
  omega

def promoted (state : SongState) (songId : String) (version : Nat → SongVersion) : SongVersion :=
  version (countVersions state.versions songId + 1)

theorem promote_numbered (numbered : Numbered state.versions songId)
    {version : Nat → SongVersion} (own : ∀ number, (version number).songId = songId)
    (counted : ∀ number, (version number).versionNumber = number)
    (pointed : SongVersion → Option Song) :
    state.promote songId version pointed =
      match pointed (promoted state songId version) with
      | none =>
          ({ state with
              versions := demoteVersions state.versions songId ++
                [promoted state songId version] },
            .error rejectedWrite)
      | some saved =>
          ({ songs := saveRow Song.id saved state.songs
             versions := demoteVersions state.versions songId ++
                [promoted state songId version] },
            .ok (promoted state songId version)) := by
  have next : (promoted state songId version).versionNumber =
      countVersions (demoteVersions state.versions songId) songId + 1 :=
    (counted _).trans (congrArg (· + 1) countVersions_demote.symm)
  have inserted := numbered.demoted.insert (own _) next
  unfold SongState.promote
  dsimp only
  rw [numbered.latest]
  unfold promoted at inserted ⊢
  rw [inserted]
  dsimp only
  cases pointed (version (countVersions state.versions songId + 1)) with
  | none => rfl
  | some saved => rfl

theorem withInitialVersion_numbered (numbered : Numbered state.versions song.id) :
    Numbered (state.withInitialVersion song).versions song.id := by
  unfold SongState.withInitialVersion
  by_cases empty : versionsOf state.versions song.id = []
  · rw [if_pos empty]
    apply numbered.snoc rfl
    unfold countVersions
    rw [empty]
    rfl
  · rw [if_neg empty]
    exact numbered

theorem Numbered.find (numbered : Numbered versions songId) {version : SongVersion}
    (member : version ∈ versions) (own : version.songId = songId) :
    findVersion versions songId version.versionNumber = some version ∧
      1 ≤ version.versionNumber := by
  have listed : version ∈ versionsOf versions songId :=
    List.mem_filter.mpr ⟨member, decide_eq_true own⟩
  have distinct : (numbersOf versions songId).Nodup :=
    numbered.nodup_iff.mpr List.nodup_range'
  refine ⟨findRow_of_mem distinct listed, ?_⟩
  exact (List.mem_range'_1.mp (numbered.mem_iff.mp (List.mem_map_of_mem listed))).1

end Promotion

/-! ### The round trip -/

section RoundTrip

variable {tables : ProcessedSongs} {state : SongState} {songId artistId : String} {song : Song}
  {input : VersionInput} {analyses : List AudioAnalysis} {prior : SongVersion}
  {changeNote : Option String}

section

variable (found : findRow Song.id songId state.songs = some song) (owner : song.artistId = artistId)
  (numbered : Numbered state.versions songId)
include found owner numbered

theorem reupload_numbered :
    let after := (createVersionFromReupload state songId artistId input).1
    Numbered after.versions songId ∧ ∃ number,
      findRow Song.id songId after.songs =
          some (song.pointAtReupload (reuploadVersion songId song artistId input number) input) ∧
        after.versions = demoteVersions (state.withInitialVersion song).versions songId ++
          [reuploadVersion songId song artistId input number] := by
  have named := (findRow_mem found).2
  have whole : Numbered (state.withInitialVersion song).versions songId :=
    named ▸ withInitialVersion_numbered (named ▸ numbered)
  dsimp only
  unfold createVersionFromReupload
  rw [found]
  dsimp only
  rw [if_neg (not_not_intro owner), promote_numbered whole (fun _ => rfl) (fun _ => rfl),
    withInitialVersion_songs]
  refine ⟨?_, _, findRow_saveRow_same found _ rfl, rfl⟩
  exact whole.demoted.snoc rfl (congrArg (· + 1) countVersions_demote.symm)

theorem rollback_numbered (member : prior ∈ state.versions) (own : prior.songId = songId) :
    rollbackVersion state songId (some prior.versionNumber) artistId changeNote =
      state.promote songId (rolledBackVersion songId prior artistId changeNote)
        song.pointAtRollback := by
  obtain ⟨target, positive⟩ := numbered.find member own
  have chosen : getVersion state songId (some prior.versionNumber) = .ok prior := by
    unfold getVersion
    dsimp only
    rw [if_neg (by omega), Int.toNat_natCast, target]
  unfold rollbackVersion
  rw [found]
  dsimp only
  rw [if_neg (not_not_intro owner), chosen]

end

theorem pointAtRollback_id {version : SongVersion} {saved : Song}
    (pointed : song.pointAtRollback version = some saved) : saved.id = song.id := by
  obtain ⟨_, _, rfl⟩ := Option.map_eq_some_iff.mp pointed
  rfl

theorem pointAtRollback_iff (first second : Nat) (loudness : Option Rat) :
    ({ song.pointAtReupload (reuploadVersion songId song artistId input first) input with
          loudness := loudness } : Song).pointAtRollback
        (rolledBackVersion songId { prior with isActive := false } artistId changeNote second) =
          some song ↔
      Mirrors prior song input := by
  unfold Song.pointAtRollback
  rw [Option.map_eq_some_iff]
  constructor
  · rintro ⟨coverArtPath, covered, same⟩
    have cover : prior.coverArtPath = some coverArtPath := covered
    refine ⟨congrArg Song.title same, congrArg Song.description same, congrArg Song.genre same,
      congrArg Song.composers same, ?_, congrArg Song.s3OriginalUrl same,
      congrArg Song.hlsMasterUrl same, congrArg Song.ipfsCid same, congrArg Song.metadataCid same,
      congrArg Song.duration same, congrArg Song.loudness same, congrArg Song.status same,
      (congrArg Song.errorReason same).symm⟩
    exact cover.trans (congrArg (some ∘ Song.coverArtPath) same)
  · rintro ⟨title, description, genre, composers, cover, s3OriginalUrl, hlsMasterUrl, ipfsCid,
      metadataCid, duration, loud, status, reason⟩
    refine ⟨song.coverArtPath, cover, ?_⟩
    unfold rolledBackVersion Song.pointAtReupload reuploadVersion
    dsimp only
    rw [description, genre, composers, s3OriginalUrl, hlsMasterUrl, ipfsCid, metadataCid,
      duration, loud, status, Option.getD_some, title]
    cases song with
    | mk =>
        cases reason
        rfl

/-- A re-upload followed by the rollback restores the song exactly if the version that was active
holds what the song served, and no other waveform was found in between. -/
theorem rollbackVersion_restores_iff
    (found : findRow Song.id songId tables.state.songs = some song)
    (owner : song.artistId = artistId) (numbered : Numbered tables.state.versions songId)
    (active : WasActive tables.state song prior) :
    RoundTrips tables songId artistId input analyses prior changeNote ↔
      Mirrors prior song input ∧
        lastWaveform (tables.waveformPeaks songId) analyses = tables.waveformPeaks songId := by
  obtain ⟨counted, number, pointed, stored⟩ :=
    @reupload_numbered tables.state songId artistId song input found owner numbered
  obtain ⟨⟨loudness, row⟩, versions, peaks⟩ := @processSongMessages_writes
    { tables with state := (createVersionFromReupload tables.state songId artistId input).1 }
    songId _ pointed analyses
  obtain ⟨member, own, _⟩ := active
  rw [(findRow_mem found).2] at own
  unfold RoundTrips
  dsimp only at versions peaks row ⊢
  generalize processSongMessages _ songId analyses = between at versions peaks row ⊢
  rw [← versions] at counted stored
  have kept : { prior with isActive := false } ∈ between.state.versions := by
    rw [stored]
    exact List.mem_append_left _ (List.mem_map.mpr ⟨prior, member, if_pos own⟩)
  have rolledBack := @rollback_numbered between.state songId artistId _
    { prior with isActive := false } changeNote row owner counted kept own
  rw [peaks, rolledBack, promote_numbered counted (fun _ => rfl) (fun _ => rfl),
    ← @pointAtRollback_iff songId artistId song input prior changeNote number
      (countVersions between.state.versions songId + 1) loudness]
  unfold promoted
  cases written : Song.pointAtRollback _ _ with
  | none =>
      refine iff_of_false ?_ fun impossible => nomatch impossible.1
      rintro ⟨⟨version, impossible⟩, _⟩
      cases impossible
  | some saved =>
      dsimp only
      rw [findRow_saveRow_same row saved (pointAtRollback_id written), found]
      exact and_iff_right ⟨_, rfl⟩

theorem initialVersion_mirrors (working : song.errorReason = none) :
    Mirrors (initialVersion song song.artistId) song input :=
  ⟨rfl, rfl, rfl, rfl, rfl, rfl, rfl, rfl, rfl, rfl, rfl, rfl, working⟩

/-- A song that predates its versions. -/
def unversioned : ProcessedSongs where
  state := ⟨[firstUpload], []⟩
  waveformPeaks _ := some [1]

theorem unversioned_restored :
    RoundTrips unversioned "s1" "artist" plainReupload [] (initialVersion firstUpload "artist")
      none := by
  have found : findRow Song.id "s1" unversioned.state.songs = some firstUpload := rfl
  have numbered : Numbered unversioned.state.versions "s1" := List.Perm.refl []
  have active : WasActive unversioned.state firstUpload (initialVersion firstUpload "artist") :=
    ⟨List.mem_singleton_self _, rfl, rfl⟩
  exact (rollbackVersion_restores_iff found rfl numbered active).2
    ⟨initialVersion_mirrors rfl, rfl⟩

def editedLater : ProcessedSongs where
  state :=
    ⟨[{ firstUpload with description := some "Live" }], [initialVersion firstUpload "artist"]⟩
  waveformPeaks _ := some [1]

/-- A job after the re-upload replaces the waveform for good; and without a job, an edit made
after the first version was stored is lost. -/
theorem reuploads_not_restored :
    ¬RoundTrips unversioned "s1" "artist" plainReupload [⟨none, some [0]⟩]
        (initialVersion firstUpload "artist") none ∧
      ¬RoundTrips editedLater "s1" "artist" plainReupload []
        (initialVersion firstUpload "artist") none := by
  constructor
  · rintro ⟨_, _, peaks⟩
    exact absurd peaks (by decide)
  · rintro ⟨_, restored, _⟩
    exact absurd restored (by decide)

end RoundTrip

end AudioBlock.Songs
