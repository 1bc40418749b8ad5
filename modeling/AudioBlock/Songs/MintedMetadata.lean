/-
What the owner of a minted song can still change.

`updateSong` refuses to change the fields that the token carries.  Re-uploads and
rollbacks write two of them, the title and the description, without a look at the
mint status.  Where they write what the song has, the metadata stays.
-/
import AudioBlock.Foundation.Answers
import AudioBlock.Foundation.Machine
import AudioBlock.Songs.SongService

namespace AudioBlock.Songs

open AudioBlock.Foundation

inductive SongLabel
  | updateSong (id : String) (data : UpdateSongInput) (requester : SongRequester)
  | createVersionFromReupload (songId artistId : String) (input : VersionInput)
  | rollbackVersion (songId : String) (targetVersionNumber : Option Int) (artistId : String)
      (changeNote : Option String)
  /-- `submitSongMintTx` whose transaction succeeds. -/
  | submitSongMintTx (songId onChainSongId onChainTokenId : String)

def SongState.mint (state : SongState) (songId onChainSongId onChainTokenId : String) : SongState :=
  match findRow Song.id songId state.songs with
  | none => state
  | some song => state.saveSong (song.asMinted onChainSongId onChainTokenId)

def songStep (state : SongState) : SongLabel → SongState
  | .updateSong id data requester => commit state (updateSong state id data requester)
  | .createVersionFromReupload songId artistId input =>
      (createVersionFromReupload state songId artistId input).1
  | .rollbackVersion songId targetVersionNumber artistId changeNote =>
      (rollbackVersion state songId targetVersionNumber artistId changeNote).1
  | .submitSongMintTx songId onChainSongId onChainTokenId =>
      state.mint songId onChainSongId onChainTokenId

def songMachine : Machine SongState SongLabel where
  initial _ := True
  step state label := some (songStep state label)

/-! ### The condition -/

/-- The metadata that the token carries. -/
def Song.onChainMetadata (song : Song) : String × Option String × Option String :=
  (song.title, song.description, song.genreId)

def SongState.owned (state : SongState) (songId artistId : String) : Option Song :=
  (findRow Song.id songId state.songs).filter fun song => decide (song.artistId = artistId)

def targetOf (state : SongState) (songId : String) (versionNumber : Option Int) :
    Option SongVersion :=
  (getVersion state songId versionNumber).toOption

def KeepsMetadata (songId : String) (state : SongState) : SongLabel → Prop
  | .createVersionFromReupload id artistId input =>
      id = songId → ∀ song ∈ state.owned songId artistId,
        (∀ title ∈ input.title, title = song.title) ∧
          ∀ description ∈ input.description, some description = song.description
  | .rollbackVersion id targetVersionNumber artistId _ =>
      id = songId → ∀ song ∈ state.owned songId artistId,
        ∀ target ∈ targetOf state songId targetVersionNumber, target.coverArtPath ≠ none →
          target.title.getD song.title = song.title ∧ target.description = song.description
  | .updateSong _ _ _ | .submitSongMintTx _ _ _ => True

instance (songId : String) (state : SongState) : (label : SongLabel) →
    Decidable (KeepsMetadata songId state label)
  | .createVersionFromReupload id artistId _ =>
      inferInstanceAs (Decidable (id = songId → ∀ song ∈ state.owned songId artistId, _))
  | .rollbackVersion id _ artistId _ =>
      inferInstanceAs (Decidable (id = songId → ∀ song ∈ state.owned songId artistId, _))
  | .updateSong _ _ _ => isTrue trivial
  | .submitSongMintTx _ _ _ => isTrue trivial

/-! ### What the operations write -/

def Frozen (songId : String) (metadata : String × Option String × Option String)
    (state : SongState) : Prop :=
  ∃ song, findRow Song.id songId state.songs = some song ∧ song.mintStatus = .minted ∧
    song.onChainMetadata = metadata

section Writes

variable {songId : String} {metadata : String × Option String × Option String}
  {state : SongState}

theorem Frozen.rewrite (frozen : Frozen songId metadata state) {id : String} {song saved : Song}
    (found : findRow Song.id id state.songs = some song) (sameId : saved.id = song.id)
    (keeps : id = songId → song.mintStatus = .minted →
      saved.mintStatus = .minted ∧ saved.onChainMetadata = song.onChainMetadata) :
    Frozen songId metadata (state.saveSong saved) := by
  obtain ⟨own, present, minted, same⟩ := frozen
  refine ⟨_, findRow_saveRow_found present saved, ?_⟩
  have named : saved.id = id := sameId.trans (findRow_mem found).2
  by_cases target : songId = saved.id
  · have id_eq : id = songId := named.symm.trans target.symm
    subst id_eq
    cases present.symm.trans found
    obtain ⟨stays, equal⟩ := keeps rfl minted
    rw [if_pos target]
    exact ⟨stays, equal.trans same⟩
  · rw [if_neg target]
    exact ⟨minted, same⟩

theorem changes_eq_false {written : Option (Option String)} {current : Option String}
    (same : changes written current = false) : written.getD current = current := by
  cases written with
  | none => rfl
  | some value =>
      have equal : decide (value ≠ current) = false := same
      exact not_not.mp (of_decide_eq_false equal)

theorem lockedFields_eq_nil {song : Song} {data : UpdateSongInput}
    (free : lockedFields song data = []) :
    changes data.title (some song.title) = false ∧
      changes data.description song.description = false ∧
        changes data.genreId song.genreId = false := by
  have none := List.filter_eq_nil_iff.mp (List.map_eq_nil_iff.mp free)
  simpa only [List.forall_mem_cons, List.not_mem_nil, false_implies, implies_true, and_true,
    Bool.not_eq_true] using none

theorem edited_minted {song saved : Song} {data : UpdateSongInput}
    (minted : song.mintStatus = .minted) (unlocked : assertUnlocked song data = .ok ())
    (edited : song.edited data = .ok saved) : saved.onChainMetadata = song.onChainMetadata := by
  have free : lockedFields song data = [] := by
    by_contra some
    rw [assertUnlocked, if_pos ⟨minted, some⟩] at unlocked
    cases unlocked
  obtain ⟨title, description, genre⟩ := lockedFields_eq_nil free
  rw [Song.edited, changes_eq_false title] at edited
  cases edited
  rw [Song.onChainMetadata, changes_eq_false description, changes_eq_false genre]
  rfl

section

variable (frozen : Frozen songId metadata state)
include frozen

theorem Frozen.updateSong (id : String) (data : UpdateSongInput) (requester : SongRequester) :
    Frozen songId metadata (commit state (updateSong state id data requester)) := by
  apply commit_keeps _ frozen
  intro saved answer
  obtain ⟨song, found, answer⟩ := ok_of_bind answer
  obtain ⟨_, _, answer⟩ := ok_of_bind answer
  obtain ⟨_, unlocked, answer⟩ := ok_of_bind answer
  obtain ⟨edited, written, answer⟩ := ok_of_bind answer
  cases answer
  obtain ⟨sameId, sameStatus⟩ := edited_keeps written
  apply frozen.rewrite (getSong_found found) sameId
  intro _ minted
  exact ⟨sameStatus.trans minted, edited_minted minted unlocked written⟩

theorem Frozen.mint (id onChainSongId onChainTokenId : String) :
    Frozen songId metadata (state.mint id onChainSongId onChainTokenId) := by
  unfold SongState.mint
  split
  · exact frozen
  · rename_i song found
    exact frozen.rewrite found rfl fun _ _ => ⟨rfl, rfl⟩

theorem Frozen.congr {other : SongState} (same : other.songs = state.songs) :
    Frozen songId metadata other := by
  unfold Frozen
  rw [same]
  exact frozen

theorem Frozen.promote {id : String} {song : Song}
    (found : findRow Song.id id state.songs = some song) (version : Nat → SongVersion)
    (pointed : SongVersion → Option Song)
    (keeps : ∀ number saved, pointed (version number) = some saved →
      saved.id = song.id ∧ (id = songId → song.mintStatus = .minted →
        saved.mintStatus = .minted ∧ saved.onChainMetadata = song.onChainMetadata)) :
    Frozen songId metadata (state.promote id version pointed).1 := by
  rcases promote_songs state id version pointed with same | ⟨number, saved, written, same⟩
  · exact frozen.congr same
  · obtain ⟨sameId, stays⟩ := keeps number saved written
    exact (frozen.rewrite found sameId stays).congr same

end

theorem getD_same {title : Option String} {current : String}
    (same : ∀ written ∈ title, written = current) : title.getD current = current := by
  cases title with
  | none => rfl
  | some written => exact same written rfl

theorem or_same {text current : Option String}
    (same : ∀ written ∈ text, some written = current) : text.or current = current := by
  cases text with
  | none => rfl
  | some written => exact same written rfl

theorem Frozen.reupload (frozen : Frozen songId metadata state) (id artistId : String)
    (input : VersionInput)
    (permitted : KeepsMetadata songId state (.createVersionFromReupload id artistId input)) :
    Frozen songId metadata (createVersionFromReupload state id artistId input).1 := by
  unfold createVersionFromReupload
  split
  · exact frozen
  · rename_i song found
    split
    · exact frozen
    · rename_i owner
      have initially := withInitialVersion_songs state song
      have present : findRow Song.id id (state.withInitialVersion song).songs = some song := by
        rw [initially]
        exact found
      apply (frozen.congr initially).promote present
      intro number saved written
      cases written
      refine ⟨rfl, ?_⟩
      intro own minted
      subst own
      have owned : song ∈ state.owned id artistId :=
        Option.mem_filter_iff.mpr ⟨found, decide_eq_true (not_not.mp owner)⟩
      obtain ⟨title, description⟩ := permitted rfl song owned
      refine ⟨minted, ?_⟩
      change (input.title.getD song.title, input.description.or song.description, _) = _
      rw [getD_same title, or_same description]
      rfl

theorem Frozen.rollback (frozen : Frozen songId metadata state) (id : String)
    (targetVersionNumber : Option Int) (artistId : String) (changeNote : Option String)
    (permitted : KeepsMetadata songId state
      (.rollbackVersion id targetVersionNumber artistId changeNote)) :
    Frozen songId metadata
      (rollbackVersion state id targetVersionNumber artistId changeNote).1 := by
  unfold rollbackVersion
  split
  · exact frozen
  · rename_i song found
    split
    · exact frozen
    · rename_i owner
      cases read : getVersion state id targetVersionNumber with
      | error failure => exact frozen
      | ok target =>
          apply frozen.promote found
          intro number saved written
          obtain ⟨cover, covered, rfl⟩ := Option.map_eq_some_iff.mp written
          refine ⟨rfl, ?_⟩
          intro own minted
          subst own
          have owned : song ∈ state.owned id artistId :=
            Option.mem_filter_iff.mpr ⟨found, decide_eq_true (not_not.mp owner)⟩
          have aimed : target ∈ targetOf state id targetVersionNumber := by
            rw [targetOf, read]
            rfl
          have present : target.coverArtPath ≠ none := by
            intro absent
            rw [rolledBackVersion, absent] at covered
            cases covered
          obtain ⟨title, description⟩ := permitted rfl song owned target aimed present
          refine ⟨minted, ?_⟩
          change (target.title.getD song.title, target.description, _) = _
          rw [title, description]
          rfl

end Writes

theorem songStep_frozen {songId : String} {metadata : String × Option String × Option String}
    {state : SongState} (label : SongLabel) (frozen : Frozen songId metadata state)
    (permitted : KeepsMetadata songId state label) :
    Frozen songId metadata (songStep state label) := by
  cases label with
  | updateSong id data requester => exact frozen.updateSong id data requester
  | createVersionFromReupload id artistId input => exact frozen.reupload id artistId input permitted
  | rollbackVersion id number artistId changeNote =>
      exact frozen.rollback id number artistId changeNote permitted
  | submitSongMintTx id onChainSongId onChainTokenId =>
      exact frozen.mint id onChainSongId onChainTokenId

/-- From a minted song on, steps that meet the condition change neither the title,
nor the description, nor the genre. -/
theorem songMachine_keeps_metadata (songId : String) {before after : SongState} {song : Song}
    (found : findRow Song.id songId before.songs = some song) (minted : song.mintStatus = .minted)
    (labels : List SongLabel) (permitted : songMachine.Permits (KeepsMetadata songId) before labels)
    (ran : songMachine.run before labels = some after) :
    ∃ later, findRow Song.id songId after.songs = some later ∧ later.mintStatus = .minted ∧
      later.title = song.title ∧ later.description = song.description ∧
        later.genreId = song.genreId := by
  have frozen : Frozen songId song.onChainMetadata before := ⟨song, found, minted, rfl⟩
  obtain ⟨later, present, stays, same⟩ : Frozen songId song.onChainMetadata after := by
    apply Machine.run_preserves _ _ labels frozen permitted ran
    intro state label next holds allowed moved
    cases moved
    exact songStep_frozen label holds allowed
  obtain ⟨title, rest⟩ := Prod.mk.inj same
  obtain ⟨description, genre⟩ := Prod.mk.inj rest
  exact ⟨later, present, stays, title, description, genre⟩

/-! A song that its artist mints and goes on editing. -/

def mintedSong : Song := (Song.uploaded "s1" "artist" "First light").asMinted "7" "9"

def mintedState : SongState := { songs := [mintedSong], versions := [] }

def newAudio (title : Option String) : VersionInput :=
  { title := title
    description := none
    genre := none
    composers := none
    coverArtPath := none
    s3OriginalUrl := some "s3://bucket/second.mp3"
    ipfsCid := none
    changeNote := none
    createdBy := some "artist" }

def renamed (title : String) : UpdateSongInput :=
  { title := some (some title)
    description := none
    genreId := none
    composers := some (some "A. Writer")
    lyrics := none
    language := none }

def quietEdits : List SongLabel :=
  [.createVersionFromReupload "s1" "artist" (newAudio none),
    .updateSong "s1" (renamed "Second light") ⟨"artist", some .artist⟩,
    .updateSong "s1" (renamed "First light") ⟨"artist", some .artist⟩,
    .rollbackVersion "s1" (some 1) "artist" none]

theorem songMachine_keeps_metadata_quiet :
    ∃ after later, songMachine.run mintedState quietEdits = some after ∧
      findRow Song.id "s1" after.songs = some later ∧ later.mintStatus = .minted ∧
        later.title = "First light" ∧ later.description = none ∧ later.genreId = none := by
  have executed : ∃ after, songMachine.run mintedState quietEdits = some after := ⟨_, rfl⟩
  obtain ⟨after, ran⟩ := executed
  have found : findRow Song.id "s1" mintedState.songs = some mintedSong := rfl
  obtain ⟨later, kept⟩ :=
    songMachine_keeps_metadata "s1" found rfl quietEdits (by decide) ran
  exact ⟨after, later, ran, kept⟩

/-- A re-upload renames the minted song, and so does a rollback to an older title. -/
theorem songMachine_renames_minted :
    (∃ after later,
      songMachine.run mintedState
          [.createVersionFromReupload "s1" "artist" (newAudio (some "Second light"))] = some after ∧
        findRow Song.id "s1" after.songs = some later ∧ later.mintStatus = .minted ∧
          later.title ≠ mintedSong.title) ∧
    ∃ before song after later,
      songMachine.run { songs := [Song.uploaded "s1" "artist" "First light"], versions := [] }
          [.createVersionFromReupload "s1" "artist" (newAudio (some "Second light")),
            .submitSongMintTx "s1" "7" "9"] = some before ∧
        findRow Song.id "s1" before.songs = some song ∧ song.mintStatus = .minted ∧
          songMachine.run before [.rollbackVersion "s1" (some 1) "artist" none] = some after ∧
            findRow Song.id "s1" after.songs = some later ∧ later.title ≠ song.title :=
  ⟨⟨_, _, rfl, rfl, rfl, by decide⟩, _, _, _, _, rfl, rfl, rfl, rfl, rfl, by decide⟩

end AudioBlock.Songs
