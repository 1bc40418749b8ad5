/-
What a caller who neither owns a song nor is an admin can change in its row.

Edits, removals, re-uploads, rollbacks and templates ask for the owner.  A mint
submission asks for the role of an artist only, and a genre batch for nothing: these
two leave the row where they write what it shows already.
-/
import AudioBlock.Songs.SongRequests

namespace AudioBlock.Songs

open AudioBlock.Foundation AudioBlock.Royalty
open AudioBlock.Auth (User)

def Stranger (caller : Option SongRequester) (song : Song) : Prop :=
  ∀ requester ∈ caller, song.artistId ≠ requester.id ∧ requester.role ≠ some .admin

instance (caller : Option SongRequester) (song : Song) : Decidable (Stranger caller song) :=
  inferInstanceAs (Decidable (∀ requester ∈ caller, _))

def CatalogState.row (state : CatalogState) (songId : String) : Option Song :=
  findRow Song.id songId state.table.songs

def KeepsSong (stellar : Stellar) (songId : String) (state : CatalogState)
    (request : SongRequest) : Prop :=
  (handle stellar state request).row songId = state.row songId

/-! ### The condition -/

def Song.Shows (song : Song) : SubmitOutcome → Prop
  | .succeeded (some (onChainSongId :: onChainTokenId :: _)) =>
      song.onChainSongId = some onChainSongId ∧ song.onChainTokenId = some onChainTokenId ∧
        song.mintStatus = .minted
  | .succeeded (some [onChainSongId]) =>
      song.onChainSongId = some onChainSongId ∧ song.mintStatus = .failed
  | .succeeded (some []) | .succeeded none | .threw => song.mintStatus = .failed

instance (song : Song) : DecidablePred song.Shows
  | .succeeded (some (_ :: _ :: _)) => inferInstanceAs (Decidable (_ ∧ _ ∧ _))
  | .succeeded (some [_]) => inferInstanceAs (Decidable (_ ∧ _))
  | .succeeded (some []) => inferInstanceAs (Decidable (_ = _))
  | .succeeded none => inferInstanceAs (Decidable (_ = _))
  | .threw => inferInstanceAs (Decidable (_ = _))

def LeavesSong (songId : String) (state : CatalogState) : SongRequest → Prop
  | .song caller (.submitMint id outcome) =>
      id = songId → ∀ _ ∈ (authArtistMiddleware caller).toOption,
        ∀ song ∈ state.row songId, song.Shows outcome
  | .batch _ updates =>
      ∀ ids ∈ (parseSongIds updates.songIds).toOption,
        ∀ genre ∈ (parseGenre updates.genre).toOption, songId ∈ ids →
          updates.saveFails songId = none → ∀ song ∈ state.row songId, song.genre = some genre
  | _ => True

instance (songId : String) (state : CatalogState) : (request : SongRequest) →
    Decidable (LeavesSong songId state request)
  | .song caller (.submitMint id _) =>
      inferInstanceAs (Decidable (id = songId → ∀ _ ∈ (authArtistMiddleware caller).toOption, _))
  | .batch _ updates =>
      inferInstanceAs (Decidable (∀ ids ∈ (parseSongIds updates.songIds).toOption, _))
  | .song _ (.updateSong ..) | .song _ (.deleteSong ..) | .song _ (.finalizeReupload ..)
  | .song _ (.rollbackVersion ..) | .song _ (.applyTemplate ..) | .song _ (.addCollaborator ..)
  | .song _ (.updateCollaborator ..) | .song _ (.disputeSplit ..) | .song _ (.resolveDispute ..)
  | .song _ (.prepareMint ..) => isTrue trivial

/-! ### The services that ask for the owner -/

section Owned

variable {stellar : Stellar} {state : CatalogState} {table : SongState} {songId : String}
  {song : Song} {requester : SongRequester}

theorem assertCanModify_stranger (stranger : Stranger (some requester) song) :
    assertCanModify song requester =
      .error (.authorization "You can only modify your own songs" "NOT_SONG_OWNER") :=
  if_pos (stranger requester rfl)

theorem updateSong_keeps (found : findRow Song.id songId table.songs = some song)
    (stranger : Stranger (some requester) song) (id : String) (data : UpdateSongInput) :
    findRow Song.id songId (commit table (updateSong table id data requester)).songs = some song := by
  apply commit_keeps (fun after : SongState => findRow Song.id songId after.songs = some song) found
  intro saved answer
  obtain ⟨loaded, present, answer⟩ := ok_of_bind answer
  obtain ⟨_, allowed, answer⟩ := ok_of_bind answer
  obtain ⟨_, _, answer⟩ := ok_of_bind answer
  obtain ⟨edited, written, answer⟩ := ok_of_bind answer
  cases answer
  have different : songId ≠ loaded.id := by
    rintro rfl
    have here := getSong_found present
    rw [(findRow_mem here).2] at found
    rw [Option.some.inj (here.symm.trans found), assertCanModify_stranger stranger] at allowed
    cases allowed
  exact (findRow_saveRow_other table.songs ((edited_keeps written).1 ▸ different)).trans found

theorem deleteSong_keeps (found : state.row songId = some song)
    (stranger : Stranger (some requester) song) (id : String) (now : Nat) :
    (commit state (deleteSong state id requester now)).row songId = some song := by
  apply commit_keeps (fun after : CatalogState => after.row songId = some song) found
  intro saved answer
  obtain ⟨loaded, present, answer⟩ := ok_of_bind answer
  obtain ⟨_, allowed, answer⟩ := ok_of_bind answer
  have here := getSong_found present
  have named : loaded.id = id := (findRow_mem here).2
  have different : songId ≠ id := by
    rintro rfl
    rw [Option.some.inj (here.symm.trans found), assertCanModify_stranger stranger] at allowed
    cases allowed
  split at answer
  · cases answer
    have other : songId ≠ (loaded.hidden requester.id now).id := fun same => different (same.trans named)
    exact (findRow_saveRow_other state.table.songs other).trans found
  · cases answer
    exact (findRow_removeRow_other state.table.songs different).trans found

section

variable (found : findRow Song.id songId table.songs = some song)
include found

theorem promote_keeps (id : String) (version : Nat → SongVersion)
    (pointed : SongVersion → Option Song)
    (other : ∀ number saved, pointed (version number) = some saved → songId ≠ saved.id) :
    findRow Song.id songId (table.promote id version pointed).1.songs = some song := by
  rcases promote_songs table id version pointed with same | ⟨number, saved, written, same⟩
  · rw [same, found]
  · rw [same, findRow_saveRow_other table.songs (other number saved written), found]

section

variable (stranger : song.artistId ≠ requester.id) (id : String)
include stranger id

theorem createVersionFromReupload_keeps (input : VersionInput) :
    findRow Song.id songId (createVersionFromReupload table id requester.id input).1.songs =
      some song := by
  unfold createVersionFromReupload
  split
  · exact found
  · rename_i loaded present
    split
    · exact found
    · rename_i owner
      apply promote_keeps
      · rw [withInitialVersion_songs, found]
      · intro number saved written
        cases written
        intro same
        have named : songId = id := same.trans (findRow_mem present).2
        subst named
        exact stranger (Option.some.inj (present.symm.trans found) ▸ not_not.mp owner)

theorem rollbackVersion_keeps (targetVersionNumber : Option Int) (changeNote : Option String) :
    findRow Song.id songId
        (rollbackVersion table id targetVersionNumber requester.id changeNote).1.songs =
      some song := by
  unfold rollbackVersion
  split
  · exact found
  · rename_i loaded present
    split
    · exact found
    · rename_i owner
      split
      · exact found
      · apply promote_keeps found
        intro number saved written
        obtain ⟨cover, _, rfl⟩ := Option.map_eq_some_iff.mp written
        intro same
        have named : songId = id := same.trans (findRow_mem present).2
        subst named
        exact stranger (Option.some.inj (present.symm.trans found) ▸ not_not.mp owner)

theorem finalizeReupload_keeps (changes : VersionInput) (s3Location : Option String) :
    findRow Song.id songId (finalizeReupload table id requester.id changes s3Location).1.songs =
      some song := by
  unfold finalizeReupload
  split
  · exact found
  · split
    · exact found
    · cases s3Location with
      | none => exact found
      | some location => exact createVersionFromReupload_keeps found stranger id _

end

end

theorem applyTemplate_keeps (found : state.row songId = some song)
    (stranger : song.artistId ≠ requester.id) (id templateId : String) :
    (commit state (applyTemplate state id templateId requester.id)).row songId = some song := by
  apply commit_keeps (fun after : CatalogState => after.row songId = some song) found
  intro saved answer
  unfold applyTemplate at answer
  split at answer
  · cases answer
  · rename_i loaded present
    split at answer
    · cases answer
    · rename_i owner
      obtain ⟨_, _, answer⟩ := ok_of_bind answer
      split at answer
      · cases answer
      · split at answer
        · cases answer
        · rename_i template _ _
          cases answer
          have different : songId ≠ loaded.id := by
            intro same
            have named : songId = id := same.trans (findRow_mem present).2
            subst named
            exact stranger (Option.some.inj (present.symm.trans found) ▸ not_not.mp owner)
          have kept : (state.saveSong { loaded with royaltySplits := some template.splits }).row songId =
              state.row songId := findRow_saveRow_other state.table.songs different
          exact kept.trans found

end Owned

/-! ### Submissions and batches -/

section Unowned

variable {state : CatalogState} {table : SongState} {songId : String} {song : Song}

theorem mintFailed_eq_iff : song.mintFailed = song ↔ song.mintStatus = .failed := by
  constructor
  · exact fun same => same ▸ rfl
  · intro failed
    rw [Song.mintFailed, ← failed]

theorem submitted_eq_iff {outcome : SubmitOutcome} :
    song.submitted outcome = song ↔ song.Shows outcome := by
  match outcome with
  | .threw | .succeeded none | .succeeded (some []) => exact mintFailed_eq_iff
  | .succeeded (some [onChainSongId]) =>
      constructor
      · exact fun same => same ▸ ⟨rfl, rfl⟩
      · rintro ⟨id, failed⟩
        change { song with mintStatus := .failed, onChainSongId := some onChainSongId } = song
        rw [← id, ← failed]
  | .succeeded (some (onChainSongId :: onChainTokenId :: _)) =>
      constructor
      · exact fun same => same ▸ ⟨rfl, rfl, rfl⟩
      · rintro ⟨id, token, minted⟩
        change song.asMinted onChainSongId onChainTokenId = song
        rw [Song.asMinted, ← id, ← token, ← minted]

theorem submitted_id (outcome : SubmitOutcome) : (song.submitted outcome).id = song.id := by
  match outcome with
  | .threw | .succeeded none | .succeeded (some []) | .succeeded (some [_])
  | .succeeded (some (_ :: _ :: _)) => rfl

theorem submitSongMintTx_row (found : findRow Song.id songId table.songs = some song)
    (id : String) (outcome : SubmitOutcome) :
    findRow Song.id songId (commit table (submitSongMintTx table id outcome)).songs =
      some (if id = songId then song.submitted outcome else song) := by
  unfold submitSongMintTx
  by_cases same : id = songId
  · subst same
    rw [found, if_pos rfl]
    change findRow Song.id id (saveRow Song.id (song.submitted outcome) table.songs) = _
    rw [findRow_saveRow_found found, submitted_id, if_pos (findRow_mem found).2.symm]
  · rw [if_neg same]
    cases present : findRow Song.id id table.songs with
    | none => exact found
    | some loaded =>
        have different : songId ≠ (loaded.submitted outcome).id := by
          rw [submitted_id, (findRow_mem present).2]
          exact Ne.symm same
        exact (findRow_saveRow_other table.songs different).trans found

theorem foldl_saveSong_songs (rows : List Song) (table : SongState) :
    (rows.foldl SongState.saveSong table).songs =
      rows.foldl (fun songs row => saveRow Song.id row songs) table.songs :=
  (List.foldl_hom SongState.songs fun _ _ => rfl).symm

theorem bulkGenreUpdate_row (found : findRow Song.id songId table.songs = some song)
    (batch : GenreBatch) {ids : List String} {genre : String}
    (chosen : parseSongIds batch.songIds = .ok ids) (named : parseGenre batch.genre = .ok genre) :
    findRow Song.id songId (bulkGenreUpdate table batch).1.songs =
      some (if songId ∈ ids ∧ batch.saveFails songId = none then { song with genre := some genre }
        else song) := by
  unfold bulkGenreUpdate
  rw [chosen, named]
  have rowOf : ∀ id ∈ ids, ∀ row ∈ genreRow table.songs genre batch.saveFails id,
      row.id = id ∧ batch.saveFails id = none ∧
        ∀ loaded, findRow Song.id id table.songs = some loaded →
          row = { loaded with genre := some genre } := by
    intro id _ row saves
    obtain ⟨stored, saves⟩ := Option.ite_none_right_eq_some.mp saves
    obtain ⟨loaded, present, rfl⟩ := Option.map_eq_some_iff.mp saves
    refine ⟨(findRow_mem present).2, stored, fun again also => ?_⟩
    rw [Option.some.inj (present.symm.trans also)]
  change findRow Song.id songId (List.foldl SongState.saveSong table _).songs = _
  rw [foldl_saveSong_songs]
  rcases findRow_foldl_saveRow Song.id _ table.songs songId with
    ⟨others, same⟩ | ⟨row, member, own, last⟩
  · have unsaved : ¬(songId ∈ ids ∧ batch.saveFails songId = none) := by
      rintro ⟨listed, stored⟩
      have saved : genreRow table.songs genre batch.saveFails songId =
          some { song with genre := some genre } := by
        rw [genreRow, if_pos stored, found, Option.map_some]
      exact others _ (List.mem_filterMap.mpr ⟨songId, listed, saved⟩) (findRow_mem found).2
    rw [if_neg unsaved, same, found]
  · obtain ⟨id, listed, saves⟩ := List.mem_filterMap.mp member
    obtain ⟨named, stored, isRow⟩ := rowOf id listed row saves
    have isSong : id = songId := named.symm.trans own
    subst isSong
    rw [if_pos ⟨listed, stored⟩, last, found, Option.map_some, isRow song found]

theorem genre_eq_iff {genre : String} :
    { song with genre := some genre } = song ↔ song.genre = some genre := by
  constructor
  · exact fun same => same ▸ rfl
  · intro same
    rw [← same]

end Unowned

/-! ### Requests of a stranger -/

section Strangers

variable {stellar : Stellar} {state : CatalogState} {songId : String} {song : Song}

theorem leavesSong_batch_iff (found : state.row songId = some song)
    (caller : Option SongRequester) (updates : GenreBatch) :
    KeepsSong stellar songId state (.batch caller updates) ↔
      LeavesSong songId state (.batch caller updates) := by
  change findRow Song.id songId (bulkGenreUpdate state.table updates).1.songs = state.row songId ↔
    ∀ ids ∈ (parseSongIds updates.songIds).toOption,
      ∀ genre ∈ (parseGenre updates.genre).toOption, songId ∈ ids →
        updates.saveFails songId = none → ∀ song ∈ state.row songId, song.genre = some genre
  rw [found]
  cases chosen : parseSongIds updates.songIds with
  | error failure =>
      unfold bulkGenreUpdate
      rw [chosen]
      exact iff_of_true found fun _ impossible => absurd impossible (Option.not_mem_none _)
  | ok ids =>
      cases named : parseGenre updates.genre with
      | error failure =>
          unfold bulkGenreUpdate
          rw [chosen, named]
          exact iff_of_true found fun _ _ _ impossible => absurd impossible (Option.not_mem_none _)
      | ok genre =>
          rw [bulkGenreUpdate_row found updates chosen named, Option.some_inj]
          constructor
          · rintro kept _ ⟨⟩ _ ⟨⟩ listed stored _ ⟨⟩
            rw [if_pos ⟨listed, stored⟩] at kept
            exact genre_eq_iff.mp kept
          · intro same
            by_cases saves : songId ∈ ids ∧ updates.saveFails songId = none
            · rw [if_pos saves]
              exact genre_eq_iff.mpr (same ids rfl genre rfl saves.1 saves.2 song rfl)
            · exact if_neg saves

theorem leavesSong_submitMint_iff (found : state.row songId = some song)
    (caller : Option SongRequester) (id : String) (outcome : SubmitOutcome) :
    KeepsSong stellar songId state (.song caller (.submitMint id outcome)) ↔
      LeavesSong songId state (.song caller (.submitMint id outcome)) := by
  change (commit state ((authArtistMiddleware caller).map fun requester =>
      serve stellar state requester (.submitMint id outcome))).row songId = state.row songId ↔
    (id = songId → ∀ _ ∈ (authArtistMiddleware caller).toOption,
      ∀ song ∈ state.row songId, song.Shows outcome)
  rw [found]
  cases authArtistMiddleware caller with
  | error failure =>
      exact iff_of_true found fun _ _ impossible => absurd impossible (Option.not_mem_none _)
  | ok requester =>
      change findRow Song.id songId
        (commit state.table (submitSongMintTx state.table id outcome)).songs = some song ↔ _
      rw [submitSongMintTx_row found, Option.some_inj]
      by_cases same : id = songId
      · rw [if_pos same, submitted_eq_iff]
        constructor
        · rintro shows _ _ _ _ ⟨⟩
          exact shows
        · exact fun shows => shows same requester rfl song rfl
      · rw [if_neg same]
        exact iff_of_true rfl fun equal => absurd equal same

theorem authorize_caller {caller : Option SongRequester} {operation : SongOperation}
    {requester : SongRequester} (allowed : authorize caller operation = .ok requester) :
    caller = some requester := by
  have artist : authArtistMiddleware caller = .ok requester → caller = some requester := by
    intro allowed
    cases caller with
    | none => cases allowed
    | some account =>
        change (if account.role = some .artist ∨ account.role = some .admin then
          Except.ok account else _) = .ok requester at allowed
        split at allowed
        · cases allowed
          rfl
        · cases allowed
  cases operation with
  | finalizeReupload songId changes s3Location =>
      cases caller with
      | none => cases allowed
      | some account =>
          cases allowed
          rfl
  | updateSong | deleteSong | rollbackVersion | applyTemplate | addCollaborator
  | updateCollaborator | disputeSplit | resolveDispute | prepareMint | submitMint =>
      exact artist allowed

theorem leavesSong_iff (found : state.row songId = some song) {request : SongRequest}
    (stranger : Stranger request.caller song) :
    KeepsSong stellar songId state request ↔ LeavesSong songId state request := by
  cases request with
  | batch caller updates => exact leavesSong_batch_iff found caller updates
  | song caller operation =>
      have keeps (kept : ∀ requester, authorize caller operation = .ok requester →
          (serve stellar state requester operation).row songId = some song) :
          KeepsSong stellar songId state (.song caller operation) := by
        unfold KeepsSong
        rw [found]
        apply commit_keeps (fun after : CatalogState => after.row songId = some song) found
        intro after answer
        cases allowed : authorize caller operation with
        | error failure =>
            rw [allowed] at answer
            cases answer
        | ok requester =>
            rw [allowed] at answer
            cases answer
            exact kept requester allowed
      have other {requester : SongRequester} (allowed : authorize caller operation = .ok requester) :
          Stranger (some requester) song := authorize_caller allowed ▸ stranger
      cases operation with
      | submitMint id outcome => exact leavesSong_submitMint_iff found caller id outcome
      | updateSong id data =>
          exact iff_of_true (keeps fun _ allowed => updateSong_keeps found (other allowed) id data)
            trivial
      | deleteSong id now =>
          exact iff_of_true (keeps fun _ allowed => deleteSong_keeps found (other allowed) id now)
            trivial
      | finalizeReupload id changes s3Location =>
          exact iff_of_true (keeps fun requester allowed =>
            finalizeReupload_keeps found (other allowed requester rfl).1 id changes s3Location) trivial
      | rollbackVersion id targetVersionNumber changeNote =>
          exact iff_of_true (keeps fun requester allowed =>
            rollbackVersion_keeps found (other allowed requester rfl).1 id targetVersionNumber
              changeNote) trivial
      | applyTemplate id templateId =>
          exact iff_of_true (keeps fun requester allowed =>
            applyTemplate_keeps found (other allowed requester rfl).1 id templateId) trivial
      | prepareMint id albumId =>
          refine iff_of_true (keeps fun requester _ => ?_) trivial
          apply commit_keeps (fun after : CatalogState => after.row songId = some song) found
          intro after answer
          cases built : prepareSongMintTx stellar state.table.songs state.users id albumId with
          | error failure =>
              rw [built] at answer
              cases answer
          | ok xdr =>
              rw [built] at answer
              cases answer
              exact found
      | addCollaborator | updateCollaborator | disputeSplit | resolveDispute =>
          exact iff_of_true (keeps fun _ _ => found) trivial

/-- Over the requests of one caller, who is neither the artist nor an admin, every request
leaves the song exactly where the condition holds of each. -/
theorem catalogMachine_keeps_song_iff (stellar : Stellar) (state : CatalogState) (songId : String)
    (song : Song) (caller : Option SongRequester) (requests : List SongRequest)
    (found : state.row songId = some song) (stranger : Stranger caller song)
    (own : ∀ request ∈ requests, request.caller = caller) :
    (catalogMachine stellar).Permits (KeepsSong stellar songId) state requests ↔
      (catalogMachine stellar).Permits (LeavesSong songId) state requests := by
  apply Machine.permits_iff (fun state => state.row songId = some song)
    (fun request => request.caller = caller) _ _ requests found own
  · exact fun state request found same => leavesSong_iff found (same ▸ stranger)
  · intro before request after found _ kept moved
    cases moved
    exact kept.trans found

end Strangers

/-! ### Two callers on one catalogue -/

/-- A network that decodes no transaction. -/
def silentStellar : Stellar := { catalog := "CATALOG", fromXDR := fun _ => none }

def ownedSong : Song := { Song.uploaded "s1" "artist-1" "Dawn" with genre := some "Afrobeat" }

def ownedCatalog : CatalogState :=
  { table := { songs := [ownedSong, Song.uploaded "s2" "artist-2" "Dusk"], versions := [] }
    collaborators := []
    templates := [⟨"t2", "artist-2", [⟨"artist-2", "artist", 100⟩]⟩]
    users := [] }

def otherArtist : SongRequester := { id := "artist-2", role := some .artist }

def strangerRequests : List SongRequest :=
  [.song (some otherArtist) (.updateSong "s1" ⟨some (some "Mine"), none, none, none, none, none⟩),
    .song (some otherArtist) (.deleteSong "s1" 1),
    .song (some otherArtist) (.applyTemplate "s1" "t2"),
    .song (some otherArtist) (.rollbackVersion "s1" none none),
    .song (some otherArtist) (.submitMint "s2" (.succeeded (some ["7", "9"]))),
    .batch (some otherArtist)
      { songIds := [some "s1", some "s2"], genre := "Afrobeat", saveFails := fun _ => none }]

theorem catalogMachine_keeps_song_tried :
    (catalogMachine silentStellar).Permits (KeepsSong silentStellar "s1") ownedCatalog
      strangerRequests :=
  (catalogMachine_keeps_song_iff silentStellar ownedCatalog "s1" ownedSong (some otherArtist)
    strangerRequests (by decide) (by decide) (by simp [strangerRequests, SongRequest.caller])).mpr
      (by decide +kernel)

/-- A batch without a token renames the genre of a song, and another artist's submission
that throws marks its mint as failed. -/
theorem catalogMachine_changes_song :
    ((catalogMachine silentStellar).run ownedCatalog
        [.batch none { songIds := [some "s1"], genre := "Polka", saveFails := fun _ => none }]).map
          (fun state => (state.row "s1").map Song.genre) = some (some (some "Polka")) ∧
      ((catalogMachine silentStellar).run ownedCatalog
        [.song (some otherArtist) (.submitMint "s1" .threw)]).map
          (fun state => (state.row "s1").map Song.mintStatus) = some (some .failed) ∧
      (ownedCatalog.row "s1").map (fun song => (song.genre, song.mintStatus)) =
        some (some "Afrobeat", .notMinted) ∧
      Stranger none ownedSong ∧ Stranger (some otherArtist) ownedSong := by
  decide +kernel

end AudioBlock.Songs
