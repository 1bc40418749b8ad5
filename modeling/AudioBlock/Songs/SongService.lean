/-
Edits of a song's metadata by its owner or an admin.

A field of the body is undefined, `null` or a text.  `null` for the title is
written and then rejected by its column.  The cache is left out.
-/
import AudioBlock.Auth.AuthService
import AudioBlock.Auth.Tokens
import AudioBlock.Songs.SongVersionService
import Mathlib.Data.List.DropRight

namespace AudioBlock.Songs

open AudioBlock.Foundation
open AudioBlock.Auth (UserRole)
open AudioBlock.Auth (isWhitespace)

structure SongRequester where
  id : String
  role : Option UserRole

/-- The editable fields; the outer option is `undefined`, the inner one `null`. -/
structure UpdateSongInput where
  title : Option (Option String)
  description : Option (Option String)
  genreId : Option (Option String)
  composers : Option (Option String)
  lyrics : Option (Option String)
  language : Option (Option String)

def getSong (state : SongState) (id : String) : Except AppError Song :=
  match findRow Song.id id state.songs with
  | none => .error (.notFound "Song not found")
  | some song => .ok song

theorem getSong_found {state : SongState} {id : String} {song : Song}
    (found : getSong state id = .ok song) :
    findRow Song.id id state.songs = some song := by
  unfold getSong at found
  split at found
  · cases found
  · rename_i row same
    cases found
    exact same

def assertCanModify (song : Song) (requester : SongRequester) : Except AppError Unit :=
  if song.artistId ≠ requester.id ∧ requester.role ≠ some .admin then
    .error (.authorization "You can only modify your own songs" "NOT_SONG_OWNER")
  else .ok ()

/-- A field that the body defines and that differs from the song's. -/
def changes (written : Option (Option String)) (current : Option String) : Bool :=
  written.any fun value => decide (value ≠ current)

def lockedFields (song : Song) (data : UpdateSongInput) : List String :=
  ([("title", changes data.title (some song.title)),
    ("description", changes data.description song.description),
    ("genreId", changes data.genreId song.genreId)].filter Prod.snd).map Prod.fst

def assertUnlocked (song : Song) (data : UpdateSongInput) : Except AppError Unit :=
  if song.mintStatus = .minted ∧ lockedFields song data ≠ [] then
    .error (.conflict
      ("Cannot change " ++ ", ".intercalate (lockedFields song data) ++
        " after the song is minted on-chain") "SONG_FIELD_IMMUTABLE")
  else .ok ()

/-- The edited row, unless its title would be `null`. -/
def Song.edited (song : Song) (data : UpdateSongInput) : Except AppError Song :=
  match data.title.getD (some song.title) with
  | none => .error rejectedWrite
  | some title =>
      .ok { song with
        title := title
        description := data.description.getD song.description
        genreId := data.genreId.getD song.genreId
        composers := data.composers.getD song.composers
        lyrics := data.lyrics.getD song.lyrics
        language := data.language.getD song.language }

theorem edited_keeps {song saved : Song} {data : UpdateSongInput}
    (edited : song.edited data = .ok saved) :
    saved.id = song.id ∧ saved.mintStatus = song.mintStatus := by
  unfold Song.edited at edited
  split at edited
  · cases edited
  · cases edited
    exact ⟨rfl, rfl⟩

/-- An accepted edit of a minted song keeps what the token carries. -/
def updateSong (state : SongState) (id : String) (data : UpdateSongInput)
    (requester : SongRequester) : Except AppError SongState := do
  let song ← getSong state id
  assertCanModify song requester
  assertUnlocked song data
  let edited ← song.edited data
  .ok (state.saveSong edited)

/-- What a successful mint writes. -/
def Song.asMinted (song : Song) (onChainSongId onChainTokenId : String) : Song :=
  { song with
    onChainSongId := some onChainSongId
    onChainTokenId := some onChainTokenId
    mintStatus := .minted }

/-- What `deleteSong` leaves of a song whose token exists or may exist. -/
def Song.hidden (song : Song) (requesterId : String) (now : Nat) : Song :=
  { song with
    flagged := true
    flaggedAt := some now
    flaggedBy := some requesterId
    flagReason := some "Hidden by owner (song is minted on-chain)" }

/-!
### Bulk updates of the genre

The ids and the genre come from the body of `POST /api/batch` as they are: an entry
that is no string is `none`, and a body without an array of ids counts as an empty
one.  The songs are loaded at once and saved one after another; a save that throws
fails its song only.  The details of the validation errors are left out.
-/

def bulkCatalogMaxBatch : Nat := 50

def trim (text : String) : String :=
  String.ofList ((text.toList.dropWhile isWhitespace).rdropWhile isWhitespace)

/-- An entry that is a string with more than white space. -/
def trimmedId (raw : Option String) : Option String :=
  (raw.map trim).filter fun id => decide (id ≠ "")

def parseSongIds (raw : List (Option String)) : Except AppError (List String) :=
  if raw = [] then .error (.validation "songIds must be a non-empty array" "INVALID_SONG_IDS")
  else
    match raw.mapM trimmedId with
    | none =>
        .error (.validation "songIds must contain only non-empty strings" "INVALID_SONG_IDS")
    | some trimmed =>
        if bulkCatalogMaxBatch < trimmed.eraseDups.length then
          .error (.validation
            ("Batch size exceeds the maximum of " ++ toString bulkCatalogMaxBatch ++
              " songs per request") "BATCH_TOO_LARGE")
        else .ok trimmed.eraseDups

def parseGenre (raw : String) : Except AppError String :=
  if trim raw = "" then .error (.validation "genre must be a non-empty string" "INVALID_GENRE")
  else .ok (trim raw)

/-- What a body asks for: the ids, the genre, and what the saves that throw say. -/
structure GenreBatch where
  songIds : List (Option String)
  genre : String
  saveFails : String → Option String

inductive BulkCatalogItemResult
  | updated (songId genre : String)
  | failed (songId : String) (status : Nat) (code message : String)

def BulkCatalogItemResult.status : BulkCatalogItemResult → Nat
  | .updated _ _ => 200
  | .failed _ status _ _ => status

structure BulkCatalogResponse where
  requested : Nat
  succeeded : Nat
  failed : Nat
  results : List BulkCatalogItemResult

def genreResult (songs : List Song) (genre : String) (saveFails : String → Option String)
    (songId : String) : BulkCatalogItemResult :=
  match findRow Song.id songId songs with
  | none => .failed songId 404 "SONG_NOT_FOUND" ("Song " ++ songId ++ " not found")
  | some _ =>
      match saveFails songId with
      | some message => .failed songId 500 "GENRE_UPDATE_FAILED" message
      | none => .updated songId genre

def genreRow (songs : List Song) (genre : String) (saveFails : String → Option String)
    (songId : String) : Option Song :=
  if saveFails songId = none then
    (findRow Song.id songId songs).map fun song => { song with genre := some genre }
  else none

def bulkGenreUpdate (state : SongState) (batch : GenreBatch) :
    SongState × Except AppError BulkCatalogResponse :=
  match parseSongIds batch.songIds with
  | .error failure => (state, .error failure)
  | .ok ids =>
      match parseGenre batch.genre with
      | .error failure => (state, .error failure)
      | .ok genre =>
          let results := ids.map (genreResult state.songs genre batch.saveFails)
          let succeeded := results.countP fun result => decide (result.status = 200)
          ((ids.filterMap (genreRow state.songs genre batch.saveFails)).foldl
              SongState.saveSong state,
            .ok
              { requested := ids.length
                succeeded := succeeded
                failed := ids.length - succeeded
                results := results })

example : (parseSongIds [some " s1 ", some "s2", some "s1"]).toOption = some ["s1", "s2"] := by
  decide +kernel

end AudioBlock.Songs
