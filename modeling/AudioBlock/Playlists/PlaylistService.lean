/-
The songs of a playlist and their stored positions: `addSong`, `removeSong`, `reorder` and
`moveSong`, one call after another.

A new row's identifier, and the order in which `moveSong` reads rows of one position, are
chosen outside.
-/
import AudioBlock.Foundation.Machine
import AudioBlock.Foundation.Positions
import AudioBlock.Songs.Song

namespace AudioBlock.Playlists

open AudioBlock.Foundation AudioBlock.Songs

structure Playlist where
  id : String
  userId : String
  isRuleBased : Bool
  deriving DecidableEq

inductive PlaylistCollaboratorRole
  | editor
  | viewer
  deriving DecidableEq

structure PlaylistCollaborator where
  playlistId : String
  userId : String
  role : PlaylistCollaboratorRole
  deriving DecidableEq

structure PlaylistSong where
  id : String
  playlistId : String
  songId : String
  position : Nat
  deriving DecidableEq

/-- `songs` has the identifiers of the songs that exist. -/
structure PlaylistTables where
  playlists : List Playlist
  collaborators : List PlaylistCollaborator
  songs : List String
  playlistSongs : List PlaylistSong
  deriving DecidableEq

/-- `entry.position = index`. -/
def PlaylistSong.place (entry : PlaylistSong) (index : Nat) : PlaylistSong :=
  { entry with position := index }

namespace PlaylistTables

def entries (tables : PlaylistTables) (playlistId : String) : List PlaylistSong :=
  tables.playlistSongs.filter fun entry => decide (entry.playlistId = playlistId)

def isEditorCollaborator (tables : PlaylistTables) (playlistId userId : String) : Bool :=
  tables.collaborators.any fun collaborator =>
    decide (collaborator.playlistId = playlistId ∧ collaborator.userId = userId ∧
      collaborator.role = .editor)

def getEditablePlaylist (tables : PlaylistTables) (playlistId userId : String) :
    Except AppError Playlist :=
  match findRow Playlist.id playlistId tables.playlists with
  | none => .error (.notFound "Playlist not found" "PLAYLIST_NOT_FOUND")
  | some playlist =>
      if playlist.userId = userId ∨ tables.isEditorCollaborator playlistId userId = true then
        .ok playlist
      else
        .error (.authorization "You do not have edit access to this playlist" "NOT_PLAYLIST_EDITOR")

/-- The playlist may be edited, and its songs are not those of a rule; `refusal` is what the
caller says otherwise. -/
def getManualPlaylist (tables : PlaylistTables) (playlistId userId refusal : String) :
    Except AppError Playlist :=
  match tables.getEditablePlaylist playlistId userId with
  | .error thrown => .error thrown
  | .ok playlist =>
      if playlist.isRuleBased then .error (.validation refusal "PLAYLIST_RULE_BASED")
      else .ok playlist

/-- `playlistSongRepo.save(entries)`. -/
def saveEntries (tables : PlaylistTables) (saved : List PlaylistSong) : PlaylistTables :=
  { tables with
    playlistSongs :=
      saved.foldl (fun rows entry => saveRow PlaylistSong.id entry rows) tables.playlistSongs }

/-- `maximum('position', { playlistId })`, and then `(maxPosition ?? -1) + 1`. -/
def nextPosition (tables : PlaylistTables) (playlistId : String) : Nat :=
  match ((tables.entries playlistId).map PlaylistSong.position).max? with
  | none => 0
  | some maxPosition => maxPosition + 1

/-! ### The operations -/

def addSong (tables : PlaylistTables) (drawn playlistId userId songId : String) :
    Except AppError PlaylistTables :=
  match tables.getManualPlaylist playlistId userId
      "Cannot manually add songs to a rule-based playlist" with
  | .error thrown => .error thrown
  | .ok _ =>
      if songId ∉ tables.songs then .error (.notFound "Song not found" "SONG_NOT_FOUND")
      else if songId ∈ (tables.entries playlistId).map PlaylistSong.songId then .ok tables
      else
        .ok { tables with
          playlistSongs :=
            tables.playlistSongs ++ [⟨drawn, playlistId, songId, tables.nextPosition playlistId⟩] }

def songNotInPlaylist : AppError := .notFound "Song is not in this playlist" "PLAYLIST_SONG_NOT_FOUND"

def removeSong (tables : PlaylistTables) (playlistId userId songId : String) :
    Except AppError PlaylistTables :=
  match tables.getManualPlaylist playlistId userId
      "Cannot manually remove songs from a rule-based playlist" with
  | .error thrown => .error thrown
  | .ok _ =>
      if songId ∈ (tables.entries playlistId).map PlaylistSong.songId then
        .ok { tables with
          playlistSongs := tables.playlistSongs.filter fun entry =>
            !decide (entry.playlistId = playlistId ∧ entry.songId = songId) }
      else .error songNotInPlaylist

def lastIndex (songIds : List String) (songId : String) : Nat :=
  songIds.length - 1 - songIds.reverse.idxOf songId

/-- `entryBySongId.get(songId)` for each song; the map has the last entry of a song. -/
def listedEntries (entries : List PlaylistSong) (songIds : List String) : List PlaylistSong :=
  songIds.filterMap fun songId => findRow PlaylistSong.songId songId entries.reverse

/-- The entries that `songIds.map` returns; one that is named twice keeps its last index. -/
def reordered (entries : List PlaylistSong) (songIds : List String) : List PlaylistSong :=
  (listedEntries entries songIds).map fun entry => entry.place (lastIndex songIds entry.songId)

def reorder (tables : PlaylistTables) (playlistId userId : String) (songIds : List String) :
    Except AppError PlaylistTables :=
  match tables.getManualPlaylist playlistId userId
      "Cannot manually reorder a rule-based playlist" with
  | .error thrown => .error thrown
  | .ok _ =>
      if songIds = [] then
        .error (.validation "songIds must be a non-empty array of song ids"
          "PLAYLIST_REORDER_INVALID")
      else
        let missing := songIds.filter fun songId =>
          decide (songId ∉ (tables.entries playlistId).map PlaylistSong.songId)
        if missing ≠ [] then
          .error (.validation ("Songs not in playlist: " ++ ", ".intercalate missing)
            "PLAYLIST_SONG_NOT_FOUND")
        else .ok (tables.saveEntries (reordered (tables.entries playlistId) songIds))

/-- `filter` and `splice(target, 0, entry)`. -/
def moved (entries : List PlaylistSong) (entry : PlaylistSong) (target : Nat) :
    List PlaylistSong :=
  let ordered := entries.filter fun other => decide (other.songId ≠ entry.songId)
  ordered.take target ++ entry :: ordered.drop target

/-- `entries` is what the query in the order of positions answers. -/
def moveSong (tables : PlaylistTables) (playlistId userId songId : String) (newPosition : Rat)
    (entries : List PlaylistSong) : Except AppError PlaylistTables :=
  match tables.getManualPlaylist playlistId userId
      "Cannot manually reorder a rule-based playlist" with
  | .error thrown => .error thrown
  | .ok _ =>
      if newPosition.den ≠ 1 ∨ newPosition < 0 then
        .error (.validation "newPosition must be a non-negative integer" "PLAYLIST_REORDER_INVALID")
      else
        match entries.find? fun entry => decide (entry.songId = songId) with
        | none => .error songNotInPlaylist
        | some entry =>
            let target := min newPosition.num.toNat (entries.length - 1)
            if target = entry.position then .ok tables
            else .ok (tables.saveEntries (numbered PlaylistSong.place (moved entries entry target)))

end PlaylistTables

/-! ### The system -/

inductive PlaylistOperation
  | addSong (drawn playlistId userId songId : String)
  | removeSong (playlistId userId songId : String)
  | reorder (playlistId userId : String) (songIds : List String)
  | moveSong (playlistId userId songId : String) (newPosition : Rat)
      (entries : List PlaylistSong)

def perform (tables : PlaylistTables) : PlaylistOperation → Except AppError PlaylistTables
  | .addSong drawn playlistId userId songId => tables.addSong drawn playlistId userId songId
  | .removeSong playlistId userId songId => tables.removeSong playlistId userId songId
  | .reorder playlistId userId songIds => tables.reorder playlistId userId songIds
  | .moveSong playlistId userId songId newPosition entries =>
      tables.moveSong playlistId userId songId newPosition entries

/-- A new row has a new identifier, and a query answers as it is asked. -/
def Answers (tables : PlaylistTables) : PlaylistOperation → Prop
  | .addSong drawn _ _ _ => drawn ∉ tables.playlistSongs.map PlaylistSong.id
  | .moveSong playlistId _ _ _ entries =>
      OrderedRead PlaylistSong.position (tables.entries playlistId) entries
  | .removeSong _ _ _ | .reorder _ _ _ => True

instance (tables : PlaylistTables) : DecidablePred (Answers tables)
  | .addSong drawn _ _ _ => inferInstanceAs (Decidable (drawn ∉ _))
  | .moveSong _ _ _ _ entries => inferInstanceAs (Decidable (OrderedRead _ _ entries))
  | .removeSong _ _ _ | .reorder _ _ _ => isTrue trivial

/-- An operation that throws has written nothing. -/
def playlistStep (tables : PlaylistTables) (operation : PlaylistOperation) :
    Option PlaylistTables :=
  if Answers tables operation then
    match perform tables operation with
    | .error _ => some tables
    | .ok after => some after
  else none

/-- Each row has its own identifier, and a playlist has a song once. -/
structure Keyed (tables : PlaylistTables) : Prop where
  ids : (tables.playlistSongs.map PlaylistSong.id).Nodup
  songs : ∀ playlistId, ((tables.entries playlistId).map PlaylistSong.songId).Nodup

def playlistMachine : Machine PlaylistTables PlaylistOperation where
  initial := Keyed
  step := playlistStep

end AudioBlock.Playlists
