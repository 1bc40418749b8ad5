/-
Re-uploads and rollbacks that interleave at their awaited calls.

A request is a place in a list with the call that it makes next and what it has
read so far.  Every call may fail, which ends the request; the unique index on
song and number may reject an insert, too.  A request remembers how many versions
its song had when it demoted them.  `settled` names the song of the request that
the last step ended.
-/
import AudioBlock.Foundation.Machine
import AudioBlock.Songs.SongVersionService

namespace AudioBlock.Songs

open AudioBlock.Foundation
open scoped List

inductive VersionTask
  | reupload (artistId : String) (input : VersionInput)
  | rollback (targetVersionNumber : Option Int) (artistId : String) (changeNote : Option String)
  deriving DecidableEq

/-- What a request has loaded for the version that it is about to store. -/
inductive VersionPlan
  | reupload (song : Song) (artistId : String) (input : VersionInput)
  | rollback (song : Song) (target : SongVersion) (artistId : String) (changeNote : Option String)
  deriving DecidableEq

def VersionPlan.version (plan : VersionPlan) (songId : String) (nextNumber : Nat) : SongVersion :=
  match plan with
  | .reupload song artistId input => reuploadVersion songId song artistId input nextNumber
  | .rollback _ target artistId changeNote =>
      rolledBackVersion songId target artistId changeNote nextNumber

def VersionPlan.pointed (plan : VersionPlan) (version : SongVersion) : Option Song :=
  match plan with
  | .reupload song _ input => some (song.pointAtReupload version input)
  | .rollback song _ _ _ => song.pointAtRollback version

inductive VersionCall
  | findSong (task : VersionTask)
  | count (song : Song) (artistId : String) (input : VersionInput)
  /-- The count inside `createInitialVersion`. -/
  | recount (song : Song) (artistId : String) (input : VersionInput)
  | createInitial (song : Song) (artistId : String) (input : VersionInput)
  | assertSongExists (song : Song) (versionNumber : Nat) (artistId : String)
      (changeNote : Option String)
  | findTarget (song : Song) (versionNumber : Nat) (artistId : String)
      (changeNote : Option String)
  | readLatest (plan : VersionPlan)
  | demote (plan : VersionPlan) (nextNumber : Nat)
  | insert (plan : VersionPlan) (nextNumber demoted : Nat)
  | saveSong (plan : VersionPlan) (version : SongVersion)
  | ended
  deriving DecidableEq

/-- Both operations are for the owner, and a rollback names a positive integer. -/
def afterFindSong (task : VersionTask) (found : Option Song) : VersionCall :=
  match found with
  | none => .ended
  | some song =>
      match task with
      | .reupload artistId input =>
          if song.artistId ≠ artistId then .ended else .count song artistId input
      | .rollback targetVersionNumber artistId changeNote =>
          if song.artistId ≠ artistId then .ended
          else
            match targetVersionNumber with
            | none => .ended
            | some number =>
                if number < 1 then .ended
                else .assertSongExists song number.toNat artistId changeNote

/-- The answer to a call and the next one. -/
def performVersion (table : SongState) (songId : String) :
    VersionCall → SongState × VersionCall
  | .findSong task => (table, afterFindSong task (findRow Song.id songId table.songs))
  | .count song artistId input =>
      (table,
        if versionsOf table.versions songId = [] then .recount song artistId input
        else .readLatest (.reupload song artistId input))
  | .recount song artistId input =>
      (table,
        if versionsOf table.versions song.id = [] then .createInitial song artistId input
        else .ended)
  | .createInitial song artistId input =>
      match insertVersion table.versions (initialVersion song song.artistId) with
      | none => (table, .ended)
      | some versions =>
          ({ table with versions := versions }, .readLatest (.reupload song artistId input))
  | .assertSongExists song versionNumber artistId changeNote =>
      (table,
        if findRow Song.id songId table.songs = none then .ended
        else .findTarget song versionNumber artistId changeNote)
  | .findTarget song versionNumber artistId changeNote =>
      (table,
        match findVersion table.versions songId versionNumber with
        | none => .ended
        | some target => .readLatest (.rollback song target artistId changeNote))
  | .readLatest plan =>
      (table, .demote plan (getLatestVersionNumber table.versions songId + 1))
  | .demote plan nextNumber =>
      ({ table with versions := demoteVersions table.versions songId },
        .insert plan nextNumber (versionsOf table.versions songId).length)
  | .insert plan nextNumber _ =>
      match insertVersion table.versions (plan.version songId nextNumber) with
      | none => (table, .ended)
      | some versions =>
          ({ table with versions := versions }, .saveSong plan (plan.version songId nextNumber))
  | .saveSong plan version =>
      (((plan.pointed version).map table.saveSong).getD table, .ended)
  | .ended => (table, .ended)

structure VersionRequest where
  songId : String
  next : VersionCall
  deriving DecidableEq

structure VersionState where
  table : SongState
  requests : List VersionRequest
  settled : Option String
  deriving DecidableEq

inductive VersionLabel
  | begin (songId : String) (task : VersionTask)
  | step (index : Nat)
  | fails (index : Nat)

def VersionState.moved (state : VersionState) (index : Nat) (songId : String)
    (answer : SongState × VersionCall) : VersionState :=
  { table := answer.1
    requests := state.requests.set index { songId := songId, next := answer.2 }
    settled := if answer.2 = .ended then some songId else none }

structure VersionOutcome where
  index : Nat
  request : VersionRequest
  answer : SongState × VersionCall

def VersionState.running (state : VersionState) (index : Nat) : Option VersionRequest :=
  state.requests[index]?.filter fun request => decide (request.next ≠ .ended)

def VersionState.outcome (state : VersionState) : VersionLabel → Option VersionOutcome
  | .begin _ _ => none
  | .step index =>
      (state.running index).map fun request =>
        ⟨index, request, performVersion state.table request.songId request.next⟩
  | .fails index => (state.running index).map fun request => ⟨index, request, state.table, .ended⟩

def versionStep (state : VersionState) (label : VersionLabel) : Option VersionState :=
  match label with
  | .begin songId task =>
      some
        { state with
          requests := state.requests ++ [{ songId := songId, next := .findSong task }]
          settled := none }
  | .step _ | .fails _ =>
      (state.outcome label).map fun outcome =>
        state.moved outcome.index outcome.request.songId outcome.answer

/-! ### The rows of a song -/

def numbersOf (versions : List SongVersion) (songId : String) : List Nat :=
  (versionsOf versions songId).map SongVersion.versionNumber

def activeVersions (versions : List SongVersion) (songId : String) : Nat :=
  (versionsOf versions songId).countP SongVersion.isActive

def countVersions (versions : List SongVersion) (songId : String) : Nat :=
  (versionsOf versions songId).length

/-- The numbers are distinct and contiguous from 1. -/
def Numbered (versions : List SongVersion) (songId : String) : Prop :=
  numbersOf versions songId ~ List.range' 1 (countVersions versions songId)

/-- Every song starts with a well-formed history or with none. -/
def versionMachine : Machine VersionState VersionLabel where
  initial state :=
    state.requests = [] ∧ state.settled = none ∧
      ∀ songId, Numbered state.table.versions songId ∧
        (versionsOf state.table.versions songId ≠ [] →
          activeVersions state.table.versions songId = 1)
  step := versionStep

end AudioBlock.Songs
