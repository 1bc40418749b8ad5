/-
Takedown requests, and the other ways in which moderators flag a song.

A song is unpublished by one flag that takedowns, single flags and bulk moderation
share.  An approval stores what the flag was, a reversal restores that.  Audit log
entries are left out, and texts are cut by characters.
-/
import Mathlib.Data.List.Infix
import AudioBlock.Foundation.Rows
import AudioBlock.Songs.Song

namespace AudioBlock.Moderation

open AudioBlock.Foundation AudioBlock.Songs

inductive TakedownStatus
  | pending
  | approved
  | rejected
  | reversed
  deriving DecidableEq

inductive TakedownReason
  | copyright
  | trademark
  | other
  deriving DecidableEq

def TakedownReason.text : TakedownReason → String
  | .copyright => "copyright"
  | .trademark => "trademark"
  | .other => "other"

structure TakedownRequest where
  id : String
  songId : String
  requestedBy : String
  reason : TakedownReason
  description : Option String
  evidenceUrl : Option String
  status : TakedownStatus
  reviewedBy : Option String
  reviewNotes : Option String
  previousFlagged : Bool
  resolvedAt : Option Nat
  deriving DecidableEq

inductive ReviewAction
  | approve
  | reject
  | reverse
  deriving DecidableEq

structure ModerationState where
  songs : List Song
  takedowns : List TakedownRequest
  deriving DecidableEq

namespace ModerationState

def saveSong (state : ModerationState) (song : Song) : ModerationState :=
  { state with songs := saveRow Song.id song state.songs }

def saveTakedown (state : ModerationState) (takedown : TakedownRequest) : ModerationState :=
  { state with takedowns := saveRow TakedownRequest.id takedown state.takedowns }

end ModerationState

def flaggedSong (song : Song) (adminId : String) (now : Nat) (reason : Option String) : Song :=
  { song with
    flagged := true
    flaggedAt := some now
    flaggedBy := some adminId
    flagReason := reason }

def unflaggedSong (song : Song) : Song :=
  { song with
    flagged := false
    flaggedAt := none
    flaggedBy := none
    flagReason := none }

/-! ### Takedowns -/

def createRequest (state : ModerationState) (drawn requestedBy songId : String)
    (reason : TakedownReason) (description evidenceUrl : Option String) :
    Except AppError ModerationState :=
  match findRow Song.id songId state.songs with
  | none => .error (.withStatus "Song not found" 404)
  | some song =>
      let takedown : TakedownRequest :=
        { id := drawn
          songId := songId
          requestedBy := requestedBy
          reason := reason
          description := truthy description
          evidenceUrl := truthy evidenceUrl
          status := .pending
          reviewedBy := none
          reviewNotes := none
          previousFlagged := song.flagged
          resolvedAt := none }
      .ok { state with takedowns := state.takedowns ++ [takedown] }

def TakedownRequest.mark (takedown : TakedownRequest) : String := "takedown:" ++ takedown.id

def TakedownRequest.flagReason (takedown : TakedownRequest) (reviewNotes : Option String) :
    String :=
  String.ofList ((takedown.mark ++ ":" ++ takedown.reason.text ++ ":" ++
    reviewNotes.getD "").toList.take 500)

def TakedownRequest.reviewed (takedown : TakedownRequest) (status : TakedownStatus)
    (adminId : String) (reviewNotes : Option String) (now : Nat) : TakedownRequest :=
  { takedown with
    status := status
    reviewedBy := some adminId
    reviewNotes := truthy reviewNotes
    resolvedAt := some now }

/-- The song after a reversal.  Only the flag itself was stored, so a song that had
been flagged keeps its flag under another reason. -/
def TakedownRequest.restored (takedown : TakedownRequest) (song : Song) : Song :=
  if takedown.previousFlagged then
    if ∃ reason ∈ song.flagReason, takedown.mark.toList <:+: reason.toList then
      { song with flagReason := some "previously_flagged" }
    else song
  else unflaggedSong song

def reviewTakedown (state : ModerationState) (takedown : TakedownRequest) (song : Song)
    (adminId : String) (reviewNotes : Option String) (now : Nat) :
    ReviewAction → Except AppError ModerationState
  | .approve =>
      if takedown.status = .approved then .error (.plain "Takedown already approved")
      else
        .ok ((state.saveSong
            (flaggedSong song adminId now (some (takedown.flagReason reviewNotes)))).saveTakedown
          { takedown.reviewed .approved adminId reviewNotes now with
            previousFlagged := song.flagged })
  | .reject =>
      if takedown.status ≠ .pending then .error (.plain "Only pending takedowns can be rejected")
      else .ok (state.saveTakedown (takedown.reviewed .rejected adminId reviewNotes now))
  | .reverse =>
      if takedown.status ≠ .approved then .error (.plain "Only approved takedowns can be reversed")
      else
        .ok ((state.saveSong (takedown.restored song)).saveTakedown
          (takedown.reviewed .reversed adminId reviewNotes now))

def reviewRequest (state : ModerationState) (takedownId adminId : String) (action : ReviewAction)
    (reviewNotes : Option String) (now : Nat) : Except AppError ModerationState :=
  match findRow TakedownRequest.id takedownId state.takedowns with
  | none => .error (.withStatus "Takedown request not found" 404)
  | some takedown =>
      match findRow Song.id takedown.songId state.songs with
      | none => .error (.withStatus "Song not found for takedown" 404)
      | some song => reviewTakedown state takedown song adminId reviewNotes now action

/-! ### Single flags and bulk moderation -/

def flagSong (state : ModerationState) (songId adminId : String) (reason : Option String)
    (now : Nat) : Except AppError ModerationState :=
  match findRow Song.id songId state.songs with
  | none => .error (.plain "Song not found")
  | some song =>
      if song.flagged then .error (.plain "Song is already flagged")
      else .ok (state.saveSong (flaggedSong song adminId now (truthy reason)))

def unflagSong (state : ModerationState) (songId : String) : Except AppError ModerationState :=
  match findRow Song.id songId state.songs with
  | none => .error (.plain "Song not found")
  | some song =>
      if song.flagged then .ok (state.saveSong (unflaggedSong song))
      else .error (.plain "Song is not flagged")

inductive BulkModerationAction
  | approve
  | reject
  | flagForReview
  deriving DecidableEq

def applyAction (song : Song) (adminId : String) (now : Nat) :
    BulkModerationAction → Except AppError Song
  | .approve =>
      if song.status = .processing then
        .error (.plain "Song is still processing and cannot be approved")
      else .ok (unflaggedSong song)
  | .reject =>
      .ok { flaggedSong song adminId now (some "Rejected by admin moderation") with
        status := .failed
        errorReason := some "Rejected by admin moderation" }
  | .flagForReview =>
      .ok (flaggedSong song adminId now (some "Flagged for review by admin moderation"))

def bulkRow (songs : List Song) (action : BulkModerationAction) (adminId : String) (now : Nat)
    (songId : String) : Option Song :=
  (findRow Song.id songId songs).bind fun song => (applyAction song adminId now action).toOption

/-- The songs are loaded at once and saved one after another; a failure skips its
song only. -/
def bulkModerate (state : ModerationState) (songIds : List String) (action : BulkModerationAction)
    (adminId : String) (now : Nat) : ModerationState :=
  (songIds.filterMap (bulkRow state.songs action adminId now)).foldl ModerationState.saveSong state

end AudioBlock.Moderation
