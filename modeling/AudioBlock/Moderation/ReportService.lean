/-
Content reports on songs, and the flags that come of them.

Once a song has enough pending reports it is flagged without an author; a moderator who
resolves a report flags the song, or lifts such a flag with the last pending report.
The AI's scores of a report are advisory and left out.
-/
import AudioBlock.Foundation.Rows
import AudioBlock.Foundation.Text
import AudioBlock.Moderation.TakedownService

namespace AudioBlock.Moderation

open AudioBlock.Foundation AudioBlock.Songs

inductive ReportReason
  | copyright
  | explicit
  | spam
  | other
  deriving DecidableEq

inductive ReportStatus
  | pending
  | resolved
  deriving DecidableEq

inductive ReportAction
  | noAction
  | songFlagged
  | songRemoved
  | dismissed
  deriving DecidableEq

def ReportReason.text : ReportReason → String
  | .copyright => "copyright"
  | .explicit => "explicit"
  | .spam => "spam"
  | .other => "other"

def ReportAction.text : ReportAction → String
  | .noAction => "no_action"
  | .songFlagged => "song_flagged"
  | .songRemoved => "song_removed"
  | .dismissed => "dismissed"

def validReasons : List ReportReason := [.copyright, .explicit, .spam, .other]

def validActions : List ReportAction := [.noAction, .songFlagged, .songRemoved, .dismissed]

structure ContentReport where
  id : String
  songId : String
  reporterId : String
  reason : ReportReason
  description : Option String
  status : ReportStatus
  actionTaken : Option ReportAction
  resolvedBy : Option String
  resolvedAt : Option Nat
  resolutionNote : Option String
  aiConsent : Bool
  deriving DecidableEq

structure SubmitReportInput where
  reason : String
  description : Option String
  aiConsent : Bool

structure ResolveReportInput where
  actionTaken : String
  resolutionNote : Option String

structure ReportState where
  songs : List Song
  reports : List ContentReport

def ReportState.saveSong (state : ReportState) (song : Song) : ReportState :=
  { state with songs := saveRow Song.id song state.songs }

/-- The values are ASCII texts, so only ASCII letters need lowering. -/
def normalized (raw : String) : String := (String.ofList (trim raw.toList)).toLower

def parseReason (raw : String) : Except AppError ReportReason :=
  match validReasons.find? fun reason => decide (reason.text = normalized raw) with
  | some reason => .ok reason
  | none =>
      .error (.validation
        ("reason must be one of: " ++ ", ".intercalate (validReasons.map ReportReason.text))
        "INVALID_REPORT_REASON")

def parseAction (raw : String) : Except AppError ReportAction :=
  match validActions.find? fun action => decide (action.text = normalized raw) with
  | some action => .ok action
  | none =>
      .error (.validation
        ("actionTaken must be one of: " ++ ", ".intercalate (validActions.map ReportAction.text))
        "INVALID_REPORT_ACTION")

def trimmedText (text : Option String) : Option String :=
  truthy (text.map fun written => String.ofList (trim written.toList))

def countPendingForSong (reports : List ContentReport) (songId : String) : Nat :=
  (reports.filter fun report =>
    decide (report.songId = songId ∧ report.status = .pending)).length

def autoFlaggedSong (song : Song) (pendingReports now : Nat) : Song :=
  { song with
    flagged := true
    flaggedAt := some now
    flaggedBy := none
    flagReason :=
      some ("Auto-flagged after " ++ toString pendingReports ++ " pending content reports") }

def applyThreshold (threshold : Nat) (state : ReportState) (song : Song)
    (pendingReports now : Nat) : ReportState × Bool :=
  if song.flagged = true ∨ pendingReports < threshold then (state, false)
  else (state.saveSong (autoFlaggedSong song pendingReports now), true)

def submitReport (threshold : Nat) (state : ReportState) (drawn songId reporterId : String)
    (input : SubmitReportInput) (now : Nat) : Except AppError (ReportState × Bool) := do
  let reason ← parseReason input.reason
  match findRow Song.id songId state.songs with
  | none => .error (.notFound "Song not found" "SONG_NOT_FOUND")
  | some song =>
      if state.reports.any fun report =>
          decide (report.songId = songId ∧ report.reporterId = reporterId) then
        .error (.conflict "You have already reported this song" "DUPLICATE_REPORT")
      else
        let report : ContentReport :=
          { id := drawn
            songId := songId
            reporterId := reporterId
            reason := reason
            description := trimmedText input.description
            status := .pending
            actionTaken := none
            resolvedBy := none
            resolvedAt := none
            resolutionNote := none
            aiConsent := input.aiConsent }
        let saved := { state with reports := state.reports ++ [report] }
        .ok (applyThreshold threshold saved song (countPendingForSong saved.reports songId) now)

/-- The song after the flag of the threshold has been lifted; its author stays `null`. -/
def liftedSong (song : Song) : Song :=
  { song with flagged := false, flaggedAt := none, flagReason := none }

def applyResolutionToSong (state : ReportState) (songId moderatorId : String)
    (action : ReportAction) (now : Nat) : ReportState :=
  match findRow Song.id songId state.songs with
  | none => state
  | some song =>
      if action = .songFlagged ∨ action = .songRemoved then
        state.saveSong (flaggedSong song moderatorId now
          (some ("Content report resolution: " ++ action.text)))
      else if countPendingForSong state.reports songId = 0 ∧ song.flagged = true ∧
          song.flaggedBy = none then
        state.saveSong (liftedSong song)
      else state

def ContentReport.settled (report : ContentReport) (moderatorId : String) (action : ReportAction)
    (note : Option String) (now : Nat) : ContentReport :=
  { report with
    status := .resolved
    actionTaken := some action
    resolvedBy := some moderatorId
    resolvedAt := some now
    resolutionNote := trimmedText note }

def resolveReport (state : ReportState) (reportId moderatorId : String)
    (input : ResolveReportInput) (now : Nat) :
    Except AppError (ReportState × ContentReport) := do
  let action ← parseAction input.actionTaken
  match findRow ContentReport.id reportId state.reports with
  | none => .error (.notFound "Report not found" "REPORT_NOT_FOUND")
  | some report =>
      if report.status = .resolved then
        .error (.conflict "Report is already resolved" "REPORT_ALREADY_RESOLVED")
      else
        let resolved := report.settled moderatorId action input.resolutionNote now
        let saved := { state with reports := saveRow ContentReport.id resolved state.reports }
        .ok (applyResolutionToSong saved report.songId moderatorId action now, resolved)

end AudioBlock.Moderation
