/-
Submissions and resolutions of reports at their awaited calls, and other writers of the songs.

A submission loads the song before the AI is asked about the report, and saves it whole if the
count of pending reports reaches the threshold.  The report itself is saved a second time with
its scores: the columns that the submission never set stay as they are in the row, its status is
pending again.  Whoever else writes a song may change every column but its identifier.
-/
import AudioBlock.Foundation.Machine
import AudioBlock.Moderation.TakedownReversal

namespace AudioBlock.Moderation

open AudioBlock.Foundation AudioBlock.Songs

structure SongWrite where
  apply : Song → Song
  keepsId : ∀ song, (apply song).id = song.id

inductive ReportCall
  | findSong (songId reporterId : String) (reason : ReportReason) (input : SubmitReportInput)
  | findExisting (song : Song) (reporterId : String) (reason : ReportReason)
      (input : SubmitReportInput)
  | insertReport (song : Song) (reporterId : String) (reason : ReportReason)
      (input : SubmitReportInput)
  /-- The AI is asked for the scores of the report. -/
  | triage (song : Song) (report : ContentReport)
  | saveScores (song : Song) (report : ContentReport)
  | countReports (song : Song)
  | saveFlagged (song : Song) (pendingReports now : Nat)
  | findReport (reportId moderatorId : String) (action : ReportAction) (note : Option String)
  | saveResolved (report : ContentReport) (moderatorId : String) (action : ReportAction)
  | findReported (songId moderatorId : String) (action : ReportAction)
  | saveUpheld (song : Song) (moderatorId : String) (action : ReportAction) (now : Nat)
  | countRemaining (song : Song)
  | saveLifted (song : Song)
  | ended
  | thrown (error : AppError)

/-- Beside the tables, where the flags come from: `byThreshold` holds of a song that the
threshold has flagged with no other writer of its moderation fields since, `excused` of one
whose flag another writer has taken away since its last report. -/
structure ReportingState where
  songs : List Song
  reports : List ContentReport
  calls : List ReportCall
  byThreshold : String → Bool
  excused : String → Bool

inductive ReportLabel
  | submitReport (songId reporterId : String) (input : SubmitReportInput)
  | resolveReport (reportId moderatorId : String) (input : ResolveReportInput)
  | otherWrite (songId : String) (write : SongWrite)
  | step (index now : Nat) (drawn : String)
  /-- The AI has answered, or its call has failed. -/
  | scored (index : Nat) (answered : Bool)

def newReport (drawn songId reporterId : String) (reason : ReportReason)
    (input : SubmitReportInput) : ContentReport :=
  { id := drawn
    songId := songId
    reporterId := reporterId
    reason := reason
    description := trimmedText input.description
    status := .pending
    actionTaken := none
    resolvedBy := none
    resolvedAt := none
    resolutionNote := none
    aiConsent := input.aiConsent }

def duplicateReport : AppError :=
  .plain "duplicate key value violates unique constraint \"UQ_content_report_reporter_song\""

def scoredReport (reports : List ContentReport) (report : ContentReport) : ContentReport :=
  match findRow ContentReport.id report.id reports with
  | none => report
  | some row =>
      { report with
        actionTaken := row.actionTaken
        resolvedBy := row.resolvedBy
        resolvedAt := row.resolvedAt
        resolutionNote := row.resolutionNote }

namespace ReportingState

def place (state : ReportingState) (index : Nat) (call : ReportCall) : ReportingState :=
  { state with calls := state.calls.set index call }

def saveSong (state : ReportingState) (song : Song) (byThreshold : Bool) : ReportingState :=
  { state with
    songs := storeRow Song.id song state.songs
    byThreshold := fun id => if id = song.id then byThreshold else state.byThreshold id }

def insertReport (state : ReportingState) (report : ContentReport) : ReportingState :=
  { state with
    reports := state.reports ++ [report]
    excused := fun id => if id = report.songId then false else state.excused id }

def saveReport (state : ReportingState) (report : ContentReport) : ReportingState :=
  { state with reports := storeRow ContentReport.id report state.reports }

def otherWrite (state : ReportingState) (songId : String) (write : SongWrite) : ReportingState :=
  { state with
    songs := state.songs.map fun song => if song.id = songId then write.apply song else song
    byThreshold := fun id =>
      state.byThreshold id && !(decide (id = songId) && state.songs.any fun song =>
        decide (song.id = id ∧ moderationFields (write.apply song) ≠ moderationFields song))
    excused := fun id =>
      state.excused id || (decide (id = songId) && state.songs.any fun song =>
        decide (song.id = id ∧ song.flagged = true ∧ (write.apply song).flagged = false)) }

end ReportingState

def orThrown (call : Except AppError ReportCall) : ReportCall :=
  match call with
  | .error error => .thrown error
  | .ok next => next

def upheldSong (song : Song) (moderatorId : String) (action : ReportAction) (now : Nat) : Song :=
  flaggedSong song moderatorId now (some ("Content report resolution: " ++ action.text))

def performReport (threshold : Nat) (state : ReportingState) (now : Nat) (drawn : String) :
    ReportCall → Option (ReportingState × ReportCall)
  | .findSong songId reporterId reason input =>
      some (state, match findRow Song.id songId state.songs with
        | none => .thrown (.notFound "Song not found" "SONG_NOT_FOUND")
        | some song => .findExisting song reporterId reason input)
  | .findExisting song reporterId reason input =>
      some (state,
        if state.reports.any fun report =>
            decide (report.songId = song.id ∧ report.reporterId = reporterId) then
          .thrown (.conflict "You have already reported this song" "DUPLICATE_REPORT")
        else .insertReport song reporterId reason input)
  | .insertReport song reporterId reason input =>
      if drawn ∈ state.reports.map ContentReport.id then none
      else if state.reports.any fun report =>
          decide (report.songId = song.id ∧ report.reporterId = reporterId) then
        some (state, .thrown duplicateReport)
      else
        let report := newReport drawn song.id reporterId reason input
        some (state.insertReport report,
          if report.aiConsent then .triage song report else .countReports song)
  | .saveScores song report =>
      some (state.saveReport (scoredReport state.reports report), .countReports song)
  | .countReports song =>
      let pendingReports := countPendingForSong state.reports song.id
      some (state,
        if song.flagged = true ∨ pendingReports < threshold then .ended
        else .saveFlagged song pendingReports now)
  | .saveFlagged song pendingReports flaggedAt =>
      some (state.saveSong (autoFlaggedSong song pendingReports flaggedAt) true, .ended)
  | .findReport reportId moderatorId action note =>
      some (state, match findRow ContentReport.id reportId state.reports with
        | none => .thrown (.notFound "Report not found" "REPORT_NOT_FOUND")
        | some report =>
            if report.status = .resolved then
              .thrown (.conflict "Report is already resolved" "REPORT_ALREADY_RESOLVED")
            else .saveResolved (report.settled moderatorId action note now) moderatorId action)
  | .saveResolved report moderatorId action =>
      some (state.saveReport report, .findReported report.songId moderatorId action)
  | .findReported songId moderatorId action =>
      some (state, match findRow Song.id songId state.songs with
        | none => .ended
        | some song =>
            if action = .songFlagged ∨ action = .songRemoved then
              .saveUpheld song moderatorId action now
            else .countRemaining song)
  | .saveUpheld song moderatorId action flaggedAt =>
      some (state.saveSong (upheldSong song moderatorId action flaggedAt) false, .ended)
  | .countRemaining song =>
      some (state,
        if countPendingForSong state.reports song.id = 0 ∧ song.flagged = true ∧
            song.flaggedBy = none then .saveLifted song
        else .ended)
  | .saveLifted song => some (state.saveSong (liftedSong song) false, .ended)
  | .triage _ _ | .ended | .thrown _ => none

/-- Without scores a submission goes on all the same. -/
def scoreReportWithAI (answered : Bool) : ReportCall → Option ReportCall
  | .triage song report => some (if answered then .saveScores song report else .countReports song)
  | _ => none

def ReportingState.reply (threshold : Nat) (state : ReportingState) (label : ReportLabel)
    (call : ReportCall) : Option (ReportingState × ReportCall) :=
  match label with
  | .step _ now drawn => performReport threshold state now drawn call
  | .scored _ answered => (scoreReportWithAI answered call).map fun next => (state, next)
  | .submitReport _ _ _ | .resolveReport _ _ _ | .otherWrite _ _ => none

def reportStep (threshold : Nat) (state : ReportingState) (label : ReportLabel) :
    Option ReportingState :=
  match label with
  | .submitReport songId reporterId input =>
      some { state with
        calls := state.calls ++ [orThrown ((parseReason input.reason).map fun reason =>
          .findSong songId reporterId reason input)] }
  | .resolveReport reportId moderatorId input =>
      some { state with
        calls := state.calls ++ [orThrown ((parseAction input.actionTaken).map fun action =>
          .findReport reportId moderatorId action input.resolutionNote)] }
  | .otherWrite songId write => some (state.otherWrite songId write)
  | .step index _ _ | .scored index _ =>
      state.calls[index]?.bind fun call =>
        (state.reply threshold label call).map fun answer => answer.1.place index answer.2

/-! ### One operation alone -/

section Alone

variable {threshold : Nat} {state : ReportingState} {now : Nat} {drawn : String}

end Alone

end AudioBlock.Moderation
