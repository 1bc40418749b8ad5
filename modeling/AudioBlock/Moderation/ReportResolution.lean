/-
The resolution of a report at its awaited calls, for reports on songs and on comments
(src/services/ReportService.ts and src/services/CommentReportService.ts, `resolveReport`).

The two services write the same steps: the report is read and checked, saved as resolved, and
then the content is read and saved.  What they do differently is the record `ResolutionService`.
A call may be rejected; cache clears never are, their errors are caught.
-/
import AudioBlock.Foundation.Machine
import AudioBlock.Moderation.BulkModeration

namespace AudioBlock.Moderation

open AudioBlock.Foundation AudioBlock.Songs

/-- What a moderator decides, with the clock at the check. -/
structure Resolution (Action : Type) where
  moderatorId : String
  action : Action
  note : Option String
  resolvedAt : Nat

structure ResolutionService (Report Content Action : Type) where
  reportId : Report → String
  /-- The content that is reported. -/
  reportedId : Report → String
  contentId : Content → String
  pending : Report → Bool
  settled : Report → Resolution Action → Report
  parseAction : String → Except AppError Action
  notFound : AppError
  alreadyResolved : AppError
  /-- Whether the content is read for an action, and the pending reports are counted. -/
  reads : Action → Bool
  counts : Action → Bool
  countPending : List Report → String → Nat
  /-- What the action makes of the content, if that is to be saved. -/
  outcome : Resolution Action → Nat → Nat → Content → Option Content
  audit : Option (Resolution Action → Report → TransactionLog)
  settled_id : ∀ report resolution, reportId (settled report resolution) = reportId report
  settled_reportedId : ∀ report resolution,
    reportedId (settled report resolution) = reportedId report
  settled_pending : ∀ report resolution, pending (settled report resolution) = false

inductive ResolveCall (Report Content Action : Type)
  | findReport (moderatorId : String) (action : Action) (note : Option String)
  | saveReport (report : Report) (resolution : Resolution Action)
  | findContent (report : Report) (resolution : Resolution Action)
  | countPending (report : Report) (resolution : Resolution Action) (content : Content)
  | saveContent (report : Report) (resolution : Resolution Action) (changed : Content)
  | createLogEntry (report : Report) (entry : TransactionLog)
  | ended (report : Report)
  | thrown (error : AppError)

/-- `taken` has the resolutions whose report has been saved. -/
structure ResolutionState (Report Content Action : Type) where
  reports : List Report
  contents : List Content
  logs : List TransactionLog
  calls : List (ResolveCall Report Content Action)
  taken : List (Resolution Action)

inductive ResolutionLabel
  | resolveReport (moderatorId : String) (input : ResolveReportInput)
  | step (index now : Nat) (fails : Option AppError)

def ResolveCall.finished {Report Content Action : Type} :
    ResolveCall Report Content Action → Bool
  | .ended _ | .thrown _ => true
  | _ => false

section Calls

variable {Report Content Action : Type} (service : ResolutionService Report Content Action)

def ResolutionService.finish (report : Report) (resolution : Resolution Action) :
    ResolveCall Report Content Action :=
  match service.audit with
  | none => .ended report
  | some entry => .createLogEntry report (entry resolution report)

def ResolutionService.decide (report : Report) (resolution : Resolution Action) (content : Content)
    (pendingReports now : Nat) : ResolveCall Report Content Action :=
  match service.outcome resolution pendingReports now content with
  | none => service.finish report resolution
  | some changed => .saveContent report resolution changed

def performResolve (reportId : String) (state : ResolutionState Report Content Action) (now : Nat) :
    ResolveCall Report Content Action →
      Option (ResolutionState Report Content Action × ResolveCall Report Content Action)
  | .findReport moderatorId action note =>
      some (state, match findRow service.reportId reportId state.reports with
        | none => .thrown service.notFound
        | some report =>
            if service.pending report then
              .saveReport report { moderatorId, action, note, resolvedAt := now }
            else .thrown service.alreadyResolved)
  | .saveReport report resolution =>
      let saved := service.settled report resolution
      some ({ state with
          reports := storeRow service.reportId saved state.reports
          taken := state.taken ++ [resolution] },
        if service.reads resolution.action then .findContent saved resolution
        else service.finish saved resolution)
  | .findContent report resolution =>
      some (state, match findRow service.contentId (service.reportedId report) state.contents with
        | none => service.finish report resolution
        | some content =>
            if service.counts resolution.action then .countPending report resolution content
            else service.decide report resolution content 0 now)
  | .countPending report resolution content =>
      some (state, service.decide report resolution content
        (service.countPending state.reports (service.reportedId report)) now)
  | .saveContent report resolution changed =>
      some ({ state with contents := storeRow service.contentId changed state.contents },
        service.finish report resolution)
  | .createLogEntry report entry =>
      some ({ state with logs := state.logs ++ [entry] }, .ended report)
  | .ended _ | .thrown _ => none

def resolutionStep (reportId : String) (state : ResolutionState Report Content Action) :
    ResolutionLabel → Option (ResolutionState Report Content Action)
  | .resolveReport moderatorId input =>
      some { state with
        calls := state.calls ++ [match service.parseAction input.actionTaken with
          | .error error => .thrown error
          | .ok action => .findReport moderatorId action input.resolutionNote] }
  | .step index now fails =>
      state.calls[index]?.bind fun call =>
        (performResolve service reportId state now call).map fun answer =>
          match fails with
          | none => { answer.1 with calls := answer.1.calls.set index answer.2 }
          | some error => { state with calls := state.calls.set index (.thrown error) }

/-- The resolutions of one report, by any moderators in any order of their calls. -/
def resolutionMachine (reportId : String) :
    Machine (ResolutionState Report Content Action) ResolutionLabel where
  initial state := state.calls = [] ∧ state.taken = []
  step := resolutionStep service reportId

end Calls

/-! ### Reports on songs -/

def ReportAction.upholds (action : ReportAction) : Bool :=
  decide (action = .songFlagged ∨ action = .songRemoved)

def songOutcome (resolution : Resolution ReportAction) (stillPending now : Nat) (song : Song) :
    Option Song :=
  if resolution.action.upholds then
    some (flaggedSong song resolution.moderatorId now
      (some ("Content report resolution: " ++ resolution.action.text)))
  else if stillPending = 0 ∧ song.flagged = true ∧ song.flaggedBy = none then
    some (liftedSong song)
  else none

def resolvedEntry (resolution : Resolution ReportAction) (report : ContentReport) :
    TransactionLog :=
  { userId := resolution.moderatorId
    txHash := ""
    action := "REPORT_RESOLVED"
    description := "Report " ++ report.id ++ " on song " ++ report.songId ++
      " resolved with action " ++ resolution.action.text }

def songReports : ResolutionService ContentReport Song ReportAction where
  reportId := ContentReport.id
  reportedId := ContentReport.songId
  contentId := Song.id
  pending report := decide (report.status ≠ .resolved)
  settled report resolution :=
    report.settled resolution.moderatorId resolution.action resolution.note resolution.resolvedAt
  parseAction := parseAction
  notFound := .notFound "Report not found" "REPORT_NOT_FOUND"
  alreadyResolved := .conflict "Report is already resolved" "REPORT_ALREADY_RESOLVED"
  reads _action := true
  counts action := !action.upholds
  countPending := countPendingForSong
  outcome := songOutcome
  audit := some resolvedEntry
  settled_id _report _resolution := rfl
  settled_reportedId _report _resolution := rfl
  settled_pending _report _resolution := rfl

/-! ### Reports on comments -/

structure Comment where
  id : String
  userId : String
  songId : String
  text : String
  parentId : Option String
  depth : Nat
  edited : Bool
  flagged : Bool
  flaggedAt : Option Nat
  flagReason : Option String
  deriving DecidableEq

inductive CommentReportReason
  | harassment
  | spam
  | hateSpeech
  | inappropriate
  | other
  deriving DecidableEq

inductive CommentReportAction
  | noAction
  | commentFlagged
  | commentRemoved
  | dismissed
  deriving DecidableEq

def CommentReportAction.text : CommentReportAction → String
  | .noAction => "no_action"
  | .commentFlagged => "comment_flagged"
  | .commentRemoved => "comment_removed"
  | .dismissed => "dismissed"

def CommentReportAction.upholds (action : CommentReportAction) : Bool :=
  decide (action = .commentFlagged ∨ action = .commentRemoved)

structure CommentReport where
  id : String
  commentId : String
  reporterId : String
  reason : CommentReportReason
  description : Option String
  status : ReportStatus
  actionTaken : Option CommentReportAction
  resolvedBy : Option String
  resolvedAt : Option Nat
  resolutionNote : Option String
  deriving DecidableEq

def validCommentActions : List CommentReportAction :=
  [.noAction, .commentFlagged, .commentRemoved, .dismissed]

def parseCommentAction (raw : String) : Except AppError CommentReportAction :=
  match validCommentActions.find? fun action => decide (action.text = normalized raw) with
  | some action => .ok action
  | none =>
      .error (.validation
        ("actionTaken must be one of: " ++ ", ".intercalate (validCommentActions.map (·.text)))
        "INVALID_COMMENT_REPORT_ACTION")

def CommentReport.settled (report : CommentReport) (resolution : Resolution CommentReportAction) :
    CommentReport :=
  { report with
    status := .resolved
    actionTaken := some resolution.action
    resolvedBy := some resolution.moderatorId
    resolvedAt := some resolution.resolvedAt
    resolutionNote := trimmedText resolution.note }

def commentOutcome (resolution : Resolution CommentReportAction) (_stillPending now : Nat)
    (comment : Comment) : Option Comment :=
  if resolution.action.upholds then
    some { comment with
      flagged := true
      flaggedAt := some now
      flagReason := some ("Comment report resolution: " ++ resolution.action.text) }
  else none

def commentReports : ResolutionService CommentReport Comment CommentReportAction where
  reportId := CommentReport.id
  reportedId := CommentReport.commentId
  contentId := Comment.id
  pending report := decide (report.status ≠ .resolved)
  settled := CommentReport.settled
  parseAction := parseCommentAction
  notFound := .notFound "Comment report not found" "COMMENT_REPORT_NOT_FOUND"
  alreadyResolved :=
    .conflict "Comment report is already resolved" "COMMENT_REPORT_ALREADY_RESOLVED"
  reads := CommentReportAction.upholds
  counts _action := false
  countPending reports commentId :=
    (reports.filter fun report =>
      decide (report.commentId = commentId ∧ report.status = .pending)).length
  outcome := commentOutcome
  audit := none
  settled_id _report _resolution := rfl
  settled_reportedId _report _resolution := rfl
  settled_pending _report _resolution := rfl

end AudioBlock.Moderation
