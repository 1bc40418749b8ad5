/-
Everything that sets or lifts the flag of a song, one operation after another.

`demands` remembers who has demanded the flags in force, oldest first, and `dismissals`
what became of a flag when the last pending report of its song was dismissed; the code
reads neither.
-/
import AudioBlock.Moderation.FlagCoverage
import AudioBlock.Moderation.ReportService
import AudioBlock.Songs.SongRequests

namespace AudioBlock.Moderation

open AudioBlock.Foundation AudioBlock.Songs

/-- What the comparison with the other fingerprints found, with the similarity as the
percentage that the flag's reason gives. -/
structure DuplicateCheckResult where
  isNearDuplicate : Bool
  matchedSongId : Option String
  percent : Nat

/-- The columns of the fingerprint itself are left out. -/
def fingerprintedSong (song : Song) (result : DuplicateCheckResult) : Song :=
  if result.isNearDuplicate then
    { song with
      flagged := true
      flagReason :=
        some ("Flagged for duplicate/plagiarism review: " ++ toString result.percent ++
          "% match with song " ++ result.matchedSongId.getD "undefined") }
  else song

def processSongFingerprint (state : ModerationState) (songId : String)
    (result : DuplicateCheckResult) : Except AppError ModerationState :=
  match findRow Song.id songId state.songs with
  | none => .error (.plain ("Song " ++ songId ++ " not found"))
  | some song => .ok (state.saveSong (fingerprintedSong song result))

/-- `deleteSong` on the songs, without their versions and collaborators. -/
def deleteSongRow (songs : List Song) (id : String) (requester : SongRequester) (now : Nat) :
    Except AppError (List Song) :=
  (Songs.deleteSong { table := ⟨songs, []⟩, collaborators := [], templates := [], users := [] }
    id requester now).map fun state => state.table.songs

inductive FlagSource
  | reportThreshold
  | resolution
  | moderator
  | bulkModeration
  | takedown
  | owner
  | nearDuplicate
  deriving DecidableEq

structure Dismissal where
  lifted : Bool
  byThreshold : Bool
  deriving DecidableEq

structure FlagState where
  tables : ModerationState
  reports : List ContentReport
  demands : List (String × FlagSource)
  dismissals : List Dismissal

inductive FlagLabel
  | submitReport (drawn songId reporterId : String) (input : SubmitReportInput) (now : Nat)
  | resolveReport (reportId moderatorId : String) (input : ResolveReportInput) (now : Nat)
  | moderate (label : ModerationLabel)
  | deleteSong (id : String) (requester : SongRequester) (now : Nat)
  | processSongFingerprint (songId : String) (result : DuplicateCheckResult)

namespace FlagState

def row (state : FlagState) (songId : String) : Option Song :=
  findRow Song.id songId state.tables.songs

def reporting (state : FlagState) : ReportState :=
  { songs := state.tables.songs, reports := state.reports }

def reported (state : FlagState) (saved : ReportState) : FlagState :=
  { state with
    tables := { state.tables with songs := saved.songs }
    reports := saved.reports }

end FlagState

def thresholdOnly (demands : List (String × FlagSource)) (songId : String) : Bool :=
  demands.any (fun demand => decide (demand.1 = songId)) &&
    demands.all fun demand => decide (demand.1 = songId → demand.2 = .reportThreshold)

def moderationDemands (state : ModerationState) : ModerationLabel → List (String × FlagSource)
  | .reviewRequest takedownId adminId .approve reviewNotes now =>
      match reviewRequest state takedownId adminId .approve reviewNotes now with
      | .error _ => []
      | .ok _ =>
          ((findRow TakedownRequest.id takedownId state.takedowns).map fun takedown =>
            (takedown.songId, .takedown)).toList
  | .flagSong songId adminId reason now =>
      match flagSong state songId adminId reason now with
      | .error _ => []
      | .ok _ => [(songId, .moderator)]
  | .bulkModerate songIds action adminId now =>
      if action = .approve then []
      else (songIds.filterMap (bulkRow state.songs action adminId now)).map fun row =>
        (row.id, .bulkModeration)
  | _ => []

def setsFlag (action : ReportAction) : Bool := action = .songFlagged ∨ action = .songRemoved

/-- The demands of an accepted operation. -/
def demanded (threshold : Nat) (state : FlagState) : FlagLabel → List (String × FlagSource)
  | .submitReport drawn songId reporterId input now =>
      match submitReport threshold state.reporting drawn songId reporterId input now with
      | .ok (_, true) => [(songId, .reportThreshold)]
      | _ => []
  | .resolveReport reportId moderatorId input now =>
      match resolveReport state.reporting reportId moderatorId input now with
      | .error _ => []
      | .ok (_, report) =>
          if report.actionTaken.any setsFlag then [(report.songId, .resolution)] else []
  | .moderate label => moderationDemands state.tables label
  | .deleteSong id requester now =>
      match deleteSongRow state.tables.songs id requester now with
      | .error _ => []
      | .ok _ => [(id, .owner)]
  | .processSongFingerprint songId result =>
      if result.isNearDuplicate then [(songId, .nearDuplicate)] else []

/-- What an operation leaves in the tables. -/
def operate (threshold : Nat) (state : FlagState) : FlagLabel → Option FlagState
  | .submitReport drawn songId reporterId input now =>
      if drawn ∈ state.reports.map ContentReport.id then none
      else
        some (commit state
          ((submitReport threshold state.reporting drawn songId reporterId input now).map
            fun answer => state.reported answer.1))
  | .resolveReport reportId moderatorId input now =>
      some (commit state
        ((resolveReport state.reporting reportId moderatorId input now).map fun answer =>
          state.reported answer.1))
  | .moderate label =>
      (moderationStep state.tables label).map fun tables => { state with tables := tables }
  | .deleteSong id requester now =>
      some (commit state
        ((deleteSongRow state.tables.songs id requester now).map fun songs =>
          { state with tables := { state.tables with songs := songs } }))
  | .processSongFingerprint songId result =>
      some (commit state
        ((processSongFingerprint state.tables songId result).map fun tables =>
          { state with tables := tables }))

def flaggedRow (state : FlagState) (songId : String) : Bool := (state.row songId).any Song.flagged

def dismissedSong (state : FlagState) : FlagLabel → Option String
  | .resolveReport reportId moderatorId input now =>
      match resolveReport state.reporting reportId moderatorId input now with
      | .error _ => none
      | .ok (saved, report) =>
          if report.actionTaken.any setsFlag = false ∧
              countPendingForSong saved.reports report.songId = 0 then some report.songId
          else none
  | _ => none

/-- The demands of the flags that are still in force, with the new ones. -/
def flagStep (threshold : Nat) (state : FlagState) (label : FlagLabel) : Option FlagState :=
  (operate threshold state label).map fun after =>
    { after with
      demands := (state.demands ++ demanded threshold state label).filter fun demand =>
        flaggedRow after demand.1
      dismissals := state.dismissals ++ ((dismissedSong state label).map fun songId =>
        { lifted := flaggedRow state songId && !flaggedRow after songId
          byThreshold := thresholdOnly state.demands songId }).toList }

def flagMachine (threshold : Nat) : Machine FlagState FlagLabel where
  initial state :=
    (∀ song ∈ state.tables.songs, song.flagged = false ∧ song.flaggedBy = none) ∧
      state.demands = [] ∧ state.dismissals = []
  step := flagStep threshold

end AudioBlock.Moderation
