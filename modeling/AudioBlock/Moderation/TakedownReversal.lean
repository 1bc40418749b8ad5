/-
An approved takedown that is reversed again.

The approval keeps only whether the song was flagged.  A reversal therefore gives back the
moderation fields of a song that had none, and those that the approval itself would write.  An
approval that throws after its save of the song is tried again on the song that it has flagged.
-/
import AudioBlock.Foundation.Answers
import AudioBlock.Moderation.ReportService

namespace AudioBlock.Moderation

open AudioBlock.Foundation AudioBlock.Songs

structure ModerationFields where
  flagged : Bool
  flaggedAt : Option Nat
  flaggedBy : Option String
  flagReason : Option String
  deriving DecidableEq

def moderationFields (song : Song) : ModerationFields :=
  ⟨song.flagged, song.flaggedAt, song.flaggedBy, song.flagReason⟩

/-! ### Approvals that throw -/

structure Approval where
  adminId : String
  reviewNotes : Option String
  now : Nat
  deriving DecidableEq

/-- An approval whose log entry or takedown is not saved; the song has been saved by then. -/
def interruptedApproval (takedownId : String) (state : ModerationState) (approval : Approval) :
    Except AppError ModerationState :=
  match findRow TakedownRequest.id takedownId state.takedowns with
  | none => .error (.withStatus "Takedown request not found" 404)
  | some takedown =>
      match findRow Song.id takedown.songId state.songs with
      | none => .error (.withStatus "Song not found for takedown" 404)
      | some song =>
          if takedown.status = .approved then .error (.plain "Takedown already approved")
          else
            .ok (state.saveSong (flaggedSong song approval.adminId approval.now
              (some (takedown.flagReason approval.reviewNotes))))

/-- Some approvals that throw, one after another. -/
def interruptedApprovals (takedownId : String) (state : ModerationState)
    (approvals : List Approval) : Except AppError ModerationState :=
  approvals.foldlM (interruptedApproval takedownId) state

/-! ### Reports that come later -/

inductive ReportOperation
  | submitReport (drawn songId reporterId : String) (input : SubmitReportInput) (now : Nat)
  | resolveReport (reportId moderatorId : String) (input : ResolveReportInput) (now : Nat)

namespace ReportState

def operate (threshold : Nat) (state : ReportState) : ReportOperation → ReportState
  | .submitReport drawn songId reporterId input now =>
      commit state ((submitReport threshold state drawn songId reporterId input now).map Prod.fst)
  | .resolveReport reportId moderatorId input now =>
      commit state ((resolveReport state reportId moderatorId input now).map Prod.fst)

def run (threshold : Nat) (state : ReportState) (operations : List ReportOperation) :
    ReportState :=
  operations.foldl (operate threshold) state

def flags (state : ReportState) : List (String × Bool) :=
  state.songs.map fun song => (song.id, song.flagged)

end ReportState

structure TakedownUndone (before after : ModerationState) (songId : String) : Prop where
  fields : (findRow Song.id songId after.songs).map moderationFields =
    (findRow Song.id songId before.songs).map moderationFields
  automatic : ∀ (threshold : Nat) (reports : List ContentReport)
    (operations : List ReportOperation),
    (ReportState.run threshold ⟨after.songs, reports⟩ operations).flags =
      (ReportState.run threshold ⟨before.songs, reports⟩ operations).flags

/-! ### The condition -/

/-- What a reversal makes of the reason that an approval has given. -/
def TakedownRequest.keptReason (takedown : TakedownRequest) (reviewNotes : Option String) :
    String :=
  if takedown.mark.length ≤ 500 then "previously_flagged" else takedown.flagReason reviewNotes

/-- The song was unflagged and had no moderation fields, or it was flagged with the fields that
the approval and the reversal leave. -/
def Restorable (takedown : TakedownRequest) (song : Song) (interrupted : List Approval)
    (approval : Approval) : Prop :=
  if interrupted = [] ∧ song.flagged = false then
    song.flaggedAt = none ∧ song.flaggedBy = none ∧ song.flagReason = none
  else
    song.flagged = true ∧ song.flaggedAt = some approval.now ∧
      song.flaggedBy = some approval.adminId ∧
      song.flagReason = some (takedown.keptReason approval.reviewNotes)

instance (takedown : TakedownRequest) (song : Song) (interrupted : List Approval)
    (approval : Approval) : Decidable (Restorable takedown song interrupted approval) := by
  unfold Restorable
  infer_instance

/-! ### One song under other moderation fields -/

section Fields

def Song.moderated (song : Song) (fields : ModerationFields) : Song :=
  { song with
    flagged := fields.flagged
    flaggedAt := fields.flaggedAt
    flaggedBy := fields.flaggedBy
    flagReason := fields.flagReason }

variable (takedown : TakedownRequest) (song : Song)

theorem moderated_own : Song.moderated song (moderationFields song) = song := rfl

theorem moderated_again (first second : ModerationFields) :
    Song.moderated (Song.moderated song first) second = Song.moderated song second := rfl

theorem flagReason_marked (reviewNotes : Option String) :
    takedown.mark.toList <:+: (takedown.flagReason reviewNotes).toList ↔
      takedown.mark.length ≤ 500 := by
  unfold TakedownRequest.flagReason
  rw [String.toList_ofList, ← String.length_toList]
  constructor
  · intro marked
    exact marked.length_le.trans (List.length_take_le _ _)
  · intro fits
    rw [String.toList_append, String.toList_append, String.toList_append, String.toList_append,
      List.append_assoc, List.append_assoc, List.append_assoc, List.take_append,
      List.take_of_length_le fits]
    exact (List.prefix_append _ _).isInfix

def TakedownRequest.givenBack (takedown : TakedownRequest) (approval : Approval)
    (previousFlagged : Bool) : ModerationFields :=
  if previousFlagged then
    ⟨true, some approval.now, some approval.adminId,
      some (takedown.keptReason approval.reviewNotes)⟩
  else ⟨false, none, none, none⟩

def TakedownRequest.approvedBy (takedown : TakedownRequest) (approval : Approval)
    (previousFlagged : Bool) : TakedownRequest :=
  { takedown.reviewed .approved approval.adminId approval.reviewNotes approval.now with
    previousFlagged := previousFlagged }

theorem restored_approved (approval : Approval) (previousFlagged : Bool) :
    (takedown.approvedBy approval previousFlagged).restored
        (flaggedSong song approval.adminId approval.now
          (some (takedown.flagReason approval.reviewNotes))) =
      Song.moderated song (takedown.givenBack approval previousFlagged) := by
  have sameMark : (takedown.approvedBy approval previousFlagged).mark = takedown.mark := rfl
  have sameFlag : (takedown.approvedBy approval previousFlagged).previousFlagged =
    previousFlagged := rfl
  unfold TakedownRequest.restored TakedownRequest.givenBack TakedownRequest.keptReason
  rw [sameMark, sameFlag]
  by_cases flagged : previousFlagged = true
  · rw [if_pos flagged, if_pos flagged]
    by_cases fits : takedown.mark.length ≤ 500
    · have marked := (flagReason_marked takedown approval.reviewNotes).mpr fits
      rw [if_pos ⟨_, rfl, marked⟩, if_pos fits]
      rfl
    · have unmarked := mt (flagReason_marked takedown approval.reviewNotes).mp fits
      rw [if_neg, if_neg fits]
      · rfl
      · intro found
        obtain ⟨reason, given, marked⟩ := found
        cases given
        exact unmarked (marked)
  · rw [if_neg flagged, if_neg flagged]
    rfl

theorem restorable_iff (interrupted : List Approval) (approval : Approval) :
    takedown.givenBack approval (!interrupted.isEmpty || song.flagged) = moderationFields song ↔
      Restorable takedown song interrupted approval := by
  unfold Restorable TakedownRequest.givenBack moderationFields
  by_cases plain : interrupted = [] ∧ song.flagged = false
  · obtain ⟨none, unflagged⟩ := plain
    subst none
    have notFlagged : ¬(!([] : List Approval).isEmpty || song.flagged) = true := by
      rw [unflagged]
      exact Bool.false_ne_true
    rw [if_neg notFlagged, if_pos ⟨rfl, unflagged⟩, ModerationFields.mk.injEq]
    constructor
    · intro same
      exact ⟨same.2.1.symm, same.2.2.1.symm, same.2.2.2.symm⟩
    · intro bare
      exact ⟨unflagged.symm, bare.1.symm, bare.2.1.symm, bare.2.2.symm⟩
  · have flags : (!interrupted.isEmpty || song.flagged) = true := by
      cases interrupted with
      | nil => simpa using plain
      | cons first rest => rfl
    rw [if_neg plain, if_pos flags, ModerationFields.mk.injEq]
    constructor
    · intro same
      exact ⟨same.1.symm, same.2.1.symm, same.2.2.1.symm, same.2.2.2.symm⟩
    · intro kept
      exact ⟨kept.1.symm, kept.2.1.symm, kept.2.2.1.symm, kept.2.2.2.symm⟩

end Fields

/-! ### Approvals and the reversal -/

section Reversal

variable {state tried approved reversed : ModerationState} {takedownId : String}
  {takedown : TakedownRequest} {song : Song}

/-- The song is the same but for its moderation fields, and nothing else is touched. -/
structure Tried (state tried : ModerationState) (song : Song) (fields : ModerationFields) :
    Prop where
  songs : tried.songs = saveRow Song.id (Song.moderated song fields) state.songs
  takedowns : tried.takedowns = state.takedowns

variable {fields : ModerationFields} {approval : Approval}

theorem Tried.found (attempt : Tried state tried song fields) {songId : String}
    (foundSong : findRow Song.id songId state.songs = some song) :
    findRow Song.id songId tried.songs = some (Song.moderated song fields) := by
  rw [attempt.songs]
  exact findRow_saveRow_same foundSong _ rfl

theorem interruptedApproval_tried {next : ModerationState}
    (attempt : Tried state tried song fields)
    (foundTakedown : findRow TakedownRequest.id takedownId state.takedowns = some takedown)
    (foundSong : findRow Song.id takedown.songId state.songs = some song)
    (interrupted : interruptedApproval takedownId tried approval = .ok next) :
    ∃ flagged : ModerationFields, flagged.flagged = true ∧ Tried state next song flagged := by
  unfold interruptedApproval at interrupted
  rw [attempt.takedowns, foundTakedown] at interrupted
  dsimp only at interrupted
  rw [attempt.found foundSong] at interrupted
  dsimp only at interrupted
  split at interrupted
  · cases interrupted
  · cases interrupted
    refine ⟨⟨true, some approval.now, some approval.adminId,
      some (takedown.flagReason approval.reviewNotes)⟩, rfl, ?_, attempt.takedowns⟩
    change saveRow Song.id _ tried.songs = _
    rw [attempt.songs]
    exact saveRow_again state.songs _ _ rfl

theorem interruptedApprovals_tried (approvals : List Approval)
    (attempt : Tried state tried song fields)
    (foundTakedown : findRow TakedownRequest.id takedownId state.takedowns = some takedown)
    (foundSong : findRow Song.id takedown.songId state.songs = some song) {next : ModerationState}
    (done : interruptedApprovals takedownId tried approvals = .ok next) :
    ∃ left : ModerationFields,
      left.flagged = (!approvals.isEmpty || fields.flagged) ∧ Tried state next song left := by
  induction approvals generalizing tried fields with
  | nil =>
      cases done
      exact ⟨fields, rfl, attempt⟩
  | cons approval rest ih =>
      unfold interruptedApprovals at done
      rw [List.foldlM_cons] at done
      obtain ⟨middle, first, later⟩ := ok_of_bind done
      obtain ⟨flagged, isFlagged, now⟩ :=
        interruptedApproval_tried attempt foundTakedown foundSong first
      obtain ⟨left, same, atLast⟩ := ih now later
      rw [isFlagged, Bool.or_true] at same
      exact ⟨left, same, atLast⟩

section

variable (foundTakedown : findRow TakedownRequest.id takedownId state.takedowns = some takedown)
  (foundSong : findRow Song.id takedown.songId state.songs = some song)
include foundTakedown foundSong

theorem approve_done
    (approves : reviewRequest state takedownId approval.adminId .approve approval.reviewNotes
      approval.now = .ok approved) :
    approved = (state.saveSong (flaggedSong song approval.adminId approval.now
        (some (takedown.flagReason approval.reviewNotes)))).saveTakedown
      (takedown.approvedBy approval song.flagged) := by
  unfold reviewRequest at approves
  rw [foundTakedown] at approves
  dsimp only at approves
  rw [foundSong] at approves
  unfold reviewTakedown at approves
  dsimp only at approves
  split at approves
  · cases approves
  · exact (Except.ok.inj approves).symm

theorem reverse_done {adminId : String} {reviewNotes : Option String} {now : Nat}
    (reverses : reviewRequest state takedownId adminId .reverse reviewNotes now = .ok reversed) :
    reversed.songs = saveRow Song.id (takedown.restored song) state.songs := by
  unfold reviewRequest at reverses
  rw [foundTakedown] at reverses
  dsimp only at reverses
  rw [foundSong] at reverses
  unfold reviewTakedown at reverses
  dsimp only at reverses
  split at reverses
  · cases reverses
  · cases reverses
    rfl

theorem reversal_songs {interrupted : List Approval} {adminId : String}
    {reviewNotes : Option String} {now : Nat}
    (tries : interruptedApprovals takedownId state interrupted = .ok tried)
    (approves : reviewRequest tried takedownId approval.adminId .approve approval.reviewNotes
      approval.now = .ok approved)
    (reverses : reviewRequest approved takedownId adminId .reverse reviewNotes now = .ok reversed)
    (distinct : (state.songs.map Song.id).Nodup) :
    reversed.songs = saveRow Song.id
      (Song.moderated song
        (takedown.givenBack approval (!interrupted.isEmpty || song.flagged))) state.songs := by
  have own : song ∈ state.songs := (findRow_mem foundSong).1
  have untouched : Tried state state song (moderationFields song) :=
    ⟨(saveRow_own distinct own).symm, rfl⟩
  obtain ⟨left, flagged, attempt⟩ :=
    interruptedApprovals_tried interrupted untouched foundTakedown foundSong tries
  have triedTakedown := attempt.takedowns ▸ foundTakedown
  have done := approve_done triedTakedown (attempt.found foundSong) approves
  subst done
  have approvedTakedown := findRow_saveRow_same triedTakedown
    (takedown.approvedBy approval (Song.moderated song left).flagged) rfl
  have approvedSong := findRow_saveRow_same (attempt.found foundSong)
    (flaggedSong (Song.moderated song left) approval.adminId approval.now
      (some (takedown.flagReason approval.reviewNotes))) rfl
  rw [reverse_done approvedTakedown approvedSong reverses, restored_approved]
  change saveRow Song.id _ (saveRow Song.id _ tried.songs) = _
  rw [attempt.songs, saveRow_again, saveRow_again, moderated_again]
  · exact congrArg (fun previous => saveRow Song.id
      (Song.moderated song (takedown.givenBack approval previous)) state.songs) flagged
  · rfl
  · rfl

end

end Reversal

/-! One song, a takedown of it, and the admins who review it. -/

def claimed : TakedownRequest :=
  { id := "2c4e6a80-1b3d-4f5e-8a9c-0d2f4b6c8e0a"
    songId := "song1"
    requestedBy := "user1"
    reason := .copyright
    description := none
    evidenceUrl := none
    status := .pending
    reviewedBy := none
    reviewNotes := none
    previousFlagged := false
    resolvedAt := none }

def claimedState (song : Song) : ModerationState := { songs := [song], takedowns := [claimed] }

def publishedSong : Song := Song.uploaded "song1" "artist1" "Intro"

/-- Both reviews of the takedown, where they succeed. -/
def approvedAndReversed (state : ModerationState) (approval : Approval) :
    Except AppError (ModerationState × ModerationState) := do
  let approved ← reviewRequest state claimed.id approval.adminId .approve approval.reviewNotes
    approval.now
  let reversed ← reviewRequest approved claimed.id "admin2" .reverse none 30
  .ok (approved, reversed)

def reportedSong : Song := autoFlaggedSong publishedSong 5 10

end AudioBlock.Moderation
