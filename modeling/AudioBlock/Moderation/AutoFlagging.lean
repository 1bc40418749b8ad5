/-
Flags of the report threshold, under submissions, resolutions and other writers that interleave.

Enough pending reports mean a flag, and no pending report means none of the threshold, each
until the calls that are still under way have come to their end.  The law holds exactly in the
runs whose saves find the song as it was loaded.
-/
import AudioBlock.Foundation.CallTable
import AudioBlock.Moderation.ReportCalls

namespace AudioBlock.Moderation

open AudioBlock.Foundation AudioBlock.Songs

/-! ### The law -/

def ReportCall.submits : ReportCall → Option String
  | .triage song _ | .saveScores song _ | .countReports song | .saveFlagged song _ _ =>
      some song.id
  | _ => none

def ReportCall.resolves : ReportCall → Option String
  | .saveResolved report _ _ => some report.songId
  | .findReported songId _ _ => some songId
  | .saveUpheld song _ _ _ | .countRemaining song | .saveLifted song => some song.id
  | _ => none

def submitting (calls : List ReportCall) : List String := calls.filterMap ReportCall.submits

def resolving (calls : List ReportCall) : List String := calls.filterMap ReportCall.resolves

def Raised (threshold : Nat) (state : ReportingState) (song : Song) : Prop :=
  threshold ≤ countPendingForSong state.reports song.id →
    song.flagged = true ∨ song.id ∈ submitting state.calls ∨ state.excused song.id = true

def Lowered (state : ReportingState) (song : Song) : Prop :=
  song.flagged = true → state.byThreshold song.id = true →
    countPendingForSong state.reports song.id = 0 → song.id ∈ resolving state.calls

structure FlagsFollow (threshold : Nat) (state : ReportingState) : Prop where
  raised : ∀ song ∈ state.songs, Raised threshold state song
  lowered : ∀ song ∈ state.songs, Lowered state song

/-- Only moderation fields differ. -/
def ContentKept (before after : List Song) : Prop :=
  ∀ later ∈ after, ∃ song ∈ before, unflaggedSong song = unflaggedSong later

def ReportLabel.isReport : ReportLabel → Bool
  | .otherWrite _ _ => false
  | _ => true

structure FlaggingRules (threshold : Nat) (before : ReportingState) (label : ReportLabel)
    (after : ReportingState) : Prop where
  flags : FlagsFollow threshold after
  content : label.isReport = true → ContentKept before.songs after.songs

def FlagsLawful (threshold : Nat) (state : ReportingState) (label : ReportLabel) : Prop :=
  ∀ after, reportStep threshold state label = some after →
    FlaggingRules threshold state label after

/-- No call is under way. -/
structure ReportsAtRest (threshold : Nat) (state : ReportingState) : Prop where
  idle : state.calls = []
  ids : (state.reports.map ContentReport.id).Nodup
  flags : FlagsFollow threshold state

def reportMachine (threshold : Nat) : Machine ReportingState ReportLabel where
  initial := ReportsAtRest threshold
  step := reportStep threshold

/-! ### The condition -/

def ContentCurrent (songs : List Song) (copy : Song) : Prop :=
  ∃ song ∈ songs, unflaggedSong song = unflaggedSong copy

instance (songs : List Song) (copy : Song) : Decidable (ContentCurrent songs copy) :=
  inferInstanceAs (Decidable (∃ song ∈ songs, _))

def FlagsGuarded (threshold : Nat) (state : ReportingState) (others : List ReportCall) :
    ReportCall → Prop
  | .countReports copy =>
      copy.flagged = true → threshold ≤ countPendingForSong state.reports copy.id →
        ∀ song ∈ state.songs, song.id = copy.id →
          song.flagged = true ∨ song.id ∈ submitting others ∨ state.excused song.id = true
  | .saveFlagged copy _ _ =>
      ContentCurrent state.songs copy ∧
        (countPendingForSong state.reports copy.id = 0 → copy.id ∈ resolving others)
  | .saveUpheld copy _ _ _ => ContentCurrent state.songs copy
  | .countRemaining copy =>
      copy.flagged = false ∨ copy.flaggedBy ≠ none →
        countPendingForSong state.reports copy.id = 0 →
          ∀ song ∈ state.songs, song.id = copy.id → song.flagged = true →
            state.byThreshold song.id = true → song.id ∈ resolving others
  | .saveLifted copy =>
      ContentCurrent state.songs copy ∧
        (threshold ≤ countPendingForSong state.reports copy.id →
          copy.id ∈ submitting others ∨ state.excused copy.id = true)
  | _ => True

instance (threshold : Nat) (state : ReportingState) (others : List ReportCall) :
    DecidablePred (FlagsGuarded threshold state others)
  | .countReports _ => inferInstanceAs (Decidable (_ → _ → ∀ song ∈ state.songs, _ → _))
  | .saveFlagged _ _ _ => inferInstanceAs (Decidable (_ ∧ (_ → _)))
  | .saveUpheld _ _ _ _ => inferInstanceAs (Decidable (ContentCurrent _ _))
  | .countRemaining _ => inferInstanceAs (Decidable (_ → _ → ∀ song ∈ state.songs, _ → _))
  | .saveLifted _ => inferInstanceAs (Decidable (_ ∧ (_ → _)))
  | .findSong _ _ _ _ | .findExisting _ _ _ _ | .insertReport _ _ _ _ | .triage _ _
  | .saveScores _ _ | .findReport _ _ _ _ | .saveResolved _ _ _ | .findReported _ _ _
  | .ended | .thrown _ => isTrue trivial

def ReportsGuarded (threshold : Nat) (state : ReportingState) : ReportLabel → Prop
  | .step index _ _ =>
      ∀ call ∈ state.calls[index]?,
        FlagsGuarded threshold state (state.calls.eraseIdx index) call
  | .submitReport _ _ _ | .resolveReport _ _ _ | .otherWrite _ _ | .scored _ _ => True

instance (threshold : Nat) (state : ReportingState) :
    DecidablePred (ReportsGuarded threshold state)
  | .step index _ _ => inferInstanceAs (Decidable (∀ call ∈ state.calls[index]?, _))
  | .submitReport _ _ _ | .resolveReport _ _ _ | .otherWrite _ _ | .scored _ _ => isTrue trivial

/-! ### The pending reports of a song -/

section Pending

variable {reports : List ContentReport} {saved : ContentReport}

def Listed (reports : List ContentReport) (copy : ContentReport) : Prop :=
  ∃ row ∈ reports, row.id = copy.id ∧ row.songId = copy.songId

def isPending (songId : String) (report : ContentReport) : Bool :=
  decide (report.songId = songId ∧ report.status = .pending)

theorem countPending_countP (reports : List ContentReport) (songId : String) :
    countPendingForSong reports songId = reports.countP (isPending songId) :=
  List.countP_eq_length_filter.symm

theorem countPending_append (songId : String) :
    countPendingForSong reports songId ≤ countPendingForSong (reports ++ [saved]) songId := by
  rw [countPending_countP, countPending_countP, List.countP_append]
  exact Nat.le_add_right _ _

theorem countPending_append_other {songId : String} (different : saved.songId ≠ songId) :
    countPendingForSong (reports ++ [saved]) songId = countPendingForSong reports songId := by
  rw [countPending_countP, countPending_countP, List.countP_append, List.countP_singleton,
    isPending]
  simp [different]

theorem storeReport_eq (listed : Listed reports saved) :
    storeRow ContentReport.id saved reports = saveRow ContentReport.id saved reports := by
  obtain ⟨row, member, sameId, _⟩ := listed
  exact if_pos (sameId ▸ List.mem_map_of_mem member)

section

variable (distinct : (reports.map ContentReport.id).Nodup) (listed : Listed reports saved)
include distinct listed

theorem replaced_song {row : ContentReport} (member : row ∈ reports) (own : row.id = saved.id) :
    row.songId = saved.songId := by
  obtain ⟨held, heldMember, sameId, sameSong⟩ := listed
  rw [List.inj_on_of_nodup_map distinct member heldMember (own.trans sameId.symm)]
  exact sameSong

theorem countPending_store_other {songId : String} (different : saved.songId ≠ songId) :
    countPendingForSong (storeRow ContentReport.id saved reports) songId =
      countPendingForSong reports songId := by
  rw [storeReport_eq listed, countPending_countP, countPending_countP, saveRow, List.countP_map]
  apply List.countP_congr
  intro row member
  rw [Function.comp_apply]
  by_cases own : row.id = saved.id
  · have sameSong := replaced_song distinct listed member own
    simp [own, isPending, sameSong, different]
  · rw [if_neg own]

theorem countPending_store_pending (pending : saved.status = .pending) (songId : String) :
    countPendingForSong reports songId ≤
      countPendingForSong (storeRow ContentReport.id saved reports) songId := by
  rw [storeReport_eq listed, countPending_countP, countPending_countP, saveRow, List.countP_map]
  apply List.countP_mono_left
  intro row member counted
  rw [Function.comp_apply]
  by_cases own : row.id = saved.id
  · have sameSong := replaced_song distinct listed member own
    rw [if_pos own]
    exact decide_eq_true ⟨sameSong ▸ (of_decide_eq_true counted).1, pending⟩
  · rw [if_neg own]
    exact counted

end

theorem countPending_store_resolved (listed : Listed reports saved)
    (resolved : saved.status = .resolved) (songId : String) :
    countPendingForSong (storeRow ContentReport.id saved reports) songId ≤
      countPendingForSong reports songId := by
  rw [storeReport_eq listed, countPending_countP, countPending_countP, saveRow, List.countP_map]
  apply List.countP_mono_left
  intro row member counted
  rw [Function.comp_apply] at counted
  by_cases own : row.id = saved.id
  · rw [if_pos own] at counted
    cases resolved.symm.trans (of_decide_eq_true counted).2
  · rw [if_neg own] at counted
    exact counted

theorem Listed.append {copy : ContentReport} (listed : Listed reports copy)
    (added : ContentReport) : Listed (reports ++ [added]) copy := by
  obtain ⟨row, member, same⟩ := listed
  exact ⟨row, List.mem_append_left _ member, same⟩

theorem Listed.store {copy : ContentReport} (listed : Listed reports copy)
    (distinct : (reports.map ContentReport.id).Nodup) (storable : Listed reports saved) :
    Listed (storeRow ContentReport.id saved reports) copy := by
  rw [storeReport_eq storable]
  obtain ⟨row, member, sameId, sameSong⟩ := listed
  by_cases own : row.id = saved.id
  · have replaced := replaced_song distinct storable member own
    refine ⟨saved, ?_, own.symm.trans sameId, replaced.symm.trans sameSong⟩
    exact saveRow_mem (own ▸ List.mem_map_of_mem member)
  · exact ⟨row, saveRow_mem_other member own, sameId, sameSong⟩

end Pending

/-! ### One song and the others -/

section Frame

variable {threshold : Nat} {before after : ReportingState} {id : String}

structure SameElsewhere (before after : ReportingState) (id : String) : Prop where
  songs : ∀ song ∈ after.songs, song.id ≠ id → song ∈ before.songs
  pending : ∀ other, other ≠ id →
    countPendingForSong after.reports other = countPendingForSong before.reports other
  submitting : ∀ other, other ≠ id → other ∈ submitting before.calls →
    other ∈ submitting after.calls
  resolving : ∀ other, other ≠ id → other ∈ resolving before.calls → other ∈ resolving after.calls
  byThreshold : ∀ other, other ≠ id → after.byThreshold other = before.byThreshold other
  excused : ∀ other, other ≠ id → after.excused other = before.excused other

theorem FlagsFollow.elsewhere (flags : FlagsFollow threshold before)
    (same : SameElsewhere before after id) :
    FlagsFollow threshold after ↔
      ∀ song ∈ after.songs, song.id = id → Raised threshold after song ∧ Lowered after song := by
  constructor
  · exact fun follow song member _ => ⟨follow.raised song member, follow.lowered song member⟩
  · intro here
    refine ⟨?_, ?_⟩
    · intro song member
      by_cases own : song.id = id
      · exact (here song member own).1
      · intro many
        rw [same.pending song.id own] at many
        have earlier := flags.raised song (same.songs song member own) many
        rw [same.excused song.id own]
        exact earlier.imp_right fun later => later.imp_left (same.submitting song.id own)
    · intro song member
      by_cases own : song.id = id
      · exact (here song member own).2
      · intro flagged byThreshold none
        rw [same.byThreshold song.id own] at byThreshold
        rw [same.pending song.id own] at none
        exact same.resolving song.id own
          (flags.lowered song (same.songs song member own) flagged byThreshold none)

theorem FlagsFollow.unwritten (flags : FlagsFollow threshold before)
    (songs : after.songs = before.songs) (reports : after.reports = before.reports)
    (byThreshold : after.byThreshold = before.byThreshold) (excused : after.excused = before.excused)
    (submitted : ∀ other ∈ submitting before.calls, other ∈ submitting after.calls)
    (resolved : ∀ other ∈ resolving before.calls, other ∈ resolving after.calls) :
    FlagsFollow threshold after := by
  refine ⟨?_, ?_⟩
  · intro song member many
    rw [songs] at member
    rw [reports] at many
    rw [excused]
    exact (flags.raised song member many).imp_right fun later => later.imp_left (submitted song.id)
  · intro song member flagged byIt none
    rw [songs] at member
    rw [byThreshold] at byIt
    rw [reports] at none
    exact resolved song.id (flags.lowered song member flagged byIt none)

end Frame

/-! ### One call -/

/-- The copies of a call are of stored rows. -/
def CallSound (reports : List ContentReport) : ReportCall → Prop
  | .triage song report | .saveScores song report =>
      Listed reports report ∧ report.status = .pending ∧ report.songId = song.id
  | .saveResolved report _ _ => Listed reports report ∧ report.status = .resolved
  | _ => True

structure ReportsConsistent (threshold : Nat) (state : ReportingState) : Prop where
  ids : (state.reports.map ContentReport.id).Nodup
  flags : FlagsFollow threshold state
  sound : ∀ call ∈ state.calls, CallSound state.reports call

section Calls

variable {threshold : Nat} {state : ReportingState} {index : Nat} {call next : ReportCall}

theorem read_flags (consistent : ReportsConsistent threshold state)
    (present : state.calls[index]? = some call)
    (submits : call.submits = none ∨ next.submits = call.submits)
    (resolves : call.resolves = none ∨ next.resolves = call.resolves) :
    FlagsFollow threshold (state.place index next) := by
  have kept : ∀ marks : ReportCall → Option String, marks call = none ∨ marks next = marks call →
      ∀ other ∈ state.calls.filterMap marks,
        other ∈ (state.calls.set index next).filterMap marks := by
    intro marks same other marked
    by_cases own : marks call = some other
    · apply (marked_placed marks present next).mpr
      cases same with
      | inl none => cases none.symm.trans own
      | inr same => exact Or.inl (same.trans own)
    · exact marked_kept marks present next own marked
  exact consistent.flags.unwritten rfl rfl rfl rfl (kept ReportCall.submits submits)
    (kept ReportCall.resolves resolves)

variable {id : String} {saved : Song}

section

variable (present : state.calls[index]? = some call)
include present

theorem placed_elsewhere {changed : ReportingState} (calls : changed.calls = state.calls)
    (submits : ∀ other, call.submits = some other → other = id)
    (resolves : ∀ other, call.resolves = some other → other = id)
    (songs : ∀ song ∈ changed.songs, song.id ≠ id → song ∈ state.songs)
    (pending : ∀ other, other ≠ id →
      countPendingForSong changed.reports other = countPendingForSong state.reports other)
    (byThreshold : ∀ other, other ≠ id → changed.byThreshold other = state.byThreshold other)
    (excused : ∀ other, other ≠ id → changed.excused other = state.excused other) :
    SameElsewhere state (changed.place index next) id := by
  refine ⟨songs, pending, ?_, ?_, byThreshold, excused⟩
  · intro other different marked
    change other ∈ (changed.calls.set index next).filterMap ReportCall.submits
    rw [calls]
    exact marked_kept _ present next (fun own => different (submits other own)) marked
  · intro other different marked
    change other ∈ (changed.calls.set index next).filterMap ReportCall.resolves
    rw [calls]
    exact marked_kept _ present next (fun own => different (resolves other own)) marked

theorem submitting_ended :
    id ∈ submitting (state.place index .ended).calls ↔
      id ∈ submitting (state.calls.eraseIdx index) := by
  refine Iff.trans (marked_placed _ present _) (or_iff_right ?_)
  exact (Option.some_ne_none id).symm

theorem resolving_ended :
    id ∈ resolving (state.place index .ended).calls ↔
      id ∈ resolving (state.calls.eraseIdx index) := by
  refine Iff.trans (marked_placed _ present _) (or_iff_right ?_)
  exact (Option.some_ne_none id).symm

end

section

variable (consistent : ReportsConsistent threshold state)
  (present : state.calls[index]? = some call)
include consistent present

theorem submission_ended_iff (submits : call.submits = some id) (resolves : call.resolves = none) :
    FlagsFollow threshold (state.place index .ended) ↔
      (threshold ≤ countPendingForSong state.reports id → ∀ song ∈ state.songs, song.id = id →
        song.flagged = true ∨ song.id ∈ submitting (state.calls.eraseIdx index) ∨
          state.excused song.id = true) := by
  have same : SameElsewhere state (state.place index .ended) id := by
    apply placed_elsewhere present rfl
    · exact fun other own => (Option.some_inj.mp (submits.symm.trans own)).symm
    · exact fun other own => nomatch resolves.symm.trans own
    · exact fun _ member _ => member
    · exact fun _ _ => rfl
    · exact fun _ _ => rfl
    · exact fun _ _ => rfl
  rw [consistent.flags.elsewhere same]
  constructor
  · intro here many song member own
    have raised := (here song member own).1 (own ▸ many)
    rw [submitting_ended present] at raised
    exact raised
  · intro guarded song member own
    refine ⟨?_, ?_⟩
    · intro many
      rw [submitting_ended present]
      exact guarded (own ▸ many) song member own
    · intro flagged byThreshold none
      have waits := consistent.flags.lowered song member flagged byThreshold none
      have notOwn : call.resolves ≠ some song.id := fun own => nomatch resolves.symm.trans own
      exact marked_kept _ present _ notOwn waits

theorem resolution_ended_iff (submits : call.submits = none) (resolves : call.resolves = some id) :
    FlagsFollow threshold (state.place index .ended) ↔
      (countPendingForSong state.reports id = 0 → ∀ song ∈ state.songs, song.id = id →
        song.flagged = true → state.byThreshold song.id = true →
          song.id ∈ resolving (state.calls.eraseIdx index)) := by
  have same : SameElsewhere state (state.place index .ended) id := by
    apply placed_elsewhere present rfl
    · exact fun other own => nomatch submits.symm.trans own
    · exact fun other own => (Option.some_inj.mp (resolves.symm.trans own)).symm
    · exact fun _ member _ => member
    · exact fun _ _ => rfl
    · exact fun _ _ => rfl
    · exact fun _ _ => rfl
  rw [consistent.flags.elsewhere same]
  constructor
  · intro here none song member own flagged byThreshold
    have lowered := (here song member own).2 flagged byThreshold (own ▸ none)
    rw [resolving_ended present] at lowered
    exact lowered
  · intro guarded song member own
    refine ⟨?_, ?_⟩
    · intro many
      have raised := consistent.flags.raised song member many
      have notOwn : call.submits ≠ some song.id := fun own => nomatch submits.symm.trans own
      exact raised.imp_right fun later => later.imp_left (marked_kept _ present _ notOwn)
    · intro flagged byThreshold none
      rw [resolving_ended present]
      exact guarded (own ▸ none) song member own flagged byThreshold

theorem song_saved_iff {byThreshold : Bool}
    (submits : ∀ other, call.submits = some other → other = saved.id)
    (resolves : ∀ other, call.resolves = some other → other = saved.id) :
    FlagsFollow threshold ((state.saveSong saved byThreshold).place index .ended) ↔
      (threshold ≤ countPendingForSong state.reports saved.id →
          saved.flagged = true ∨ saved.id ∈ submitting (state.calls.eraseIdx index) ∨
            state.excused saved.id = true) ∧
        (saved.flagged = true → byThreshold = true →
          countPendingForSong state.reports saved.id = 0 →
            saved.id ∈ resolving (state.calls.eraseIdx index)) := by
  have same : SameElsewhere state ((state.saveSong saved byThreshold).place index .ended)
      saved.id := by
    refine placed_elsewhere present rfl submits resolves ?_ ?_ ?_ ?_
    · exact fun song member different => (mem_storeRow member).resolve_left fun own =>
        different (congrArg Song.id own)
    · exact fun _ _ => rfl
    · exact fun other different => if_neg different
    · exact fun _ _ => rfl
  have setBy : (state.saveSong saved byThreshold).byThreshold saved.id = byThreshold := if_pos rfl
  have only : ∀ song ∈ storeRow Song.id saved state.songs, song.id = saved.id → song = saved :=
    fun song member own => (mem_storeRow_cases member).resolve_right fun other => other.2 own
  rw [consistent.flags.elsewhere same]
  constructor
  · intro here
    obtain ⟨raised, lowered⟩ := here saved (storeRow_mem saved state.songs) rfl
    refine ⟨?_, ?_⟩
    · intro many
      have now := raised many
      change _ ∨ saved.id ∈ submitting (state.place index .ended).calls ∨ _ at now
      rw [submitting_ended present] at now
      exact now
    · intro flagged byIt none
      have now := lowered flagged (setBy.trans byIt) none
      change saved.id ∈ resolving (state.place index .ended).calls at now
      rw [resolving_ended present] at now
      exact now
  · intro guarded song member own
    obtain rfl := only song member own
    refine ⟨?_, ?_⟩
    · intro many
      change _ ∨ song.id ∈ submitting (state.place index .ended).calls ∨ _
      rw [submitting_ended present]
      exact guarded.1 many
    · intro flagged byIt none
      change song.id ∈ resolving (state.place index .ended).calls
      rw [resolving_ended present]
      exact guarded.2 flagged (setBy.symm.trans byIt) none

end

theorem scoredReport_same (reports : List ContentReport) (report : ContentReport) :
    (scoredReport reports report).id = report.id ∧
      (scoredReport reports report).songId = report.songId ∧
        (scoredReport reports report).status = report.status := by
  unfold scoredReport
  split
  · exact ⟨rfl, rfl, rfl⟩
  · exact ⟨rfl, rfl, rfl⟩

theorem content_saved_iff {copy : Song} (same : unflaggedSong saved = unflaggedSong copy) :
    ContentKept state.songs (storeRow Song.id saved state.songs) ↔
      ContentCurrent state.songs copy := by
  constructor
  · intro kept
    obtain ⟨song, member, content⟩ := kept saved (storeRow_mem saved state.songs)
    exact ⟨song, member, content.trans same⟩
  · intro current later member
    cases mem_storeRow member with
    | inl own =>
        obtain ⟨song, present, content⟩ := current
        exact ⟨song, present, content.trans (own ▸ same.symm)⟩
    | inr earlier => exact ⟨later, earlier, rfl⟩

theorem report_pending_flags (consistent : ReportsConsistent threshold state)
    (present : state.calls[index]? = some call) {changed : ReportingState}
    (calls : changed.calls = state.calls) (songs : changed.songs = state.songs)
    (submits : ∀ other, call.submits = some other → other = id) (resolves : call.resolves = none)
    (counts : next.submits = some id)
    (more : countPendingForSong state.reports id ≤ countPendingForSong changed.reports id)
    (pending : ∀ other, other ≠ id →
      countPendingForSong changed.reports other = countPendingForSong state.reports other)
    (byThreshold : changed.byThreshold = state.byThreshold)
    (excused : ∀ other, other ≠ id → changed.excused other = state.excused other) :
    FlagsFollow threshold (changed.place index next) := by
  have same : SameElsewhere state (changed.place index next) id := by
    refine placed_elsewhere present calls submits ?_ ?_ pending ?_ excused
    · exact fun other own => nomatch resolves.symm.trans own
    · exact fun song member _ => songs ▸ member
    · exact fun other _ => congrFun byThreshold other
  rw [consistent.flags.elsewhere same]
  intro song member own
  refine ⟨?_, ?_⟩
  · intro _
    refine Or.inr (Or.inl ?_)
    change song.id ∈ (changed.calls.set index next).filterMap ReportCall.submits
    rw [calls]
    exact (marked_placed _ present next).mpr (Or.inl (own ▸ counts))
  · intro flagged byIt none
    change song ∈ changed.songs at member
    change changed.byThreshold song.id = true at byIt
    change countPendingForSong changed.reports song.id = 0 at none
    rw [songs] at member
    rw [byThreshold] at byIt
    have before : countPendingForSong state.reports song.id = 0 := by
      rw [own] at none ⊢
      omega
    have waits := consistent.flags.lowered song member flagged byIt before
    change song.id ∈ (changed.calls.set index next).filterMap ReportCall.resolves
    rw [calls]
    exact marked_kept _ present next (fun own => nomatch resolves.symm.trans own) waits

theorem report_resolved_flags (consistent : ReportsConsistent threshold state)
    {report : ContentReport} {moderatorId : String} {action : ReportAction}
    (present : state.calls[index]? = some (.saveResolved report moderatorId action))
    (listed : Listed state.reports report) (resolved : report.status = .resolved) :
    FlagsFollow threshold
      ((state.saveReport report).place index
        (.findReported report.songId moderatorId action)) := by
  have same : SameElsewhere state ((state.saveReport report).place index
      (.findReported report.songId moderatorId action)) report.songId := by
    refine placed_elsewhere present rfl ?_ ?_ ?_ ?_ ?_ ?_
    · exact fun _ own => nomatch own
    · exact fun _ own => (Option.some_inj.mp own).symm
    · exact fun _ member _ => member
    · exact fun other different =>
        countPending_store_other consistent.ids listed different.symm
    · exact fun _ _ => rfl
    · exact fun _ _ => rfl
  rw [consistent.flags.elsewhere same]
  intro song member own
  refine ⟨?_, ?_⟩
  · intro many
    have fewer := countPending_store_resolved listed resolved song.id
    have raised := consistent.flags.raised song member (Nat.le_trans many fewer)
    have notOwn : (ReportCall.saveResolved report moderatorId action).submits ≠ some song.id :=
      (Option.some_ne_none _).symm
    exact raised.imp_right fun later => later.imp_left (marked_kept _ present _ notOwn)
  · intro _ _ _
    exact (marked_placed _ present _).mpr (Or.inl (congrArg some own.symm))

theorem contentKept_refl (songs : List Song) : ContentKept songs songs :=
  fun song member => ⟨song, member, rfl⟩

theorem rules_of_flags {after : ReportingState} {label : ReportLabel}
    (songs : after.songs = state.songs) :
    FlaggingRules threshold state label after ↔ FlagsFollow threshold after := by
  constructor
  · exact FlaggingRules.flags
  · intro flags
    exact ⟨flags, fun _ => songs ▸ contentKept_refl after.songs⟩

theorem save_rules_iff {copy : Song} {byThreshold : Bool} {label : ReportLabel}
    (isReport : label.isReport = true) (same : unflaggedSong saved = unflaggedSong copy) :
    FlaggingRules threshold state label ((state.saveSong saved byThreshold).place index .ended) ↔
      ContentCurrent state.songs copy ∧
        FlagsFollow threshold ((state.saveSong saved byThreshold).place index .ended) := by
  rw [← content_saved_iff same]
  constructor
  · exact fun rules => ⟨rules.content isReport, rules.flags⟩
  · exact fun parts => ⟨parts.2, fun _ => parts.1⟩

theorem perform_flags_iff (consistent : ReportsConsistent threshold state)
    (present : state.calls[index]? = some call) (now : Nat) (drawn : String) :
    (∀ answer ∈ performReport threshold state now drawn call,
        FlaggingRules threshold state (.step index now drawn) (answer.1.place index answer.2)) ↔
      FlagsGuarded threshold state (state.calls.eraseIdx index) call := by
  have sound := consistent.sound call (List.mem_of_getElem? present)
  cases call with
  | triage | ended | thrown => exact iff_of_true (fun answer none => nomatch none) trivial
  | findSong songId reporterId reason input =>
      refine Iff.trans (only_answer _) (iff_of_true ?_ trivial)
      refine Iff.mpr (rules_of_flags rfl) ?_
      exact read_flags consistent present (Or.inl rfl) (Or.inl rfl)
  | findExisting song reporterId reason input =>
      refine Iff.trans (only_answer _) (iff_of_true ?_ trivial)
      refine Iff.mpr (rules_of_flags rfl) ?_
      exact read_flags consistent present (Or.inl rfl) (Or.inl rfl)
  | findReport reportId moderatorId action note =>
      refine Iff.trans (only_answer _) (iff_of_true ?_ trivial)
      refine Iff.mpr (rules_of_flags rfl) ?_
      exact read_flags consistent present (Or.inl rfl) (Or.inl rfl)
  | insertReport song reporterId reason input =>
      refine iff_of_true ?_ trivial
      intro answer answered
      obtain ⟨_, answered⟩ := Option.ite_none_left_eq_some.mp answered
      split at answered
      · cases answered
        refine Iff.mpr (rules_of_flags rfl) ?_
        exact read_flags consistent present (Or.inl rfl) (Or.inl rfl)
      · cases answered
        refine Iff.mpr (rules_of_flags rfl) ?_
        apply report_pending_flags consistent present
        · rfl
        · rfl
        · exact fun _ own => nomatch own
        · rfl
        · show _ = some song.id
          dsimp only
          split
          · rfl
          · rfl
        · exact countPending_append song.id
        · exact fun other different => countPending_append_other different.symm
        · rfl
        · exact fun other different => if_neg different
  | saveScores song report =>
      obtain ⟨listed, pending, sameSong⟩ := sound
      refine Iff.trans (only_answer _) (iff_of_true ?_ trivial)
      have scored := scoredReport_same state.reports report
      have storable : Listed state.reports (scoredReport state.reports report) := by
        obtain ⟨row, member, sameId, same⟩ := listed
        exact ⟨row, member, sameId.trans scored.1.symm, same.trans scored.2.1.symm⟩
      refine Iff.mpr (rules_of_flags rfl) ?_
      apply report_pending_flags consistent present
      · rfl
      · rfl
      · exact fun _ own => (Option.some_inj.mp own).symm
      · rfl
      · rfl
      · exact countPending_store_pending consistent.ids storable (scored.2.2.trans pending) song.id
      · intro other different
        apply countPending_store_other consistent.ids storable
        rw [scored.2.1, sameSong]
        exact different.symm
      · rfl
      · exact fun _ _ => rfl
  | countReports song =>
      refine Iff.trans (only_answer _) ?_
      refine Iff.trans (rules_of_flags rfl) ?_
      dsimp only
      by_cases ends : song.flagged = true ∨ countPendingForSong state.reports song.id < threshold
      · rw [if_pos ends]
        refine Iff.trans (submission_ended_iff consistent present rfl rfl) ?_
        constructor
        · exact fun held _ => held
        · intro guarded many
          exact guarded (ends.resolve_right (Nat.not_lt.mpr many)) many
      · rw [if_neg ends]
        refine iff_of_true (read_flags consistent present (Or.inr rfl) (Or.inr rfl)) ?_
        exact fun flagged => absurd (Or.inl flagged) ends
  | saveFlagged song pendingReports flaggedAt =>
      refine Iff.trans (only_answer _) ?_
      refine Iff.trans (save_rules_iff rfl rfl) ?_
      refine and_congr Iff.rfl (Iff.trans (song_saved_iff consistent present ?_ ?_) ?_)
      · exact fun _ own => (Option.some_inj.mp own).symm
      · exact fun _ own => nomatch own
      · constructor
        · exact fun both => both.2 rfl rfl
        · exact fun guarded => ⟨fun _ => Or.inl rfl, fun _ _ => guarded⟩
  | saveResolved report moderatorId action =>
      refine Iff.trans (only_answer _) (iff_of_true ?_ trivial)
      refine Iff.mpr (rules_of_flags rfl) ?_
      exact report_resolved_flags consistent present sound.1 sound.2
  | findReported songId moderatorId action =>
      refine Iff.trans (only_answer _) (iff_of_true ?_ trivial)
      refine Iff.mpr (rules_of_flags rfl) ?_
      dsimp only
      split
      · rename_i absent
        refine (resolution_ended_iff consistent present rfl rfl).mpr ?_
        intro _ song member own
        exact absurd (own ▸ List.mem_map_of_mem member) (findRow_eq_none absent)
      · rename_i song found
        have own := (findRow_mem found).2
        split
        · exact read_flags consistent present (Or.inl rfl) (Or.inr (congrArg some own))
        · exact read_flags consistent present (Or.inl rfl) (Or.inr (congrArg some own))
  | saveUpheld song moderatorId action flaggedAt =>
      refine Iff.trans (only_answer _) ?_
      refine Iff.trans (save_rules_iff rfl rfl) (and_iff_left ?_)
      refine (song_saved_iff consistent present ?_ ?_).mpr ?_
      · exact fun _ own => nomatch own
      · exact fun _ own => (Option.some_inj.mp own).symm
      · exact ⟨fun _ => Or.inl rfl, fun _ impossible => nomatch impossible⟩
  | countRemaining song =>
      refine Iff.trans (only_answer _) ?_
      refine Iff.trans (rules_of_flags rfl) ?_
      dsimp only
      by_cases lifts : countPendingForSong state.reports song.id = 0 ∧ song.flagged = true ∧
          song.flaggedBy = none
      · rw [if_pos lifts]
        refine iff_of_true (read_flags consistent present (Or.inr rfl) (Or.inr rfl)) ?_
        intro other
        cases other with
        | inl unflagged => cases unflagged.symm.trans lifts.2.1
        | inr author => exact absurd lifts.2.2 author
      · rw [if_neg lifts]
        refine Iff.trans (resolution_ended_iff consistent present rfl rfl) ?_
        constructor
        · exact fun held _ => held
        · intro guarded none
          refine guarded ?_ none
          by_cases flagged : song.flagged = true
          · exact Or.inr fun author => lifts ⟨none, flagged, author⟩
          · exact Or.inl (Bool.eq_false_iff.mpr flagged)
  | saveLifted song =>
      refine Iff.trans (only_answer _) ?_
      refine Iff.trans (save_rules_iff rfl rfl) ?_
      refine and_congr Iff.rfl (Iff.trans (song_saved_iff consistent present ?_ ?_) ?_)
      · exact fun _ own => nomatch own
      · exact fun _ own => (Option.some_inj.mp own).symm
      · constructor
        · exact fun both many => (both.1 many).resolve_left Bool.false_ne_true
        · exact fun guarded => ⟨fun many => Or.inr (guarded many), fun impossible => nomatch impossible⟩

end Calls

/-! ### The law over runs -/

section Runs

variable {threshold : Nat} {state after : ReportingState} {label : ReportLabel} {index : Nat}
  {call : ReportCall}

theorem otherWrite_flags (flags : FlagsFollow threshold state) (songId : String)
    (write : SongWrite) : FlagsFollow threshold (state.otherWrite songId write) := by
  have written : ∀ later ∈ (state.otherWrite songId write).songs, ∃ song ∈ state.songs,
      later.id = song.id ∧
        (song.id = songId ∧ later = write.apply song ∨ song.id ≠ songId ∧ later = song) := by
    intro later member
    obtain ⟨song, present, same⟩ := List.mem_map.mp member
    by_cases own : song.id = songId
    · rw [if_pos own] at same
      exact ⟨song, present, same ▸ write.keepsId song, Or.inl ⟨own, same.symm⟩⟩
    · rw [if_neg own] at same
      exact ⟨song, present, congrArg Song.id same.symm, Or.inr ⟨own, same.symm⟩⟩
  refine ⟨?_, ?_⟩
  · intro later member many
    obtain ⟨song, present, sameId, change⟩ := written later member
    have before := flags.raised song present (sameId ▸ many)
    have waits : song.id ∈ submitting state.calls ∨ state.excused song.id = true →
        song.id ∈ submitting (state.otherWrite songId write).calls ∨
          (state.otherWrite songId write).excused song.id = true := by
      intro rest
      cases rest with
      | inl submits => exact Or.inl submits
      | inr excused => exact Or.inr (Bool.or_eq_true_iff.mpr (Or.inl excused))
    rw [sameId]
    cases change with
    | inr other =>
        rw [other.2]
        exact before.imp_right waits
    | inl own =>
        by_cases flagged : later.flagged = true
        · exact Or.inl flagged
        · refine Or.inr ?_
          cases before with
          | inr rest => exact waits rest
          | inl was =>
              refine Or.inr (Bool.or_eq_true_iff.mpr (Or.inr ?_))
              have lost : (write.apply song).flagged = false :=
                own.2 ▸ Bool.eq_false_iff.mpr flagged
              refine Bool.and_eq_true_iff.mpr ⟨decide_eq_true own.1, ?_⟩
              exact List.any_eq_true.mpr ⟨song, present, decide_eq_true ⟨rfl, was, lost⟩⟩
  · intro later member flagged byThreshold none
    obtain ⟨song, present, sameId, change⟩ := written later member
    rw [sameId] at byThreshold none ⊢
    obtain ⟨byIt, unchanged⟩ := Bool.and_eq_true_iff.mp byThreshold
    cases change with
    | inr other => exact flags.lowered song present (other.2 ▸ flagged) byIt none
    | inl own =>
        have same : moderationFields (write.apply song) = moderationFields song := by
          by_contra different
          have changed : (decide (song.id = songId) && state.songs.any fun row =>
              decide (row.id = song.id ∧
                moderationFields (write.apply row) ≠ moderationFields row)) = true :=
            Bool.and_eq_true_iff.mpr ⟨decide_eq_true own.1,
              List.any_eq_true.mpr ⟨song, present, decide_eq_true ⟨rfl, different⟩⟩⟩
          rw [changed] at unchanged
          cases unchanged
        have wasFlagged : (write.apply song).flagged = song.flagged :=
          congrArg ModerationFields.flagged same
        exact flags.lowered song present (wasFlagged.symm.trans (own.2 ▸ flagged)) byIt none

theorem begun_flags (flags : FlagsFollow threshold state) (call : ReportCall) :
    FlagsFollow threshold { state with calls := state.calls ++ [call] } := by
  have kept : ∀ (marks : ReportCall → Option String), ∀ other ∈ state.calls.filterMap marks,
      other ∈ (state.calls ++ [call]).filterMap marks := by
    intro marks other marked
    rw [List.filterMap_append]
    exact List.mem_append_left _ marked
  exact flags.unwritten rfl rfl rfl rfl (kept _) (kept _)

section

variable (consistent : ReportsConsistent threshold state)
include consistent

theorem scored_flags (present : state.calls[index]? = some call) (answered : Bool) :
    ∀ answer ∈ state.reply threshold (.scored index answered) call,
      FlaggingRules threshold state (.scored index answered) (answer.1.place index answer.2) := by
  intro answer member
  obtain ⟨next, scored, same⟩ := Option.map_eq_some_iff.mp member
  subst same
  refine Iff.mpr (rules_of_flags rfl) ?_
  cases call with
  | triage song report =>
      cases scored
      cases answered with
      | true => exact read_flags consistent present (Or.inr rfl) (Or.inl rfl)
      | false => exact read_flags consistent present (Or.inr rfl) (Or.inl rfl)
  | findSong | findExisting | insertReport | saveScores | countReports | saveFlagged | findReport
  | saveResolved | findReported | saveUpheld | countRemaining | saveLifted | ended | thrown =>
      cases scored

theorem flagsLawful_iff_guarded :
    FlagsLawful threshold state label ↔ ReportsGuarded threshold state label := by
  cases label with
  | submitReport songId reporterId input =>
      refine iff_of_true ?_ trivial
      intro after moved
      cases moved
      refine Iff.mpr (rules_of_flags rfl) ?_
      exact begun_flags consistent.flags _
  | resolveReport reportId moderatorId input =>
      refine iff_of_true ?_ trivial
      intro after moved
      cases moved
      refine Iff.mpr (rules_of_flags rfl) ?_
      exact begun_flags consistent.flags _
  | otherWrite songId write =>
      refine iff_of_true ?_ trivial
      intro after moved
      cases moved
      exact ⟨otherWrite_flags consistent.flags songId write, fun impossible => nomatch impossible⟩
  | step index now drawn =>
      refine Iff.trans (lawful_call_iff _) ?_
      exact forall₂_congr fun call present => perform_flags_iff consistent present now drawn
  | scored index answered =>
      refine iff_of_true ?_ trivial
      refine Iff.mpr (lawful_call_iff _) ?_
      exact fun call present => scored_flags consistent present answered

structure ReportAnswered (state : ReportingState) (answer : ReportingState × ReportCall) : Prop where
  calls : answer.1.calls = state.calls
  ids : (answer.1.reports.map ContentReport.id).Nodup
  listed : ∀ copy, Listed state.reports copy → Listed answer.1.reports copy
  sound : CallSound answer.1.reports answer.2

theorem ReportAnswered.unwritten {changed : ReportingState} {next : ReportCall}
    (calls : changed.calls = state.calls) (reports : changed.reports = state.reports)
    (sound : CallSound state.reports next) :
    ReportAnswered state (changed, next) := by
  refine ⟨calls, ?_, ?_, ?_⟩
  · exact reports ▸ consistent.ids
  · exact fun copy listed => reports ▸ listed
  · exact reports ▸ sound

end

variable {answer : ReportingState × ReportCall}

theorem perform_answered (consistent : ReportsConsistent threshold state)
    (sound : CallSound state.reports call) {now : Nat} {drawn : String}
    (answered : performReport threshold state now drawn call = some answer) :
    ReportAnswered state answer := by
  cases call with
  | triage | ended | thrown => cases answered
  | findSong songId reporterId reason input =>
      cases answered
      apply ReportAnswered.unwritten consistent rfl rfl
      split
      · trivial
      · trivial
  | findExisting song reporterId reason input =>
      cases answered
      apply ReportAnswered.unwritten consistent rfl rfl
      split
      · trivial
      · trivial
  | insertReport song reporterId reason input =>
      obtain ⟨fresh, answered⟩ := Option.ite_none_left_eq_some.mp answered
      split at answered
      · cases answered
        exact ReportAnswered.unwritten consistent rfl rfl trivial
      · cases answered
        refine ⟨rfl, ?_, fun copy listed => listed.append _, ?_⟩
        · change ((state.reports ++ [_]).map ContentReport.id).Nodup
          rw [List.map_append]
          apply consistent.ids.append (List.nodup_singleton _)
          intro id stored single
          cases List.mem_singleton.mp single
          exact fresh stored
        · dsimp only
          split
          · exact ⟨⟨_, List.mem_append_right _ (List.mem_singleton_self _), rfl, rfl⟩, rfl, rfl⟩
          · trivial
  | saveScores song report =>
      cases answered
      have scored := scoredReport_same state.reports report
      obtain ⟨row, member, sameId, same⟩ := sound.1
      have storable : Listed state.reports (scoredReport state.reports report) :=
        ⟨row, member, sameId.trans scored.1.symm, same.trans scored.2.1.symm⟩
      exact ⟨rfl, storeRow_nodup consistent.ids,
        fun copy listed => listed.store consistent.ids storable, trivial⟩
  | countReports song =>
      cases answered
      apply ReportAnswered.unwritten consistent rfl rfl
      split
      · trivial
      · trivial
  | findReport reportId moderatorId action note =>
      cases answered
      apply ReportAnswered.unwritten consistent rfl rfl
      split
      · trivial
      · rename_i report found
        split
        · trivial
        · exact ⟨⟨report, (findRow_mem found).1, rfl, rfl⟩, rfl⟩
  | saveResolved report moderatorId action =>
      cases answered
      exact ⟨rfl, storeRow_nodup consistent.ids,
        fun copy listed => listed.store consistent.ids sound.1, trivial⟩
  | findReported songId moderatorId action =>
      cases answered
      apply ReportAnswered.unwritten consistent rfl rfl
      split
      · trivial
      · split
        · trivial
        · trivial
  | countRemaining song =>
      cases answered
      apply ReportAnswered.unwritten consistent rfl rfl
      split
      · trivial
      · trivial
  | saveFlagged | saveUpheld | saveLifted =>
      cases answered
      exact ReportAnswered.unwritten consistent rfl rfl trivial

theorem scored_answered (consistent : ReportsConsistent threshold state)
    (sound : CallSound state.reports call) {answered : Bool}
    (given : (scoreReportWithAI answered call).map (fun next => (state, next)) = some answer) :
    ReportAnswered state answer := by
  obtain ⟨next, scored, same⟩ := Option.map_eq_some_iff.mp given
  subst same
  apply ReportAnswered.unwritten consistent rfl rfl
  cases call with
  | triage song report =>
      cases scored
      cases answered with
      | true => exact sound
      | false => trivial
  | findSong | findExisting | insertReport | saveScores | countReports | saveFlagged | findReport
  | saveResolved | findReported | saveUpheld | countRemaining | saveLifted | ended | thrown =>
      cases scored

theorem CallSound.later {before after : List ContentReport} (sound : CallSound before call)
    (listed : ∀ copy, Listed before copy → Listed after copy) : CallSound after call := by
  cases call with
  | triage song report | saveScores song report => exact ⟨listed report sound.1, sound.2⟩
  | saveResolved report moderatorId action => exact ⟨listed report sound.1, sound.2⟩
  | findSong | findExisting | insertReport | countReports | saveFlagged | findReport
  | findReported | saveUpheld | countRemaining | saveLifted | ended | thrown => trivial

theorem begun_sound {Parsed : Type} (parsed : Except AppError Parsed) (first : Parsed → ReportCall)
    (reports : List ContentReport) (plain : ∀ value, CallSound reports (first value)) :
    CallSound reports (orThrown (parsed.map first)) := by
  cases parsed with
  | error error => trivial
  | ok value => exact plain value

theorem ReportsConsistent.stepped (consistent : ReportsConsistent threshold state)
    (flags : FlagsFollow threshold after)
    (moved : reportStep threshold state label = some after) :
    ReportsConsistent threshold after := by
  have begun : ∀ call, CallSound state.reports call →
      after = { state with calls := state.calls ++ [call] } →
      ReportsConsistent threshold after := by
    intro call plain same
    subst same
    refine ⟨consistent.ids, flags, ?_⟩
    intro other member
    cases List.mem_append.mp member with
    | inl earlier => exact consistent.sound other earlier
    | inr new => exact List.mem_singleton.mp new ▸ plain
  have replied : ∀ index call (answer : ReportingState × ReportCall),
      state.calls[index]? = some call → ReportAnswered state answer →
      answer.1.place index answer.2 = after → ReportsConsistent threshold after := by
    intro index call answer present done same
    subst same
    refine ⟨done.ids, flags, ?_⟩
    intro other member
    change other ∈ answer.1.calls.set index answer.2 at member
    rw [done.calls] at member
    cases (mem_placed present answer.2 other).mp member with
    | inl new => exact new ▸ done.sound
    | inr elsewhere =>
        have earlier := (mem_of_present present other).mpr (Or.inr elsewhere)
        exact (consistent.sound other earlier).later done.listed
  cases label with
  | submitReport songId reporterId input =>
      refine begun _ ?_ (Option.some_inj.mp moved).symm
      exact begun_sound _ _ _ fun _ => trivial
  | resolveReport reportId moderatorId input =>
      refine begun _ ?_ (Option.some_inj.mp moved).symm
      exact begun_sound _ _ _ fun _ => trivial
  | otherWrite songId write =>
      cases moved
      exact ⟨consistent.ids, flags, consistent.sound⟩
  | step index now drawn =>
      obtain ⟨call, present, moved⟩ := Option.bind_eq_some_iff.mp moved
      obtain ⟨answer, answered, same⟩ := Option.map_eq_some_iff.mp moved
      have sound := consistent.sound call (List.mem_of_getElem? present)
      exact replied index call answer present (perform_answered consistent sound answered) same
  | scored index answered =>
      obtain ⟨call, present, moved⟩ := Option.bind_eq_some_iff.mp moved
      obtain ⟨answer, given, same⟩ := Option.map_eq_some_iff.mp moved
      have sound := consistent.sound call (List.mem_of_getElem? present)
      exact replied index call answer present (scored_answered consistent sound given) same

theorem ReportsAtRest.consistent (rest : ReportsAtRest threshold state) :
    ReportsConsistent threshold state := by
  refine ⟨rest.ids, rest.flags, ?_⟩
  intro call member
  rw [rest.idle] at member
  cases member

/-- In a run the flags follow the reports and a report operation changes only moderation fields,
exactly if each save of a song finds it as it was loaded and each call that leaves a song finds
that another one will look after it, or that nothing is left to do. -/
theorem reportMachine_lawful_iff (threshold : Nat) (state : ReportingState)
    (rest : ReportsAtRest threshold state) (labels : List ReportLabel) :
    (reportMachine threshold).Permits (FlagsLawful threshold) state labels ↔
      (reportMachine threshold).Permits (ReportsGuarded threshold) state labels := by
  apply Machine.permits_iff (ReportsConsistent threshold) (fun _ => True) _ _ labels
    rest.consistent fun _ _ => trivial
  · intro before label consistent _
    exact flagsLawful_iff_guarded consistent
  · intro before label after consistent _ lawful moved
    exact consistent.stepped (lawful after moved).flags moved

end Runs

/-! Three listeners report one song. -/

def unreportedSong : ReportingState :=
  { songs := [publishedSong]
    reports := []
    calls := []
    byThreshold := fun _ => false
    excused := fun _ => false }

theorem unreportedSong_atRest : ReportsAtRest 3 unreportedSong := by
  refine ⟨rfl, List.nodup_nil, ?_, ?_⟩
  · intro song _ many
    have none : countPendingForSong unreportedSong.reports song.id = 0 := rfl
    omega
  · intro song _ _ byThreshold
    cases byThreshold

def spamReport (aiConsent : Bool) : SubmitReportInput := ⟨"spam", none, aiConsent⟩

/-- A submission that is stored and counted, without the AI. -/
def submits (index : Nat) (reporterId drawn : String) : List ReportLabel :=
  [.submitReport "song1" reporterId (spamReport false), .step index 10 "", .step index 10 "",
    .step index 10 drawn, .step index 10 ""]

def dismisses (index : Nat) (reportId : String) : List ReportLabel :=
  .resolveReport reportId "moderator1" ⟨"dismissed", none⟩ :: List.replicate 4 (.step index 20 "")

/-- The third report flags the song, and a moderator dismisses all of them. -/
def flaggedThenDismissed : List ReportLabel :=
  submits 0 "user1" "report1" ++ submits 1 "user2" "report2" ++ submits 2 "user3" "report3" ++
    [.step 2 10 ""] ++ dismisses 3 "report1" ++ dismisses 4 "report2" ++ dismisses 5 "report3" ++
    [.step 5 20 ""]

def flagsOf (state : ReportingState) : List (Bool × Option String) :=
  state.songs.map fun song => (song.flagged, song.flagReason)

theorem unreportedSong_flagged_and_lifted :
    (reportMachine 3).Permits (FlagsLawful 3) unreportedSong flaggedThenDismissed ∧
      ((reportMachine 3).run unreportedSong flaggedThenDismissed).map flagsOf =
        some [(false, none)] := by
  constructor
  · apply (reportMachine_lawful_iff 3 unreportedSong unreportedSong_atRest _).mpr
    decide +kernel
  · decide +kernel

def renamed : SongWrite where
  apply song := { song with title := "Outro" }
  keepsId _ := rfl

/-- The song gets another title while the AI is asked about the third report. -/
def renamedMeanwhile : List ReportLabel :=
  submits 0 "user1" "report1" ++ submits 1 "user2" "report2" ++
    [.submitReport "song1" "user3" (spamReport true), .step 2 10 "", .step 2 10 "",
      .step 2 10 "report3", .otherWrite "song1" renamed, .scored 2 false, .step 2 10 ""]

def titlesOf (state : ReportingState) : List String := state.songs.map Song.title

/-- The flag is saved with the old title. -/
theorem unreportedSong_title_lost :
    ReportsAtRest 3 unreportedSong ∧
      ¬(reportMachine 3).Permits (FlagsLawful 3) unreportedSong
        (renamedMeanwhile ++ [.step 2 10 ""]) := by
  refine ⟨unreportedSong_atRest, ?_⟩
  intro permitted
  have lost : ((reportMachine 3).run unreportedSong renamedMeanwhile).bind (fun state =>
      (reportStep 3 state (.step 2 10 "")).map fun after => (titlesOf state, titlesOf after)) =
        some (["Outro"], ["Intro"]) := by decide +kernel
  obtain ⟨state, executed, last⟩ := Option.bind_eq_some_iff.mp lost
  obtain ⟨after, moved, both⟩ := Option.map_eq_some_iff.mp last
  have rules := (Machine.Permits.later permitted executed).1 after moved
  obtain ⟨later, isOnly, title⟩ := List.map_eq_singleton_iff.mp (congrArg Prod.snd both)
  obtain ⟨song, member, content⟩ :=
    rules.content rfl later (isOnly ▸ List.mem_singleton_self later)
  have sameTitle : (unflaggedSong song).title = (unflaggedSong later).title :=
    congrArg Song.title content
  change song.title = later.title at sameTitle
  have present : song.title ∈ titlesOf state := List.mem_map_of_mem member
  rw [show titlesOf state = ["Outro"] from congrArg Prod.fst both, sameTitle, title] at present
  exact absurd (List.mem_singleton.mp present) (by decide)

end AudioBlock.Moderation
