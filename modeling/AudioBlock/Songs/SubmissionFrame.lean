/-
What the steps of a mint submission change in the row of a song.

The save after the chain's answer writes back the copy from before it.  It changes the
mint columns alone exactly where the row still shows the other columns of the copy.
-/
import AudioBlock.Songs.SplitRequests

namespace AudioBlock.Songs

open AudioBlock.Foundation AudioBlock.Royalty

/-! ### The frame of a submission -/

def Song.withoutMint (song : Song) : Song :=
  { song with mintStatus := .notMinted, onChainSongId := none, onChainTokenId := none }

def SplitCall.isSubmission : SplitCall → Bool
  | .mint .findSong | .mint (.submit _) | .mint (.saveMinted _ _ _) | .mint (.saveFailed _) => true
  | _ => false

def SubmissionFrames (state : SplitState) (label : SplitLabel) : Prop :=
  ∀ request ∈ state.mover label, request.next.isSubmission = true →
    ∀ after, splitStep state label = some after →
      after.collaborators = state.collaborators ∧
        ∀ songId, (after.row songId).map Song.withoutMint = (state.row songId).map Song.withoutMint

def Fresh (state : SplitState) (copy : Song) : Prop :=
  ∃ row ∈ state.row copy.id, row.withoutMint = copy.withoutMint

instance (state : SplitState) (copy : Song) : Decidable (Fresh state copy) :=
  inferInstanceAs (Decidable (∃ row ∈ state.row copy.id, _))

def FreshCall (state : SplitState) : SplitCall → Prop
  | .mint (.saveMinted copy _ _) | .mint (.saveFailed copy) => Fresh state copy
  | _ => True

/-- A submission that saves finds the row as it has loaded it, apart from the mint. -/
def FreshSubmission (state : SplitState) : SplitLabel → Prop
  | .step index => ∀ request ∈ state.requests[index]?, FreshCall state request.next
  | _ => True

section Frame

variable {state : SplitState} {label : SplitLabel}

theorem storeRow_withoutMint_iff {saved copy : Song} (same : saved.withoutMint = copy.withoutMint) :
    (∀ songId, (findRow Song.id songId (storeRow Song.id saved state.songs)).map Song.withoutMint =
        (state.row songId).map Song.withoutMint) ↔ Fresh state copy := by
  have named : saved.id = copy.id := by
    change saved.withoutMint.id = _
    rw [same]
    rfl
  constructor
  · intro frames
    have own := frames copy.id
    rw [← named, findRow_storeRow, named, Option.map_some, same] at own
    obtain ⟨row, found, shows⟩ := Option.map_eq_some_iff.mp own.symm
    exact ⟨row, found, shows⟩
  · rintro ⟨row, found, shows⟩ songId
    by_cases here : songId = saved.id
    · subst here
      have stored : state.row saved.id = some row := named ▸ found
      rw [findRow_storeRow, stored, Option.map_some, Option.map_some, same, shows]
    · rw [findRow_storeRow_other state.songs here]
      rfl

/-- The tables that a submission's call leaves agree outside the mint. -/
def KeepsOthers (state : SplitState) (request : SplitRequest) : Prop :=
  ∀ answer, performSplit state request = some answer →
    answer.1.collaborators = state.collaborators ∧
      ∀ songId, (answer.1.row songId).map Song.withoutMint =
        (state.row songId).map Song.withoutMint

theorem submissionFrames_iff {index : Nat} {request : SplitRequest}
    (present : state.requests[index]? = some request) :
    SubmissionFrames state (.step index) ↔
      (request.next.isSubmission = true → KeepsOthers state request) := by
  constructor
  · intro frames submission answer answered
    have kept := frames request present submission _ (splitStep_answered present answered)
    exact kept
  · intro frames mover isMover submission after moved
    cases present.symm.trans isMover
    rcases splitStep_cases moved with ⟨_, _, impossible, _⟩ | ⟨other, same, answer, _, also, answered, rfl⟩
    · cases impossible
    · cases present.symm.trans also
      exact frames submission answer answered

theorem performSplit_frames_iff (request : SplitRequest) :
    (request.next.isSubmission = true → KeepsOthers state request) ↔
      FreshCall state request.next := by
  obtain ⟨songId, next⟩ := request
  cases next with
  | mint call =>
      cases call with
      | findSong =>
          apply iff_of_true _ trivial
          intro _ answer answered
          cases answered
          exact ⟨rfl, fun _ => rfl⟩
      | submit song =>
          apply iff_of_true _ trivial
          intro _ answer answered
          cases answered
      | saveMinted copy onChainSongId onChainTokenId =>
          have same : (copy.asMinted onChainSongId onChainTokenId).withoutMint = copy.withoutMint := rfl
          have fresh : _ ↔ Fresh state copy := storeRow_withoutMint_iff same
          constructor
          · exact fun keeps => fresh.mp (keeps rfl _ rfl).2
          · rintro shows _ answer ⟨⟩
            exact ⟨rfl, fresh.mpr shows⟩
      | saveFailed copy =>
          have same : copy.mintFailed.withoutMint = copy.withoutMint := rfl
          have fresh : _ ↔ Fresh state copy := storeRow_withoutMint_iff same
          constructor
          · exact fun keeps => fresh.mp (keeps rfl _ rfl).2
          · rintro shows _ answer ⟨⟩
            exact ⟨rfl, fresh.mpr shows⟩
      | findForEdit | saveEdited | findForDelete | remove | ended =>
          exact iff_of_true (fun impossible => nomatch impossible) trivial
  | minted | findForTemplate | findTemplate | saveTemplate | findForAdd | findExisting
  | listForAdd | insertCollaborator | findForUpdate | findTarget | listForUpdate | saveCredit
  | findForDispute | findForResolve | findDisputed | saveDispute =>
      exact iff_of_true (fun impossible => nomatch impossible) trivial

theorem submissionFrames_iff_fresh : SubmissionFrames state label ↔ FreshSubmission state label := by
  have quiet (unwritten : ∀ request ∈ state.mover label, ∀ answer,
      state.reply label request = some answer →
        answer.1.collaborators = state.collaborators ∧ answer.1.songs = state.songs) :
      SubmissionFrames state label := by
    intro request isMover _ after moved
    rcases splitStep_cases moved with ⟨_, _, rfl, _⟩ | ⟨_, _, answer, _, also, answered, rfl⟩
    · cases isMover
    · obtain ⟨collaborators, songs⟩ := unwritten _ also answer answered
      refine ⟨collaborators, fun songId => ?_⟩
      change (findRow Song.id songId answer.1.songs).map _ = _
      rw [songs]
      rfl
  cases label with
  | begin songId operation =>
      exact iff_of_true (fun _ impossible => nomatch impossible) trivial
  | answer index outcome =>
      apply iff_of_true _ trivial
      apply quiet
      intro request _ answer answered
      change answerSplit state request outcome = some answer at answered
      unfold answerSplit at answered
      split at answered
      · obtain ⟨_, _, rfl⟩ := Option.map_eq_some_iff.mp answered
        exact ⟨rfl, rfl⟩
      · cases answered
  | fails index =>
      apply iff_of_true _ trivial
      apply quiet
      intro request _ answer answered
      change failSplit state request = some answer at answered
      unfold failSplit at answered
      split at answered
      · obtain ⟨_, _, rfl⟩ := Option.map_eq_some_iff.mp answered
        exact ⟨rfl, rfl⟩
      · cases answered
      · cases answered
        exact ⟨rfl, rfl⟩
  | step index =>
      change SubmissionFrames state (.step index) ↔
        ∀ request ∈ state.requests[index]?, FreshCall state request.next
      cases present : state.requests[index]? with
      | none =>
          apply iff_of_true _ (fun _ impossible => nomatch impossible)
          intro request isMover
          cases present.symm.trans isMover
      | some request =>
          rw [submissionFrames_iff present]
          have only : (∀ other ∈ some request, FreshCall state other.next) ↔
              FreshCall state request.next :=
            ⟨fun all => all request rfl, fun fresh _ same => Option.some.inj same ▸ fresh⟩
          rw [only]
          exact performSplit_frames_iff request

end Frame

end AudioBlock.Songs
