/-
The splits of a song while it is minted.

The guards of templates, collaborators and removals read a mint status that a submission
sets at its end only.  Where the status they read tells of the mint already, where the
saved copies carry the splits that are stored, and where no change was under way when
the submission started, the splits stand still from its start on.
-/
import AudioBlock.Songs.SplitRows
import AudioBlock.Songs.SubmissionFrame

namespace AudioBlock.Songs

open AudioBlock.Foundation AudioBlock.Royalty

deriving instance DecidableEq for SongCollaborator

def creditOf (row : SongCollaborator) : SongCollaborator :=
  { row with disputeStatus := .none }

namespace SplitState

def splits (state : SplitState) (songId : String) : Option (Option (List TemplateSplit)) :=
  (state.row songId).map Song.royaltySplits

def credits (state : SplitState) (songId : String) : List SongCollaborator :=
  state.collaborators.filterMap fun row => if row.songId = songId then some (creditOf row) else none

end SplitState

structure SplitsFrozen (songId : String) (before after : SplitState) : Prop where
  splits : after.splits songId = before.splits songId
  credits : after.credits songId = before.credits songId

/-! ### The condition -/

/-- The status at which the guards refuse. -/
def Closed (song : Song) : Prop :=
  song.mintStatus = .pending ∨ song.mintStatus = .minted

instance (song : Song) : Decidable (Closed song) :=
  inferInstanceAs (Decidable (_ ∨ _))

def SplitCall.Minting : SplitCall → Prop
  | .mint .findSong | .mint (.submit _) | .mint (.saveMinted _ _ _) | .minted => True
  | _ => False

instance : DecidablePred SplitCall.Minting := fun call => by
  unfold SplitCall.Minting
  split <;> infer_instance

def SplitCall.Failed : SplitCall → Prop
  | .mint (.saveFailed _) | .mint .ended => True
  | _ => False

/-- The submission of the song at a place has started and has not failed. -/
def MayMint (index : Nat) (songId : String) (state : SplitState) : Prop :=
  ∃ request ∈ state.requests[index]?, request.songId = songId ∧ request.next.Minting

instance (index : Nat) (songId : String) (state : SplitState) :
    Decidable (MayMint index songId state) :=
  inferInstanceAs (Decidable (∃ request ∈ state.requests[index]?, _))

def PastGuard (songId : String) (request : SplitRequest) : Prop :=
  match request.next with
  | .findTemplate song _ _ | .saveTemplate song _ | .mint (.remove song) => song.id = songId
  | .findExisting _ _ | .findTarget _ _ _ => request.songId = songId
  | .listForAdd _ existing _ _ => request.songId = songId ∨ ∃ row ∈ existing, row.songId = songId
  | .insertCollaborator row | .listForUpdate _ row _ | .saveCredit row => row.songId = songId
  | _ => False

instance (songId : String) (request : SplitRequest) : Decidable (PastGuard songId request) := by
  unfold PastGuard
  split <;> infer_instance

def Guarded (songId : String) (state : SplitState) (request : SplitRequest) : Prop :=
  match request.next with
  | .findForTemplate _ requesterId | .findForAdd requesterId _ _
  | .findForUpdate requesterId _ _ _ =>
      request.songId = songId → ∀ song ∈ state.row songId, song.artistId = requesterId → Closed song
  | .mint (.findForDelete requester _) =>
      request.songId = songId → ∀ song ∈ state.row songId,
        (song.artistId = requester.id ∨ requester.role = some .admin) → Closed song
  | .mint (.saveMinted copy _ _) | .mint (.saveFailed copy) | .mint (.saveEdited copy) =>
      copy.id = songId → ∃ song ∈ state.row songId, song.royaltySplits = copy.royaltySplits
  | .saveDispute copy =>
      copy.songId = songId →
        ∃ row ∈ findRow SongCollaborator.id copy.id state.collaborators, creditOf row = creditOf copy
  | _ => True

instance (songId : String) (state : SplitState) (request : SplitRequest) :
    Decidable (Guarded songId state request) := by
  unfold Guarded
  split <;> infer_instance

def GuardsSplits (index : Nat) (songId : String) (state : SplitState) : SplitLabel → Prop
  | .step place =>
      MayMint index songId state → ∀ request ∈ state.requests[place]?, Guarded songId state request
  | _ => True

instance (index : Nat) (songId : String) (state : SplitState) :
    DecidablePred (GuardsSplits index songId state)
  | .step place => inferInstanceAs (Decidable (_ → ∀ request ∈ state.requests[place]?, _))
  | .begin _ _ | .answer _ _ | .fails _ => isTrue trivial

/-! ### One step -/

section Step

variable {state : SplitState} {request : SplitRequest} {songId : String}

theorem SplitsFrozen.refl (songId : String) (state : SplitState) : SplitsFrozen songId state state :=
  ⟨rfl, rfl⟩

theorem SplitsFrozen.trans {first second third : SplitState} (one : SplitsFrozen songId first second)
    (other : SplitsFrozen songId second third) : SplitsFrozen songId first third :=
  ⟨other.splits.trans one.splits, other.credits.trans one.credits⟩

theorem frozen_store (saved : Song) (own : saved.id = songId →
      ∃ song ∈ state.row songId, song.royaltySplits = saved.royaltySplits) :
    SplitsFrozen songId state { state with songs := storeRow Song.id saved state.songs } := by
  refine ⟨?_, rfl⟩
  change (findRow Song.id songId (storeRow Song.id saved state.songs)).map Song.royaltySplits = _
  by_cases here : songId = saved.id
  · obtain ⟨song, found, same⟩ := own here.symm
    subst here
    unfold SplitState.splits
    rw [findRow_storeRow, found, Option.map_some, Option.map_some, same]
  · rw [findRow_storeRow_other state.songs here]
    rfl

variable {song : Song} {requested : String} {inner : MintState × MintCall} {label : SplitLabel}

theorem frozen_remove (other : song.id ≠ songId) :
    SplitsFrozen songId state
      { state with
        songs := removeRow Song.id song.id state.songs
        collaborators := state.collaborators.filter fun row => decide (row.songId ≠ song.id) } := by
  constructor
  · change (findRow Song.id songId (removeRow Song.id song.id state.songs)).map _ = _
    rw [findRow_removeRow_other state.songs other.symm]
    rfl
  · unfold SplitState.credits
    rw [List.filterMap_filter]
    apply List.filterMap_congr
    intro row _
    by_cases own : row.songId = songId
    · simp [own, other.symm]
    · simp [own]

theorem frozen_insert {row : SongCollaborator} (other : row.songId ≠ songId) :
    SplitsFrozen songId state { state with collaborators := state.collaborators ++ [row] } := by
  refine ⟨rfl, ?_⟩
  simp [SplitState.credits, other]

theorem frozen_saveCollaborator (distinct : DistinctRows state) {row : SongCollaborator}
    (known : state.Knows row) (own : row.songId = songId →
      ∃ stored ∈ findRow SongCollaborator.id row.id state.collaborators,
        creditOf stored = creditOf row) :
    SplitsFrozen songId state (state.saveCollaborator row) := by
  refine ⟨rfl, ?_⟩
  obtain ⟨first, isKnown, sameId, sameSong⟩ := known
  unfold SplitState.credits SplitState.saveCollaborator storeRow
  split
  · apply saveRow_filterMap
    intro stored member replaced
    have songs : stored.songId = row.songId :=
      (distinct.songs stored (List.mem_append_left _ member) first isKnown
        (replaced.trans sameId.symm)).trans sameSong
    by_cases here : row.songId = songId
    · obtain ⟨other, found, same⟩ := own here
      have isOther : stored = other :=
        Option.some.inj ((findRow_of_mem distinct.ids member).symm.trans (replaced ▸ found))
      rw [if_pos here, if_pos (songs.trans here), isOther, same]
    · rw [if_neg here, if_neg (songs ▸ here)]
  · rename_i absent
    have elsewhere : row.songId ≠ songId := by
      intro here
      obtain ⟨stored, found, _⟩ := own here
      have present := findRow_mem found
      exact absent (List.mem_map.mpr ⟨stored, present.1, present.2⟩)
    exact (frozen_insert elsewhere).credits

variable {answer : SplitState × SplitCall}

theorem performSplit_frozen (distinct : DistinctRows state) (present : request ∈ state.requests)
    (early : ¬PastGuard songId request) (guarded : Guarded songId state request)
    (answered : performSplit state request = some answer) : SplitsFrozen songId state answer.1 := by
  obtain ⟨requested, next⟩ := request
  cases next with
  | mint call =>
      cases call with
      | findSong | findForEdit | findForDelete =>
          cases answered
          exact .refl songId state
      | saveMinted copy onChainSongId onChainTokenId =>
          cases answered
          exact frozen_store (copy.asMinted onChainSongId onChainTokenId) guarded
      | saveFailed copy =>
          cases answered
          exact frozen_store copy.mintFailed guarded
      | saveEdited copy =>
          cases answered
          exact frozen_store copy guarded
      | remove song =>
          cases answered
          exact frozen_remove early
      | submit | ended => cases answered
  | minted => cases answered
  | saveTemplate song splits =>
      cases answered
      exact frozen_store { song with royaltySplits := some splits }
        fun here => absurd here early
  | insertCollaborator row =>
      obtain ⟨_, same⟩ := Option.ite_none_left_eq_some.mp answered
      cases same
      exact frozen_insert early
  | saveCredit row =>
      cases answered
      exact frozen_saveCollaborator distinct (knows_held present rfl) fun here => absurd here early
  | saveDispute row =>
      cases answered
      exact frozen_saveCollaborator distinct (knows_held present rfl) guarded
  | listForAdd songRead existing input drawn =>
      cases songRead with
      | false | true =>
          cases answered
          exact .refl songId state
  | listForUpdate songRead renamed share =>
      cases songRead with
      | false | true =>
          cases answered
          exact .refl songId state
  | findForTemplate | findTemplate | findForAdd | findExisting | findForUpdate | findTarget
  | findForDispute | findForResolve | findDisputed =>
      cases answered
      exact .refl songId state

def Early (songId requested : String) (call : SplitCall) : Prop :=
  ¬PastGuard songId { songId := requested, next := call }

theorem ended_early (requested : String) : Early songId requested .ended :=
  fun impossible => impossible

theorem loaded_early {Failure : Type} {checks : Song → Except Failure Unit}
    {next : Song → SplitCall}
    (refuses : requested = songId → ∀ song ∈ state.row songId, checks song ≠ .ok ())
    (elsewhere : requested ≠ songId → ∀ song, song.id = requested →
      Early songId requested (next song)) :
    Early songId requested
      (state.loaded requested fun song => afterChecks (checks song) (next song)) := by
  apply loaded_holds (Early songId requested) (ended_early requested)
  intro song found
  apply afterChecks_holds (Early songId requested) (ended_early requested)
  intro passed
  by_cases here : requested = songId
  · subst here
    exact absurd passed (refuses rfl song found)
  · exact elsewhere here song (findRow_mem found).2

theorem assertTemplateFor_closed {userId : String} (closed : song.artistId = userId → Closed song) :
    assertTemplateFor song userId ≠ .ok () := by
  unfold assertTemplateFor
  by_cases owner : song.artistId = userId
  · have refused : assertSplitsOpen song =
        .error (.conflict "Royalty splits cannot be changed after minting") := if_pos (closed owner)
    rw [if_neg (not_not.mpr owner), refused]
    exact fun impossible => nomatch impossible
  · rw [if_pos owner]
    exact fun impossible => nomatch impossible

theorem assertOpenFor_closed {requesterId : String}
    (closed : song.artistId = requesterId → Closed song) :
    assertOpenFor song requesterId ≠ .ok () := by
  unfold assertOpenFor assertIsPrimaryArtist
  by_cases owner : song.artistId = requesterId
  · have refused : assertNotMinted song =
        .error (.app (.conflict "Collaborators cannot be changed after the song is minted")) :=
      if_pos (closed owner)
    rw [if_neg (not_not.mpr owner), refused]
    exact fun impossible => nomatch impossible
  · rw [if_pos owner]
    exact fun impossible => nomatch impossible

theorem deletionOf_remove {removed : Song} {requester : SongRequester} {now : Nat}
    (decided : deletionOf song requester now = .remove removed) :
    removed = song ∧ (song.artistId = requester.id ∨ requester.role = some .admin) ∧
      ¬Closed song := by
  unfold deletionOf at decided
  cases allowed : assertCanModify song requester with
  | error failure =>
      rw [allowed] at decided
      cases decided
  | ok done =>
      have entitled : ¬(song.artistId ≠ requester.id ∧ requester.role ≠ some .admin) := by
        intro stranger
        unfold assertCanModify at allowed
        rw [if_pos stranger] at allowed
        cases allowed
      rw [allowed] at decided
      dsimp only at decided
      split at decided
      · cases decided
      · rename_i opened
        cases decided
        exact ⟨rfl, by tauto, fun closed => opened closed.symm⟩

theorem performMint_early {call : MintCall}
    (guarded : Guarded songId state { songId := requested, next := .mint call })
    (answered : performMint state.mintState { songId := requested, next := call } = some inner) :
    Early songId requested (state.afterMint call inner).2 := by
  cases call with
  | findForDelete requester now =>
      cases answered
      change Early songId requested (.mint (state.mintState.loaded requested fun song =>
        deletionOf song requester now))
      unfold MintState.loaded
      cases found : findRow Song.id requested state.mintState.songs with
      | none => exact ended_early requested
      | some song =>
          change Early songId requested (.mint (deletionOf song requester now))
          intro past
          cases decided : deletionOf song requester now with
          | remove removed =>
              obtain ⟨rfl, entitled, opened⟩ := deletionOf_remove decided
              rw [decided] at past
              have here : requested = songId := (findRow_mem found).2.symm.trans past
              subst here
              exact opened (guarded rfl removed found entitled)
          | findSong | submit | saveMinted | saveFailed | findForEdit | saveEdited | findForDelete
          | ended =>
              rw [decided] at past
              exact past
  | findSong | findForEdit =>
      cases answered
      change Early songId requested (.mint (state.mintState.loaded requested _))
      unfold MintState.loaded
      cases findRow Song.id requested state.mintState.songs with
      | none | some => exact fun impossible => impossible
  | saveMinted | saveFailed | saveEdited | remove =>
      cases answered
      exact fun impossible => impossible
  | submit | ended => cases answered

theorem performSplit_early (early : ¬PastGuard songId request)
    (guarded : Guarded songId state request) (answered : performSplit state request = some answer) :
    ¬PastGuard songId { request with next := answer.2 } := by
  obtain ⟨requested, next⟩ := request
  cases next with
  | mint call =>
      obtain ⟨inner, performed, rfl⟩ := Option.map_eq_some_iff.mp answered
      exact performMint_early guarded performed
  | minted => cases answered
  | findForTemplate templateId userId =>
      cases answered
      apply loaded_early
      · exact fun here song found => assertTemplateFor_closed (guarded here song found)
      · exact fun elsewhere song named same => elsewhere (named.symm.trans same)
  | findForAdd requesterId input drawn =>
      cases answered
      apply loaded_early
      · exact fun here song found => assertOpenFor_closed (guarded here song found)
      · exact fun elsewhere song _ => elsewhere
  | findForUpdate requesterId targetUserId role royaltyShare =>
      cases answered
      apply loaded_early
      · exact fun here song found => assertOpenFor_closed (guarded here song found)
      · exact fun elsewhere song _ => elsewhere
  | findTemplate song templateId userId =>
      cases answered
      unfold performTemplate
      split
      · exact ended_early requested
      · split
        · exact ended_early requested
        · exact early
  | findExisting input drawn =>
      cases answered
      unfold performExisting
      split
      · rintro (here | ⟨_, impossible, _⟩)
        · exact early here
        · cases impossible
      · rename_i existing found
        split
        · exact ended_early requested
        · rintro (here | ⟨_, ⟨⟩, own⟩)
          · exact early here
          · exact early ((findCollaborator_knows found).2.symm.trans own)
  | findTarget targetUserId role royaltyShare =>
      cases answered
      unfold performTarget
      split
      · exact ended_early requested
      · rename_i collaborator found
        have elsewhere : collaborator.songId ≠ songId :=
          fun here => early ((findActive_knows found).2.symm.trans here)
        cases royaltyShare with
        | none | some => exact elsewhere
  | listForAdd songRead existing input drawn =>
      cases songRead with
      | false =>
          cases answered
          exact loaded_holds (Early songId requested) (ended_early requested) fun _ _ => early
      | true =>
          cases answered
          apply afterChecks_holds (Early songId requested) (ended_early requested)
          intro _
          cases existing with
          | none => exact fun here => early (Or.inl here)
          | some stored => exact fun here => early (Or.inr ⟨stored, rfl, here⟩)
  | listForUpdate songRead renamed share =>
      cases songRead with
      | false =>
          cases answered
          exact loaded_holds (Early songId requested) (ended_early requested) fun _ _ => early
      | true =>
          cases answered
          exact afterChecks_holds (Early songId requested) (ended_early requested) fun _ => early
  | saveTemplate | saveCredit | saveDispute =>
      cases answered
      exact ended_early requested
  | insertCollaborator row =>
      obtain ⟨_, same⟩ := Option.ite_none_left_eq_some.mp answered
      cases same
      exact ended_early requested
  | findForDispute requesterId =>
      cases answered
      exact loaded_holds (Early songId requested) (ended_early requested) fun _ _ impossible =>
        impossible
  | findForResolve requesterId targetUserId =>
      cases answered
      exact loaded_holds (Early songId requested) (ended_early requested) fun _ _ =>
        afterChecks_holds (Early songId requested) (ended_early requested) fun _ impossible =>
          impossible
  | findDisputed userId status =>
      cases answered
      dsimp only
      split
      · exact ended_early requested
      · exact fun impossible => impossible

theorem failMint_early {mint : MintState} {asked : MintRequest}
    (answered : failMint mint asked = some inner) :
    Early songId requested (.mint inner.2) := by
  unfold failMint at answered
  split at answered
  · cases answered
    exact fun impossible => impossible
  · cases answered
  · cases answered
  · cases answered
    exact ended_early requested

theorem answerMint_early {mint : MintState} {asked : MintRequest} {outcome : SubmitOutcome}
    (answered : answerMint mint asked outcome = some inner) :
    Early songId requested (.mint inner.2) := by
  unfold answerMint at answered
  split at answered
  · rename_i song _
    match outcome with
    | .threw | .succeeded none | .succeeded (some []) | .succeeded (some [_])
    | .succeeded (some (_ :: _ :: _)) =>
        cases answered
        exact fun impossible => impossible
  · cases answered

theorem reply_frozen (distinct : DistinctRows state) (present : request ∈ state.requests)
    (early : ¬PastGuard songId request)
    (guarded : ∀ index, label = .step index → Guarded songId state request)
    (answered : state.reply label request = some answer) :
    SplitsFrozen songId state answer.1 ∧ ¬PastGuard songId { request with next := answer.2 } := by
  cases label with
  | begin songId operation => cases answered
  | step index =>
      have now := guarded index rfl
      exact ⟨performSplit_frozen distinct present early now answered,
        performSplit_early early now answered⟩
  | answer index outcome =>
      change answerSplit state request outcome = some answer at answered
      unfold answerSplit at answered
      split at answered
      · obtain ⟨inner, performed, rfl⟩ := Option.map_eq_some_iff.mp answered
        exact ⟨.refl songId state, answerMint_early performed⟩
      · cases answered
  | fails index =>
      change failSplit state request = some answer at answered
      unfold failSplit at answered
      split at answered
      · obtain ⟨inner, performed, rfl⟩ := Option.map_eq_some_iff.mp answered
        exact ⟨.refl songId state, failMint_early performed⟩
      · cases answered
      · cases answered
        exact ⟨.refl songId state, ended_early request.songId⟩

theorem first_early (requested : String) (operation : SplitOperation) :
    Early songId requested operation.first := by
  cases operation with
  | submitSongMintTx | edit | deleteSong | applyTemplate | addCollaborator | updateCollaborator
  | disputeSplit | resolveDispute => exact fun impossible => impossible

inductive MintingCall : SplitCall → Prop
  | loading : MintingCall (.mint .findSong)
  | submitting (song : Song) : MintingCall (.mint (.submit song))
  | saving (song : Song) (onChainSongId onChainTokenId : String) :
      MintingCall (.mint (.saveMinted song onChainSongId onChainTokenId))
  | minted : MintingCall .minted

theorem SplitCall.Minting.call {call : SplitCall} (minting : call.Minting) : MintingCall call := by
  cases call with
  | mint inner =>
      cases inner with
      | findSong => exact .loading
      | submit song => exact .submitting song
      | saveMinted song onChainSongId onChainTokenId => exact .saving song _ _
      | saveFailed | findForEdit | saveEdited | findForDelete | remove | ended => cases minting
  | minted => exact .minted
  | findForTemplate | findTemplate | saveTemplate | findForAdd | findExisting | listForAdd
  | insertCollaborator | findForUpdate | findTarget | listForUpdate | saveCredit | findForDispute
  | findForResolve | findDisputed | saveDispute => cases minting

theorem SplitCall.Minting.not_failed {call : SplitCall} (minting : call.Minting) : ¬call.Failed := by
  cases minting.call with
  | loading | submitting | saving | minted => exact fun impossible => impossible

theorem reply_minting (minting : request.next.Minting)
    (answered : state.reply label request = some answer) :
    answer.2.Minting ∨ answer.2.Failed := by
  obtain ⟨requested, next⟩ := request
  cases minting.call with
  | loading =>
      cases label with
      | begin | answer => cases answered
      | step index =>
          cases answered
          change (SplitCall.mint (state.mintState.loaded requested .submit)).Minting ∨
            (SplitCall.mint (state.mintState.loaded requested .submit)).Failed
          unfold MintState.loaded
          cases findRow Song.id requested state.mintState.songs with
          | none => exact Or.inr trivial
          | some song => exact Or.inl trivial
      | fails index =>
          cases answered
          exact Or.inr trivial
  | submitting song =>
      cases label with
      | begin | step | fails => cases answered
      | answer index outcome =>
          match outcome with
          | .threw | .succeeded none | .succeeded (some []) | .succeeded (some [_]) =>
              cases answered
              exact Or.inr trivial
          | .succeeded (some (_ :: _ :: _)) =>
              cases answered
              exact Or.inl trivial
  | saving song onChainSongId onChainTokenId =>
      cases label with
      | begin | answer => cases answered
      | step index =>
          cases answered
          exact Or.inl trivial
      | fails index =>
          cases answered
          exact Or.inr trivial
  | minted =>
      cases label with
      | begin | step | answer | fails => cases answered

theorem reply_failed (failed : request.next.Failed)
    (answered : state.reply label request = some answer) : answer.2.Failed := by
  obtain ⟨requested, next⟩ := request
  cases next with
  | mint call =>
      cases call with
      | saveFailed song =>
          cases label with
          | begin | answer => cases answered
          | step | fails =>
              cases answered
              trivial
      | ended =>
          cases label with
          | begin | answer | step | fails => cases answered
      | findSong | submit | saveMinted | findForEdit | saveEdited | findForDelete | remove =>
          cases failed
  | minted | findForTemplate | findTemplate | saveTemplate | findForAdd | findExisting | listForAdd
  | insertCollaborator | findForUpdate | findTarget | listForUpdate | saveCredit | findForDispute
  | findForResolve | findDisputed | saveDispute => cases failed

end Step

/-! ### A run around a submission -/

structure Holding (songId : String) (start state : SplitState) : Prop where
  frozen : SplitsFrozen songId start state
  early : ∀ request ∈ state.requests, ¬PastGuard songId request

def FailedAt (index : Nat) (state : SplitState) : Prop :=
  ∃ request, state.requests[index]? = some request ∧ request.next.Failed

section Run

variable {index : Nat} {songId : String} {start before after : SplitState} {label : SplitLabel}

theorem splitStep_request {request : SplitRequest} (present : before.requests[index]? = some request)
    (moved : splitStep before label = some after) :
    after.requests[index]? = some request ∨
      ∃ answer, before.reply label request = some answer ∧
        after.requests[index]? = some { request with next := answer.2 } := by
  have within := (List.getElem?_eq_some_iff.mp present).1
  rcases splitStep_cases moved with
    ⟨_, _, rfl, rfl⟩ | ⟨place, other, answer, there, _, answered, rfl⟩
  · exact Or.inl ((List.getElem?_append_left within).trans present)
  · have unmoved : answer.1.requests = before.requests :=
      reply_requests answered
    by_cases same : place = index
    · subst same
      cases present.symm.trans there
      exact Or.inr ⟨answer, answered, by
        change (answer.1.requests.set place _)[place]? = _
        rw [unmoved, List.getElem?_set_self within]⟩
    · left
      change (answer.1.requests.set place _)[index]? = _
      rw [unmoved, List.getElem?_set_ne same, present]

theorem splitStep_failedAt (failed : FailedAt index before)
    (moved : splitStep before label = some after) : FailedAt index after := by
  obtain ⟨request, present, failed⟩ := failed
  rcases splitStep_request present moved with still | ⟨answer, answered, now⟩
  · exact ⟨request, still, failed⟩
  · exact ⟨_, now, reply_failed failed answered⟩

theorem splitStep_mayMint (mayMint : MayMint index songId before)
    (moved : splitStep before label = some after) :
    MayMint index songId after ∨ FailedAt index after := by
  obtain ⟨request, present, own, minting⟩ := mayMint
  rcases splitStep_request present moved with still | ⟨answer, answered, now⟩
  · exact Or.inl ⟨request, still, own, minting⟩
  · rcases reply_minting minting answered with more | failed
    · exact Or.inl ⟨_, now, own, more⟩
    · exact Or.inr ⟨_, now, failed⟩

theorem splitStep_holding (distinct : DistinctRows before) (mayMint : MayMint index songId before)
    (holding : Holding songId start before) (guards : GuardsSplits index songId before label)
    (moved : splitStep before label = some after) : Holding songId start after := by
  rcases splitStep_cases moved with
    ⟨requested, operation, rfl, rfl⟩ | ⟨place, request, answer, there, isMover, answered, rfl⟩
  · refine ⟨⟨holding.frozen.splits, holding.frozen.credits⟩, fun request member => ?_⟩
    rcases List.mem_append.mp member with earlier | new
    · exact holding.early request earlier
    · cases List.mem_singleton.mp new
      exact first_early requested operation
  · have member := List.mem_of_getElem? there
    have guarded : ∀ step, label = .step step → Guarded songId before request := by
      rintro step rfl
      exact guards mayMint request isMover
    obtain ⟨frozen, early⟩ := reply_frozen distinct member (holding.early request member) guarded answered
    refine ⟨holding.frozen.trans ⟨frozen.splits, frozen.credits⟩, fun other placed => ?_⟩
    have unmoved : answer.1.requests = before.requests := reply_requests answered
    rcases List.mem_or_eq_of_mem_set placed with earlier | rfl
    · exact holding.early other (unmoved ▸ earlier)
    · exact early

end Run

def splitSong : Song :=
  { Song.uploaded "s1" "artist" "Dawn" with royaltySplits := some [⟨"artist", "primary", 100⟩] }

/-- No request has come yet. -/
def splitStart : SplitState :=
  { songs := [splitSong]
    collaborators := []
    templates := [⟨"t1", "artist", [⟨"artist", "primary", 60⟩, ⟨"u1", "writer", 40⟩]⟩]
    requests := [] }

def retitle : SplitEdit where
  apply song := { song with title := "Dusk" }
  keepsMint _ := rfl
  keepsId _ := rfl
  keepsSplits _ := rfl

/-- A submission during which the song is renamed, and changes that come after it. -/
def guardedMint : List SplitLabel :=
  [.step 0, .begin "s1" (.edit retitle), .step 1, .step 1, .answer 0 mintedPair, .step 0,
    .begin "s1" (.applyTemplate "t1" "artist"), .step 2,
    .begin "s1" (.addCollaborator "artist" ⟨"u1", .writer, 50⟩ "c1"), .step 3]

theorem splitStart_initial : splitMachine.initial splitStart :=
  ⟨rfl, List.nodup_nil⟩

structure ShownSong where
  title : String
  mintStatus : MintStatus
  royaltySplits : Option (List TemplateSplit)
  collaborators : Nat
  deriving DecidableEq

def shownAfter (labels : List SplitLabel) : Option ShownSong :=
  (splitMachine.run splitStart labels).bind fun state =>
    (state.row "s1").map fun song =>
      ⟨song.title, song.mintStatus, song.royaltySplits, (state.credits "s1").length⟩

/-- A rename, a template and a new collaborator, each from its first call to its save. -/
def changesMeanwhile : List SplitLabel :=
  [.begin "s1" .submitSongMintTx, .step 0, .begin "s1" (.edit retitle), .step 1, .step 1,
    .begin "s1" (.applyTemplate "t1" "artist"), .step 2, .step 2, .step 2,
    .begin "s1" (.addCollaborator "artist" ⟨"u1", .writer, 50⟩ "c1"), .step 3, .step 3, .step 3,
    .step 3, .step 3]

end AudioBlock.Songs
