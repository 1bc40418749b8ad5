/-
The shares of a song's collaborators while additions and updates interleave.

A request lists the shares, checks their total and saves later.  Floats add up in the
order in which they are listed, and the check adds the new share last; so beside the
listing, the place of the share in it decides on the total that is stored.
-/
import AudioBlock.Foundation.Binary64
import AudioBlock.Songs.SplitRows

namespace AudioBlock.Royalty

open AudioBlock.Foundation AudioBlock.Songs

/-- Beside the requests, the shares that each of them listed for its check. -/
structure ShareState where
  split : SplitState
  listed : Nat → Option (List Float)

def sharesListed (state : SplitState) (request : SplitRequest) : Option (List Float) :=
  match request.next with
  | .listForAdd true _ _ _ => some (sharesOf state request.songId)
  | .listForUpdate true renamed _ => some (sharesBeside state request.songId renamed.userId)
  | _ => none

/-- The requests that pass the checks of their DTO. -/
def ShareOperation : SplitOperation → Prop
  | .addCollaborator _ input _ => ValidShare input.royaltyShare
  | .updateCollaborator _ _ _ royaltyShare => ∀ share ∈ royaltyShare, ValidShare share
  | _ => False

instance : DecidablePred ShareOperation := fun operation => by
  unfold ShareOperation
  split <;> infer_instance

def PairFree (state : SplitState) : SplitCall → Prop
  | .insertCollaborator row =>
      ∀ stored ∈ state.collaborators, ¬(stored.songId = row.songId ∧ stored.userId = row.userId)
  | _ => True

instance (state : SplitState) : DecidablePred (PairFree state) := fun call => by
  unfold PairFree
  split <;> infer_instance

def ShareEnabled (state : SplitState) : SplitLabel → Prop
  | .begin _ operation => ShareOperation operation
  | .step index => ∀ request ∈ state.requests[index]?, PairFree state request.next
  | .answer _ _ => False
  | .fails _ => True

instance (state : SplitState) : DecidablePred (ShareEnabled state)
  | .begin _ operation => inferInstanceAs (Decidable (ShareOperation operation))
  | .step index => inferInstanceAs (Decidable (∀ request ∈ state.requests[index]?, _))
  | .answer _ _ => isFalse id
  | .fails _ => isTrue trivial

def ShareState.listing (state : ShareState) : SplitLabel → Nat → Option (List Float)
  | .step index => fun place =>
      if place = index then
        ((state.split.requests[index]?).bind (sharesListed state.split)).or (state.listed place)
      else state.listed place
  | _ => state.listed

def shareStep (state : ShareState) (label : SplitLabel) : Option ShareState :=
  if ShareEnabled state.split label then
    (splitStep state.split label).map fun after =>
      { split := after, listed := state.listing label }
  else none

/-- The shares that count are at least 0, and pass the check of the service. -/
structure SharesBounded (state : SplitState) : Prop where
  nonneg : ∀ row ∈ state.collaborators, row.status = .active → 0 ≤ row.royaltyShare
  total : ∀ songId, assertSharesWithin100 (sharesOf state songId) = .ok ()

structure SharesAccepted (state : SplitState) : Prop where
  ids : (state.collaborators.map SongCollaborator.id).Nodup
  pairs : (state.collaborators.map fun row => (row.songId, row.userId)).Nodup
  valid : state.collaboration.SharesValid
  total : ∀ songId, assertSharesWithin100 (sharesOf state songId) = .ok ()

def shareMachine : Machine ShareState SplitLabel where
  initial state :=
    state.split.requests = [] ∧ SharesAccepted state.split ∧ ∀ index, state.listed index = none
  step := shareStep

/-! ### The condition -/

def totalShares (shares : List Float) : Float := shares.foldl (fun sum share => sum + share) 0

theorem assertSharesWithin100_iff {shares : List Float} :
    assertSharesWithin100 shares = .ok () ↔ ¬100 + shareTotalTolerance < totalShares shares := by
  unfold assertSharesWithin100
  dsimp only
  split
  · rename_i exceeds
    exact iff_of_false (fun impossible => nomatch impossible) fun within => within exceeds
  · rename_i within
    exact iff_of_true rfl within

def Unchanged (state : SplitState) (row : SongCollaborator) : Prop :=
  ∃ stored ∈ findRow SongCollaborator.id row.id state.collaborators,
    stored.status = .active ∧ stored.royaltyShare = row.royaltyShare

instance (state : SplitState) (row : SongCollaborator) : Decidable (Unchanged state row) :=
  inferInstanceAs (Decidable (∃ stored ∈ findRow SongCollaborator.id row.id state.collaborators, _))

/-- The total does not depend on the place of the saved share among the listed ones. -/
def SamePlace (state : SplitState) (row : SongCollaborator) : Prop :=
  totalShares (sharesOf (state.saveCollaborator row) row.songId) =
    totalShares (sharesBeside state row.songId row.userId ++ [row.royaltyShare])

instance (state : SplitState) (row : SongCollaborator) : Decidable (SamePlace state row) :=
  inferInstanceAs (Decidable (_ = _))

/-- The other shares that count are still those that the request listed. -/
def FreshSave (state : ShareState) (index : Nat) : SplitCall → Prop
  | .insertCollaborator row => state.listed index = some (sharesOf state.split row.songId)
  | .saveCredit row =>
      Unchanged state.split row ∨
        state.listed index = some (sharesBeside state.split row.songId row.userId) ∧
          SamePlace state.split row
  | _ => True

instance (state : ShareState) (index : Nat) : DecidablePred (FreshSave state index) :=
  fun call => by
    unfold FreshSave
    split <;> infer_instance

def Fresh (state : ShareState) : SplitLabel → Prop
  | .step index => ∀ request ∈ state.split.requests[index]?, FreshSave state index request.next
  | _ => True

instance (state : ShareState) : DecidablePred (Fresh state)
  | .step index => inferInstanceAs (Decidable (∀ request ∈ state.split.requests[index]?, _))
  | .begin _ _ | .answer _ _ | .fails _ => isTrue trivial

/-! ### What the requests carry -/

def ShareCall : SplitCall → Prop
  | .mint .ended => True
  | .findForAdd _ input _ | .findExisting input _ | .listForAdd _ _ input _ =>
      ValidShare input.royaltyShare
  | .insertCollaborator row | .saveCredit row => row.status = .active ∧ ValidShare row.royaltyShare
  | .findForUpdate _ _ _ royaltyShare | .findTarget _ _ royaltyShare =>
      ∀ share ∈ royaltyShare, ValidShare share
  | .listForUpdate _ renamed share => renamed.status = .active ∧ ValidShare share
  | _ => False

def Checked (listed : Option (List Float)) : SplitCall → Prop
  | .mint .ended => True
  | .insertCollaborator row | .saveCredit row =>
      ∀ shares ∈ listed, assertSharesWithin100 (shares ++ [row.royaltyShare]) = .ok ()
  | _ => listed = none

inductive ShareReply (state : SplitState) (request : SplitRequest) (listed : Option (List Float)) :
    SplitState × SplitCall → Prop
  | goesOn {call : SplitCall} (sound : ShareCall call) (checked : Checked listed call) :
      ShareReply state request listed (state, call)
  | inserts {row : SongCollaborator} (is : request.next = .insertCollaborator row) :
      ShareReply state request listed
        ({ state with collaborators := state.collaborators ++ [row] }, .ended)
  | saves {row : SongCollaborator} (is : request.next = .saveCredit row) :
      ShareReply state request listed (state.saveCollaborator row, .ended)

section Calls

variable {state : SplitState} {request : SplitRequest} {listed : Option (List Float)}
  {answer : SplitState × SplitCall}

theorem shareReply_ended : ShareReply state request listed (state, .ended) :=
  .goesOn trivial trivial

theorem shareReply_loaded {next : Song → SplitCall}
    (each : ∀ song, ShareReply state request listed (state, next song)) :
    ShareReply state request listed (state, state.loaded request.songId next) :=
  loaded_holds (fun call => ShareReply state request listed (state, call)) shareReply_ended
    fun song _ => each song

theorem shareReply_checks {Failure : Type} {checks : Except Failure Unit} {next : SplitCall}
    (passed : checks = .ok () → ShareReply state request listed (state, next)) :
    ShareReply state request listed (state, afterChecks checks next) :=
  afterChecks_holds (fun call => ShareReply state request listed (state, call)) shareReply_ended
    passed

theorem findActive_active {songId userId : String} {row : SongCollaborator}
    (found : state.collaboration.findActive songId userId = some row) : row.status = .active := by
  have chosen := List.find?_some found
  exact (of_decide_eq_true chosen).2.2

theorem performExisting_share {input : AddCollaboratorInput} {drawn : String}
    (valid : ValidShare input.royaltyShare) (unlisted : listed = none) :
    ShareReply state request listed
      (state, performExisting state request.songId input drawn) := by
  unfold performExisting
  split
  · exact .goesOn valid unlisted
  · split
    · exact shareReply_ended
    · exact .goesOn valid unlisted

theorem performTarget_share (sound : state.collaboration.SharesValid) {targetUserId : String}
    {role : Option CollaboratorRole} {royaltyShare : Option Float}
    (valid : ∀ share ∈ royaltyShare, ValidShare share) (unlisted : listed = none) :
    ShareReply state request listed
      (state, performTarget state request.songId targetUserId role royaltyShare) := by
  unfold performTarget
  split
  · exact shareReply_ended
  · rename_i collaborator found
    have active := findActive_active found
    have stored := sound.found found
    cases royaltyShare with
    | none =>
        apply ShareReply.goesOn
        · exact ⟨active, stored⟩
        · rw [unlisted]
          intro shares impossible
          cases impossible
    | some share => exact .goesOn ⟨active, valid share rfl⟩ unlisted

theorem addedRow_share {existing : Option SongCollaborator} {input : AddCollaboratorInput}
    {songId drawn : String} {shares : List Float} (valid : ValidShare input.royaltyShare)
    (passed : assertSharesWithin100 (shares ++ [input.royaltyShare]) = .ok ()) :
    ShareReply state request (some shares) (state, addedRow songId existing input drawn) := by
  have checked : ∀ others ∈ some shares,
      assertSharesWithin100 (others ++ [input.royaltyShare]) = .ok () := by
    intro others same
    cases same
    exact passed
  cases existing with
  | none => exact .goesOn ⟨rfl, valid⟩ checked
  | some stored => exact .goesOn ⟨rfl, valid⟩ checked

theorem performSplit_share (sound : state.collaboration.SharesValid)
    (carried : ShareCall request.next) (checked : Checked listed request.next)
    (answered : performSplit state request = some answer) :
    ShareReply state request ((sharesListed state request).or listed) answer := by
  obtain ⟨songId, next⟩ := request
  cases next with
  | mint call =>
      cases call with
      | ended => cases answered
      | findSong | submit | saveMinted | saveFailed | findForEdit | saveEdited | findForDelete
      | remove => cases carried
  | minted | findForTemplate | findTemplate | saveTemplate | findForDispute | findForResolve
  | findDisputed | saveDispute => cases carried
  | findForAdd requesterId input drawn =>
      cases answered
      apply shareReply_loaded
      intro song
      apply shareReply_checks
      intro _
      exact .goesOn carried checked
  | findExisting input drawn =>
      cases answered
      exact performExisting_share carried checked
  | listForAdd songRead existing input drawn =>
      cases songRead with
      | false =>
          cases answered
          apply shareReply_loaded
          intro song
          exact .goesOn carried checked
      | true =>
          cases answered
          apply shareReply_checks
          intro passed
          exact addedRow_share carried passed
  | insertCollaborator row =>
      obtain ⟨_, same⟩ := Option.ite_none_left_eq_some.mp answered
      cases same
      exact .inserts rfl
  | findForUpdate requesterId targetUserId role royaltyShare =>
      cases answered
      apply shareReply_loaded
      intro song
      apply shareReply_checks
      intro _
      exact .goesOn carried checked
  | findTarget targetUserId role royaltyShare =>
      cases answered
      exact performTarget_share sound carried checked
  | listForUpdate songRead renamed share =>
      cases songRead with
      | false =>
          cases answered
          apply shareReply_loaded
          intro song
          exact .goesOn carried checked
      | true =>
          cases answered
          apply shareReply_checks
          intro passed
          apply ShareReply.goesOn
          · exact carried
          · intro others same
            cases same
            exact passed
  | saveCredit row =>
      cases answered
      exact .saves rfl

theorem failSplit_share (carried : ShareCall request.next)
    (answered : failSplit state request = some answer) :
    ShareReply state request listed answer := by
  obtain ⟨songId, next⟩ := request
  cases next with
  | mint call =>
      cases call with
      | ended => cases answered
      | findSong | submit | saveMinted | saveFailed | findForEdit | saveEdited | findForDelete
      | remove => cases carried
  | minted => cases carried
  | findForTemplate | findTemplate | saveTemplate | findForAdd | findExisting | listForAdd
  | insertCollaborator | findForUpdate | findTarget | listForUpdate | saveCredit | findForDispute
  | findForResolve | findDisputed | saveDispute =>
      cases answered
      exact shareReply_ended

end Calls

/-! ### What a write leaves of the listed shares -/

def countedShare (songId : String) (row : SongCollaborator) : Option Float :=
  if row.songId = songId ∧ row.status = .active then some row.royaltyShare else none

section Tables

variable {state : SplitState} {row : SongCollaborator} {songId : String}

theorem sharesOf_eq (state : SplitState) (songId : String) :
    sharesOf state songId = state.collaborators.filterMap (countedShare songId) := by
  unfold sharesOf CollaborationState.listCollaborators
  rw [← List.filterMap_eq_map', List.filterMap_filter]
  apply List.filterMap_congr
  intro row _
  unfold countedShare
  simp only [decide_eq_true_eq]

theorem sharesOf_append (active : row.status = .active) :
    sharesOf { state with collaborators := state.collaborators ++ [row] } songId =
      if row.songId = songId then sharesOf state songId ++ [row.royaltyShare]
      else sharesOf state songId := by
  rw [sharesOf_eq, sharesOf_eq]
  dsimp only
  rw [List.filterMap_append]
  unfold countedShare
  by_cases own : row.songId = songId
  · simp [own, active]
  · simp [own]

theorem sharesOf_save (distinct : DistinctRows state) (known : state.Knows row)
    (active : row.status = .active) (other : row.songId ≠ songId) :
    sharesOf (state.saveCollaborator row) songId = sharesOf state songId := by
  unfold SplitState.saveCollaborator storeRow
  split
  · rw [sharesOf_eq, sharesOf_eq]
    apply saveRow_filterMap
    intro stored member replaced
    obtain ⟨first, isKnown, sameId, sameSong⟩ := known
    have songs := distinct.songs stored (List.mem_append_left _ member) first isKnown
      (replaced.trans sameId.symm)
    unfold countedShare
    rw [songs, sameSong, if_neg fun counts => other counts.1, if_neg fun counts => other counts.1]
  · rw [sharesOf_append active, if_neg other]

theorem sharesOf_unchanged (distinct : DistinctRows state) (known : state.Knows row)
    (active : row.status = .active) (unchanged : Unchanged state row) :
    sharesOf (state.saveCollaborator row) songId = sharesOf state songId := by
  obtain ⟨stored, found, counts, same⟩ := unchanged
  obtain ⟨member, named⟩ := findRow_mem found
  unfold SplitState.saveCollaborator storeRow
  rw [if_pos (List.mem_map.mpr ⟨stored, member, named⟩), sharesOf_eq, sharesOf_eq]
  apply saveRow_filterMap
  intro replaced present replacedId
  have isStored := List.inj_on_of_nodup_map distinct.ids present member (replacedId.trans named.symm)
  obtain ⟨first, isKnown, sameId, sameSong⟩ := known
  have songs := distinct.songs stored (List.mem_append_left _ member) first isKnown
    (named.trans sameId.symm)
  unfold countedShare
  rw [isStored, counts, active, same, songs.trans sameSong]

end Tables

/-! ### The bound holds while every save is fresh -/

structure ShareInvariant (state : ShareState) : Prop where
  distinct : DistinctRows state.split
  valid : state.split.collaboration.SharesValid
  total : ∀ songId, assertSharesWithin100 (sharesOf state.split songId) = .ok ()
  calls : ∀ index request, state.split.requests[index]? = some request →
    ShareCall request.next ∧ Checked (state.listed index) request.next
  unlisted : ∀ index, state.split.requests.length ≤ index → state.listed index = none

section Invariant

variable {state : ShareState} {index : Nat} {request : SplitRequest}
  {answer : SplitState × SplitCall}

theorem ShareReply.tables {listed : Option (List Float)} (invariant : ShareInvariant state)
    (present : state.split.requests[index]? = some request)
    (fresh : FreshSave state index request.next)
    (reply : ShareReply state.split request listed answer) :
    answer.1.collaboration.SharesValid ∧
      ∀ songId, assertSharesWithin100 (sharesOf answer.1 songId) = .ok () := by
  have carried := invariant.calls index request present
  cases reply with
  | goesOn => exact ⟨invariant.valid, invariant.total⟩
  | @inserts row is =>
      rw [is] at carried fresh
      obtain ⟨⟨active, valid⟩, checked⟩ := carried
      constructor
      · intro other member
        cases List.mem_append.mp member with
        | inl before => exact invariant.valid other before
        | inr new =>
            cases List.mem_singleton.mp new
            exact fun _ => valid
      · intro songId
        rw [sharesOf_append active]
        split
        · rename_i own
          subst own
          exact checked _ fresh
        · exact invariant.total songId
  | @saves row is =>
      have held : request.next.held = some row := congrArg SplitCall.held is
      have known := knows_held (List.mem_of_getElem? present) held
      rw [is] at carried fresh
      obtain ⟨⟨active, valid⟩, checked⟩ := carried
      constructor
      · intro other member
        cases mem_storeRow member with
        | inl same =>
            subst same
            exact fun _ => valid
        | inr before => exact invariant.valid other before
      · intro songId
        cases fresh with
        | inl unchanged =>
            rw [sharesOf_unchanged invariant.distinct known active unchanged]
            exact invariant.total songId
        | inr listing =>
            by_cases own : row.songId = songId
            · subst own
              have passed := checked _ listing.1
              rw [assertSharesWithin100_iff] at passed ⊢
              rw [listing.2]
              exact passed
            · rw [sharesOf_save invariant.distinct known active own]
              exact invariant.total songId

theorem ShareReply.carries {listed : Option (List Float)}
    (reply : ShareReply state.split request listed answer) :
    ShareCall answer.2 ∧ Checked listed answer.2 := by
  cases reply with
  | goesOn sound checked => exact ⟨sound, checked⟩
  | inserts => exact ⟨trivial, trivial⟩
  | saves => exact ⟨trivial, trivial⟩

theorem ShareInvariant.begun (invariant : ShareInvariant state) {songId : String}
    {operation : SplitOperation} (valid : ShareOperation operation)
    (distinct : DistinctRows { state.split with
      requests := state.split.requests ++ [{ songId := songId, next := operation.first }] }) :
    ShareInvariant
      { split := { state.split with
          requests := state.split.requests ++ [{ songId := songId, next := operation.first }] }
        listed := state.listed } := by
  constructor
  · exact distinct
  · exact invariant.valid
  · exact invariant.total
  · intro place asked present
    rw [List.getElem?_append] at present
    split at present
    · exact invariant.calls place asked present
    · rename_i beyond
      have unlisted := invariant.unlisted place (Nat.le_of_not_lt beyond)
      have isNew := List.mem_singleton.mp (List.mem_of_getElem? present)
      subst isNew
      cases operation with
      | addCollaborator | updateCollaborator => exact ⟨valid, unlisted⟩
      | submitSongMintTx | edit | deleteSong | applyTemplate | disputeSplit | resolveDispute =>
          cases valid
  · intro place beyond
    rw [List.length_append] at beyond
    exact invariant.unlisted place (Nat.le_trans (Nat.le_add_right _ _) beyond)

theorem ShareInvariant.replied (invariant : ShareInvariant state)
    (present : state.split.requests[index]? = some request)
    {listed : Nat → Option (List Float)}
    (carries : ShareCall answer.2 ∧ Checked (listed index) answer.2)
    (tables : answer.1.collaboration.SharesValid ∧
      ∀ songId, assertSharesWithin100 (sharesOf answer.1 songId) = .ok ())
    (others : ∀ place, place ≠ index → listed place = state.listed place)
    (same : answer.1.requests = state.split.requests)
    (distinct : DistinctRows (answer.1.place index { request with next := answer.2 })) :
    ShareInvariant
      { split := answer.1.place index { request with next := answer.2 }, listed := listed } := by
  have requests : (answer.1.place index { request with next := answer.2 }).requests =
      state.split.requests.set index { request with next := answer.2 } := by
    unfold SplitState.place
    rw [same]
  constructor
  · exact distinct
  · exact tables.1
  · exact tables.2
  · intro place asked found
    dsimp only at found ⊢
    rw [requests] at found
    by_cases own : place = index
    · subst own
      have inside := (List.getElem?_eq_some_iff.mp present).1
      rw [List.getElem?_set_self inside] at found
      cases found
      exact carries
    · rw [List.getElem?_set_ne (Ne.symm own)] at found
      rw [others place own]
      exact invariant.calls place asked found
  · intro place beyond
    dsimp only at beyond ⊢
    rw [requests, List.length_set] at beyond
    have inside := (List.getElem?_eq_some_iff.mp present).1
    have other : place ≠ index := by omega
    rw [others place other]
    exact invariant.unlisted place beyond

theorem shareStep_invariant {before after : ShareState} {label : SplitLabel}
    (invariant : ShareInvariant before) (fresh : Fresh before label)
    (moved : shareStep before label = some after) : ShareInvariant after := by
  obtain ⟨enabled, moved⟩ := Option.ite_none_right_eq_some.mp moved
  obtain ⟨split, stepped, same⟩ := Option.map_eq_some_iff.mp moved
  subst same
  have distinct := splitStep_distinct invariant.distinct stepped
  cases label with
  | begin songId operation =>
      cases stepped
      exact invariant.begun enabled distinct
  | answer index outcome => cases enabled
  | fails index =>
      obtain ⟨request, present, stepped⟩ := Option.bind_eq_some_iff.mp stepped
      obtain ⟨answer, answered, isSplit⟩ := Option.map_eq_some_iff.mp stepped
      subst isSplit
      have carried := invariant.calls index request present
      have reply : ShareReply before.split request (before.listed index) answer :=
        failSplit_share carried.1 answered
      have unwritten := reply_unwritten answered fun _ impossible => nomatch impossible
      apply invariant.replied present reply.carries _ (fun _ _ => rfl) (reply_requests answered)
        distinct
      rw [unwritten.1]
      exact ⟨invariant.valid, invariant.total⟩
  | step index =>
      obtain ⟨request, present, stepped⟩ := Option.bind_eq_some_iff.mp stepped
      obtain ⟨answer, answered, isSplit⟩ := Option.map_eq_some_iff.mp stepped
      subst isSplit
      obtain ⟨carried, checked⟩ := invariant.calls index request present
      have reply := performSplit_share invariant.valid carried checked answered
      have own : before.listing (.step index) index =
          (sharesListed before.split request).or (before.listed index) := by
        unfold ShareState.listing
        dsimp only
        rw [if_pos rfl, present, Option.bind_some]
      apply invariant.replied present _ (reply.tables invariant present (fresh request present)) _
        (reply_requests answered) distinct
      · rw [own]
        exact reply.carries
      · intro place other
        exact if_neg other

theorem shareMachine_invariant {state : ShareState}
    (reached : shareMachine.Reachable Fresh state) : ShareInvariant state := by
  apply reached.invariant ShareInvariant
  · intro first begins
    obtain ⟨none, accepted, unlisted⟩ := begins
    constructor
    · refine ⟨accepted.ids, ?_⟩
      intro one member other otherMember equal
      unfold SplitState.known at member otherMember
      rw [none, List.filterMap_nil, List.append_nil] at member otherMember
      rw [List.inj_on_of_nodup_map accepted.ids member otherMember equal]
    · exact accepted.valid
    · exact accepted.total
    · intro index request present
      rw [none] at present
      cases present
    · intro index _
      exact unlisted index
  · intro before label after invariant fresh moved
    exact shareStep_invariant invariant fresh moved

theorem nonneg_of_validShare {share : Float} (valid : ValidShare share) : 0 ≤ share := by
  have cent : (0.01 : Float).toModel.unpack =
      .finite .positive 5764607523034235 (-59) (by decide) := rfl
  exact nonneg_of_positive_le cent valid.1

/-- In every run in which each share is saved beside the shares that it was checked with, and
adds up to the same total in its place, the shares of every song stay within their bounds. -/
theorem shareMachine_bounded {state : ShareState}
    (reached : shareMachine.Reachable Fresh state) : SharesBounded state.split := by
  have invariant := shareMachine_invariant reached
  constructor
  · intro row member active
    exact nonneg_of_validShare (invariant.valid row member active)
  · exact invariant.total

end Invariant

/-- The same shares of 100.01 percent pass in one order and not in another. -/
example : ¬100 + shareTotalTolerance < totalShares [18.21, 33.74, 48.06] ∧
    100 + shareTotalTolerance < totalShares [18.21, 48.06, 33.74] := by
  decide +kernel

/-! A song that is shared with two listeners. -/

def unsharedState : ShareState :=
  { split :=
      { songs := [Song.uploaded "s1" "a1" "Intro"], collaborators := [], templates := []
        requests := [] }
    listed := fun _ => none }

theorem unsharedState_initial : shareMachine.initial unsharedState := by
  refine ⟨rfl, ⟨List.nodup_nil, List.nodup_nil, ?_, ?_⟩, fun _ => rfl⟩
  · intro row member
    cases member
  · intro songId
    have none : ¬100 + shareTotalTolerance < totalShares [] := by decide +kernel
    exact assertSharesWithin100_iff.mpr none

def shareOf (userId drawn : String) : SplitLabel :=
  .begin "s1" (.addCollaborator "a1" ⟨userId, .featured, 60⟩ drawn)

/-- One addition of sixty percent. -/
def firstShare : List SplitLabel :=
  [shareOf "u1" "c1", .step 0, .step 0, .step 0, .step 0, .step 0]

theorem firstShare_bounded :
    ∃ state, shareMachine.run unsharedState firstShare = some state ∧
      sharesOf state.split "s1" = [60] ∧ SharesBounded state.split := by
  have shared : (shareMachine.run unsharedState firstShare).map
      (fun state => sharesOf state.split "s1") = some [60] := by decide +kernel
  have permitted : shareMachine.Permits Fresh unsharedState firstShare := by decide +kernel
  obtain ⟨state, ran, shares⟩ := Option.map_eq_some_iff.mp shared
  exact ⟨state, ran, shares,
    shareMachine_bounded (.of_run firstShare (.start unsharedState_initial) permitted ran)⟩

/-- Two additions that both list the shares before one of them saves. -/
def bothListed : List SplitLabel :=
  [shareOf "u1" "c1", shareOf "u2" "c2", .step 0, .step 0, .step 0, .step 0, .step 1, .step 1,
    .step 1, .step 1, .step 0, .step 1]

theorem bothListed_exceed :
    ¬∀ state, shareMachine.Reachable (fun _ _ => True) state → SharesBounded state.split := by
  intro bounded
  have shared : (shareMachine.run unsharedState bothListed).map
      (fun state => sharesOf state.split "s1") = some [60, 60] := by decide +kernel
  obtain ⟨state, ran, shares⟩ := Option.map_eq_some_iff.mp shared
  have total := (bounded state (.of_run bothListed (.start unsharedState_initial)
    (Machine.permits_always _ _ _) ran)).total "s1"
  rw [shares] at total
  have exceeds : 100 + shareTotalTolerance < totalShares [60, 60] := by decide +kernel
  exact assertSharesWithin100_iff.mp total exceeds

end AudioBlock.Royalty
