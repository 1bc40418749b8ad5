/-
The rows of the collaborators under requests that interleave.

An id names one row, of one song, among the stored rows and the copies that requests
hold: every call leaves rows that were known before, or stores one under a new id.
-/
import AudioBlock.Songs.SplitRequests

namespace AudioBlock.Songs

open AudioBlock.Foundation AudioBlock.Royalty

/-- A stored or held copy of the row is there. -/
def SplitState.Knows (state : SplitState) (row : SongCollaborator) : Prop :=
  ∃ known ∈ state.known, known.id = row.id ∧ known.songId = row.songId

structure DistinctRows (state : SplitState) : Prop where
  ids : (state.collaborators.map SongCollaborator.id).Nodup
  songs : ∀ one ∈ state.known, ∀ other ∈ state.known, one.id = other.id → one.songId = other.songId

/-- How a call leaves the rows: each of them and the one that it holds were known
before, or it stores a row with a new id. -/
inductive RowsKept (state after : SplitState) (held : Option SongCollaborator) : Prop
  | known (ids : (after.collaborators.map SongCollaborator.id).Nodup)
      (rows : ∀ row ∈ after.collaborators, state.Knows row) (own : ∀ row ∈ held, state.Knows row)
  | inserted (row : SongCollaborator) (drawn : row.id ∉ state.known.map SongCollaborator.id)
      (rows : after.collaborators = state.collaborators ++ [row]) (none : held = none)

section Rows

variable {state : SplitState} {request : SplitRequest}

variable {row : SongCollaborator} {songId : String} {answer : SplitState × SplitCall}

theorem knows_stored (stored : row ∈ state.collaborators) :
    state.Knows row :=
  ⟨row, List.mem_append_left _ stored, rfl, rfl⟩

theorem knows_held (present : request ∈ state.requests) (held : request.next.held = some row) :
    state.Knows row :=
  ⟨row, List.mem_append_right _ (List.mem_filterMap.mpr ⟨request, present, held⟩), rfl, rfl⟩

theorem RowsKept.unwritten (distinct : DistinctRows state) {after : SplitState}
    {held : Option SongCollaborator} (same : after.collaborators = state.collaborators)
    (own : ∀ row ∈ held, state.Knows row) : RowsKept state after held := by
  apply RowsKept.known
  · exact same ▸ distinct.ids
  · exact fun row member => knows_stored (same ▸ member)
  · exact own

theorem RowsKept.saved (distinct : DistinctRows state) (known : state.Knows row) :
    RowsKept state (state.saveCollaborator row) none := by
  apply RowsKept.known
  · exact storeRow_nodup distinct.ids
  · intro other member
    rcases mem_storeRow member with rfl | stored
    · exact known
    · exact knows_stored stored
  · exact fun _ impossible => nomatch impossible

def SplitState.HoldsKnown (state : SplitState) (call : SplitCall) : Prop :=
  ∀ row ∈ call.held, state.Knows row

theorem holdsKnown_none {call : SplitCall} (none : call.held = none) : state.HoldsKnown call := by
  unfold SplitState.HoldsKnown
  rw [none]
  exact fun _ impossible => nomatch impossible

theorem findCollaborator_knows {userId : String}
    (found : state.collaboration.findCollaborator songId userId = some row) :
    state.Knows row ∧ row.songId = songId := by
  have chosen := List.find?_some found
  exact ⟨knows_stored (List.mem_of_find?_eq_some found), (of_decide_eq_true chosen).1⟩

theorem findActive_knows {userId : String}
    (found : state.collaboration.findActive songId userId = some row) :
    state.Knows row ∧ row.songId = songId := by
  have chosen := List.find?_some found
  exact ⟨knows_stored (List.mem_of_find?_eq_some found), (of_decide_eq_true chosen).1⟩

theorem afterMint_rowsKept (distinct : DistinctRows state) (call : MintCall)
    (answer : MintState × MintCall) :
    RowsKept state (state.afterMint call answer).1 (state.afterMint call answer).2.held := by
  cases call with
  | remove song =>
      apply RowsKept.known
      · exact distinct.ids.sublist (List.filter_sublist.map SongCollaborator.id)
      · exact fun row member => knows_stored (List.mem_filter.mp member).1
      · exact fun _ impossible => nomatch impossible
  | findSong | submit | saveMinted | saveFailed | findForEdit | saveEdited | findForDelete | ended =>
      exact .unwritten distinct rfl fun _ impossible => nomatch impossible

theorem addedRow_holds {drawn : String} {existing : Option SongCollaborator}
    {input : AddCollaboratorInput} (known : ∀ row ∈ existing, state.Knows row) :
    state.HoldsKnown (addedRow songId existing input drawn) := by
  cases existing with
  | none => exact holdsKnown_none rfl
  | some stored =>
      rintro _ ⟨⟩
      exact known stored rfl

theorem performExisting_holds {drawn : String} {input : AddCollaboratorInput} :
    state.HoldsKnown (performExisting state songId input drawn) := by
  unfold performExisting
  split
  · exact holdsKnown_none rfl
  · rename_i existing found
    split
    · exact holdsKnown_none rfl
    · rintro _ ⟨⟩
      exact (findCollaborator_knows found).1

theorem performTarget_holds {targetUserId : String} {role : Option CollaboratorRole}
    {royaltyShare : Option Float} :
    state.HoldsKnown (performTarget state songId targetUserId role royaltyShare) := by
  unfold performTarget
  split
  · exact holdsKnown_none rfl
  · rename_i collaborator found
    have known := (findActive_knows found).1
    cases royaltyShare with
    | none =>
        rintro _ ⟨⟩
        exact known
    | some share =>
        rintro _ ⟨⟩
        exact known

theorem performSplit_rowsKept (distinct : DistinctRows state) (present : request ∈ state.requests)
    (answered : performSplit state request = some answer) :
    RowsKept state answer.1 answer.2.held := by
  obtain ⟨songId, next⟩ := request
  have unwritten {next : SplitCall} (own : state.HoldsKnown next) :
      RowsKept state state next.held := .unwritten distinct rfl own
  have nothing {call : SplitCall} (none : call.held = none) : state.HoldsKnown call :=
    holdsKnown_none none
  have ended : state.HoldsKnown .ended := holdsKnown_none rfl
  cases next with
  | mint call =>
      obtain ⟨inner, _, rfl⟩ := Option.map_eq_some_iff.mp answered
      exact afterMint_rowsKept distinct call inner
  | minted => cases answered
  | findForTemplate | findForAdd | findForUpdate | findForResolve =>
      cases answered
      exact unwritten (loaded_holds _ ended fun _ _ => afterChecks_holds _ ended fun _ => nothing rfl)
  | findForDispute =>
      cases answered
      exact unwritten (loaded_holds _ ended fun _ _ => nothing rfl)
  | findTemplate song templateId userId =>
      cases answered
      apply unwritten
      unfold performTemplate
      split
      · exact ended
      · split
        · exact ended
        · exact nothing rfl
  | saveTemplate =>
      cases answered
      exact .unwritten distinct rfl ended
  | findExisting =>
      cases answered
      exact unwritten performExisting_holds
  | listForAdd songRead existing input drawn =>
      have known : ∀ row ∈ existing, state.Knows row := fun row held => knows_held present held
      cases songRead with
      | false =>
          cases answered
          exact unwritten (loaded_holds _ ended fun _ _ => known)
      | true =>
          cases answered
          exact unwritten (afterChecks_holds _ ended fun _ => addedRow_holds known)
  | insertCollaborator row =>
      obtain ⟨drawn, same⟩ := Option.ite_none_left_eq_some.mp answered
      cases same
      exact .inserted row drawn rfl rfl
  | findTarget =>
      cases answered
      exact unwritten performTarget_holds
  | listForUpdate songRead renamed share =>
      have known : ∀ row ∈ some renamed, state.Knows row := fun row held => knows_held present held
      cases songRead with
      | false =>
          cases answered
          exact unwritten (loaded_holds _ ended fun _ _ => known)
      | true =>
          cases answered
          apply unwritten
          apply afterChecks_holds _ ended
          rintro _ _ ⟨⟩
          exact known renamed rfl
  | saveCredit row | saveDispute row =>
      cases answered
      exact .saved distinct (knows_held present rfl)
  | findDisputed userId status =>
      cases answered
      apply unwritten
      split
      · exact ended
      · rename_i collaborator found
        rintro _ ⟨⟩
        exact (findActive_knows found).1

theorem performSplit_requests (answered : performSplit state request = some answer) :
    answer.1.requests = state.requests := by
  obtain ⟨songId, next⟩ := request
  cases next with
  | mint call =>
      obtain ⟨inner, _, rfl⟩ := Option.map_eq_some_iff.mp answered
      cases call with
      | findSong | submit | saveMinted | saveFailed | findForEdit | saveEdited | findForDelete
      | remove | ended => rfl
  | minted => cases answered
  | listForAdd songRead existing input drawn =>
      cases songRead with
      | false | true =>
          cases answered
          rfl
  | listForUpdate songRead renamed share =>
      cases songRead with
      | false | true =>
          cases answered
          rfl
  | insertCollaborator row =>
      obtain ⟨_, same⟩ := Option.ite_none_left_eq_some.mp answered
      cases same
      rfl
  | findForTemplate | findTemplate | saveTemplate | findForAdd | findExisting | findForUpdate
  | findTarget | saveCredit | findForDispute | findForResolve | findDisputed | saveDispute =>
      cases answered
      rfl

theorem reply_unwritten {label : SplitLabel} (answered : state.reply label request = some answer)
    (other : ∀ index, label ≠ .step index) :
    answer.1 = state ∧ answer.2.held = none := by
  cases label with
  | begin songId operation => cases answered
  | step index => exact absurd rfl (other index)
  | answer index outcome =>
      change answerSplit state request outcome = some answer at answered
      unfold answerSplit at answered
      split at answered
      · obtain ⟨_, _, rfl⟩ := Option.map_eq_some_iff.mp answered
        exact ⟨rfl, rfl⟩
      · cases answered
  | fails index =>
      change failSplit state request = some answer at answered
      unfold failSplit at answered
      split at answered
      · obtain ⟨_, _, rfl⟩ := Option.map_eq_some_iff.mp answered
        exact ⟨rfl, rfl⟩
      · cases answered
      · cases answered
        exact ⟨rfl, rfl⟩

theorem DistinctRows.placed (distinct : DistinctRows state)
    (kept : RowsKept state answer.1 answer.2.held) (same : answer.1.requests = state.requests)
    (index : Nat) : DistinctRows (answer.1.place index { request with next := answer.2 }) := by
  have cover : ∀ row ∈ (answer.1.place index { request with next := answer.2 }).known,
      row ∈ answer.1.collaborators ∨ row ∈ answer.2.held ∨ state.Knows row := by
    intro row member
    rcases List.mem_append.mp member with stored | held
    · exact Or.inl stored
    · obtain ⟨holder, placed, holds⟩ := List.mem_filterMap.mp held
      rcases List.mem_or_eq_of_mem_set placed with before | rfl
      · exact Or.inr (Or.inr (knows_held (same ▸ before) holds))
      · exact Or.inr (Or.inl holds)
  cases kept with
  | known ids rows own =>
      have old : ∀ row ∈ (answer.1.place index { request with next := answer.2 }).known,
          state.Knows row := by
        intro row member
        rcases cover row member with stored | held | known
        · exact rows row stored
        · exact own row held
        · exact known
      refine ⟨ids, fun one member other otherMember equal => ?_⟩
      obtain ⟨first, firstKnown, firstId, firstSong⟩ := old one member
      obtain ⟨second, secondKnown, secondId, secondSong⟩ := old other otherMember
      rw [← firstSong, ← secondSong]
      exact distinct.songs first firstKnown second secondKnown
        (firstId.trans (equal.trans secondId.symm))
  | inserted new drawn rows none =>
      have old : ∀ row ∈ (answer.1.place index { request with next := answer.2 }).known,
          row = new ∨ state.Knows row := by
        intro row member
        rcases cover row member with stored | held | known
        · rw [rows] at stored
          rcases List.mem_append.mp stored with before | single
          · exact Or.inr (knows_stored before)
          · exact Or.inl (List.mem_singleton.mp single)
        · rw [none] at held
          cases held
        · exact Or.inr known
      have unknown : ∀ row, state.Knows row → row.id ≠ new.id := by
        rintro row ⟨known, member, sameId, _⟩ equal
        exact drawn (List.mem_map.mpr ⟨known, member, sameId.trans equal⟩)
      constructor
      · change (answer.1.collaborators.map SongCollaborator.id).Nodup
        rw [rows, List.map_append]
        apply distinct.ids.append (List.nodup_singleton _)
        intro id stored single
        obtain ⟨row, member, rfl⟩ := List.mem_map.mp stored
        exact unknown row (knows_stored member) (List.mem_singleton.mp single)
      · intro one member other otherMember equal
        rcases old one member with rfl | oneKnown
        · rcases old other otherMember with rfl | otherKnown
          · rfl
          · exact absurd equal.symm (unknown other otherKnown)
        · rcases old other otherMember with rfl | otherKnown
          · exact absurd equal (unknown one oneKnown)
          · obtain ⟨first, firstKnown, firstId, firstSong⟩ := oneKnown
            obtain ⟨second, secondKnown, secondId, secondSong⟩ := otherKnown
            rw [← firstSong, ← secondSong]
            exact distinct.songs first firstKnown second secondKnown
              (firstId.trans (equal.trans secondId.symm))

end Rows

theorem first_holds_none (operation : SplitOperation) : operation.first.held = none := by
  cases operation with
  | submitSongMintTx | edit | deleteSong | applyTemplate | addCollaborator | updateCollaborator
  | disputeSplit | resolveDispute => rfl

section Replies

variable {state : SplitState} {request : SplitRequest} {label : SplitLabel}
  {answer : SplitState × SplitCall}

theorem reply_requests (answered : state.reply label request = some answer) :
    answer.1.requests = state.requests := by
  cases label with
  | step index => exact performSplit_requests answered
  | begin | answer | fails =>
      rw [(reply_unwritten answered fun _ impossible => nomatch impossible).1]

theorem reply_rowsKept (distinct : DistinctRows state) (present : request ∈ state.requests)
    (answered : state.reply label request = some answer) :
    RowsKept state answer.1 answer.2.held := by
  cases label with
  | step index => exact performSplit_rowsKept distinct present answered
  | begin | answer | fails =>
      obtain ⟨same, none⟩ := reply_unwritten answered fun _ impossible => nomatch impossible
      rw [same, none]
      exact .unwritten distinct rfl fun _ impossible => nomatch impossible

end Replies

theorem splitStep_distinct {before after : SplitState} {label : SplitLabel}
    (distinct : DistinctRows before) (moved : splitStep before label = some after) :
    DistinctRows after := by
  rcases splitStep_cases moved with ⟨songId, operation, rfl, rfl⟩ | ⟨index, request, answer, present, _, answered, rfl⟩
  · have same : ({ before with
        requests := before.requests ++ [⟨songId, operation.first⟩] } : SplitState).known =
          before.known := by
      simp [SplitState.known, first_holds_none]
    exact ⟨distinct.ids, same ▸ distinct.songs⟩
  · have kept := reply_rowsKept distinct (List.mem_of_getElem? present) answered
    exact distinct.placed kept (reply_requests answered) index

theorem reachable_distinct {state : SplitState} {allowed : SplitState → SplitLabel → Prop}
    (reached : splitMachine.Reachable allowed state) : DistinctRows state := by
  apply reached.invariant DistinctRows
  · rintro first ⟨none, ids⟩
    refine ⟨ids, fun one member other otherMember equal => ?_⟩
    unfold SplitState.known at member otherMember
    rw [none, List.filterMap_nil, List.append_nil] at member otherMember
    rw [List.inj_on_of_nodup_map ids member otherMember equal]
  · exact fun before label after distinct _ moved => splitStep_distinct distinct moved

end AudioBlock.Songs
