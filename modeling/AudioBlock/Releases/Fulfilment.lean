/-
Fulfilment of the pre-saves, over every interleaving of the calls.

The invariant has every pre-save of a published release that is not fulfilled awaited by a run:
one that has still to read the pre-saves, or has read this one.  What a run has read stays in
the table, so that its last save marks rows that are there.
-/
import AudioBlock.Releases.PreSaveCampaign

namespace AudioBlock.Releases

open AudioBlock.Foundation AudioBlock.Songs

/-! ### The invariant -/

/-- What a run has read is in the table still. -/
structure StillThere (rows pending : List ReleasePreSave) : Prop where
  distinct : (pending.map ReleasePreSave.id).Nodup
  present : ∀ id ∈ pending.map ReleasePreSave.id, id ∈ rows.map ReleasePreSave.id

def CallSound (releaseId : String) (tables : ReleaseTables) (drawn : List String) :
    ReleaseCall → Prop
  | .cancelling preSaveId => preSaveId ∈ drawn
  | .savingRelease copy _ => copy.id = releaseId
  | .loaded pending => StillThere tables.preSaves pending
  | .saving pending remaining =>
      StillThere tables.preSaves pending ∧ ∀ preSave ∈ pending,
        ∀ songId ∈ releaseSongIds tables.tracks releaseId,
          (⟨preSave.userId, songId⟩ : UserSave) ∈ remaining ∨
            ⟨preSave.userId, songId⟩ ∈ tables.saves
  | _ => True

/-- What the tables and the calls under way tell of each other. -/
structure Recorded (releaseId : String) (state : Campaign) : Prop where
  numbered : (state.calls.map Prod.fst).Nodup
  distinct : (state.tables.preSaves.map ReleasePreSave.id).Nodup
  drawn : ∀ row ∈ state.tables.preSaves, row.id ∈ state.drawn
  marked : ∀ id ∈ state.marks, id ∈ state.drawn ∧
    ∀ row ∈ state.tables.preSaves, row.id = id → row.fulfilledAt ≠ none
  cancelled : ∀ id ∈ state.cancelled, id ∈ state.drawn ∧
    ∀ row ∈ state.tables.preSaves, row.id ≠ id
  saved : ∀ row ∈ state.tables.preSaves, row.releaseId = releaseId → row.fulfilledAt ≠ none →
    ∀ songId ∈ releaseSongIds state.tables.tracks releaseId,
      (⟨row.userId, songId⟩ : UserSave) ∈ state.tables.saves
  calls : ∀ entry ∈ state.calls, CallSound releaseId state.tables state.drawn entry.2
  once : state.marks.Nodup
  single : state.tables.saves.Nodup
  honest : state.wronged = []

structure InHand (releaseId : String) (state : Campaign) : Prop extends
    Recorded releaseId state where
  awaited : Published releaseId state → AllAwaited releaseId state

theorem InHand.rules {releaseId : String} {state : Campaign} (inHand : InHand releaseId state) :
    FulfilmentRules releaseId state := by
  refine ⟨?_, inHand.once, inHand.single, inHand.honest⟩
  intro published quiet row member own
  have marked : row.fulfilledAt ≠ none := by
    intro waiting
    obtain ⟨entry, running, _⟩ := inHand.awaited published row member own waiting
    rw [quiet] at running
    exact absurd running List.not_mem_nil
  exact ⟨marked, inHand.saved row member own marked⟩

theorem newRelease_inHand {releaseId : String} {state : Campaign}
    (untouched : NewRelease releaseId state) : InHand releaseId state := by
  obtain ⟨calls, marks, cancelled, wronged⟩ := untouched.idle
  refine
    { distinct := untouched.distinct, drawn := untouched.drawn, single := untouched.single
      honest := wronged, numbered := ?_, marked := ?_, cancelled := ?_, saved := ?_, calls := ?_
      once := ?_, awaited := ?_ }
  · rw [calls]
    exact List.nodup_nil
  · rw [marks]
    exact fun id member => absurd member List.not_mem_nil
  · rw [cancelled]
    exact fun id member => absurd member List.not_mem_nil
  · exact fun row member own marked => absurd (untouched.unfulfilled row member own) marked
  · rw [calls]
    exact fun entry member => absurd member List.not_mem_nil
  · rw [marks]
    exact List.nodup_nil
  · exact fun published row member own _ => absurd own (untouched.unsaved published row member)

/-! ### Calls that come and go -/

section Calls

variable {releaseId : String} {state : Campaign} {number : Nat} {entered lost : ReleaseCall}

theorem call_mem (running : state.call number = some lost) : (number, lost) ∈ state.calls := by
  unfold Campaign.call at running
  obtain ⟨entry, found, same⟩ := Option.map_eq_some_iff.mp running
  obtain ⟨member, named⟩ := findRow_mem found
  rw [← named, ← same]
  exact member

theorem call_of_mem (recorded : Recorded releaseId state) {entry : Nat × ReleaseCall}
    (member : entry ∈ state.calls) (named : entry.1 = number) :
    state.call number = some entry.2 := by
  unfold Campaign.call
  rw [← named, findRow_of_mem recorded.numbered member]
  rfl

theorem mem_others {entry : Nat × ReleaseCall} :
    entry ∈ removeRow Prod.fst number state.calls ↔ entry ∈ state.calls ∧ entry.1 ≠ number := by
  unfold removeRow
  rw [List.mem_filter, decide_eq_true_eq]

theorem others_numbered (recorded : Recorded releaseId state) :
    ((removeRow Prod.fst number state.calls).map Prod.fst).Nodup :=
  recorded.numbered.sublist (List.filter_sublist.map _)

theorem Recorded.leave (recorded : Recorded releaseId state)
    (awaited : Published releaseId state → AllAwaited releaseId (state.leave number)) :
    InHand releaseId (state.leave number) :=
  { recorded with
    numbered := others_numbered recorded
    calls := fun entry member => recorded.calls entry (mem_others.mp member).1
    awaited := awaited }

theorem Recorded.enter (recorded : Recorded releaseId state)
    (sound : CallSound releaseId state.tables state.drawn entered)
    (awaited : Published releaseId state → AllAwaited releaseId (state.enter number entered)) :
    InHand releaseId (state.enter number entered) := by
  refine { recorded with numbered := ?_, calls := ?_, awaited := awaited }
  · apply List.nodup_cons.mpr ⟨?_, others_numbered recorded⟩
    intro member
    obtain ⟨entry, present, same⟩ := List.mem_map.mp member
    exact (mem_others.mp present).2 same
  · intro entry member
    cases List.mem_cons.mp member with
    | inl new => exact new ▸ sound
    | inr other => exact recorded.calls entry (mem_others.mp other).1

theorem awaited_leave (inHand : InHand releaseId state)
    (idle : ∀ lost, state.call number = some lost → ∀ row ∈ state.tables.preSaves,
      row.releaseId = releaseId → row.fulfilledAt = none → covers state.now lost row.id = false)
    (published : Published releaseId state) : AllAwaited releaseId (state.leave number) := by
  intro row member own waiting
  obtain ⟨entry, running, covered⟩ := inHand.awaited published row member own waiting
  refine ⟨entry, mem_others.mpr ⟨running, ?_⟩, covered⟩
  intro named
  rw [idle entry.2 (call_of_mem inHand.toRecorded running named) row member own waiting] at covered
  cases covered

theorem awaited_enter (inHand : InHand releaseId state)
    (keeps : ∀ lost, state.call number = some lost → ∀ row ∈ state.tables.preSaves,
      row.releaseId = releaseId → row.fulfilledAt = none →
      covers state.now lost row.id = true → covers state.now entered row.id = true)
    (published : Published releaseId state) :
    AllAwaited releaseId (state.enter number entered) := by
  intro row member own waiting
  obtain ⟨entry, running, covered⟩ := inHand.awaited published row member own waiting
  by_cases named : entry.1 = number
  · have current := call_of_mem inHand.toRecorded running named
    have still := keeps entry.2 current row member own waiting covered
    exact ⟨_, List.mem_cons_self, still⟩
  · exact ⟨entry, List.mem_cons_of_mem _ (mem_others.mpr ⟨running, named⟩), covered⟩

theorem covers_plain {now : Int} (rows : pendingRows entered = [])
    (loads : willLoad now entered = false) (id : String) : covers now entered id = false := by
  unfold covers pendingIds
  rw [rows, loads, List.map_nil]
  simp only [List.not_mem_nil, decide_false, Bool.or_self]

theorem covers_loads {now : Int} (loads : willLoad now entered = true) (id : String) :
    covers now entered id = true := by
  unfold covers
  rw [loads, Bool.true_or]

theorem StillThere.mono {rows after pending : List ReleasePreSave}
    (there : StillThere rows pending)
    (kept : ∀ id ∈ pending.map ReleasePreSave.id, id ∈ rows.map ReleasePreSave.id →
      id ∈ after.map ReleasePreSave.id) : StillThere after pending :=
  ⟨there.distinct, fun id listed => kept id listed (there.present id listed)⟩

theorem CallSound.mono {tables after : ReleaseTables} {drawn drawnAfter : List String}
    (sound : CallSound releaseId tables drawn entered)
    (rows : ∀ id ∈ pendingIds entered, id ∈ tables.preSaves.map ReleasePreSave.id →
      id ∈ after.preSaves.map ReleasePreSave.id)
    (tracks : after.tracks = tables.tracks) (saves : ∀ save ∈ tables.saves, save ∈ after.saves)
    (known : ∀ id ∈ drawn, id ∈ drawnAfter) : CallSound releaseId after drawnAfter entered := by
  cases entered with
  | cancelling preSaveId => exact known preSaveId sound
  | savingRelease copy upcoming => exact sound
  | loaded pending => exact StillThere.mono sound rows
  | saving pending remaining =>
      obtain ⟨there, saved⟩ := sound
      refine ⟨there.mono rows, ?_⟩
      intro preSave member songId listed
      rw [tracks] at listed
      exact (saved preSave member songId listed).imp_right (saves _)
  | preSaving userId => trivial
  | inserting userId => trivial
  | loading => trivial
  | crashed => trivial

end Calls

/-! ### Steps that leave the tables alone -/

section Reads

variable {toDate : String → Option Int} {releaseId : String} {state after : Campaign}
  {number : Nat}

theorem elapse_inHand (inHand : InHand releaseId state) {milliseconds : Nat}
    (considerate : KeepsAwaited releaseId state (.elapse milliseconds)) :
    InHand releaseId { state with now := state.now + milliseconds } := by
  refine { inHand with awaited := ?_ }
  intro published row member own waiting
  have allAwaited : AllAwaited releaseId state := by
    by_cases already : Published releaseId state
    · exact inHand.awaited already
    · exact considerate published already
  obtain ⟨entry, running, covered⟩ := allAwaited row member own waiting
  refine ⟨entry, running, ?_⟩
  unfold covers at covered ⊢
  rw [Bool.or_eq_true] at covered ⊢
  refine covered.imp_left ?_
  intro loads
  unfold willLoad at loads ⊢
  split at loads
  · rfl
  · rfl
  · rename_i copy upcoming
    unfold Campaign.goesOn isReleasePublished at loads ⊢
    rw [Bool.and_eq_true, decide_eq_true_eq] at loads ⊢
    exact ⟨loads.1, Int.le_trans loads.2 (by dsimp only; omega)⟩
  · cases loads

theorem begin_inHand (inHand : InHand releaseId state) {entered : Option ReleaseCall}
    (sound : ∀ first, entered = some first → CallSound releaseId state.tables state.drawn first)
    (moved : state.begin number entered = some after) : InHand releaseId after := by
  unfold Campaign.begin at moved
  cases running : state.call number with
  | some other =>
      rw [running] at moved
      cases moved
  | none =>
      rw [running] at moved
      cases entered with
      | none =>
          cases moved
          exact inHand
      | some first =>
          cases moved
          apply inHand.enter (sound first rfl)
          apply awaited_enter inHand
          intro lost same
          cases running.symm.trans same

variable {first lost : ReleaseCall}

theorem publishCall_sound {requesterId : String}
    (made : state.publishCall releaseId requesterId = some first) :
    CallSound releaseId state.tables state.drawn first := by
  unfold Campaign.publishCall at made
  split at made
  · cases made
  · rename_i release found
    split at made
    · cases made
    · split at made
      · cases made
        trivial
      · cases made
        have own := Campaign.findRelease_id found
        exact own

theorem updateCall_sound {requesterId : String} {updates : UpdateReleaseInput}
    (made : state.updateCall toDate releaseId requesterId updates = some first) :
    CallSound releaseId state.tables state.drawn first := by
  unfold Campaign.updateCall at made
  split at made
  · cases made
  · rename_i release found
    split at made
    · cases made
    · rename_i copy updated
      cases made
      obtain ⟨_, _, _, stored⟩ := updatedRelease_stored updated
      exact stored.id.trans (Campaign.findRelease_id found)

theorem scheduledCall_sound {asOf : Int} (made : state.scheduledCall releaseId asOf = some first) :
    CallSound releaseId state.tables state.drawn first := by
  unfold Campaign.scheduledCall at made
  split at made
  · cases made
  · rename_i release found
    split at made
    · cases made
      have own := Campaign.findRelease_id found
      exact own
    · cases made

section

variable (inHand : InHand releaseId state) (running : state.call number = some lost)
  (rows : pendingRows lost = [])
include inHand running rows

theorem plain_enter {entered : ReleaseCall} (loads : willLoad state.now lost = false)
    (sound : CallSound releaseId state.tables state.drawn entered) :
    InHand releaseId (state.enter number entered) := by
  apply inHand.enter sound
  apply awaited_enter inHand
  intro other same row _ _ _ covered
  cases running.symm.trans same
  rw [covers_plain rows loads] at covered
  cases covered

theorem plain_leave (loads : willLoad state.now lost = false) :
    InHand releaseId (state.leave number) := by
  apply inHand.leave
  apply awaited_leave inHand
  intro other same row _ _ _
  cases running.symm.trans same
  exact covers_plain rows loads row.id

end

theorem load_inHand (inHand : InHand releaseId state) :
    InHand releaseId (state.loadPending releaseId number) := by
  have listed : ∀ row ∈ state.tables.preSaves, row.releaseId = releaseId →
      row.fulfilledAt = none → row ∈ pendingPreSaves state.tables.preSaves releaseId := by
    intro row member own waiting
    apply List.mem_filter.mpr
    refine ⟨member, ?_⟩
    rw [waiting, Bool.and_eq_true]
    exact ⟨decide_eq_true own, rfl⟩
  unfold Campaign.loadPending
  dsimp only
  split
  · rename_i nothing
    apply inHand.leave
    intro _ row member own waiting
    have inside := listed row member own waiting
    rw [nothing] at inside
    exact absurd inside List.not_mem_nil
  · apply inHand.enter
    · refine ⟨inHand.distinct.sublist (List.filter_sublist.map _), ?_⟩
      exact (List.filter_sublist.map ReleasePreSave.id).subset
    · intro _ row member own waiting
      refine ⟨_, List.mem_cons_self, ?_⟩
      unfold covers
      rw [Bool.or_eq_true]
      exact Or.inr (decide_eq_true (List.mem_map_of_mem (listed row member own waiting)))

theorem fulfilmentSaves_mem {pending : List ReleasePreSave} {songIds : List String}
    {preSave : ReleasePreSave} (member : preSave ∈ pending) {songId : String}
    (listed : songId ∈ songIds) :
    (⟨preSave.userId, songId⟩ : UserSave) ∈ fulfilmentSaves pending songIds :=
  List.mem_flatMap.mpr ⟨preSave, member, List.mem_map.mpr ⟨songId, listed, rfl⟩⟩

theorem loadTracks_inHand (inHand : InHand releaseId state) {pending : List ReleasePreSave}
    (running : state.call number = some (.loaded pending)) :
    InHand releaseId (state.enter number (.saving pending
      (fulfilmentSaves pending (releaseSongIds state.tables.tracks releaseId)))) := by
  have sound := inHand.calls _ (call_mem running)
  apply inHand.enter
  · refine ⟨sound, ?_⟩
    intro preSave member songId listed
    exact Or.inl (fulfilmentSaves_mem member listed)
  · apply awaited_enter inHand
    intro lost same row _ _ _ covered
    cases running.symm.trans same
    exact covered

theorem crash_inHand (inHand : InHand releaseId state) (running : state.call number = some lost)
    (up : lost ≠ .crashed) (considerate : KeepsAwaited releaseId state (.crash number)) :
    InHand releaseId (state.lose number lost) := by
  have restarts : InHand releaseId (state.enter number .crashed) := by
    apply inHand.enter
    · trivial
    · apply awaited_enter inHand
      exact fun _ _ row _ _ _ _ => covers_loads rfl row.id
  cases lost with
  | loading => exact restarts
  | loaded pending => exact restarts
  | saving pending remaining => exact restarts
  | crashed => exact absurd rfl up
  | preSaving userId => exact plain_leave inHand running rfl rfl
  | inserting userId => exact plain_leave inHand running rfl rfl
  | cancelling preSaveId => exact plain_leave inHand running rfl rfl
  | savingRelease copy upcoming => exact inHand.leave (considerate copy upcoming running)

theorem restart_inHand (inHand : InHand releaseId state) :
    InHand releaseId (state.enter number .loading) := by
  apply inHand.enter
  · trivial
  · apply awaited_enter inHand
    exact fun _ _ row _ _ _ _ => covers_loads rfl row.id

end Reads

/-! ### Steps that write -/

section Writes

variable {releaseId : String} {state : Campaign} {number : Nat}

theorem insertPreSave_rows (rows : List ReleasePreSave) (drawn userId releaseId : String) :
    (insertPreSave rows drawn userId releaseId).1 = rows ∨
      findPreSave rows userId releaseId = none ∧
        (insertPreSave rows drawn userId releaseId).1 =
          rows ++ [⟨drawn, userId, releaseId, none⟩] := by
  unfold insertPreSave
  cases findPreSave rows userId releaseId with
  | some raced => exact Or.inl rfl
  | none => exact Or.inr ⟨rfl, rfl⟩

theorem drawn_inHand (inHand : InHand releaseId state) (drawn : String) :
    InHand releaseId { state with drawn := drawn :: state.drawn } :=
  { inHand with
    drawn := fun row member => List.mem_cons_of_mem _ (inHand.drawn row member)
    marked := fun id member => (inHand.marked id member).imp_left (List.mem_cons_of_mem _)
    cancelled := fun id member => (inHand.cancelled id member).imp_left (List.mem_cons_of_mem _)
    calls := fun entry member => (inHand.calls entry member).mono
      (fun _ _ present => present) rfl (fun _ stored => stored)
      fun _ => List.mem_cons_of_mem _ }

theorem appended_inHand (inHand : InHand releaseId state) {userId drawn : String}
    (fresh : drawn ∉ state.drawn)
    (loads : Published releaseId state →
      ∃ entry ∈ state.calls, willLoad state.now entry.2 = true) :
    InHand releaseId
      { state with
        tables :=
          { state.tables with
            preSaves := state.tables.preSaves ++ [⟨drawn, userId, releaseId, none⟩] }
        drawn := drawn :: state.drawn } := by
  have split : ∀ row ∈ state.tables.preSaves ++ [⟨drawn, userId, releaseId, none⟩],
      row ∈ state.tables.preSaves ∨ row = ⟨drawn, userId, releaseId, none⟩ :=
    fun row member => (List.mem_append.mp member).imp_right List.mem_singleton.mp
  have own : InHand releaseId { state with drawn := drawn :: state.drawn } :=
    drawn_inHand inHand drawn
  refine
    { own with
      distinct := ?_, drawn := ?_, marked := ?_, cancelled := ?_, saved := ?_, calls := ?_
      awaited := ?_ }
  · rw [List.map_append]
    apply inHand.distinct.append (List.nodup_singleton _)
    intro id member single
    obtain ⟨row, present, same⟩ := List.mem_map.mp member
    have drawnId := inHand.drawn row present
    rw [same, List.mem_singleton.mp single] at drawnId
    exact fresh drawnId
  · intro row member
    cases split row member with
    | inl old => exact own.drawn row old
    | inr new =>
        subst new
        exact List.mem_cons_self
  · intro id member
    obtain ⟨known, marked⟩ := inHand.marked id member
    refine ⟨List.mem_cons_of_mem _ known, ?_⟩
    intro row present same
    cases split row present with
    | inl old => exact marked row old same
    | inr new =>
        subst new
        have named : drawn = id := same
        exact absurd (named ▸ known) fresh
  · intro id member
    obtain ⟨known, gone⟩ := inHand.cancelled id member
    refine ⟨List.mem_cons_of_mem _ known, ?_⟩
    intro row present same
    cases split row present with
    | inl old => exact gone row old same
    | inr new =>
        subst new
        have named : drawn = id := same
        exact absurd (named ▸ known) fresh
  · intro row member rowOwn marked
    cases split row member with
    | inl old => exact inHand.saved row old rowOwn marked
    | inr new =>
        subst new
        exact absurd rfl marked
  · intro entry member
    apply (own.calls entry member).mono
    · intro id _ present
      rw [List.map_append]
      exact List.mem_append_left _ present
    · rfl
    · exact fun save stored => stored
    · exact fun id known => known
  · intro published row member rowOwn waiting
    cases split row member with
    | inl old => exact inHand.awaited published row old rowOwn waiting
    | inr new =>
        obtain ⟨entry, present, loading⟩ := loads published
        exact ⟨entry, present, covers_loads loading row.id⟩

theorem insert_inHand (inHand : InHand releaseId state) {userId drawn : String}
    (running : state.call number = some (.inserting userId)) (fresh : drawn ∉ state.drawn)
    (keeps : KeepsAwaited releaseId state (.insert number drawn)) :
    InHand releaseId (state.insertRow releaseId number drawn userId) := by
  have inserted : InHand releaseId
      { state with
        tables :=
          { state.tables with
            preSaves := (insertPreSave state.tables.preSaves drawn userId releaseId).1 }
        drawn := drawn :: state.drawn } := by
    rcases insertPreSave_rows state.tables.preSaves drawn userId releaseId with
      same | ⟨absent, appended⟩
    · rw [same]
      exact drawn_inHand inHand drawn
    · rw [appended]
      exact appended_inHand inHand fresh (keeps userId running absent)
  exact plain_leave inserted running rfl rfl

theorem mem_kept {rows : List ReleasePreSave} {removed : String} {row : ReleasePreSave} :
    row ∈ removeRow ReleasePreSave.id removed rows ↔ row ∈ rows ∧ row.id ≠ removed := by
  unfold removeRow
  rw [List.mem_filter, decide_eq_true_eq]

theorem remove_inHand (inHand : InHand releaseId state) {preSaveId : String}
    (running : state.call number = some (.cancelling preSaveId))
    (keeps : KeepsAwaited releaseId state (.remove number)) :
    InHand releaseId (state.removePreSave number preSaveId) := by
  have known : preSaveId ∈ state.drawn := inHand.calls _ (call_mem running)
  have removed : InHand releaseId
      { state with
        tables :=
          { state.tables with
            preSaves := removeRow ReleasePreSave.id preSaveId state.tables.preSaves }
        cancelled := preSaveId :: state.cancelled } := by
    refine
      { inHand with
        distinct := inHand.distinct.sublist (List.filter_sublist.map _)
        drawn := fun row member => inHand.drawn row (mem_kept.mp member).1
        marked := ?_, cancelled := ?_, saved := ?_, calls := ?_, awaited := ?_ }
    · intro id member
      obtain ⟨drawn, marked⟩ := inHand.marked id member
      exact ⟨drawn, fun row present => marked row (mem_kept.mp present).1⟩
    · intro id member
      cases List.mem_cons.mp member with
      | inl new =>
          subst new
          exact ⟨known, fun row present => (mem_kept.mp present).2⟩
      | inr old =>
          obtain ⟨drawn, gone⟩ := inHand.cancelled id old
          exact ⟨drawn, fun row present => gone row (mem_kept.mp present).1⟩
    · exact fun row member => inHand.saved row (mem_kept.mp member).1
    · intro entry member
      apply (inHand.calls entry member).mono
      · intro id listed present
        obtain ⟨row, stored, named⟩ := List.mem_map.mp present
        refine List.mem_map.mpr ⟨row, mem_kept.mpr ⟨stored, ?_⟩, named⟩
        intro same
        exact keeps preSaveId running entry member (same ▸ named ▸ listed)
      · rfl
      · exact fun save stored => stored
      · exact fun id drawn => drawn
    · exact fun published row member => inHand.awaited published row (mem_kept.mp member).1
  exact plain_leave removed running rfl rfl

variable {copy : Release} {pending : List ReleasePreSave}

theorem findRelease_saved {tables : ReleaseTables} {found : Release}
    (sought : (saveRelease tables copy).findRelease releaseId = some found) :
    found = copy ∨ tables.findRelease releaseId = some found := by
  unfold saveRelease ReleaseTables.findRelease at sought
  rw [findRow_saveRow] at sought
  obtain ⟨release, stored, same⟩ := Option.map_eq_some_iff.mp sought
  split at same
  · exact Or.inl same.symm
  · exact Or.inr (same ▸ stored)

theorem saveCopy_published {announced : Bool}
    (announces : announced = (state.announced || state.announces releaseId copy))
    (published : Published releaseId
      { state with tables := saveRelease state.tables copy, announced }) :
    Published releaseId state ∨
      state.announces releaseId copy = true ∨ copy.releaseDate ≤ state.now := by
  rcases published with turned | ⟨release, found, arrived⟩
  · subst announces
    dsimp only at turned
    rw [Bool.or_eq_true] at turned
    exact turned.imp Or.inl Or.inl
  · cases findRelease_saved found with
    | inl same => exact Or.inr (Or.inr (same ▸ arrived))
    | inr stored => exact Or.inl (Or.inr ⟨release, stored, arrived⟩)

theorem saveCopy_inHand (inHand : InHand releaseId state) {upcoming : Bool}
    (running : state.call number = some (.savingRelease copy upcoming))
    (keeps : KeepsAwaited releaseId state (.saveRelease number)) :
    InHand releaseId (state.saveCopy releaseId number copy upcoming) := by
  have saved : Recorded releaseId
      { state with
        tables := saveRelease state.tables copy
        announced := state.announced || state.announces releaseId copy } :=
    { inHand with
      calls := fun entry member => (inHand.calls entry member).mono
        (fun id _ present => present) rfl (fun save stored => stored) fun id drawn => drawn }
  unfold Campaign.saveCopy
  dsimp only
  split
  · apply saved.enter
    · trivial
    · exact fun _ row _ _ _ => ⟨_, List.mem_cons_self, covers_loads rfl row.id⟩
  · rename_i ends
    rw [Bool.not_eq_true] at ends
    apply saved.leave
    intro published
    have allAwaited : AllAwaited releaseId state := by
      cases saveCopy_published rfl published with
      | inl already => exact inHand.awaited already
      | inr publishes => exact keeps copy upcoming running ends publishes
    intro row member own waiting
    obtain ⟨entry, present, covered⟩ := allAwaited row member own waiting
    refine ⟨entry, mem_others.mpr ⟨present, ?_⟩, covered⟩
    intro named
    have same := running.symm.trans (call_of_mem inHand.toRecorded present named)
    have loads : willLoad state.now (.savingRelease copy upcoming) = false := ends
    have idle := covers_plain rfl loads row.id
    rw [← Option.some.inj same, idle] at covered
    cases covered

theorem saveSong_mem {saves : List UserSave} {save stored : UserSave} :
    stored ∈ saveSong saves save ↔ stored ∈ saves ∨ stored = save := by
  unfold saveSong
  split
  · rename_i present
    refine ⟨Or.inl, ?_⟩
    intro stored
    rcases stored with old | same
    · exact old
    · exact same ▸ present
  · rw [List.mem_append, List.mem_singleton]

theorem saveSong_nodup {saves : List UserSave} (single : saves.Nodup) (save : UserSave) :
    (saveSong saves save).Nodup := by
  unfold saveSong
  split
  · exact single
  · rename_i absent
    apply single.append (List.nodup_singleton save)
    intro stored old same
    exact absent (List.mem_singleton.mp same ▸ old)

theorem nothing_cancelled (recorded : Recorded releaseId state) {chosen : List ReleasePreSave}
    (there : StillThere state.tables.preSaves pending) (within : chosen ⊆ pending) :
    state.cancelledOf chosen = [] := by
  apply List.filter_eq_nil_iff.mpr
  intro id listed cancelled
  have inside := there.present id (List.map_subset _ within listed)
  obtain ⟨row, stored, named⟩ := List.mem_map.mp inside
  exact (recorded.cancelled id (of_decide_eq_true cancelled)).2 row stored named

theorem saveOne_inHand (inHand : InHand releaseId state) {save : UserSave} {rest : List UserSave}
    (running : state.call number = some (.saving pending (save :: rest))) :
    InHand releaseId (state.saveOne number pending save rest) := by
  obtain ⟨there, wanted⟩ := inHand.calls _ (call_mem running)
  have kept : ∀ stored ∈ state.tables.saves, stored ∈ saveSong state.tables.saves save :=
    fun stored old => saveSong_mem.mpr (Or.inl old)
  have saved : Recorded releaseId
      { state with
        tables := { state.tables with saves := saveSong state.tables.saves save }
        wronged :=
          state.cancelledOf (pending.filter fun row => decide (row.userId = save.userId)) ++
            state.wronged } :=
    { inHand with
      saved := fun row member own marked songId listed =>
        kept _ (inHand.saved row member own marked songId listed)
      calls := fun entry member => (inHand.calls entry member).mono
        (fun id _ present => present) rfl kept fun id drawn => drawn
      single := saveSong_nodup inHand.single save
      honest := by
        have within : pending.filter (fun row => decide (row.userId = save.userId)) ⊆ pending :=
          List.filter_sublist.subset
        have honest := inHand.honest
        dsimp only
        rw [nothing_cancelled inHand.toRecorded there within, honest, List.nil_append] }
  apply saved.enter
  · refine ⟨there, ?_⟩
    intro preSave member songId listed
    rcases wanted preSave member songId listed with remaining | stored
    · cases List.mem_cons.mp remaining with
      | inl first => exact Or.inr (saveSong_mem.mpr (Or.inr first))
      | inr later => exact Or.inl later
    · exact Or.inr (kept _ stored)
  · apply awaited_enter inHand
    intro lost same row _ _ _ covered
    cases running.symm.trans same
    exact covered

/-! ### The last save of a run -/

def markedRow (now : Int) (pending : List ReleasePreSave) (row : ReleasePreSave) :
    ReleasePreSave :=
  ((findRow ReleasePreSave.id row.id pending).map (ReleasePreSave.fulfil now)).getD row

theorem markedRow_cases (now : Int) (pending : List ReleasePreSave) (row : ReleasePreSave) :
    (∃ preSave ∈ pending, preSave.id = row.id ∧ markedRow now pending row = preSave.fulfil now) ∨
      row.id ∉ pending.map ReleasePreSave.id ∧ markedRow now pending row = row := by
  unfold markedRow
  cases found : findRow ReleasePreSave.id row.id pending with
  | none => exact Or.inr ⟨findRow_eq_none found, rfl⟩
  | some preSave =>
      obtain ⟨member, named⟩ := findRow_mem found
      exact Or.inl ⟨preSave, member, named, rfl⟩

theorem markedRow_id (now : Int) (pending : List ReleasePreSave) (row : ReleasePreSave) :
    (markedRow now pending row).id = row.id := by
  rcases markedRow_cases now pending row with ⟨preSave, _, named, same⟩ | ⟨_, same⟩
  · rw [same]
    exact named
  · rw [same]

theorem markFulfilled_there {now : Int} {rows : List ReleasePreSave}
    (there : StillThere rows pending) :
    markFulfilled now rows pending = some (rows.map (markedRow now pending)) := by
  have accepted : ∀ table : List ReleasePreSave,
      (∀ id ∈ pending.map ReleasePreSave.id, id ∈ table.map ReleasePreSave.id) →
      markFulfilled now table pending = some (pending.foldl
        (fun table preSave => saveRow ReleasePreSave.id (preSave.fulfil now) table) table) := by
    clear there
    induction pending with
    | nil => exact fun table _ => rfl
    | cons first rest ih =>
        intro table present
        have listed : (first.fulfil now).id ∈ table.map ReleasePreSave.id :=
          present first.id List.mem_cons_self
        unfold markFulfilled storePreSave
        rw [if_pos listed, List.foldl_cons]
        apply ih
        intro id member
        rw [saveRow_keys]
        exact present id (List.mem_cons_of_mem _ member)
  have keeps : ∀ row : ReleasePreSave, (row.fulfil now).id = row.id := fun row => rfl
  rw [accepted rows there.present, foldl_saveRow _ keeps _ _ there.distinct]
  rfl

theorem markedRows_ids (now : Int) (pending rows : List ReleasePreSave) :
    (rows.map (markedRow now pending)).map ReleasePreSave.id = rows.map ReleasePreSave.id := by
  rw [List.map_map]
  exact List.map_congr_left fun row _ => markedRow_id now pending row

section

variable (inHand : InHand releaseId state) (running : state.call number = some (.saving pending []))
include inHand running

theorem marked_recorded
    (unmarked : ∀ row ∈ state.tables.preSaves, row.id ∈ pending.map ReleasePreSave.id →
      row.fulfilledAt = none) :
    Recorded releaseId
      { state with
        tables :=
          { state.tables with
            preSaves := state.tables.preSaves.map (markedRow state.now pending) }
        marks := pending.map ReleasePreSave.id ++ state.marks
        wronged := state.cancelledOf pending ++ state.wronged } := by
  obtain ⟨there, wanted⟩ := inHand.calls _ (call_mem running)
  have ids := markedRows_ids state.now pending state.tables.preSaves
  have before : ∀ row ∈ state.tables.preSaves.map (markedRow state.now pending),
      ∃ old ∈ state.tables.preSaves, markedRow state.now pending old = row ∧ old.id = row.id := by
    intro row member
    obtain ⟨old, present, same⟩ := List.mem_map.mp member
    exact ⟨old, present, same, same ▸ (markedRow_id state.now pending old).symm⟩
  refine
    { inHand with
      distinct := ids ▸ inHand.distinct, drawn := ?_, marked := ?_, cancelled := ?_, saved := ?_
      calls := ?_, once := ?_, honest := ?_ }
  · intro row member
    obtain ⟨old, present, _, named⟩ := before row member
    exact named ▸ inHand.drawn old present
  · intro id member
    cases List.mem_append.mp member with
    | inl new =>
        obtain ⟨stored, present, named⟩ := List.mem_map.mp (there.present id new)
        refine ⟨named ▸ inHand.drawn stored present, ?_⟩
        intro row listed same
        obtain ⟨old, _, becomes, oldNamed⟩ := before row listed
        rcases markedRow_cases state.now pending old with ⟨_, _, _, fulfilled⟩ | ⟨absent, _⟩
        · rw [← becomes, fulfilled]
          exact Option.some_ne_none state.now
        · exact absurd (oldNamed.trans same ▸ new) absent
    | inr marked =>
        obtain ⟨known, fulfilled⟩ := inHand.marked id marked
        refine ⟨known, ?_⟩
        intro row listed same
        obtain ⟨old, present, becomes, oldNamed⟩ := before row listed
        rcases markedRow_cases state.now pending old with ⟨_, _, _, now⟩ | ⟨_, unchanged⟩
        · rw [← becomes, now]
          exact Option.some_ne_none state.now
        · rw [← becomes, unchanged]
          exact fulfilled old present (oldNamed.trans same)
  · intro id member
    obtain ⟨known, gone⟩ := inHand.cancelled id member
    refine ⟨known, ?_⟩
    intro row listed
    obtain ⟨old, present, _, named⟩ := before row listed
    exact named ▸ gone old present
  · intro row listed own marked songId song
    obtain ⟨old, present, becomes, _⟩ := before row listed
    rcases markedRow_cases state.now pending old with ⟨preSave, member, _, now⟩ | ⟨_, unchanged⟩
    · rw [← becomes, now]
      exact (wanted preSave member songId song).resolve_left List.not_mem_nil
    · rw [unchanged] at becomes
      subst becomes
      exact inHand.saved old present own marked songId song
  · intro entry member
    apply (inHand.calls entry member).mono
    · exact fun id _ present => ids ▸ present
    · rfl
    · exact fun save stored => stored
    · exact fun id drawn => drawn
  · apply there.distinct.append inHand.once
    intro id new marked
    obtain ⟨row, present, named⟩ := List.mem_map.mp (there.present id new)
    exact (inHand.marked id marked).2 row present named (unmarked row present (named ▸ new))
  · have honest := inHand.honest
    dsimp only
    rw [nothing_cancelled inHand.toRecorded there (List.Subset.refl pending), honest,
      List.nil_append]

theorem mark_inHand (keeps : KeepsAwaited releaseId state (.mark number)) :
    InHand releaseId (state.markAll number pending) := by
  have there := (inHand.calls _ (call_mem running)).1
  unfold Campaign.markAll
  rw [markFulfilled_there there]
  apply (marked_recorded inHand running (keeps pending running)).leave
  intro published row listed own waiting
  obtain ⟨old, present, becomes⟩ := List.mem_map.mp listed
  rcases markedRow_cases state.now pending old with ⟨_, _, _, now⟩ | ⟨absent, unchanged⟩
  · rw [← becomes, now] at waiting
    cases waiting
  · rw [unchanged] at becomes
    subst becomes
    obtain ⟨entry, running', covered⟩ := inHand.awaited published old present own waiting
    refine ⟨entry, mem_others.mpr ⟨running', ?_⟩, covered⟩
    intro named
    have same := running.symm.trans (call_of_mem inHand.toRecorded running' named)
    rw [← Option.some.inj same] at covered
    exact absurd (of_decide_eq_true covered) absent

end

end Writes

/-! ### Every run -/

section Runs

variable {toDate : String → Option Int} {releaseId : String}

theorem findPreSave_mem {rows : List ReleasePreSave} {userId : String} {found : ReleasePreSave}
    (sought : findPreSave rows userId releaseId = some found) : found ∈ rows :=
  List.mem_of_find?_eq_some sought

theorem step_inHand {before after : Campaign} {label : CampaignStep}
    (inHand : InHand releaseId before) (keeps : KeepsAwaited releaseId before label)
    (moved : before.step toDate releaseId label = some after) : InHand releaseId after := by
  cases label with
  | elapse milliseconds =>
      cases moved
      exact elapse_inHand inHand keeps
  | beginPreSave number userId =>
      apply begin_inHand inHand _ moved
      intro first made
      split at made
      · cases made
      · cases made
        trivial
  | lookUp number =>
      unfold Campaign.step at moved
      dsimp only at moved
      split at moved
      · rename_i userId running
        split at moved
        · cases moved
          exact plain_leave inHand running rfl rfl
        · cases moved
          apply plain_enter inHand running rfl rfl
          trivial
      · cases moved
  | insert number drawn =>
      unfold Campaign.step at moved
      dsimp only at moved
      split at moved
      · rename_i userId running
        split at moved
        · cases moved
        · rename_i fresh
          cases moved
          exact insert_inHand inHand running fresh keeps
      · cases moved
  | beginCancel number userId =>
      apply begin_inHand inHand _ moved
      intro first made
      obtain ⟨existing, found, same⟩ := Option.map_eq_some_iff.mp made
      subst same
      exact inHand.drawn existing (findPreSave_mem found)
  | remove number =>
      unfold Campaign.step at moved
      dsimp only at moved
      split at moved
      · rename_i preSaveId running
        cases moved
        exact remove_inHand inHand running keeps
      · cases moved
  | beginPublish number requesterId =>
      exact begin_inHand inHand (fun first => publishCall_sound) moved
  | beginUpdate number requesterId updates =>
      exact begin_inHand inHand (fun first => updateCall_sound) moved
  | beginScheduled number asOf =>
      exact begin_inHand inHand (fun first => scheduledCall_sound) moved
  | saveRelease number =>
      unfold Campaign.step at moved
      dsimp only at moved
      split at moved
      · rename_i copy upcoming running
        cases moved
        exact saveCopy_inHand inHand running keeps
      · cases moved
  | load number =>
      unfold Campaign.step at moved
      dsimp only at moved
      split at moved
      · cases moved
        exact load_inHand inHand
      · cases moved
  | loadTracks number =>
      unfold Campaign.step at moved
      dsimp only at moved
      split at moved
      · rename_i pending running
        cases moved
        exact loadTracks_inHand inHand running
      · cases moved
  | saveNext number =>
      unfold Campaign.step at moved
      dsimp only at moved
      split at moved
      · rename_i pending save rest running
        cases moved
        exact saveOne_inHand inHand running
      · cases moved
  | mark number =>
      unfold Campaign.step at moved
      dsimp only at moved
      split at moved
      · rename_i pending running
        cases moved
        exact mark_inHand inHand running keeps
      · cases moved
  | crash number =>
      unfold Campaign.step at moved
      dsimp only at moved
      split at moved
      · cases moved
      · cases moved
      · rename_i lost up running
        cases moved
        exact crash_inHand inHand running up keeps
  | restart number =>
      unfold Campaign.step at moved
      dsimp only at moved
      split at moved
      · cases moved
        exact restart_inHand inHand
      · cases moved

/-- The rules hold in every state of a run that publishes the release only where what waits is
awaited, and that leaves alone what a fulfilment has read. -/
theorem campaignMachine_rules (toDate : String → Option Int) (releaseId : String)
    {state after : Campaign} (untouched : NewRelease releaseId state) (labels : List CampaignStep)
    (keeps : (campaignMachine toDate releaseId).Permits (KeepsAwaited releaseId) state labels)
    (executed : (campaignMachine toDate releaseId).run state labels = some after) :
    FulfilmentRules releaseId after := by
  have inHand : InHand releaseId after := by
    apply Machine.run_preserves (InHand releaseId) _ labels (newRelease_inHand untouched) keeps
      executed
    exact fun before label after inHand keeps moved => step_inHand inHand keeps moved
  exact inHand.rules

end Runs

/-! One fan waits for a release that is scheduled. -/

def scheduledRelease : Release where
  id := "r1"
  title := "First"
  artistId := "a1"
  releaseDate := 10
  type := "single"
  status := .scheduled
  scheduledAt := some 5
  publishedAt := none
  coverArt := none

def oneWaiting : Campaign where
  now := 5
  tables := ⟨[scheduledRelease], [⟨"r1", "s1", 1⟩], ["s1"], [⟨"p1", "u1", "r1", none⟩], []⟩
  calls := []
  drawn := ["p1"]
  marks := []
  cancelled := []
  wronged := []
  announced := false

theorem oneWaiting_new : NewRelease "r1" oneWaiting := by
  refine ⟨⟨rfl, rfl, rfl, rfl⟩, List.nodup_singleton _, ?_, ?_, ?_, List.nodup_nil⟩
  · intro row member
    cases List.mem_singleton.mp member
    exact List.mem_singleton_self _
  · intro row member _
    cases List.mem_singleton.mp member
    rfl
  · intro published
    rcases published with announced | ⟨release, found, arrived⟩
    · cases announced
    · cases List.mem_singleton.mp (findRow_mem found).1
      exact absurd arrived (by decide)

/-- The artist publishes the release. -/
theorem oneWaiting_published :
    ((campaignMachine (fun _ => none) "r1").run oneWaiting
      [.beginPublish 0 "a1", .saveRelease 0, .load 0, .loadTracks 0, .saveNext 0,
        .mark 0]).any (fun after => decide (after.calls = [])) = true ∧
    ∀ after, (campaignMachine (fun _ => none) "r1").run oneWaiting
      [.beginPublish 0 "a1", .saveRelease 0, .load 0, .loadTracks 0, .saveNext 0,
        .mark 0] = some after → FulfilmentRules "r1" after := by
  refine ⟨by decide +kernel, ?_⟩
  intro after executed
  apply campaignMachine_rules (fun _ => none) "r1" oneWaiting_new _ _ executed
  refine ⟨trivial, ?_, trivial, trivial, trivial, ?_, trivial⟩
  · intro copy upcoming running ends
    cases running
    cases ends
  · intro pending running row member _
    cases List.mem_singleton.mp member
    rfl

/-- The scheduler publishes the release. -/
theorem oneWaiting_forgotten :
    NewRelease "r1" oneWaiting ∧
      ∃ after, (campaignMachine (fun _ => none) "r1").run oneWaiting
        [.beginScheduled 0 5, .saveRelease 0] = some after ∧ ¬FulfilmentRules "r1" after := by
  refine ⟨oneWaiting_new, _, rfl, ?_⟩
  intro rules
  have waiting : (⟨"p1", "u1", "r1", none⟩ : ReleasePreSave) ∈ oneWaiting.tables.preSaves :=
    List.mem_singleton_self _
  exact (rules.complete (Or.inl rfl) rfl _ waiting rfl).1 rfl

end AudioBlock.Releases
