/-
Mint submissions among the other writers of a song.

`submitSongMintTx` loads the song, awaits the chain and saves its own copy, with
`minted` after a success and with `failed` after anything that throws.  Every
other service works in the same way: it loads a copy, and its later save writes
back each column of the copy that differs from the row, the mint status with it.
`reported` lists the songs of which the chain has reported a mint and the service
has dealt with the answer.
-/
import AudioBlock.Foundation.Machine
import AudioBlock.Royalty.CollaborationService
import AudioBlock.Songs.SongService

namespace AudioBlock.Songs

open AudioBlock.Foundation

/-- What `submitSignedTransaction` ends with; a rejection, a failed status and a
timeout all throw. -/
inductive SubmitOutcome
  | succeeded (returnValue : Option (List String))
  | threw

/-- What another service changes in the song that it has loaded. -/
structure SongEdit where
  apply : Song → Song
  keepsMint : ∀ song, (apply song).mintStatus = song.mintStatus

inductive MintCall
  | findSong
  | submit (song : Song)
  | saveMinted (song : Song) (onChainSongId onChainTokenId : String)
  | saveFailed (song : Song)
  | findForEdit (edit : SongEdit)
  | saveEdited (song : Song)
  | findForDelete (requester : SongRequester) (now : Nat)
  | remove (song : Song)
  | ended

structure MintRequest where
  songId : String
  next : MintCall

structure MintState where
  songs : List Song
  requests : List MintRequest
  reported : List String

inductive MintLabel
  | begin (songId : String) (call : MintCall)
  | step (index : Nat)
  | answer (index : Nat) (outcome : SubmitOutcome)
  | fails (index : Nat)

/-- The calls that a request starts with. -/
def MintCall.isFirst : MintCall → Bool
  | .findSong | .findForEdit _ | .findForDelete _ _ => true
  | _ => false

def Song.mintFailed (song : Song) : Song := { song with mintStatus := .failed }

/-- `deleteSong` once the song is loaded. -/
def deletionOf (song : Song) (requester : SongRequester) (now : Nat) : MintCall :=
  match assertCanModify song requester with
  | .error _ => .ended
  | .ok () =>
      if song.mintStatus = .minted ∨ song.mintStatus = .pending then
        .saveEdited (song.hidden requester.id now)
      else .remove song

/-- The destructured pair of a successful mint.  A missing id throws, after the
first one has been assigned. -/
def afterSuccess (song : Song) (returnValue : Option (List String)) : MintCall :=
  match returnValue with
  | some (onChainSongId :: onChainTokenId :: _) => .saveMinted song onChainSongId onChainTokenId
  | some [onChainSongId] => .saveFailed { song with onChainSongId := some onChainSongId }
  | some [] | none => .saveFailed song

namespace MintState

def place (state : MintState) (index : Nat) (songId : String) (call : MintCall) : MintState :=
  { state with requests := state.requests.set index { songId := songId, next := call } }

def store (state : MintState) (song : Song) : MintState :=
  { state with songs := storeRow Song.id song state.songs }

def remove (state : MintState) (song : Song) : MintState :=
  { state with songs := removeRow Song.id song.id state.songs }

def report (state : MintState) (song : Song) : MintState :=
  { state with reported := song.id :: state.reported }

def loaded (state : MintState) (songId : String) (next : Song → MintCall) : MintCall :=
  ((findRow Song.id songId state.songs).map next).getD .ended

end MintState

/-- A call that the database answers. -/
def performMint (state : MintState) (request : MintRequest) : Option (MintState × MintCall) :=
  match request.next with
  | .findSong => some (state, state.loaded request.songId .submit)
  | .saveMinted song onChainSongId onChainTokenId =>
      some ((state.store (song.asMinted onChainSongId onChainTokenId)).report song, .ended)
  | .saveFailed song => some (state.store song.mintFailed, .ended)
  | .findForEdit edit =>
      some (state, state.loaded request.songId fun song => .saveEdited (edit.apply song))
  | .saveEdited song => some (state.store song, .ended)
  | .findForDelete requester now =>
      some (state, state.loaded request.songId fun song => deletionOf song requester now)
  | .remove song => some (state.remove song, .ended)
  | .submit _ | .ended => none

def failMint (state : MintState) (request : MintRequest) : Option (MintState × MintCall) :=
  match request.next with
  | .saveMinted song onChainSongId onChainTokenId =>
      some (state.report song, .saveFailed (song.asMinted onChainSongId onChainTokenId))
  | .submit _ | .ended => none
  | _ => some (state, .ended)

def answerMint (state : MintState) (request : MintRequest) (outcome : SubmitOutcome) :
    Option (MintState × MintCall) :=
  match request.next with
  | .submit song =>
      match outcome with
      | .threw => some (state, .saveFailed song)
      | .succeeded returnValue =>
          match afterSuccess song returnValue with
          | .saveMinted .. => some (state, afterSuccess song returnValue)
          | failing => some (state.report song, failing)
  | _ => none

def MintState.reply (state : MintState) (label : MintLabel) (request : MintRequest) :
    Option (MintState × MintCall) :=
  match label with
  | .begin _ _ => none
  | .step _ => performMint state request
  | .answer _ outcome => answerMint state request outcome
  | .fails _ => failMint state request

def mintStep (state : MintState) (label : MintLabel) : Option MintState :=
  match label with
  | .begin songId call =>
      if call.isFirst then
        some { state with requests := state.requests ++ [{ songId := songId, next := call }] }
      else none
  | .step index | .answer index _ | .fails index =>
      state.requests[index]?.bind fun request =>
        (state.reply label request).map fun answer => answer.1.place index request.songId answer.2

def mintMachine : Machine MintState MintLabel where
  initial state := state.requests = [] ∧ state.reported = []
  step := mintStep

/-! ### The condition -/

def Minted (songs : List Song) (songId : String) : Prop :=
  ∃ song ∈ findRow Song.id songId songs, song.mintStatus = .minted

instance (songs : List Song) (songId : String) : Decidable (Minted songs songId) :=
  inferInstanceAs (Decidable (∃ song ∈ findRow Song.id songId songs, _))

def HasPair (returnValue : Option (List String)) : Prop :=
  2 ≤ (returnValue.getD []).length

instance (returnValue : Option (List String)) : Decidable (HasPair returnValue) :=
  inferInstanceAs (Decidable (2 ≤ _))

def KeepsRequest (state : MintState) (label : MintLabel) (request : MintRequest) : Prop :=
  match label, request.next with
  | .step _, .saveFailed song => song.id ∉ state.reported
  | .step _, .saveEdited song => song.id ∈ state.reported → song.mintStatus = .minted
  | .step _, .remove song => song.id ∉ state.reported
  | .fails _, .saveMinted song _ _ => Minted state.songs song.id
  | .answer _ (.succeeded returnValue), .submit song =>
      HasPair returnValue ∨ Minted state.songs song.id
  | _, _ => True

instance (state : MintState) (label : MintLabel) (request : MintRequest) :
    Decidable (KeepsRequest state label request) := by
  unfold KeepsRequest
  split
  · infer_instance
  · infer_instance
  · infer_instance
  · infer_instance
  · infer_instance
  · infer_instance

def MintState.mover (state : MintState) : MintLabel → Option MintRequest
  | .begin _ _ => none
  | .step index | .answer index _ | .fails index => state.requests[index]?

def KeepsMinted (state : MintState) (label : MintLabel) : Prop :=
  ∀ request ∈ state.mover label, KeepsRequest state label request

instance (state : MintState) (label : MintLabel) : Decidable (KeepsMinted state label) :=
  inferInstanceAs (Decidable (∀ request ∈ state.mover label, _))

/-! ### What is reported stays minted -/

def ReportedMinted (state : MintState) : Prop :=
  ∀ songId ∈ state.reported, Minted state.songs songId

section Writes

variable {state : MintState} {song : Song}

theorem minted_store (songs : List Song) (minted : song.mintStatus = .minted) :
    Minted (storeRow Song.id song songs) song.id :=
  ⟨song, findRow_storeRow song songs, minted⟩

theorem ReportedMinted.store (kept : ReportedMinted state)
    (own : song.id ∈ state.reported → song.mintStatus = .minted) :
    ReportedMinted (state.store song) := by
  intro songId member
  by_cases same : songId = song.id
  · subst same
    exact minted_store state.songs (own member)
  · obtain ⟨row, found, minted⟩ := kept songId member
    exact ⟨row, (findRow_storeRow_other state.songs same).trans found, minted⟩

theorem ReportedMinted.remove (kept : ReportedMinted state) (unreported : song.id ∉ state.reported) :
    ReportedMinted (state.remove song) := by
  intro songId member
  have different : songId ≠ song.id := by
    rintro rfl
    exact unreported member
  obtain ⟨row, found, minted⟩ := kept songId member
  exact ⟨row, (findRow_removeRow_other state.songs different).trans found, minted⟩

theorem ReportedMinted.report (kept : ReportedMinted state)
    (minted : Minted state.songs song.id) : ReportedMinted (state.report song) := by
  intro songId member
  rcases List.mem_cons.mp member with rfl | earlier
  · exact minted
  · exact kept songId earlier

variable {request : MintRequest} {answer : MintState × MintCall} {index : Nat}

theorem performMint_keeps (kept : ReportedMinted state)
    (permitted : KeepsRequest state (.step index) request)
    (answered : performMint state request = some answer) : ReportedMinted answer.1 := by
  unfold performMint at answered
  unfold KeepsRequest at permitted
  cases next : request.next with
  | findSong | findForEdit edit | findForDelete requester now =>
      rw [next] at answered
      cases answered
      exact kept
  | saveMinted song onChainSongId onChainTokenId =>
      rw [next] at answered
      cases answered
      apply (kept.store fun _ => rfl).report
      have written : (song.asMinted onChainSongId onChainTokenId).mintStatus = .minted := rfl
      exact minted_store state.songs written
  | saveFailed song =>
      rw [next] at answered permitted
      cases answered
      exact kept.store fun member => absurd member permitted
  | saveEdited song =>
      rw [next] at answered permitted
      cases answered
      exact kept.store permitted
  | remove song =>
      rw [next] at answered permitted
      cases answered
      exact kept.remove permitted
  | submit song | ended =>
      rw [next] at answered
      cases answered

theorem failMint_keeps (kept : ReportedMinted state)
    (permitted : KeepsRequest state (.fails index) request)
    (answered : failMint state request = some answer) : ReportedMinted answer.1 := by
  unfold failMint at answered
  unfold KeepsRequest at permitted
  cases next : request.next with
  | saveMinted song onChainSongId onChainTokenId =>
      rw [next] at answered permitted
      cases answered
      exact kept.report permitted
  | submit song | ended =>
      rw [next] at answered
      cases answered
  | findSong | saveFailed song | findForEdit edit | saveEdited song
  | findForDelete requester now | remove song =>
      rw [next] at answered
      cases answered
      exact kept

theorem afterSuccess_hasPair {returnValue : Option (List String)} (pair : HasPair returnValue)
    (song : Song) : ∃ onChainSongId onChainTokenId,
      afterSuccess song returnValue = .saveMinted song onChainSongId onChainTokenId := by
  match returnValue with
  | some (onChainSongId :: onChainTokenId :: _) => exact ⟨onChainSongId, onChainTokenId, rfl⟩
  | some [_] => exact absurd pair (by simp [HasPair])
  | some [] => exact absurd pair (by simp [HasPair])
  | none => exact absurd pair (by simp [HasPair])

theorem answerMint_keeps (kept : ReportedMinted state) {outcome : SubmitOutcome}
    (permitted : KeepsRequest state (.answer index outcome) request)
    (answered : answerMint state request outcome = some answer) : ReportedMinted answer.1 := by
  unfold answerMint at answered
  unfold KeepsRequest at permitted
  cases next : request.next with
  | submit song =>
      rw [next] at answered permitted
      cases outcome with
      | threw =>
          cases answered
          exact kept
      | succeeded returnValue =>
          dsimp only at answered permitted
          split at answered
          · cases answered
            exact kept
          · rename_i failing other
            cases answered
            rcases permitted with pair | minted
            · obtain ⟨onChainSongId, onChainTokenId, same⟩ := afterSuccess_hasPair pair song
              exact absurd same (other song onChainSongId onChainTokenId)
            · exact kept.report minted
  | findSong | saveMinted _ _ _ | saveFailed _ | findForEdit _ | saveEdited _
  | findForDelete _ _ | remove _ | ended =>
      rw [next] at answered
      cases answered

theorem reply_keeps (kept : ReportedMinted state) {label : MintLabel}
    (permitted : KeepsRequest state label request)
    (answered : state.reply label request = some answer) : ReportedMinted answer.1 := by
  cases label with
  | begin songId call => cases answered
  | step index => exact performMint_keeps kept permitted answered
  | answer index outcome => exact answerMint_keeps kept permitted answered
  | fails index => exact failMint_keeps kept permitted answered

theorem reply_reported {label : MintLabel} (answered : state.reply label request = some answer) :
    ∃ more, answer.1.reported = more ++ state.reported := by
  unfold MintState.reply performMint answerMint failMint at answered
  split at answered
  · cases answered
  · split at answered
    all_goals cases answered
    · exact ⟨[], rfl⟩
    · exact ⟨[_], rfl⟩
    · exact ⟨[], rfl⟩
    · exact ⟨[], rfl⟩
    · exact ⟨[], rfl⟩
    · exact ⟨[], rfl⟩
    · exact ⟨[], rfl⟩
  · split at answered
    · split at answered
      · cases answered
        exact ⟨[], rfl⟩
      · split at answered
        · cases answered
          exact ⟨[], rfl⟩
        · cases answered
          exact ⟨[_], rfl⟩
    · cases answered
  · split at answered
    all_goals cases answered
    · exact ⟨[_], rfl⟩
    · exact ⟨[], rfl⟩

end Writes

variable {before after : MintState} {label : MintLabel}

theorem mintStep_cases (moved : mintStep before label = some after) :
    (∃ request, after = { before with requests := before.requests ++ [request] }) ∨
      ∃ index request answer, before.mover label = some request ∧
        before.reply label request = some answer ∧
          after = answer.1.place index request.songId answer.2 := by
  cases label with
  | begin songId call =>
      obtain ⟨_, same⟩ := Option.ite_none_right_eq_some.mp moved
      cases same
      exact Or.inl ⟨_, rfl⟩
  | step index | answer index outcome | fails index =>
      obtain ⟨request, present, moved⟩ := Option.bind_eq_some_iff.mp moved
      obtain ⟨answer, answered, rfl⟩ := Option.map_eq_some_iff.mp moved
      exact Or.inr ⟨index, request, answer, present, answered, rfl⟩

theorem mintStep_keeps (kept : ReportedMinted before) (permitted : KeepsMinted before label)
    (moved : mintStep before label = some after) : ReportedMinted after := by
  rcases mintStep_cases moved with ⟨request, rfl⟩ | ⟨index, request, answer, present, answered, rfl⟩
  · exact kept
  · exact reply_keeps kept (permitted request present) answered

theorem mintStep_reported {songId : String} (reported : songId ∈ before.reported)
    (moved : mintStep before label = some after) :
    songId ∈ after.reported := by
  rcases mintStep_cases moved with ⟨request, rfl⟩ | ⟨index, request, answer, _, answered, rfl⟩
  · exact reported
  · obtain ⟨more, same⟩ := reply_reported answered
    change songId ∈ answer.1.reported
    rw [same]
    exact List.mem_append_right more reported

theorem mintMachine_reportedMinted {state : MintState}
    (reached : mintMachine.Reachable KeepsMinted state) : ReportedMinted state := by
  apply reached.invariant ReportedMinted
  · rintro first ⟨_, none⟩ songId member
    rw [none] at member
    cases member
  · exact fun before label after kept permitted moved => mintStep_keeps kept permitted moved

theorem deletionOf_minted {song : Song} (minted : song.mintStatus = .minted)
    (requester : SongRequester) (now : Nat) (other : Song) :
    deletionOf song requester now ≠ .remove other := by
  unfold deletionOf
  split
  · exact fun impossible => (nomatch impossible)
  · rw [if_pos (Or.inl minted)]
    exact fun impossible => (nomatch impossible)

/-- In every run whose steps meet the condition, a song whose mint has been reported
stays minted, is never removed, and refuses new collaborators. -/
theorem mintMachine_stays_minted {before after : MintState} {songId : String}
    (reached : mintMachine.Reachable KeepsMinted before) (reported : songId ∈ before.reported)
    (labels : List MintLabel) (permitted : mintMachine.Permits KeepsMinted before labels)
    (ran : mintMachine.run before labels = some after) :
    ∃ song, findRow Song.id songId after.songs = some song ∧ song.mintStatus = .minted ∧
      (∀ requester now other, deletionOf song requester now ≠ .remove other) ∧
        Royalty.assertNotMinted song =
          .error (.app (.conflict "Collaborators cannot be changed after the song is minted")) := by
  have still : songId ∈ after.reported := by
    apply Machine.run_preserves (fun state => songId ∈ state.reported) _ labels reported permitted ran
    exact fun before label after member _ moved => mintStep_reported member moved
  obtain ⟨song, found, minted⟩ :=
    mintMachine_reportedMinted (.of_run labels reached permitted ran) songId still
  exact ⟨song, found, minted, deletionOf_minted minted, if_pos (Or.inr minted)⟩

/-! A song that its artist mints while others write it. -/

def unmintedState : MintState :=
  { songs := [Song.uploaded "s1" "artist" "First light"], requests := [], reported := [] }

def markReady : SongEdit := ⟨fun song => { song with status := .ready }, fun _ => rfl⟩

def mintedPair : SubmitOutcome := .succeeded (some ["7", "9"])

/-- One submission that succeeds. -/
def mintsOnce : List MintLabel :=
  [.begin "s1" .findSong, .step 0, .answer 0 mintedPair, .step 0]

/-- A second submission succeeds, another service writes, and the owner hides the song. -/
def quietWrites : List MintLabel :=
  [.begin "s1" .findSong, .step 1, .begin "s1" (.findForEdit markReady), .step 2,
    .answer 1 mintedPair, .step 2, .step 1,
    .begin "s1" (.findForDelete ⟨"artist", none⟩ 40), .step 3, .step 3]

theorem mintMachine_stays_minted_quiet :
    ∃ before after song, mintMachine.run unmintedState mintsOnce = some before ∧
      mintMachine.run before quietWrites = some after ∧
        findRow Song.id "s1" after.songs = some song ∧ song.mintStatus = .minted := by
  have executed : ∃ before after, mintMachine.run unmintedState mintsOnce = some before ∧
      mintMachine.run before quietWrites = some after ∧
        mintMachine.Permits KeepsMinted before quietWrites ∧ "s1" ∈ before.reported :=
    ⟨_, _, rfl, rfl, by decide, by decide⟩
  obtain ⟨before, after, minted, ran, permitted, reported⟩ := executed
  obtain ⟨song, found, status, _⟩ := mintMachine_stays_minted
    (.of_run mintsOnce (.start ⟨rfl, rfl⟩) (by decide) minted) reported quietWrites permitted ran
  exact ⟨before, after, song, minted, ran, found, status⟩

def statusAfter (start : List MintLabel) (labels : List MintLabel) : Option (Option MintStatus) :=
  (mintMachine.run unmintedState (start ++ labels)).map fun state =>
    (findRow Song.id "s1" state.songs).map Song.mintStatus

/-- A second submission that is rejected, a copy from before the mint, a removal that
was decided before it, and a mint whose save fails. -/
theorem mintMachine_loses_minted :
    statusAfter mintsOnce [] = some (some .minted) ∧
      statusAfter mintsOnce [.begin "s1" .findSong, .step 1, .answer 1 .threw, .step 1] =
        some (some .failed) ∧
      statusAfter [.begin "s1" .findSong, .step 0, .begin "s1" (.findForEdit markReady), .step 1,
        .answer 0 mintedPair, .step 0] [.step 1] = some (some .notMinted) ∧
      statusAfter [.begin "s1" .findSong, .step 0,
        .begin "s1" (.findForDelete ⟨"artist", none⟩ 40), .step 1, .answer 0 mintedPair, .step 0]
        [.step 1] = some none ∧
      statusAfter [.begin "s1" .findSong, .step 0, .answer 0 mintedPair] [.fails 0, .step 0] =
        some (some .failed) :=
  ⟨rfl, rfl, rfl, rfl, rfl⟩

end AudioBlock.Songs
