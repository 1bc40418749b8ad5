/-
The writers of a song and of its royalty splits, call by call.

A request is the call that it makes next with what it has loaded so far.  A save
writes back the whole copy that was loaded, with every column in which the copy
differs from the row.  Submissions, edits and removals make the calls of the mint
requests; templates and collaborators ask for the mint status when they load the
song, and save later.  A removed song takes its collaborators along.
-/
import AudioBlock.Songs.MintSubmission
import AudioBlock.Songs.SongRequests

namespace AudioBlock.Songs

open AudioBlock.Foundation AudioBlock.Royalty

structure SplitEdit extends SongEdit where
  keepsId : ∀ song, (apply song).id = song.id
  keepsSplits : ∀ song, (apply song).royaltySplits = song.royaltySplits

inductive SplitCall
  | mint (call : MintCall)
  /-- The success of a submission has been saved. -/
  | minted
  | findForTemplate (templateId userId : String)
  | findTemplate (song : Song) (templateId userId : String)
  | saveTemplate (song : Song) (splits : List TemplateSplit)
  | findForAdd (requesterId : String) (input : AddCollaboratorInput) (drawn : String)
  | findExisting (input : AddCollaboratorInput) (drawn : String)
  /-- `listCollaborators` reads the song first. -/
  | listForAdd (songRead : Bool) (existing : Option SongCollaborator)
      (input : AddCollaboratorInput) (drawn : String)
  | insertCollaborator (row : SongCollaborator)
  | findForUpdate (requesterId targetUserId : String) (role : Option CollaboratorRole)
      (royaltyShare : Option Float)
  | findTarget (targetUserId : String) (role : Option CollaboratorRole)
      (royaltyShare : Option Float)
  | listForUpdate (songRead : Bool) (renamed : SongCollaborator) (share : Float)
  | saveCredit (row : SongCollaborator)
  | findForDispute (requesterId : String)
  | findForResolve (requesterId targetUserId : String)
  | findDisputed (userId : String) (status : DisputeStatus)
  | saveDispute (row : SongCollaborator)

namespace SplitCall

def ended : SplitCall := .mint .ended

/-- The loaded collaborator that a later save writes back. -/
def held : SplitCall → Option SongCollaborator
  | .listForAdd _ existing _ _ => existing
  | .listForUpdate _ row _ | .saveCredit row | .saveDispute row => some row
  | _ => none

end SplitCall

inductive SplitOperation
  | submitSongMintTx
  | edit (change : SplitEdit)
  | deleteSong (requester : SongRequester) (now : Nat)
  | applyTemplate (templateId userId : String)
  | addCollaborator (requesterId : String) (input : AddCollaboratorInput) (drawn : String)
  | updateCollaborator (requesterId targetUserId : String) (role : Option CollaboratorRole)
      (royaltyShare : Option Float)
  | disputeSplit (requesterId : String)
  | resolveDispute (requesterId targetUserId : String)

def SplitOperation.first : SplitOperation → SplitCall
  | .submitSongMintTx => .mint .findSong
  | .edit change => .mint (.findForEdit change.toSongEdit)
  | .deleteSong requester now => .mint (.findForDelete requester now)
  | .applyTemplate templateId userId => .findForTemplate templateId userId
  | .addCollaborator requesterId input drawn => .findForAdd requesterId input drawn
  | .updateCollaborator requesterId targetUserId role royaltyShare =>
      .findForUpdate requesterId targetUserId role royaltyShare
  | .disputeSplit requesterId => .findForDispute requesterId
  | .resolveDispute requesterId targetUserId => .findForResolve requesterId targetUserId

structure SplitRequest where
  songId : String
  next : SplitCall

structure SplitState where
  songs : List Song
  collaborators : List SongCollaborator
  templates : List RoyaltyTemplate
  requests : List SplitRequest

inductive SplitLabel
  | begin (songId : String) (operation : SplitOperation)
  | step (index : Nat)
  | answer (index : Nat) (outcome : SubmitOutcome)
  | fails (index : Nat)

namespace SplitState

def mintState (state : SplitState) : MintState :=
  { songs := state.songs, requests := [], reported := [] }

def collaboration (state : SplitState) : CollaborationState :=
  { songs := state.songs, collaborators := state.collaborators }

def row (state : SplitState) (songId : String) : Option Song :=
  findRow Song.id songId state.songs

def place (state : SplitState) (index : Nat) (request : SplitRequest) : SplitState :=
  { state with requests := state.requests.set index request }

def saveCollaborator (state : SplitState) (row : SongCollaborator) : SplitState :=
  { state with collaborators := storeRow SongCollaborator.id row state.collaborators }

def known (state : SplitState) : List SongCollaborator :=
  state.collaborators ++ state.requests.filterMap fun request => request.next.held

def loaded (state : SplitState) (songId : String) (next : Song → SplitCall) : SplitCall :=
  ((state.row songId).map next).getD .ended

end SplitState

def afterChecks {Failure : Type} (checks : Except Failure Unit) (next : SplitCall) : SplitCall :=
  match checks with
  | .error _ => .ended
  | .ok () => next

/-- Both checks that a change of the collaborators starts with. -/
def assertOpenFor (song : Song) (requesterId : String) : Except CollaborationError Unit := do
  assertIsPrimaryArtist song requesterId
  assertNotMinted song

/-- The checks of `applyTemplate` on the song. -/
def assertTemplateFor (song : Song) (userId : String) : Except AppError Unit :=
  if song.artistId ≠ userId then
    .error (.withStatus "Not authorized to modify this song" 403)
  else assertSplitsOpen song

def SplitState.afterMint (state : SplitState) (call : MintCall) (answer : MintState × MintCall) :
    SplitState × SplitCall :=
  match call with
  | .saveMinted .. => ({ state with songs := answer.1.songs }, .minted)
  | .remove song =>
      ({ state with
          songs := answer.1.songs
          collaborators := state.collaborators.filter fun row => decide (row.songId ≠ song.id) },
        .mint answer.2)
  | _ => ({ state with songs := answer.1.songs }, .mint answer.2)

def performTemplate (state : SplitState) (song : Song) (templateId userId : String) : SplitCall :=
  match findRow RoyaltyTemplate.id templateId state.templates with
  | none => .ended
  | some template =>
      if template.userId ≠ userId then .ended else .saveTemplate song template.splits

def performExisting (state : SplitState) (songId : String) (input : AddCollaboratorInput)
    (drawn : String) : SplitCall :=
  match state.collaboration.findCollaborator songId input.userId with
  | none => .listForAdd false none input drawn
  | some existing =>
      if existing.status = .active then .ended else .listForAdd false (some existing) input drawn

def addedRow (songId : String) (existing : Option SongCollaborator)
    (input : AddCollaboratorInput) (drawn : String) : SplitCall :=
  match existing with
  | some existing =>
      .saveCredit
        { existing with role := input.role, royaltyShare := input.royaltyShare, status := .active }
  | none =>
      .insertCollaborator
        { id := drawn
          songId := songId
          userId := input.userId
          role := input.role
          royaltyShare := input.royaltyShare
          status := .active
          disputeStatus := .none }

def performTarget (state : SplitState) (songId targetUserId : String)
    (role : Option CollaboratorRole) (royaltyShare : Option Float) : SplitCall :=
  match state.collaboration.findActive songId targetUserId with
  | none => .ended
  | some collaborator =>
      let renamed := { collaborator with role := role.getD collaborator.role }
      match royaltyShare with
      | none => .saveCredit renamed
      | some share => .listForUpdate false renamed share

def sharesOf (state : SplitState) (songId : String) : List Float :=
  (state.collaboration.listCollaborators songId).map SongCollaborator.royaltyShare

def sharesBeside (state : SplitState) (songId targetUserId : String) : List Float :=
  ((state.collaboration.listCollaborators songId).filter fun row =>
    decide (row.userId ≠ targetUserId)).map SongCollaborator.royaltyShare

/-- A call that the database answers.  An id is drawn for one row only. -/
def performSplit (state : SplitState) (request : SplitRequest) :
    Option (SplitState × SplitCall) :=
  match request.next with
  | .mint call =>
      (performMint state.mintState { songId := request.songId, next := call }).map
        (state.afterMint call)
  | .minted => none
  | .findForTemplate templateId userId =>
      some (state, state.loaded request.songId fun song =>
        afterChecks (assertTemplateFor song userId) (.findTemplate song templateId userId))
  | .findTemplate song templateId userId =>
      some (state, performTemplate state song templateId userId)
  | .saveTemplate song splits =>
      some ({ state with
        songs := storeRow Song.id { song with royaltySplits := some splits } state.songs }, .ended)
  | .findForAdd requesterId input drawn =>
      some (state, state.loaded request.songId fun song =>
        afterChecks (assertOpenFor song requesterId) (.findExisting input drawn))
  | .findExisting input drawn => some (state, performExisting state request.songId input drawn)
  | .listForAdd false existing input drawn =>
      some (state, state.loaded request.songId fun _ => .listForAdd true existing input drawn)
  | .listForAdd true existing input drawn =>
      some (state, afterChecks
        (assertSharesWithin100 (sharesOf state request.songId ++ [input.royaltyShare]))
        (addedRow request.songId existing input drawn))
  | .insertCollaborator row =>
      if row.id ∈ state.known.map SongCollaborator.id then none
      else some ({ state with collaborators := state.collaborators ++ [row] }, .ended)
  | .findForUpdate requesterId targetUserId role royaltyShare =>
      some (state, state.loaded request.songId fun song =>
        afterChecks (assertOpenFor song requesterId) (.findTarget targetUserId role royaltyShare))
  | .findTarget targetUserId role royaltyShare =>
      some (state, performTarget state request.songId targetUserId role royaltyShare)
  | .listForUpdate false renamed share =>
      some (state, state.loaded request.songId fun _ => .listForUpdate true renamed share)
  | .listForUpdate true renamed share =>
      some (state, afterChecks
        (assertSharesWithin100 (sharesBeside state request.songId renamed.userId ++ [share]))
        (.saveCredit { renamed with royaltyShare := share }))
  | .saveCredit row => some (state.saveCollaborator row, .ended)
  | .findForDispute requesterId =>
      some (state, state.loaded request.songId fun _ => .findDisputed requesterId .disputed)
  | .findForResolve requesterId targetUserId =>
      some (state, state.loaded request.songId fun song =>
        afterChecks (assertIsPrimaryArtist song requesterId)
          (.findDisputed targetUserId .resolved))
  | .findDisputed userId status =>
      some (state, match state.collaboration.findActive request.songId userId with
        | none => .ended
        | some collaborator => .saveDispute { collaborator with disputeStatus := status })
  | .saveDispute row => some (state.saveCollaborator row, .ended)

def failSplit (state : SplitState) (request : SplitRequest) : Option (SplitState × SplitCall) :=
  match request.next with
  | .mint call =>
      (failMint state.mintState { songId := request.songId, next := call }).map fun answer =>
        (state, .mint answer.2)
  | .minted => none
  | _ => some (state, .ended)

def answerSplit (state : SplitState) (request : SplitRequest) (outcome : SubmitOutcome) :
    Option (SplitState × SplitCall) :=
  match request.next with
  | .mint call =>
      (answerMint state.mintState { songId := request.songId, next := call } outcome).map
        fun answer => (state, .mint answer.2)
  | _ => none

def SplitState.reply (state : SplitState) (label : SplitLabel) (request : SplitRequest) :
    Option (SplitState × SplitCall) :=
  match label with
  | .begin _ _ => none
  | .step _ => performSplit state request
  | .answer _ outcome => answerSplit state request outcome
  | .fails _ => failSplit state request

def splitStep (state : SplitState) (label : SplitLabel) : Option SplitState :=
  match label with
  | .begin songId operation =>
      some { state with
        requests := state.requests ++ [{ songId := songId, next := operation.first }] }
  | .step index | .answer index _ | .fails index =>
      state.requests[index]?.bind fun request =>
        (state.reply label request).map fun answer =>
          answer.1.place index { request with next := answer.2 }

/-- No request has come yet, and the ids of the collaborators are distinct. -/
def splitMachine : Machine SplitState SplitLabel where
  initial state :=
    state.requests = [] ∧ (state.collaborators.map SongCollaborator.id).Nodup
  step := splitStep

def SplitState.mover (state : SplitState) : SplitLabel → Option SplitRequest
  | .begin _ _ => none
  | .step index | .answer index _ | .fails index => state.requests[index]?

theorem loaded_holds (holds : SplitCall → Prop) {state : SplitState} {songId : String}
    {next : Song → SplitCall} (ended : holds .ended)
    (each : ∀ song, state.row songId = some song → holds (next song)) :
    holds (state.loaded songId next) := by
  unfold SplitState.loaded
  cases found : state.row songId with
  | none => exact ended
  | some song => exact each song found

theorem afterChecks_holds (holds : SplitCall → Prop) {Failure : Type}
    {checks : Except Failure Unit} {next : SplitCall} (ended : holds .ended)
    (passed : checks = .ok () → holds next) : holds (afterChecks checks next) := by
  cases checks with
  | error failure => exact ended
  | ok done => exact passed rfl

theorem splitStep_cases {before after : SplitState} {label : SplitLabel}
    (moved : splitStep before label = some after) :
    (∃ songId operation, label = .begin songId operation ∧
      after = { before with
        requests := before.requests ++ [{ songId := songId, next := operation.first }] }) ∨
      ∃ index request answer, before.requests[index]? = some request ∧
        before.mover label = some request ∧ before.reply label request = some answer ∧
          after = answer.1.place index { request with next := answer.2 } := by
  cases label with
  | begin songId operation =>
      cases moved
      exact Or.inl ⟨songId, operation, rfl, rfl⟩
  | step index | answer index outcome | fails index =>
      obtain ⟨request, present, moved⟩ := Option.bind_eq_some_iff.mp moved
      obtain ⟨answer, answered, rfl⟩ := Option.map_eq_some_iff.mp moved
      exact Or.inr ⟨index, request, answer, present, present, answered, rfl⟩

theorem splitStep_answered {state : SplitState} {index : Nat} {request : SplitRequest}
    {answer : SplitState × SplitCall} (present : state.requests[index]? = some request)
    (answered : performSplit state request = some answer) :
    splitStep state (.step index) =
      some (answer.1.place index { request with next := answer.2 }) := by
  change (state.requests[index]?.bind fun request => (performSplit state request).map _) = _
  rw [present, Option.bind_some, answered, Option.map_some]

end AudioBlock.Songs
