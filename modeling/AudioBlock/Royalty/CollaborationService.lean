/-
Collaborators of a song and their royalty shares.

A share is a JavaScript number, so its sums and comparisons are those of binary64
floats.  Requests run one after another and pass the checks of their DTO first;
an update whose share or role is `null` passes them, too, and then fails on the
column or in the service, so it is left out with the other failing requests.
The rows are in the order of their `createdAt`.
-/
import AudioBlock.Foundation.Answers
import AudioBlock.Foundation.Machine
import AudioBlock.Foundation.Rows
import AudioBlock.Songs.Song

namespace AudioBlock.Royalty

open AudioBlock.Foundation AudioBlock.Songs

inductive CollaboratorRole
  | primary
  | featured
  | producer
  | writer
  | mixer
  deriving DecidableEq

inductive CollaboratorStatus
  | pending
  | active
  | removed
  deriving DecidableEq

inductive DisputeStatus
  | none
  | disputed
  | resolved
  deriving DecidableEq

structure SongCollaborator where
  id : String
  songId : String
  userId : String
  role : CollaboratorRole
  royaltyShare : Float
  status : CollaboratorStatus
  disputeStatus : DisputeStatus

/-- What a request answers with when it does not succeed. -/
inductive CollaborationError
  | app (error : AppError)
  /-- The validation error "Total royalty shares cannot exceed 100% (got …%)". -/
  | sharesExceed (total : Float)

structure AddCollaboratorInput where
  userId : String
  role : CollaboratorRole
  royaltyShare : Float

/-- `@Min(0.01)` and `@Max(100)` of both DTOs; no `NaN` passes them. -/
def ValidShare (share : Float) : Prop :=
  0.01 ≤ share ∧ share ≤ 100

instance (share : Float) : Decidable (ValidShare share) :=
  inferInstanceAs (Decidable (_ ∧ _))

structure CollaborationState where
  songs : List Song
  collaborators : List SongCollaborator

namespace CollaborationState

def getSong (state : CollaborationState) (songId : String) : Except CollaborationError Song :=
  match findRow Song.id songId state.songs with
  | none => .error (.app (.notFound "Song not found"))
  | some song => .ok song

/-- `findOneBy` of a song's collaborator. -/
def findCollaborator (state : CollaborationState) (songId userId : String) :
    Option SongCollaborator :=
  state.collaborators.find? fun row => decide (row.songId = songId ∧ row.userId = userId)

def findActive (state : CollaborationState) (songId userId : String) : Option SongCollaborator :=
  state.collaborators.find? fun row =>
    decide (row.songId = songId ∧ row.userId = userId ∧ row.status = .active)

def listCollaborators (state : CollaborationState) (songId : String) : List SongCollaborator :=
  state.collaborators.filter fun row => decide (row.songId = songId ∧ row.status = .active)

def save (state : CollaborationState) (row : SongCollaborator) : CollaborationState :=
  { state with collaborators := saveRow SongCollaborator.id row state.collaborators }

end CollaborationState

def assertIsPrimaryArtist (song : Song) (userId : String) : Except CollaborationError Unit :=
  if song.artistId ≠ userId then
    .error (.app (.authorization "Only the primary artist can manage collaborators"))
  else .ok ()

def assertNotMinted (song : Song) : Except CollaborationError Unit :=
  if song.mintStatus = .pending ∨ song.mintStatus = .minted then
    .error (.app (.conflict "Collaborators cannot be changed after the song is minted"))
  else .ok ()

def shareTotalTolerance : Float := 0.01

def assertSharesWithin100 (shares : List Float) : Except CollaborationError Unit :=
  let total := shares.foldl (fun sum share => sum + share) 0
  if 100 + shareTotalTolerance < total then .error (.sharesExceed total) else .ok ()

section Operations

variable (state : CollaborationState) (songId requesterId : String)

def addCollaborator (input : AddCollaboratorInput) (drawn : String) :
    Except CollaborationError CollaborationState := do
  let song ← state.getSong songId
  assertIsPrimaryArtist song requesterId
  assertNotMinted song
  let others := (state.listCollaborators songId).map SongCollaborator.royaltyShare
  match state.findCollaborator songId input.userId with
  | some existing =>
      if existing.status = .active then
        .error (.app (.conflict "This user is already a collaborator on this song"))
      else
        assertSharesWithin100 (others ++ [input.royaltyShare])
        .ok (state.save
          { existing with
            role := input.role
            royaltyShare := input.royaltyShare
            status := .active })
  | none =>
      assertSharesWithin100 (others ++ [input.royaltyShare])
      let created : SongCollaborator :=
        { id := drawn
          songId := songId
          userId := input.userId
          role := input.role
          royaltyShare := input.royaltyShare
          status := .active
          disputeStatus := .none }
      .ok { state with collaborators := state.collaborators ++ [created] }

def updateCollaborator (targetUserId : String) (role : Option CollaboratorRole)
    (royaltyShare : Option Float) : Except CollaborationError CollaborationState := do
  let song ← state.getSong songId
  assertIsPrimaryArtist song requesterId
  assertNotMinted song
  match state.findActive songId targetUserId with
  | none => .error (.app (.notFound "Collaborator not found on this song"))
  | some collaborator =>
      let renamed := { collaborator with role := role.getD collaborator.role }
      match royaltyShare with
      | none => .ok (state.save renamed)
      | some share =>
          let others := (state.listCollaborators songId).filter fun row =>
            decide (row.userId ≠ targetUserId)
          assertSharesWithin100 (others.map SongCollaborator.royaltyShare ++ [share])
          .ok (state.save { renamed with royaltyShare := share })

def disputeSplit : Except CollaborationError CollaborationState := do
  let _ ← state.getSong songId
  match state.findActive songId requesterId with
  | none => .error (.app (.authorization "Only active collaborators can dispute splits"))
  | some collaborator => .ok (state.save { collaborator with disputeStatus := .disputed })

def resolveDispute (targetUserId : String) : Except CollaborationError CollaborationState := do
  let song ← state.getSong songId
  assertIsPrimaryArtist song requesterId
  match state.findActive songId targetUserId with
  | none => .error (.app (.notFound "Collaborator not found"))
  | some collaborator => .ok (state.save { collaborator with disputeStatus := .resolved })

end Operations

/-! ### Requests one after another -/

inductive CollaborationLabel
  | addCollaborator (songId requesterId : String) (input : AddCollaboratorInput) (drawn : String)
  | updateCollaborator (songId targetUserId requesterId : String) (role : Option CollaboratorRole)
      (royaltyShare : Option Float)
  | disputeSplit (songId requesterId : String)
  | resolveDispute (songId targetUserId requesterId : String)
  /-- Another service saves its version of the songs, minted ones among them. -/
  | songsChange (songs : List Song)

def collaborationStep (state : CollaborationState) :
    CollaborationLabel → Option CollaborationState
  | .addCollaborator songId requesterId input drawn =>
      if ValidShare input.royaltyShare ∧
          drawn ∉ state.collaborators.map SongCollaborator.id then
        some (commit state (addCollaborator state songId requesterId input drawn))
      else none
  | .updateCollaborator songId targetUserId requesterId role royaltyShare =>
      if ∀ share ∈ royaltyShare, ValidShare share then
        some (commit state
          (updateCollaborator state songId requesterId targetUserId role royaltyShare))
      else none
  | .disputeSplit songId requesterId => some (commit state (disputeSplit state songId requesterId))
  | .resolveDispute songId targetUserId requesterId =>
      some (commit state (resolveDispute state songId requesterId targetUserId))
  | .songsChange songs => some { state with songs := songs }

def collaborationMachine : Machine CollaborationState CollaborationLabel where
  initial state := ∀ row ∈ state.collaborators, row.status ≠ .active
  step := collaborationStep

/-! ### Every share that counts was validated -/

def CollaborationState.SharesValid (state : CollaborationState) : Prop :=
  ∀ row ∈ state.collaborators, row.status = .active → ValidShare row.royaltyShare

section SharesValid

variable {state saved : CollaborationState} {songId requesterId : String}

section

variable (valid : state.SharesValid)
include valid

theorem CollaborationState.SharesValid.save {row : SongCollaborator}
    (own : row.status = .active → ValidShare row.royaltyShare) : (state.save row).SharesValid := by
  intro other member
  rcases mem_saveRow member with rfl | ⟨present, _⟩
  · exact own
  · exact valid other present

theorem CollaborationState.SharesValid.found {userId : String} {row : SongCollaborator}
    (found : state.findActive songId userId = some row) :
    ValidShare row.royaltyShare := by
  have chosen := List.find?_some found
  exact valid row (List.mem_of_find?_eq_some found) (of_decide_eq_true chosen).2.2

theorem addCollaborator_sharesValid {input : AddCollaboratorInput} {drawn : String}
    (checked : ValidShare input.royaltyShare)
    (added : addCollaborator state songId requesterId input drawn = .ok saved) :
    saved.SharesValid := by
  obtain ⟨song, _, added⟩ := ok_of_bind added
  obtain ⟨_, _, added⟩ := ok_of_bind added
  obtain ⟨_, _, added⟩ := ok_of_bind added
  dsimp only at added
  split at added
  · split at added
    · cases added
    · obtain ⟨_, _, added⟩ := ok_of_bind added
      cases added
      exact valid.save fun _ => checked
  · obtain ⟨_, _, added⟩ := ok_of_bind added
    cases added
    intro row member
    rcases List.mem_append.mp member with before | new
    · exact valid row before
    · cases List.mem_singleton.mp new
      exact fun _ => checked

theorem updateCollaborator_sharesValid {targetUserId : String} {role : Option CollaboratorRole}
    {royaltyShare : Option Float} (checked : ∀ share ∈ royaltyShare, ValidShare share)
    (updated : updateCollaborator state songId requesterId targetUserId role royaltyShare =
      .ok saved) :
    saved.SharesValid := by
  obtain ⟨song, _, updated⟩ := ok_of_bind updated
  obtain ⟨_, _, updated⟩ := ok_of_bind updated
  obtain ⟨_, _, updated⟩ := ok_of_bind updated
  dsimp only at updated
  split at updated
  · cases updated
  · rename_i collaborator found
    cases royaltyShare with
    | none =>
        cases updated
        have before := valid.found found
        exact valid.save fun _ => before
    | some share =>
        obtain ⟨_, _, updated⟩ := ok_of_bind updated
        cases updated
        exact valid.save fun _ => checked share rfl

theorem disputeSplit_sharesValid (disputed : disputeSplit state songId requesterId = .ok saved) :
    saved.SharesValid := by
  obtain ⟨song, _, disputed⟩ := ok_of_bind disputed
  split at disputed
  · cases disputed
  · rename_i collaborator found
    cases disputed
    have before := valid.found found
    exact valid.save fun _ => before

theorem resolveDispute_sharesValid {targetUserId : String}
    (resolved : resolveDispute state songId requesterId targetUserId = .ok saved) :
    saved.SharesValid := by
  obtain ⟨song, _, resolved⟩ := ok_of_bind resolved
  obtain ⟨_, _, resolved⟩ := ok_of_bind resolved
  split at resolved
  · cases resolved
  · rename_i collaborator found
    cases resolved
    have before := valid.found found
    exact valid.save fun _ => before

end

end SharesValid

theorem collaborationStep_sharesValid {before after : CollaborationState}
    {label : CollaborationLabel} (valid : before.SharesValid)
    (moved : collaborationStep before label = some after) : after.SharesValid := by
  cases label with
  | addCollaborator songId requesterId input drawn =>
      obtain ⟨⟨checked, _⟩, moved⟩ := Option.ite_none_right_eq_some.mp moved
      cases moved
      exact commit_keeps _ valid fun _ => addCollaborator_sharesValid valid checked
  | updateCollaborator songId targetUserId requesterId role royaltyShare =>
      obtain ⟨checked, moved⟩ := Option.ite_none_right_eq_some.mp moved
      cases moved
      exact commit_keeps _ valid fun _ => updateCollaborator_sharesValid valid checked
  | disputeSplit songId requesterId =>
      cases moved
      exact commit_keeps _ valid fun _ => disputeSplit_sharesValid valid
  | resolveDispute songId targetUserId requesterId =>
      cases moved
      exact commit_keeps _ valid fun _ => resolveDispute_sharesValid valid
  | songsChange songs =>
      cases moved
      exact valid

theorem reachable_sharesValid {state : CollaborationState}
    (reached : collaborationMachine.Reachable (fun _ _ => True) state) : state.SharesValid := by
  apply reached.invariant CollaborationState.SharesValid
  · intro first inactive row member active
    exact absurd active (inactive row member)
  · intro before label after valid _ moved
    exact collaborationStep_sharesValid valid moved

end AudioBlock.Royalty
