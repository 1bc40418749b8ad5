/-
The song operations that a caller reaches, with the checks in front of them.

A caller is the account that the request's token names, if there is one.  The song
routes run `authArtistMiddleware` first; `POST /api/batch` runs nothing.  Re-uploads
have a handler but no route, so theirs is the service call.  Requests run one after
another, and a request that throws leaves the tables.
-/
import AudioBlock.Foundation.Answers
import AudioBlock.Foundation.Machine
import AudioBlock.Royalty.CollaborationService
import AudioBlock.Songs.SongService
import AudioBlock.Songs.MintTransactions

namespace AudioBlock.Songs

open AudioBlock.Foundation AudioBlock.Royalty
open AudioBlock.Auth (User UserRole)

structure RoyaltyTemplate where
  id : String
  userId : String
  splits : List TemplateSplit
  deriving DecidableEq

structure CatalogState where
  table : SongState
  collaborators : List SongCollaborator
  templates : List RoyaltyTemplate
  users : List User

namespace CatalogState

def collaboration (state : CatalogState) : CollaborationState :=
  { songs := state.table.songs, collaborators := state.collaborators }

def saveSong (state : CatalogState) (song : Song) : CatalogState :=
  { state with table := state.table.saveSong song }

def removeSong (state : CatalogState) (songId : String) : CatalogState :=
  { state with
    table :=
      { songs := removeRow Song.id songId state.table.songs
        versions := state.table.versions.filter fun version => decide (version.songId ≠ songId) }
    collaborators := state.collaborators.filter fun row => decide (row.songId ≠ songId) }

end CatalogState

/-! ### Services -/

def deleteSong (state : CatalogState) (id : String) (requester : SongRequester) (now : Nat) :
    Except AppError CatalogState := do
  let song ← getSong state.table id
  assertCanModify song requester
  if song.mintStatus = .minted ∨ song.mintStatus = .pending then
    .ok (state.saveSong (song.hidden requester.id now))
  else .ok (state.removeSong id)

def assertSplitsOpen (song : Song) : Except AppError Unit :=
  if song.mintStatus = .pending ∨ song.mintStatus = .minted then
    .error (.conflict "Royalty splits cannot be changed after minting")
  else .ok ()

def applyTemplate (state : CatalogState) (songId templateId userId : String) :
    Except AppError CatalogState :=
  match findRow Song.id songId state.table.songs with
  | none => .error (.withStatus "Song not found" 404)
  | some song =>
      if song.artistId ≠ userId then
        .error (.withStatus "Not authorized to modify this song" 403)
      else do
        assertSplitsOpen song
        match findRow RoyaltyTemplate.id templateId state.templates with
        | none => .error (.withStatus "Template not found" 404)
        | some template =>
            if template.userId ≠ userId then
              .error (.withStatus "Not authorized to use this template" 403)
            else .ok (state.saveSong { song with royaltySplits := some template.splits })

/-- `finalizeReupload` up to its queue message.  `s3Location` is `none` where merging,
scanning or storing the upload throws. -/
def finalizeReupload (state : SongState) (songId artistId : String) (changes : VersionInput)
    (s3Location : Option String) : SongState × Except AppError SongVersion :=
  match findRow Song.id songId state.songs with
  | none => (state, .error (.notFound "Song not found" "SONG_NOT_FOUND"))
  | some song =>
      if song.artistId ≠ artistId then
        (state, .error (.authorization "Not authorized to re-upload this song" "NOT_SONG_OWNER"))
      else
        match s3Location with
        | none => (state, .error (.plain "upload failed"))
        | some location =>
            createVersionFromReupload state songId artistId
              { changes with s3OriginalUrl := some location, createdBy := some artistId }

/-- The row that a submission saves. -/
def Song.submitted (song : Song) (outcome : SubmitOutcome) : Song :=
  match outcome with
  | .threw => song.mintFailed
  | .succeeded returnValue =>
      match afterSuccess song returnValue with
      | .saveMinted song onChainSongId onChainTokenId =>
          song.asMinted onChainSongId onChainTokenId
      | .saveFailed song => song.mintFailed
      | _ => song

def submitSongMintTx (state : SongState) (songId : String) (outcome : SubmitOutcome) :
    Except AppError SongState :=
  match findRow Song.id songId state.songs with
  | none => .error (.plain "Song not found")
  | some song => .ok (state.saveSong (song.submitted outcome))

/-! ### Requests -/

/-- `requireRoles(ARTIST, ADMIN)`. -/
def authArtistMiddleware (caller : Option SongRequester) : Except AppError SongRequester :=
  match caller with
  | none => .error ⟨"Unauthorized: No token provided", some 401, some "UNAUTHORIZED"⟩
  | some requester =>
      if requester.role = some .artist ∨ requester.role = some .admin then .ok requester
      else
        .error (.authorization "Forbidden: one of these roles is required: artist, admin")

inductive SongOperation
  | updateSong (id : String) (data : UpdateSongInput)
  | deleteSong (id : String) (now : Nat)
  | finalizeReupload (songId : String) (changes : VersionInput) (s3Location : Option String)
  | rollbackVersion (songId : String) (targetVersionNumber : Option Int)
      (changeNote : Option String)
  | applyTemplate (songId templateId : String)
  | addCollaborator (songId : String) (input : AddCollaboratorInput) (drawn : String)
  | updateCollaborator (songId targetUserId : String) (role : Option CollaboratorRole)
      (royaltyShare : Option Float)
  | disputeSplit (songId : String)
  | resolveDispute (songId targetUserId : String)
  | prepareMint (songId : String) (albumId : Nat)
  | submitMint (songId : String) (outcome : SubmitOutcome)

inductive SongRequest
  | song (caller : Option SongRequester) (operation : SongOperation)
  | batch (caller : Option SongRequester) (updates : GenreBatch)

def SongRequest.caller : SongRequest → Option SongRequester
  | .song caller _ | .batch caller _ => caller

/-- The account that the operation runs for.  The handler of re-uploads reads the id of
the caller and asks for no role. -/
def authorize (caller : Option SongRequester) : SongOperation → Except AppError SongRequester
  | .finalizeReupload _ _ _ =>
      match caller with
      | none => .error (.plain "Cannot read properties of undefined (reading 'id')")
      | some requester => .ok requester
  | _ => authArtistMiddleware caller

/-- An operation of the versions, which may write before it throws. -/
def CatalogState.versioned {Value : Type} (state : CatalogState)
    (answer : SongState × Except AppError Value) : CatalogState :=
  { state with table := answer.1 }

def CatalogState.collaborated (state : CatalogState)
    (answer : Except CollaborationError CollaborationState) : CatalogState :=
  { state with collaborators := (commit state.collaboration answer).collaborators }

/-- What an authenticated caller's operation leaves. -/
def serve (stellar : Stellar) (state : CatalogState) (requester : SongRequester) :
    SongOperation → CatalogState
  | .updateSong id data =>
      { state with table := commit state.table (updateSong state.table id data requester) }
  | .deleteSong id now => commit state (deleteSong state id requester now)
  | .finalizeReupload songId changes s3Location =>
      state.versioned (finalizeReupload state.table songId requester.id changes s3Location)
  | .rollbackVersion songId targetVersionNumber changeNote =>
      state.versioned
        (rollbackVersion state.table songId targetVersionNumber requester.id changeNote)
  | .applyTemplate songId templateId =>
      commit state (applyTemplate state songId templateId requester.id)
  | .addCollaborator songId input drawn =>
      state.collaborated (addCollaborator state.collaboration songId requester.id input drawn)
  | .updateCollaborator songId targetUserId role royaltyShare =>
      state.collaborated
        (updateCollaborator state.collaboration songId requester.id targetUserId role royaltyShare)
  | .disputeSplit songId =>
      state.collaborated (disputeSplit state.collaboration songId requester.id)
  | .resolveDispute songId targetUserId =>
      state.collaborated (resolveDispute state.collaboration songId requester.id targetUserId)
  | .prepareMint songId albumId =>
      commit state ((prepareSongMintTx stellar state.table.songs state.users songId albumId).map
        fun _ => state)
  | .submitMint songId outcome =>
      { state with table := commit state.table (submitSongMintTx state.table songId outcome) }

def handle (stellar : Stellar) (state : CatalogState) : SongRequest → CatalogState
  | .song caller operation =>
      commit state ((authorize caller operation).map fun requester =>
        serve stellar state requester operation)
  | .batch _ updates => state.versioned (bulkGenreUpdate state.table updates)

def catalogMachine (stellar : Stellar) : Machine CatalogState SongRequest where
  initial _ := True
  step state request := some (handle stellar state request)

end AudioBlock.Songs
