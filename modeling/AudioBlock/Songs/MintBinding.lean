/-
Which transaction a song is minted by.

`submitSongMintTx` looks at the return value of the confirmed transaction alone: not
at the contract and the method, not at the metadata, not at who signed.  The
submissions interleave with each other and with the services that load and save the
same rows.  `attributions` lists, for every confirmation of which the service takes
an on-chain song id, the transaction, the song as it was loaded and the artist's key.
-/
import AudioBlock.Songs.MintTransactions

namespace AudioBlock.Songs

open AudioBlock.Foundation
open AudioBlock.Auth (User)

structure Attribution where
  transaction : SignedTransaction
  song : Song
  publicKey : Option String
  onChainSongId : String
  deriving DecidableEq

/-- What a service other than the mint changes in the song that it has loaded. -/
structure RowEdit where
  apply : Song → Song
  keepsId : ∀ song, (apply song).id = song.id
  keepsMint : ∀ song, (apply song).mintStatus = song.mintStatus
  keepsOnChainSongId : ∀ song, (apply song).onChainSongId = song.onChainSongId

inductive BindingCall
  | findSong
  | submit (song : Song)
  | saveMinted (song : Song)
  | saveFailed (song : Song)
  | findForEdit (edit : RowEdit)
  | saveEdited (song : Song)
  | findForRemoval
  | remove (song : Song)
  | ended

structure BindingRequest where
  songId : String
  signedXdr : String
  next : BindingCall

structure BindingState where
  songs : List Song
  users : List User
  ledger : List Landed
  requests : List BindingRequest
  attributions : List Attribution

inductive BindingLabel
  | begin (songId signedXdr : String) (call : BindingCall)
  | step (index : Nat)
  | fails (index : Nat)
  /-- The chain confirms the transaction, with this value if it is new. -/
  | confirms (index : Nat) (returnValue : Option (List String))
  /-- Anything that throws: a malformed envelope, a rejection, a failure, a timeout. -/
  | rejects (index : Nat)
  /-- A transaction that reaches the chain without this service. -/
  | lands (landed : Landed)
  | upload (song : Song)
  | usersChange (users : List User)

def BindingCall.isFirst : BindingCall → Bool
  | .findSong | .findForEdit _ | .findForRemoval => true
  | _ => false

namespace BindingState

def place (state : BindingState) (index : Nat) (request : BindingRequest) (call : BindingCall) :
    BindingState :=
  { state with requests := state.requests.set index { request with next := call } }

def store (state : BindingState) (song : Song) : BindingState :=
  { state with songs := storeRow Song.id song state.songs }

def loaded (state : BindingState) (songId : String) (next : Song → BindingCall) : BindingCall :=
  ((findRow Song.id songId state.songs).map next).getD .ended

def credit (state : BindingState) (song : Song) (landed : Landed) : BindingState :=
  { state with
    ledger := landIn state.ledger landed
    attributions := state.attributions ++ (mintedId landed.returnValue).toList.map fun id =>
      ⟨landed.transaction, song, artistKey state.users song, id⟩ }

end BindingState

def afterConfirmation (song : Song) (returnValue : Option (List String)) : BindingCall :=
  match afterSuccess song returnValue with
  | .saveMinted song onChainSongId onChainTokenId =>
      .saveMinted (song.asMinted onChainSongId onChainTokenId)
  | .saveFailed song => .saveFailed song.mintFailed
  | _ => .ended

def performBinding (state : BindingState) (request : BindingRequest) :
    Option (BindingState × BindingCall) :=
  match request.next with
  | .findSong => some (state, state.loaded request.songId .submit)
  | .saveMinted song | .saveFailed song | .saveEdited song => some (state.store song, .ended)
  | .findForEdit edit =>
      some (state, state.loaded request.songId fun song => .saveEdited (edit.apply song))
  | .findForRemoval => some (state, state.loaded request.songId .remove)
  | .remove song => some ({ state with songs := removeRow Song.id song.id state.songs }, .ended)
  | .submit _ | .ended => none

/-- A save that throws after a confirmation is caught like the rest. -/
def failBinding (state : BindingState) (request : BindingRequest) :
    Option (BindingState × BindingCall) :=
  match request.next with
  | .saveMinted song => some (state, .saveFailed song.mintFailed)
  | .submit _ | .ended => none
  | _ => some (state, .ended)

def confirmBinding (stellar : Stellar) (state : BindingState) (request : BindingRequest)
    (returnValue : Option (List String)) : Option (BindingState × BindingCall) :=
  match request.next with
  | .submit song =>
      (stellar.fromXDR request.signedXdr).bind fun transaction =>
        let landed := confirmed state.ledger transaction returnValue
        if landed ∈ state.ledger ∨ landed.Admissible stellar state.ledger then
          some (state.credit song landed, afterConfirmation song landed.returnValue)
        else none
  | _ => none

def rejectBinding (state : BindingState) (request : BindingRequest) :
    Option (BindingState × BindingCall) :=
  match request.next with
  | .submit song => some (state, .saveFailed song.mintFailed)
  | _ => none

def BindingState.reply (stellar : Stellar) (state : BindingState) (label : BindingLabel)
    (request : BindingRequest) : Option (BindingState × BindingCall) :=
  match label with
  | .step _ => performBinding state request
  | .fails _ => failBinding state request
  | .confirms _ returnValue => confirmBinding stellar state request returnValue
  | .rejects _ => rejectBinding state request
  | .begin .. | .lands _ | .upload _ | .usersChange _ => none

def bindingStep (stellar : Stellar) (state : BindingState) (label : BindingLabel) :
    Option BindingState :=
  match label with
  | .begin songId signedXdr call =>
      if call.isFirst then
        some { state with requests := state.requests ++ [⟨songId, signedXdr, call⟩] }
      else none
  | .step index | .fails index | .confirms index _ | .rejects index =>
      state.requests[index]?.bind fun request =>
        (state.reply stellar label request).map fun answer => answer.1.place index request answer.2
  | .lands landed =>
      if landed.transaction ∉ state.ledger.map Landed.transaction ∧
          landed.Admissible stellar state.ledger then
        some { state with ledger := landIn state.ledger landed }
      else none
  | .upload song =>
      if song.id ∉ state.songs.map Song.id ∧ song.onChainSongId = none ∧
          song.mintStatus ≠ .minted then
        some { state with songs := state.songs ++ [song] }
      else none
  | .usersChange users => some { state with users := users }

/-- The catalog contract has returned each song id in one transaction only. -/
def MintsOnce (stellar : Stellar) (ledger : List Landed) : Prop :=
  ∀ one ∈ ledger, ∀ other ∈ ledger, one.transaction.IsMint stellar →
    other.transaction.IsMint stellar → mintedId one.returnValue = mintedId other.returnValue →
      one.transaction = other.transaction

def bindingMachine (stellar : Stellar) : Machine BindingState BindingLabel where
  initial state := state.requests = [] ∧ state.attributions = [] ∧
    MintsOnce stellar state.ledger ∧
      ∀ song ∈ state.songs, song.onChainSongId = none ∧ song.mintStatus ≠ .minted
  step := bindingStep stellar

/-! ### The condition -/

/-- The transaction carries what `prepareSongMintTx` builds for the song. -/
def MadeFor (stellar : Stellar) (users : List User) (song : Song)
    (transaction : SignedTransaction) : Prop :=
  ∃ prepared ∈ (prepareMint stellar users song transaction.albumId).toOption,
    transaction.Carries prepared

instance (stellar : Stellar) (users : List User) (song : Song) (transaction : SignedTransaction) :
    Decidable (MadeFor stellar users song transaction) :=
  inferInstanceAs (Decidable (∃ prepared ∈ Except.toOption _, _))

def BindingCall.submitted : BindingCall → Option Song
  | .submit song => some song
  | _ => none

def SubmitsOwn (stellar : Stellar) (state : BindingState) : BindingLabel → Prop
  | .confirms index returnValue =>
      ∀ request ∈ state.requests[index]?, ∀ song ∈ request.next.submitted,
        ∀ transaction ∈ stellar.fromXDR request.signedXdr,
          mintedId (confirmed state.ledger transaction returnValue).returnValue ≠ none →
            MadeFor stellar state.users song transaction ∧
              ∀ earlier ∈ state.attributions, earlier.transaction = transaction →
                earlier.song.id = song.id
  | _ => True

instance (stellar : Stellar) (state : BindingState) : (label : BindingLabel) →
    Decidable (SubmitsOwn stellar state label)
  | .confirms index _ =>
      inferInstanceAs (Decidable (∀ request ∈ state.requests[index]?, _))
  | .begin .. | .step _ | .fails _ | .rejects _ | .lands _ | .upload _ | .usersChange _ =>
      isTrue trivial

end AudioBlock.Songs
