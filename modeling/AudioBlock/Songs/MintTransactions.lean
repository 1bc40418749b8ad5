/-
The transactions that mint a song.

`prepareSongMintTx` builds the invocation that the artist's wallet signs;
`submitSongMintTx` relays whatever envelope comes back and reads the return value
of the confirmed transaction.  The chain keeps each transaction once, by its hash:
to send it again gives the value that it returned the first time.  A transaction
is its source account, its sequence number and the contract call in it, if it has
one, so equal transactions have equal hashes.  The parsing of envelopes is the
wallet library's; fees, time bounds and the simulation are left out.
-/
import AudioBlock.Auth.Tokens
import AudioBlock.Foundation.Rows
import AudioBlock.Songs.MintSubmission

namespace AudioBlock.Songs

open AudioBlock.Foundation
open AudioBlock.Auth (User)

inductive ScVal
  | address (value : String)
  | string (value : String)
  | u64 (value : Nat)
  | other (text : String)
  deriving DecidableEq

structure Invocation where
  contractId : String
  method : String
  args : List ScVal
  deriving DecidableEq

/-- What `prepareInvocation` puts into the unsigned envelope. -/
structure PreparedTransaction where
  sourcePublicKey : String
  invocation : Invocation
  deriving DecidableEq

/-- A signed envelope, parsed. -/
structure SignedTransaction where
  sourcePublicKey : String
  sequence : Nat
  invocation : Option Invocation
  deriving DecidableEq

/-- What the embedded code takes from outside: the id of the catalog contract and
`TransactionBuilder.fromXDR`, which throws on anything but an envelope. -/
structure Stellar where
  catalog : String
  fromXDR : String → Option SignedTransaction

def uploadAndMintSong : String := "upload_and_mint_song"

def mintInvocation (stellar : Stellar) (publicKey metadataCid : String) (albumId : Nat) :
    Invocation :=
  { contractId := stellar.catalog
    method := uploadAndMintSong
    args := [.address publicKey, .string metadataCid, .u64 albumId] }

/-- The wallet of the artist, if it is connected. -/
def artistKey (users : List User) (song : Song) : Option String :=
  (findRow User.id song.artistId users).bind fun user => truthy user.profile.stellarPublicKey

/-- `prepareSongMintTx` once the song is loaded. -/
def prepareMint (stellar : Stellar) (users : List User) (song : Song) (albumId : Nat) :
    Except AppError PreparedTransaction :=
  match truthy song.metadataCid with
  | none => .error (.plain "Song has no metadata CID yet")
  | some metadataCid =>
      match artistKey users song with
      | none => .error (.plain "Connect a Stellar wallet before minting this song")
      | some publicKey => .ok ⟨publicKey, mintInvocation stellar publicKey metadataCid albumId⟩

def prepareSongMintTx (stellar : Stellar) (songs : List Song) (users : List User)
    (songId : String) (albumId : Nat) : Except AppError PreparedTransaction :=
  match findRow Song.id songId songs with
  | none => .error (.plain "Song not found")
  | some song => prepareMint stellar users song albumId

def SignedTransaction.Carries (transaction : SignedTransaction) (prepared : PreparedTransaction) :
    Prop :=
  transaction.sourcePublicKey = prepared.sourcePublicKey ∧
    transaction.invocation = some prepared.invocation

instance (transaction : SignedTransaction) (prepared : PreparedTransaction) :
    Decidable (transaction.Carries prepared) :=
  inferInstanceAs (Decidable (_ ∧ _))

/-- The album that a mint names. -/
def SignedTransaction.albumId (transaction : SignedTransaction) : Nat :=
  match transaction.invocation with
  | some { args := [_, _, .u64 albumId], .. } => albumId
  | _ => 0

/-! ### The chain -/

structure Landed where
  transaction : SignedTransaction
  returnValue : Option (List String)
  deriving DecidableEq

def Invocation.IsMint (stellar : Stellar) (invocation : Invocation) : Prop :=
  invocation.contractId = stellar.catalog ∧ invocation.method = uploadAndMintSong

instance (stellar : Stellar) (invocation : Invocation) : Decidable (invocation.IsMint stellar) :=
  inferInstanceAs (Decidable (_ ∧ _))

def SignedTransaction.IsMint (stellar : Stellar) (transaction : SignedTransaction) : Prop :=
  ∃ invocation ∈ transaction.invocation, invocation.IsMint stellar

instance (stellar : Stellar) (transaction : SignedTransaction) :
    Decidable (transaction.IsMint stellar) :=
  inferInstanceAs (Decidable (∃ invocation ∈ transaction.invocation, _))

def mintedId (returnValue : Option (List String)) : Option String :=
  returnValue.bind List.head?

def Landed.Admissible (stellar : Stellar) (ledger : List Landed) (landed : Landed) : Prop :=
  landed.transaction.IsMint stellar → HasPair landed.returnValue ∧
    ∀ earlier ∈ ledger, earlier.transaction.IsMint stellar →
      mintedId earlier.returnValue ≠ mintedId landed.returnValue

instance (stellar : Stellar) (ledger : List Landed) (landed : Landed) :
    Decidable (landed.Admissible stellar ledger) :=
  inferInstanceAs (Decidable (_ → _ ∧ ∀ earlier ∈ ledger, _))

def confirmed (ledger : List Landed) (transaction : SignedTransaction)
    (returnValue : Option (List String)) : Landed :=
  (findRow Landed.transaction transaction ledger).getD ⟨transaction, returnValue⟩

def landIn (ledger : List Landed) (landed : Landed) : List Landed :=
  if landed ∈ ledger then ledger else ledger ++ [landed]

end AudioBlock.Songs
