/-
Every on-chain song id belongs to one song, as long as each submission is of the
transaction that was prepared for its song.

The proof follows the copies: a row and every loaded copy of it show no more of a mint
than what was credited to the song, and two credits of one song id are of one
transaction, because the catalog contract gives each id once.
-/
import AudioBlock.Foundation.Weighing
import AudioBlock.Songs.MintBinding

namespace AudioBlock.Songs

open AudioBlock.Foundation
open AudioBlock.Auth (User)

/-! ### What a step can do -/

def Attribution.MintsSong (stellar : Stellar) (attribution : Attribution) : Prop :=
  ∃ invocation ∈ attribution.transaction.invocation, invocation.IsMint stellar ∧
    (∃ metadataCid ∈ attribution.song.metadataCid, .string metadataCid ∈ invocation.args) ∧
      attribution.publicKey = some attribution.transaction.sourcePublicKey

theorem MadeFor.mintsSong {stellar : Stellar} {users : List User} {song : Song}
    {transaction : SignedTransaction} (made : MadeFor stellar users song transaction)
    (id : String) :
    Attribution.MintsSong stellar ⟨transaction, song, artistKey users song, id⟩ := by
  obtain ⟨prepared, built, source, carried⟩ := made
  unfold prepareMint at built
  cases cid : truthy song.metadataCid with
  | none =>
      rw [cid] at built
      cases built
  | some metadataCid =>
      rw [cid] at built
      have stored : song.metadataCid = some metadataCid := Option.eq_some_of_filter_eq_some cid
      cases key : artistKey users song with
      | none =>
          rw [key] at built
          cases built
      | some publicKey =>
          rw [key] at built
          cases built
          refine ⟨_, carried, ⟨rfl, rfl⟩, ⟨metadataCid, stored, ?_⟩, ?_⟩
          · exact List.mem_cons_of_mem _ List.mem_cons_self
          · rw [source]

def BindingCall.copy : BindingCall → Option Song
  | .submit song | .saveMinted song | .saveFailed song | .saveEdited song | .remove song =>
      some song
  | .findSong | .findForEdit _ | .findForRemoval | .ended => none

structure LikeMint (copy song : Song) : Prop where
  id : copy.id = song.id
  onChainSongId : copy.onChainSongId = song.onChainSongId
  minted : copy.mintStatus = .minted → song.mintStatus = .minted

section Replies

variable {stellar : Stellar} {state : BindingState} {request : BindingRequest}
  {answer : BindingState × BindingCall}

theorem LikeMint.refl (song : Song) : LikeMint song song := ⟨rfl, rfl, fun minted => minted⟩

theorem LikeMint.failed (song : Song) : LikeMint song.mintFailed song :=
  ⟨rfl, rfl, fun impossible => nomatch impossible⟩

theorem LikeMint.edited (edit : RowEdit) (song : Song) : LikeMint (edit.apply song) song :=
  ⟨edit.keepsId song, edit.keepsOnChainSongId song, fun minted => edit.keepsMint song ▸ minted⟩

theorem loaded_copy {songId : String} (next : Song → BindingCall)
    (like : ∀ song, ∀ copy ∈ (next song).copy, LikeMint copy song) :
    ∀ copy ∈ (state.loaded songId next).copy, ∃ song ∈ state.songs, LikeMint copy song := by
  intro copy held
  unfold BindingState.loaded at held
  cases found : findRow Song.id songId state.songs with
  | none =>
      rw [found] at held
      cases held
  | some song =>
      rw [found] at held
      exact ⟨song, (findRow_mem found).1, like song copy held⟩

def Reads (state : BindingState) (request : BindingRequest)
    (answer : BindingState × BindingCall) : Prop :=
  answer.1 = state ∧ ∀ copy ∈ answer.2.copy, ∃ song,
    (song ∈ state.songs ∨ song ∈ request.next.copy) ∧ LikeMint copy song

def Writes (state : BindingState) (request : BindingRequest)
    (answer : BindingState × BindingCall) : Prop :=
  ∃ song ∈ request.next.copy, answer = (state.store song, .ended) ∨
    answer = ({ state with songs := removeRow Song.id song.id state.songs }, .ended)

def Confirms (stellar : Stellar) (state : BindingState) (request : BindingRequest)
    (returnValue : Option (List String)) (answer : BindingState × BindingCall) : Prop :=
  ∃ song transaction, request.next = .submit song ∧
    stellar.fromXDR request.signedXdr = some transaction ∧
      let landed := confirmed state.ledger transaction returnValue
      (landed ∈ state.ledger ∨ landed.Admissible stellar state.ledger) ∧
        answer = (state.credit song landed, afterConfirmation song landed.returnValue)

theorem performBinding_cases (answered : performBinding state request = some answer) :
    Reads state request answer ∨ Writes state request answer := by
  unfold performBinding at answered
  cases next : request.next with
  | findSong =>
      rw [next] at answered
      cases answered
      refine Or.inl ⟨rfl, fun copy held => ?_⟩
      obtain ⟨song, member, like⟩ := loaded_copy .submit
        (fun song copy same => Option.some.inj same ▸ .refl song) copy held
      exact ⟨song, Or.inl member, like⟩
  | findForEdit edit =>
      rw [next] at answered
      cases answered
      refine Or.inl ⟨rfl, fun copy held => ?_⟩
      obtain ⟨song, member, like⟩ := loaded_copy (fun song => .saveEdited (edit.apply song))
        (fun song copy same => Option.some.inj same ▸ .edited edit song) copy held
      exact ⟨song, Or.inl member, like⟩
  | findForRemoval =>
      rw [next] at answered
      cases answered
      refine Or.inl ⟨rfl, fun copy held => ?_⟩
      obtain ⟨song, member, like⟩ := loaded_copy .remove
        (fun song copy same => Option.some.inj same ▸ .refl song) copy held
      exact ⟨song, Or.inl member, like⟩
  | saveMinted song | saveFailed song | saveEdited song =>
      rw [next] at answered
      cases answered
      right
      rw [Writes, next]
      exact ⟨song, rfl, Or.inl rfl⟩
  | remove song =>
      rw [next] at answered
      cases answered
      right
      rw [Writes, next]
      exact ⟨song, rfl, Or.inr rfl⟩
  | submit song | ended =>
      rw [next] at answered
      cases answered

theorem failed_reads {song : Song} (held : request.next.copy = some song) :
    Reads state request (state, .saveFailed song.mintFailed) := by
  refine ⟨rfl, fun copy same => ?_⟩
  cases same
  exact ⟨song, Or.inr held, .failed song⟩

theorem failBinding_reads (answered : failBinding state request = some answer) :
    Reads state request answer := by
  unfold failBinding at answered
  cases next : request.next with
  | saveMinted song =>
      rw [next] at answered
      cases answered
      exact failed_reads (by rw [next]; rfl)
  | submit song | ended =>
      rw [next] at answered
      cases answered
  | findSong | saveFailed song | findForEdit edit | saveEdited song | findForRemoval
  | remove song =>
      rw [next] at answered
      cases answered
      exact ⟨rfl, fun copy held => nomatch held⟩

theorem rejectBinding_reads (answered : rejectBinding state request = some answer) :
    Reads state request answer := by
  unfold rejectBinding at answered
  cases next : request.next with
  | submit song =>
      rw [next] at answered
      cases answered
      exact failed_reads (by rw [next]; rfl)
  | findSong | saveMinted song | saveFailed song | findForEdit edit | saveEdited song
  | findForRemoval | remove song | ended =>
      rw [next] at answered
      cases answered

theorem confirmBinding_confirms {returnValue : Option (List String)}
    (answered : confirmBinding stellar state request returnValue = some answer) :
    Confirms stellar state request returnValue answer := by
  unfold confirmBinding at answered
  cases next : request.next with
  | submit song =>
      rw [next] at answered
      obtain ⟨transaction, parsed, answered⟩ := Option.bind_eq_some_iff.mp answered
      obtain ⟨lands, same⟩ := Option.ite_none_right_eq_some.mp answered
      exact ⟨song, transaction, next, parsed, lands, (Option.some.inj same).symm⟩
  | findSong | saveMinted song | saveFailed song | findForEdit edit | saveEdited song
  | findForRemoval | remove song | ended =>
      rw [next] at answered
      cases answered

end Replies

/-! ### Every on-chain id is credited to one song -/

structure Credited (attributions : List Attribution) (song : Song) : Prop where
  onChainSongId : ∀ id ∈ song.onChainSongId,
    ∃ attribution ∈ attributions, attribution.song.id = song.id ∧ attribution.onChainSongId = id
  minted : song.mintStatus = .minted →
    ∃ attribution ∈ attributions, attribution.song.id = song.id

structure Attribution.Sound (stellar : Stellar) (ledger : List Landed)
    (attribution : Attribution) : Prop where
  mintsSong : attribution.MintsSong stellar
  landed : ∃ landed ∈ ledger, landed.transaction = attribution.transaction ∧
    mintedId landed.returnValue = some attribution.onChainSongId

structure BindingSound (stellar : Stellar) (state : BindingState) : Prop where
  once : MintsOnce stellar state.ledger
  sound : ∀ attribution ∈ state.attributions, attribution.Sound stellar state.ledger
  single : ∀ one ∈ state.attributions, ∀ other ∈ state.attributions,
    one.transaction = other.transaction → one.song.id = other.song.id
  rows : ∀ song ∈ state.songs, Credited state.attributions song
  copies : ∀ request ∈ state.requests, ∀ copy ∈ request.next.copy,
    Credited state.attributions copy

section Sound

variable {stellar : Stellar} {state : BindingState} {request : BindingRequest}
  {answer : BindingState × BindingCall}

variable {attributions : List Attribution} {song : Song} {ledger : List Landed} {landed : Landed}

theorem Credited.like {copy : Song} (credited : Credited attributions song)
    (like : LikeMint copy song) :
    Credited attributions copy := by
  constructor
  · intro id stored
    rw [like.id]
    exact credited.onChainSongId id (like.onChainSongId ▸ stored)
  · intro minted
    rw [like.id]
    exact credited.minted (like.minted minted)

theorem Credited.more {more : List Attribution} (credited : Credited attributions song) :
    Credited (attributions ++ more) song := by
  constructor
  · intro id stored
    obtain ⟨attribution, member, same⟩ := credited.onChainSongId id stored
    exact ⟨attribution, List.mem_append_left more member, same⟩
  · intro minted
    obtain ⟨attribution, member, same⟩ := credited.minted minted
    exact ⟨attribution, List.mem_append_left more member, same⟩

theorem mem_landIn {other : Landed} (member : other ∈ landIn ledger landed) :
    other ∈ ledger ∨ other = landed := by
  unfold landIn at member
  split at member
  · exact Or.inl member
  · rcases List.mem_append.mp member with before | new
    · exact Or.inl before
    · exact Or.inr (List.mem_singleton.mp new)

theorem landIn_mem (ledger : List Landed) (landed : Landed) : landed ∈ landIn ledger landed := by
  unfold landIn
  split
  · assumption
  · exact List.mem_append_right ledger List.mem_cons_self

theorem landIn_mem_before (landed : Landed) {other : Landed} (member : other ∈ ledger) :
    other ∈ landIn ledger landed := by
  unfold landIn
  split
  · exact member
  · exact List.mem_append_left _ member

theorem MintsOnce.land (once : MintsOnce stellar ledger)
    (lands : landed ∈ ledger ∨ landed.Admissible stellar ledger) :
    MintsOnce stellar (landIn ledger landed) := by
  rcases lands with present | fresh
  · rw [landIn, if_pos present]
    exact once
  · intro one first other second oneMints otherMints same
    rcases mem_landIn first with before | rfl
    · rcases mem_landIn second with also | rfl
      · exact once one before other also oneMints otherMints same
      · exact absurd same ((fresh otherMints).2 one before oneMints)
    · rcases mem_landIn second with also | rfl
      · exact absurd same.symm ((fresh oneMints).2 other also otherMints)
      · rfl

theorem BindingSound.place (sound : BindingSound stellar state) (index : Nat)
    {call : BindingCall} (held : ∀ copy ∈ call.copy, Credited state.attributions copy) :
    BindingSound stellar (state.place index request call) where
  once := sound.once
  sound := sound.sound
  single := sound.single
  rows := sound.rows
  copies := forall_mem_set state.requests index { request with next := call } sound.copies held

theorem BindingSound.store (sound : BindingSound stellar state)
    (credited : Credited state.attributions song) : BindingSound stellar (state.store song) where
  once := sound.once
  sound := sound.sound
  single := sound.single
  rows row member := by
    rcases mem_storeRow member with rfl | before
    · exact credited
    · exact sound.rows row before
  copies := sound.copies

theorem BindingSound.remove (sound : BindingSound stellar state) (id : String) :
    BindingSound stellar { state with songs := removeRow Song.id id state.songs } where
  once := sound.once
  sound := sound.sound
  single := sound.single
  rows row member := sound.rows row (List.mem_filter.mp member).1
  copies := sound.copies

theorem confirmed_transaction (ledger : List Landed) (transaction : SignedTransaction)
    (returnValue : Option (List String)) :
    (confirmed ledger transaction returnValue).transaction = transaction := by
  unfold confirmed
  cases found : findRow Landed.transaction transaction ledger with
  | none => rfl
  | some landed => exact (findRow_mem found).2

theorem Attribution.Sound.land {attribution : Attribution}
    (sound : attribution.Sound stellar ledger) (landed : Landed) :
    attribution.Sound stellar (landIn ledger landed) := by
  obtain ⟨present, member, same⟩ := sound.landed
  exact ⟨sound.mintsSong, present, landIn_mem_before landed member, same⟩

theorem BindingSound.credit (sound : BindingSound stellar state)
    (lands : landed ∈ state.ledger ∨ landed.Admissible stellar state.ledger)
    (own : mintedId landed.returnValue ≠ none →
      MadeFor stellar state.users song landed.transaction ∧
        ∀ earlier ∈ state.attributions, earlier.transaction = landed.transaction →
          earlier.song.id = song.id) :
    BindingSound stellar (state.credit song landed) := by
  have credited : ∀ attribution ∈ (state.credit song landed).attributions,
      attribution ∈ state.attributions ∨ mintedId landed.returnValue ≠ none ∧
        attribution = ⟨landed.transaction, song, artistKey state.users song,
          attribution.onChainSongId⟩ ∧
          mintedId landed.returnValue = some attribution.onChainSongId := by
    intro attribution member
    rcases List.mem_append.mp member with before | new
    · exact Or.inl before
    · obtain ⟨id, returned, rfl⟩ := List.mem_map.mp new
      have begins : mintedId landed.returnValue = some id := Option.mem_toList.mp returned
      have returns : mintedId landed.returnValue ≠ none := by
        rw [begins]
        exact Option.some_ne_none id
      exact Or.inr ⟨returns, rfl, begins⟩
  constructor
  · exact sound.once.land lands
  · intro attribution member
    rcases credited attribution member with before | ⟨returned, same, begins⟩
    · exact (sound.sound attribution before).land landed
    · rw [same]
      exact ⟨(own returned).1.mintsSong _, landed, landIn_mem _ _, rfl, begins⟩
  · intro one first other second same
    rcases credited one first with before | ⟨returned, isNew, _⟩
    · rcases credited other second with also | ⟨returned, isNew, _⟩
      · exact sound.single one before other also same
      · rw [isNew] at same ⊢
        exact (own returned).2 one before same
    · rcases credited other second with also | ⟨_, alsoNew, _⟩
      · rw [isNew] at same ⊢
        exact ((own returned).2 other also same.symm).symm
      · rw [isNew, alsoNew]
  · exact fun row member => (sound.rows row member).more
  · exact fun request member copy held => (sound.copies request member copy held).more

theorem afterConfirmation_credited (before : Credited state.attributions song) :
    ∀ copy ∈ (afterConfirmation song landed.returnValue).copy,
      Credited (state.credit song landed).attributions copy := by
  have unchanged : Credited (state.credit song landed).attributions song.mintFailed :=
    before.more.like (.failed song)
  have taken : ∀ id, mintedId landed.returnValue = some id →
      ∃ attribution ∈ (state.credit song landed).attributions,
        attribution.song.id = song.id ∧ attribution.onChainSongId = id := by
    intro id begins
    refine ⟨⟨landed.transaction, song, artistKey state.users song, id⟩, ?_, rfl, rfl⟩
    apply List.mem_append_right
    exact List.mem_map.mpr ⟨id, Option.mem_toList.mpr begins, rfl⟩
  intro copy held
  match returned : landed.returnValue with
  | none | some [] =>
      rw [returned] at held
      cases held
      exact unchanged
  | some [onChainSongId] =>
      rw [returned] at held taken
      cases held
      constructor
      · intro id stored
        exact taken id stored
      · exact fun impossible => nomatch impossible
  | some (onChainSongId :: onChainTokenId :: rest) =>
      rw [returned] at held taken
      cases held
      constructor
      · intro id stored
        exact taken id stored
      · intro _
        obtain ⟨attribution, member, own, _⟩ := taken onChainSongId rfl
        exact ⟨attribution, member, own⟩

theorem BindingSound.replied (sound : BindingSound stellar state)
    (member : request ∈ state.requests) (index : Nat)
    (answered : Reads state request answer ∨ Writes state request answer) :
    BindingSound stellar (answer.1.place index request answer.2) := by
  rcases answered with ⟨same, like⟩ | ⟨song, held, rfl | rfl⟩
  · rw [same]
    apply sound.place
    intro copy inAnswer
    obtain ⟨song, row | own, likeSong⟩ := like copy inAnswer
    · exact (sound.rows song row).like likeSong
    · exact (sound.copies request member song own).like likeSong
  · apply (sound.store (sound.copies request member song held)).place
    exact fun copy impossible => nomatch impossible
  · apply (sound.remove song.id).place
    exact fun copy impossible => nomatch impossible

theorem bindingStep_sound {after : BindingState} {label : BindingLabel}
    (sound : BindingSound stellar state) (permitted : SubmitsOwn stellar state label)
    (moved : bindingStep stellar state label = some after) : BindingSound stellar after := by
  cases label with
  | begin songId signedXdr call =>
      obtain ⟨first, same⟩ := Option.ite_none_right_eq_some.mp moved
      cases same
      refine ⟨sound.once, sound.sound, sound.single, sound.rows, ?_⟩
      intro request member copy held
      rcases List.mem_append.mp member with before | new
      · exact sound.copies request before copy held
      · cases List.mem_singleton.mp new
        cases call with
        | findSong | findForEdit edit | findForRemoval => cases held
        | submit song | saveMinted song | saveFailed song | saveEdited song | remove song
        | ended => cases first
  | step index =>
      obtain ⟨request, present, moved⟩ := Option.bind_eq_some_iff.mp moved
      obtain ⟨answer, answered, rfl⟩ := Option.map_eq_some_iff.mp moved
      exact sound.replied (List.mem_of_getElem? present) index (performBinding_cases answered)
  | fails index =>
      obtain ⟨request, present, moved⟩ := Option.bind_eq_some_iff.mp moved
      obtain ⟨answer, answered, rfl⟩ := Option.map_eq_some_iff.mp moved
      exact sound.replied (List.mem_of_getElem? present) index
        (Or.inl (failBinding_reads answered))
  | rejects index =>
      obtain ⟨request, present, moved⟩ := Option.bind_eq_some_iff.mp moved
      obtain ⟨answer, answered, rfl⟩ := Option.map_eq_some_iff.mp moved
      exact sound.replied (List.mem_of_getElem? present) index
        (Or.inl (rejectBinding_reads answered))
  | confirms index returnValue =>
      obtain ⟨request, present, moved⟩ := Option.bind_eq_some_iff.mp moved
      obtain ⟨answer, answered, rfl⟩ := Option.map_eq_some_iff.mp moved
      obtain ⟨song, transaction, next, parsed, lands, rfl⟩ := confirmBinding_confirms answered
      have own := permitted request present song (by rw [next]; rfl)
      have member := List.mem_of_getElem? present
      have credited : Credited state.attributions song :=
        sound.copies request member song (by rw [next]; rfl)
      apply BindingSound.place
      · apply sound.credit lands
        rw [confirmed_transaction]
        exact own transaction parsed
      · exact afterConfirmation_credited credited
  | lands landed =>
      obtain ⟨⟨_, fresh⟩, same⟩ := Option.ite_none_right_eq_some.mp moved
      cases same
      exact ⟨sound.once.land (Or.inr fresh),
        fun attribution member => (sound.sound attribution member).land landed,
        sound.single, sound.rows, sound.copies⟩
  | upload song =>
      obtain ⟨⟨_, unminted, status⟩, same⟩ := Option.ite_none_right_eq_some.mp moved
      cases same
      refine ⟨sound.once, sound.sound, sound.single, ?_, sound.copies⟩
      intro row member
      rcases List.mem_append.mp member with before | new
      · exact sound.rows row before
      · cases List.mem_singleton.mp new
        exact ⟨fun id stored => (nomatch unminted.symm.trans stored),
          fun minted => absurd minted status⟩
  | usersChange users =>
      cases moved
      exact ⟨sound.once, sound.sound, sound.single, sound.rows, sound.copies⟩

theorem bindingMachine_sound
    (reached : (bindingMachine stellar).Reachable (SubmitsOwn stellar) state) :
    BindingSound stellar state := by
  apply reached.invariant (BindingSound stellar)
  · rintro first ⟨noRequests, noAttributions, once, unminted⟩
    refine ⟨once, ?_, ?_, ?_, ?_⟩
    · rw [noAttributions]
      exact fun attribution member => nomatch member
    · rw [noAttributions]
      exact fun one member => nomatch member
    · intro song member
      obtain ⟨noId, status⟩ := unminted song member
      exact ⟨fun id stored => (nomatch noId.symm.trans stored),
        fun minted => absurd minted status⟩
    · rw [noRequests]
      exact fun request member => nomatch member
  · exact fun before label after sound permitted moved => bindingStep_sound sound permitted moved

end Sound

/-- In every run whose confirmations are of transactions prepared for the song and
submitted for no other: every song id that is taken comes from a mint of the song by its
artist, every minted song and every song id in the table was credited to that song, and
no two songs carry the same one. -/
theorem bindingMachine_binds {stellar : Stellar} {state : BindingState}
    (reached : (bindingMachine stellar).Reachable (SubmitsOwn stellar) state) :
    (∀ attribution ∈ state.attributions, attribution.MintsSong stellar) ∧
      (∀ song ∈ state.songs, Credited state.attributions song) ∧
        ∀ song ∈ state.songs, ∀ other ∈ state.songs, ∀ id ∈ song.onChainSongId,
          other.onChainSongId = some id → song.id = other.id := by
  have sound := bindingMachine_sound reached
  refine ⟨fun attribution member => (sound.sound attribution member).mintsSong, sound.rows, ?_⟩
  intro song member other otherMember id stored same
  obtain ⟨one, oneMember, ofSong, oneId⟩ := (sound.rows song member).onChainSongId id stored
  obtain ⟨two, twoMember, ofOther, twoId⟩ := (sound.rows other otherMember).onChainSongId id same
  have first := sound.sound one oneMember
  have second := sound.sound two twoMember
  obtain ⟨landed, onLedger, carried, returned⟩ := first.landed
  obtain ⟨again, alsoOnLedger, alsoCarried, alsoReturned⟩ := second.landed
  have mint : ∀ attribution : Attribution, attribution.MintsSong stellar →
      attribution.transaction.IsMint stellar := by
    rintro attribution ⟨invocation, inside, isMint, _⟩
    exact ⟨invocation, inside, isMint⟩
  have equal : landed.transaction = again.transaction := by
    apply sound.once landed onLedger again alsoOnLedger
    · exact carried ▸ mint one first.mintsSong
    · exact alsoCarried ▸ mint two second.mintsSong
    · rw [returned, alsoReturned, oneId, twoId]
  have sameSong := sound.single one oneMember two twoMember
    (carried.symm.trans (equal.trans alsoCarried))
  exact ofSong.symm.trans (sameSong.trans ofOther)

/-! Two songs of one artist, and envelopes that the artist can sign. -/

def mintingArtist : User :=
  { id := "artist"
    profile :=
      { dynamixUserId := none
        email := none
        walletAddress := none
        stellarPublicKey := some "GARTIST"
        role := .artist
        username := none
        profileImage := none
        name := none
        emailVerified := true }
    passwordHash := none
    twoFactorEnabled := false
    twoFactorSecret := none
    twoFactorRecoveryCodeHashes := none }

def pinnedSong (id metadataCid : String) : Song :=
  { Song.uploaded id "artist" "First light" with metadataCid := some metadataCid }

def mintOf (metadataCid : String) (sequence : Nat) : SignedTransaction :=
  { sourcePublicKey := "GARTIST"
    sequence := sequence
    invocation := some
      { contractId := "CATALOG"
        method := uploadAndMintSong
        args := [.address "GARTIST", .string metadataCid, .u64 0] } }

/-- A call of some other contract that returns a pair. -/
def swapTransaction : SignedTransaction :=
  { sourcePublicKey := "GSTRANGER"
    sequence := 1
    invocation := some { contractId := "EXCHANGE", method := "swap", args := [] } }

def exampleStellar : Stellar where
  catalog := "CATALOG"
  fromXDR text :=
    if text = "mint-1" then some (mintOf "cid-1" 1)
    else if text = "mint-2" then some (mintOf "cid-2" 2)
    else if text = "swap" then some swapTransaction
    else none

def unboundState : BindingState :=
  { songs := [pinnedSong "s1" "cid-1", pinnedSong "s2" "cid-2"]
    users := [mintingArtist]
    ledger := []
    requests := []
    attributions := [] }

theorem unboundState_initial : (bindingMachine exampleStellar).initial unboundState := by
  refine ⟨rfl, rfl, fun one member => (nomatch member), ?_⟩
  decide

/-- The steps of a submission, the first of a run's `index` earlier ones. -/
def submission (index : Nat) (songId signedXdr : String) (returnValue : List String) :
    List BindingLabel :=
  [.begin songId signedXdr .findSong, .step index, .confirms index (some returnValue), .step index]

/-- Each song is minted by its own transaction, the first one is sent twice. -/
def ownMints : List BindingLabel :=
  submission 0 "s1" "mint-1" ["7", "9"] ++ submission 1 "s2" "mint-2" ["8", "10"] ++
    submission 2 "s1" "mint-1" []

theorem bindingMachine_binds_own :
    ∃ state, (bindingMachine exampleStellar).run unboundState ownMints = some state ∧
      state.songs.map Song.onChainSongId = [some "7", some "8"] ∧
        ∀ song ∈ state.songs, Credited state.attributions song := by
  have executed : ∃ state, (bindingMachine exampleStellar).run unboundState ownMints = some state ∧
      state.songs.map Song.onChainSongId = [some "7", some "8"] := ⟨_, rfl, rfl⟩
  obtain ⟨state, ran, ids⟩ := executed
  have permitted :
      (bindingMachine exampleStellar).Permits (SubmitsOwn exampleStellar) unboundState ownMints := by
    decide
  exact ⟨state, ran, ids, (bindingMachine_binds
    (.of_run ownMints (.start unboundState_initial) permitted ran)).2.1⟩

/-- The mint of the first song is replayed for the second, and a song is minted by a call
of another contract that a stranger signed. -/
theorem bindingMachine_misattributes :
    (∃ state, (bindingMachine exampleStellar).run unboundState
        (submission 0 "s1" "mint-1" ["7", "9"] ++ submission 1 "s2" "mint-1" []) = some state ∧
      state.songs.map (fun song => (song.id, song.mintStatus, song.onChainSongId)) =
        [("s1", .minted, some "7"), ("s2", .minted, some "7")]) ∧
    ∃ state, (bindingMachine exampleStellar).run unboundState
        (submission 0 "s1" "swap" ["1", "2"]) = some state ∧
      state.songs.map (fun song => (song.mintStatus, song.onChainSongId)) =
        [(.minted, some "1"), (.notMinted, none)] ∧
      ¬∀ attribution ∈ state.attributions, attribution.transaction.IsMint exampleStellar :=
  ⟨⟨_, rfl, rfl⟩, _, rfl, rfl, by decide⟩

end AudioBlock.Songs
