/-
What the collaborators of a song are paid of a sale.

Each share becomes hundredths of a percent by `Math.round` and an amount by a
division that rounds down.  The amounts never exceed what the hundredths ask for,
but the hundredths may total more than 10000: rounding adds up to half of one to
each share, and the service accepts shares of 100.01 percent.
-/
import AudioBlock.Auth.Tokens
import AudioBlock.Foundation.Binary64
import AudioBlock.Royalty.CollaborationService
import AudioBlock.Royalty.Reconciliation

namespace AudioBlock.Royalty

open AudioBlock.Foundation
open AudioBlock.Auth (User)

def walletOf (users : List User) (userId : String) : Option String :=
  ((findRow User.id userId users).bind fun user => user.profile.stellarPublicKey).filter
    fun key => decide (key ≠ "")

/-- `BigInt` of a number that is not an integer throws. -/
def collaboratorSplit (gross : Int) (payee : SongCollaborator × String) : Option RoyaltySplit :=
  (roundHalfUp (payee.1.royaltyShare * 100)).map fun shareBps =>
    { recipientPublicKey := payee.2
      shareBps := shareBps
      expectedAmount := toString ((gross * shareBps).tdiv 10000)
      actualAmount := none }

def payees (collaborators : List SongCollaborator) (users : List User) :
    List (SongCollaborator × String) :=
  collaborators.filterMap fun row => (walletOf users row.userId).map fun key => (row, key)

def buildSplitsFromCollaborators (state : CollaborationState) (users : List User)
    (songId : String) (gross : Int) : Option (List RoyaltySplit) :=
  let collaborators := state.listCollaborators songId
  if collaborators = [] then some []
  else (payees collaborators users).mapM (collaboratorSplit gross)

/-! ### Amounts and their texts -/

theorem readDecimal_ofDigitChars (digits : List Char) (value : Nat)
    (valid : ∀ digit ∈ digits, digit.isDigit = true) :
    digits.foldl (fun value digit => value * 10 + ((digit.toNat : Int) - 48)) (value : Int) =
      (Nat.ofDigitChars 10 digits value : Int) := by
  induction digits generalizing value with
  | nil => rfl
  | cons digit rest ih =>
      have above : 48 ≤ digit.toNat := (Char.isDigit_iff_toNat.mp (valid digit List.mem_cons_self)).1
      have shifted : (value : Int) * 10 + ((digit.toNat : Int) - 48) =
          ((10 * value + (digit.toNat - '0'.toNat) : Nat) : Int) := by
        change _ = ((10 * value + (digit.toNat - 48) : Nat) : Int)
        omega
      rw [List.foldl_cons, shifted, ih _ fun other member => valid other (List.mem_cons_of_mem _ member),
        Nat.ofDigitChars_cons]

theorem stroops_toString (amount : Nat) : stroops (toString (amount : Int)) = amount := by
  change stroops amount.repr = amount
  have digits : ∀ digit ∈ Nat.toDigits 10 amount, digit.isDigit = true :=
    fun digit member => Nat.isDigit_of_mem_toDigits (by decide) (by decide) member
  have value : readDecimal (Nat.toDigits 10 amount) = amount := by
    have read := readDecimal_ofDigitChars (Nat.toDigits 10 amount) 0 digits
    rw [Nat.ofDigitChars_ten_toDigits] at read
    exact read
  unfold stroops
  rw [Nat.toList_repr]
  split
  · rename_i rest negative
    rw [negative] at digits
    exact absurd (digits '-' List.mem_cons_self) (by decide)
  · exact value

/-! ### Rounding down keeps within the whole -/

theorem sum_div_le (whole scale : Nat) (parts : List Nat) :
    (parts.map fun part => whole * part / scale).sum ≤ whole * parts.sum / scale := by
  induction parts with
  | nil => exact Nat.zero_le _
  | cons part rest ih =>
      rw [List.map_cons, List.sum_cons, List.sum_cons, Nat.mul_add]
      exact Nat.le_trans (Nat.add_le_add_left ih _) Nat.div_add_div_le_add_div

def hundredths (share : Float) : Nat :=
  ((roundHalfUp (share * 100)).getD 0).toNat

theorem ValidShare.rounds {share : Float} (valid : ValidShare share) :
    roundHalfUp (share * 100) = some (hundredths share : Int) := by
  have cent : (0.01 : Float).toModel.unpack =
      .finite .positive 5764607523034235 (-59) (by decide) := rfl
  have hundred : (100 : Float).toModel.unpack =
      .finite .positive 7036874417766400 (-46) (by decide) := rfl
  obtain ⟨mantissa, exponent, positive, shape, short, small⟩ :=
    between_positive cent hundred valid.1 valid.2
  have signed : HasSign .positive (share * 100).toModel.unpack :=
    mul_hasSign shape hundred (by omega) (by omega)
  obtain ⟨rounded, same⟩ := roundHalfUp_nonneg signed
  unfold hundredths
  rw [same, Option.getD_some, Int.toNat_natCast]

/-! ### The amounts of a sale -/

theorem collaboratorSplit_valid (gross : Nat) {payee : SongCollaborator × String}
    (valid : ValidShare payee.1.royaltyShare) :
    (collaboratorSplit gross payee).map (fun split => stroops split.expectedAmount) =
      some ((gross * hundredths payee.1.royaltyShare / 10000 : Nat) : Int) := by
  have exactly : ((gross : Int) * (hundredths payee.1.royaltyShare : Int)).tdiv 10000 =
      ((gross * hundredths payee.1.royaltyShare / 10000 : Nat) : Int) := by
    rw [← Int.natCast_mul]
    exact Int.ofNat_tdiv _ 10000
  unfold collaboratorSplit
  rw [valid.rounds, Option.map_some, Option.map_some, exactly, stroops_toString]

theorem mapM_collaboratorSplit (gross : Nat) (owed : List (SongCollaborator × String))
    (valid : ∀ payee ∈ owed, ValidShare payee.1.royaltyShare) :
    ∃ splits, owed.mapM (collaboratorSplit gross) = some splits ∧
      totalExpected splits =
        ((owed.map fun payee => gross * hundredths payee.1.royaltyShare / 10000).sum : Nat) := by
  induction owed with
  | nil => exact ⟨[], rfl, rfl⟩
  | cons payee rest ih =>
      obtain ⟨splits, built, total⟩ := ih fun other member => valid other (List.mem_cons_of_mem _ member)
      obtain ⟨split, first, amount⟩ :=
        Option.map_eq_some_iff.mp (collaboratorSplit_valid gross (valid payee List.mem_cons_self))
      refine ⟨split :: splits, ?_, ?_⟩
      · rw [List.mapM_cons, first, built]
        rfl
      · rw [totalExpected, List.map_cons, List.sum_cons, amount]
        change _ + totalExpected splits = _
        rw [total, List.map_cons, List.sum_cons, Int.natCast_add]

def askedHundredths (state : CollaborationState) (users : List User) (songId : String) : Nat :=
  ((payees (state.listCollaborators songId) users).map fun payee =>
    hundredths payee.1.royaltyShare).sum

theorem payees_valid {state : CollaborationState} (valid : state.SharesValid) (users : List User)
    (songId : String) :
    ∀ payee ∈ payees (state.listCollaborators songId) users,
      ValidShare payee.1.royaltyShare := by
  intro payee member
  obtain ⟨row, listed, named⟩ := List.mem_filterMap.mp member
  obtain ⟨key, _, rfl⟩ := Option.map_eq_some_iff.mp named
  obtain ⟨present, chosen⟩ := List.mem_filter.mp listed
  exact valid row present (of_decide_eq_true chosen).2

theorem buildSplits_total {state : CollaborationState} (valid : state.SharesValid)
    (users : List User) (songId : String) (gross : Nat) :
    ∃ splits, buildSplitsFromCollaborators state users songId gross = some splits ∧
      totalExpected splits =
        (((payees (state.listCollaborators songId) users).map fun payee =>
          gross * hundredths payee.1.royaltyShare / 10000).sum : Nat) := by
  unfold buildSplitsFromCollaborators
  dsimp only
  split
  · rename_i nobody
    rw [nobody]
    exact ⟨[], rfl, rfl⟩
  · exact mapM_collaboratorSplit gross _ (payees_valid valid users songId)

/-- After any requests the payouts of every sale stay within it exactly where the
rounded shares of the payees total at most 100 percent. -/
theorem collaborationMachine_payouts_bounded_iff {state : CollaborationState}
    (reached : collaborationMachine.Reachable (fun _ _ => True) state) (users : List User)
    (songId : String) :
    (∀ gross : Int, 0 ≤ gross →
        ∃ splits, buildSplitsFromCollaborators state users songId gross = some splits ∧
          totalExpected splits ≤ gross) ↔
      askedHundredths state users songId ≤ 10000 := by
  have valid := reachable_sharesValid reached
  constructor
  · intro bounded
    obtain ⟨splits, built, within⟩ := bounded 10000 (by decide)
    obtain ⟨same, rebuilt, total⟩ := buildSplits_total valid users songId 10000
    cases rebuilt.symm.trans built
    have each : (fun payee : SongCollaborator × String =>
        10000 * hundredths payee.1.royaltyShare / 10000) =
        fun payee => hundredths payee.1.royaltyShare := by
      funext payee
      exact Nat.mul_div_cancel_left _ (by decide)
    rw [total, each] at within
    exact Int.ofNat_le.mp within
  · intro asked gross nonneg
    obtain ⟨amount, rfl⟩ := Int.eq_ofNat_of_zero_le nonneg
    obtain ⟨splits, built, total⟩ := buildSplits_total valid users songId amount
    refine ⟨splits, built, ?_⟩
    have parts := sum_div_le amount 10000
      ((payees (state.listCollaborators songId) users).map fun payee =>
        hundredths payee.1.royaltyShare)
    rw [List.map_map] at parts
    have whole : amount * askedHundredths state users songId / 10000 ≤ amount := by
      apply Nat.div_le_of_le_mul
      rw [Nat.mul_comm]
      exact Nat.mul_le_mul_right amount asked
    rw [total]
    exact Int.ofNat_le.mpr (Nat.le_trans parts whole)

/-! A song with collaborators who all have a wallet. -/

def unsharedSong : CollaborationState :=
  { songs := [Songs.Song.uploaded "s1" "artist" "First light"], collaborators := [] }

def shareWith (userId drawn : String) (share : Float) : CollaborationLabel :=
  .addCollaborator "s1" "artist" ⟨userId, .writer, share⟩ drawn

def userWithWallet (id key : String) : User :=
  { id := id
    profile :=
      { dynamixUserId := none
        email := none
        walletAddress := none
        stellarPublicKey := some key
        role := .artist
        username := none
        profileImage := none
        name := none
        emailVerified := true }
    passwordHash := none
    twoFactorEnabled := false
    twoFactorSecret := none
    twoFactorRecoveryCodeHashes := none }

def walletUsers : List User :=
  [userWithWallet "u1" "GA", userWithWallet "u2" "GB", userWithWallet "u3" "GC"]

def expectedAfter (requests : List CollaborationLabel) (gross : Int) : Option Int :=
  (collaborationMachine.run unsharedSong requests).bind fun state =>
    (buildSplitsFromCollaborators state walletUsers "s1" gross).map totalExpected

def askedAfter (requests : List CollaborationLabel) : Option Nat :=
  (collaborationMachine.run unsharedSong requests).map fun state =>
    askedHundredths state walletUsers "s1"

theorem unsharedSong_initial : collaborationMachine.initial unsharedSong :=
  fun _ member => (nomatch member)

theorem collaborationMachine_payouts_bounded_shared :
    ∃ state, collaborationMachine.run unsharedSong
        [shareWith "u1" "c1" 62.5, shareWith "u2" "c2" 37.5] = some state ∧
      ∀ gross : Int, 0 ≤ gross →
        ∃ splits, buildSplitsFromCollaborators state walletUsers "s1" gross = some splits ∧
          totalExpected splits ≤ gross := by
  have asked : askedAfter [shareWith "u1" "c1" 62.5, shareWith "u2" "c2" 37.5] = some 10000 := by
    decide +kernel
  obtain ⟨state, ran, total⟩ := Option.map_eq_some_iff.mp asked
  refine ⟨state, ran, ?_⟩
  exact (collaborationMachine_payouts_bounded_iff
    (.of_run _ (.start unsharedSong_initial) (Machine.permits_always _ _ _) ran)
    walletUsers "s1").mpr (Nat.le_of_eq total)

/-- Three shares of exactly 100 percent in all, and two within the tolerance. -/
theorem collaborationMachine_overpays :
    expectedAfter [shareWith "u1" "c1" 33.375, shareWith "u2" "c2" 33.375,
        shareWith "u3" "c3" 33.25] 10000 = some 10001 ∧
      expectedAfter [shareWith "u1" "c1" 50.01, shareWith "u2" "c2" 50] 10000 = some 10001 :=
  ⟨by decide +kernel, by decide +kernel⟩

end AudioBlock.Royalty
