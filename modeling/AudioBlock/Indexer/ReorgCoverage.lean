/-
Falling and rising tips under the reorg guard of one contract.

A poll sets the guard's cursor from the row, asks for the tip and fetches from the start that
the guard returns; its pages move the row.  Tips and pages are left open, and so are a guard
without a cursor and the number of a poll's pages.  The log lists the starts that the guard
returned and the rises of the cursor, the latest first.
-/
import AudioBlock.Foundation.Machine
import AudioBlock.Indexer.CursorOverlap
import AudioBlock.Indexer.PollRule

namespace AudioBlock.Indexer

open AudioBlock.Foundation

variable {ScVal Value : Type}

inductive GuardObservation
  | polled (cursor : Option Nat) (tip : Nat) (start : Option Nat)
  | moved (start reached : Nat)
  deriving DecidableEq

def GuardObservation.Covers (ledger : Nat) : GuardObservation → Prop
  | .polled _ tip (some start) => start ≤ ledger ∧ ledger ≤ tip
  | .polled _ _ none => False
  | .moved start reached => start ≤ ledger ∧ ledger ≤ reached

structure RunningPoll where
  cursor : Option Nat
  tip : Nat
  start : Option Nat
  deriving DecidableEq

/-- `fallen` is the lowest tip below the cursor since the cursor rose or a poll leapt. -/
structure GuardState where
  config : ReorgGuardConfig
  cursor : Option Nat
  running : Option RunningPoll
  fallen : Option Nat
  log : List GuardObservation
  deriving DecidableEq

inductive GuardLabel (Value : Type)
  | poll (tip : Nat)
  | page (events : List (NormalizedContractEvent Value)) (processed : Nat)

namespace GuardState

def fallenAfter (state : GuardState) (tip : Nat) : Option Nat :=
  match state.cursor with
  | none => state.fallen
  | some cursor =>
      if tip < cursor then some (min tip (state.fallen.getD tip))
      else if cursor + state.config.gapThreshold < tip then none
      else state.fallen

def poll (state : GuardState) (tip : Nat) : GuardState :=
  let start := IndexerReorgGuard.getOverlapStart
    { config := state.config, cursor := state.cursor } tip
  { state with
    running := some { cursor := state.cursor, tip, start }
    fallen := state.fallenAfter tip
    log := .polled state.cursor tip start :: state.log }

/-- The row takes the ledger, which need not be above the one that it has. -/
def moveTo (state : GuardState) (start ledger : Nat) : GuardState :=
  if state.cursor.getD 0 < ledger then
    { state with cursor := some ledger, fallen := none, log := .moved start ledger :: state.log }
  else { state with cursor := some ledger }

end GuardState

/-- `persistProgress` on a page of the latest poll. -/
def guardStep (state : GuardState) : GuardLabel Value → Option GuardState
  | .poll tip => some (state.poll tip)
  | .page events processed =>
      match state.running with
      | some { cursor, tip := _, start := some start } =>
          let prevLedger := cursor.getD 0
          let highest := (highestLedger prevLedger events).toNat
          if 0 < processed ∨ prevLedger < highest then some (state.moveTo start highest)
          else some state
      | _ => none

def guardMachine : Machine GuardState (GuardLabel Value) where
  initial state := state.running = none ∧ state.fallen = none ∧ state.log = []
  step := guardStep

inductive FellBelow : List GuardObservation → Nat → List GuardObservation → Prop
  | here {cursor tip : Nat} {start : Option Nat} {older : List GuardObservation}
      (below : tip < cursor) : FellBelow (.polled (some cursor) tip start :: older) tip []
  | before {observation : GuardObservation} {log newer : List GuardObservation} {tip : Nat}
      (fell : FellBelow log tip newer) : FellBelow (observation :: log) tip (observation :: newer)

/-- Every start is a ledger of the chain, and a cursor that rises after a fall has every
ledger above the fallen tip fetched again. -/
structure GuardCovers (log : List GuardObservation) : Prop where
  started : ∀ cursor tip start, .polled cursor tip (some start) ∈ log → 1 ≤ start ∧ start ≤ tip
  refetched : ∀ start reached earlier, .moved start reached :: earlier <:+ log →
    ∀ tip newer, FellBelow earlier tip newer → ∀ ledger, tip < ledger → ledger ≤ reached →
      ∃ observation ∈ .moved start reached :: newer, observation.Covers ledger

def KeepsCovered (state : GuardState) : GuardLabel Value → Prop
  | .poll tip =>
      match state.cursor with
      | none => 1 ≤ tip
      | some cursor => tip < cursor → 1 ≤ tip ∧ cursor ≤ tip + state.config.overlapWindow
  | .page events _ =>
      match state.running, state.fallen with
      | some { cursor := some cursor, tip, start := _ }, some _ =>
          tip < cursor ∨ ∀ event ∈ events, event.ledger ≤ cursor
      | _, _ => True

theorem fellBelow_cons {observation : GuardObservation} {log newer : List GuardObservation}
    {tip : Nat} (fell : FellBelow (observation :: log) tip newer) :
    (newer = [] ∧ ∃ cursor start, observation = .polled (some cursor) tip start ∧ tip < cursor) ∨
      ∃ rest, newer = observation :: rest ∧ FellBelow log tip rest := by
  cases fell with
  | here below => exact Or.inl ⟨rfl, _, _, rfl, below⟩
  | before fell => exact Or.inr ⟨_, rfl, fell⟩

/-! ### Every run -/

/-- A fall whose ledgers up to the cursor are not all fetched again is still noted. -/
structure GuardSound (state : GuardState) : Prop where
  covers : GuardCovers state.log
  pending : ∀ tip newer, FellBelow state.log tip newer →
    (∀ ledger, tip < ledger → ledger ≤ state.cursor.getD 0 →
        ∃ observation ∈ newer, observation.Covers ledger) ∨
      ∃ low, state.fallen = some low ∧ low ≤ tip
  running : ∀ tip newer, FellBelow state.log tip newer →
    state.cursor.isSome = true ∧
      ∃ poll cursor, state.running = some poll ∧ poll.cursor = some cursor
  read : ∀ poll cursor, state.running = some poll → poll.cursor = some cursor →
    cursor ≤ state.cursor.getD 0 ∧
      poll.start = IndexerReorgGuard.getOverlapStart
        { config := state.config, cursor := some cursor } poll.tip
  fallen : ∀ low, state.fallen = some low →
    ∃ poll cursor, state.running = some poll ∧ poll.cursor = some cursor ∧
      state.cursor = some cursor ∧ cursor ≤ low + state.config.overlapWindow

section Polls

variable {state : GuardState} {tip : Nat}

theorem poll_covers (covers : GuardCovers state.log)
    (permitted : KeepsCovered state (.poll tip : GuardLabel Value)) :
    GuardCovers (state.poll tip).log := by
  constructor
  · intro cursor observed start member
    rcases List.mem_cons.mp member with now | before
    · injection now with isCursor isTip isStart
      subst isTip
      simp only [KeepsCovered] at permitted
      cases cursorIs : state.cursor with
      | none =>
          rw [cursorIs] at permitted isStart
          obtain ⟨positive, within⟩ := IndexerReorgGuard.getOverlapStart_unset isStart.symm
          exact ⟨positive, within permitted⟩
      | some stored =>
          rw [cursorIs] at permitted isStart
          obtain ⟨positive, -, within, rolled⟩ := IndexerReorgGuard.getOverlapStart_bounds isStart.symm
          refine ⟨positive, ?_⟩
          by_cases below : observed < stored
          · obtain ⟨tipPositive, overlap⟩ := permitted below
            rw [rolled (Or.inl below)]
            omega
          · exact within (Nat.le_of_not_lt below)
    · exact covers.started cursor observed start before
  · intro start reached earlier suffix
    rcases List.suffix_cons_iff.mp suffix with same | older
    · exact nomatch same
    · exact covers.refetched start reached earlier older

theorem fallenAfter_below {cursor : Nat} (isCursor : state.cursor = some cursor)
    (below : tip < cursor) :
    state.fallenAfter tip = some (min tip (state.fallen.getD tip)) := by
  unfold GuardState.fallenAfter
  rw [isCursor]
  exact if_pos below

theorem fallenAfter_level {cursor : Nat} (isCursor : state.cursor = some cursor)
    (reached : ¬tip < cursor) :
    state.fallenAfter tip =
      if cursor + state.config.gapThreshold < tip then none else state.fallen := by
  unfold GuardState.fallenAfter
  rw [isCursor]
  exact if_neg reached

theorem poll_pending (sound : GuardSound state) {low : Nat} (noted : state.fallen = some low) :
    (∀ ledger, low < ledger → ledger ≤ state.cursor.getD 0 →
        GuardObservation.Covers ledger
          (.polled state.cursor tip (IndexerReorgGuard.getOverlapStart
            { config := state.config, cursor := state.cursor } tip))) ∨
      ∃ lowest, state.fallenAfter tip = some lowest ∧ lowest ≤ low := by
  obtain ⟨poll, cursor, -, -, isCursor, overlap⟩ := sound.fallen low noted
  by_cases below : tip < cursor
  · right
    refine ⟨_, fallenAfter_below isCursor below, ?_⟩
    rw [noted]
    exact Nat.min_le_right tip low
  · rw [fallenAfter_level isCursor below]
    by_cases leaps : cursor + state.config.gapThreshold < tip
    · left
      intro ledger above within
      rw [isCursor] at within ⊢
      rw [IndexerReorgGuard.getOverlapStart_leap leaps]
      change ledger ≤ cursor at within
      constructor <;> omega
    · right
      rw [if_neg leaps]
      exact ⟨low, noted, Nat.le_refl low⟩

section

variable (sound : GuardSound state) (permitted : KeepsCovered state (.poll tip : GuardLabel Value))
include sound permitted

theorem poll_fallen {low : Nat} (noted : state.fallenAfter tip = some low) :
    ∃ cursor, state.cursor = some cursor ∧ cursor ≤ low + state.config.overlapWindow := by
  cases isCursor : state.cursor with
  | none =>
      rw [GuardState.fallenAfter, isCursor] at noted
      obtain ⟨_, _, _, _, isSome, _⟩ := sound.fallen low noted
      rw [isCursor] at isSome
      cases isSome
  | some cursor =>
      refine ⟨cursor, rfl, ?_⟩
      simp only [KeepsCovered, isCursor] at permitted
      by_cases below : tip < cursor
      · rw [fallenAfter_below isCursor below] at noted
        injection noted with isLow
        obtain ⟨_, overlap⟩ := permitted below
        cases earlier : state.fallen with
        | none =>
            rw [earlier, Option.getD_none] at isLow
            omega
        | some before =>
            obtain ⟨_, _, _, _, sameCursor, beforeOverlap⟩ := sound.fallen before earlier
            rw [isCursor] at sameCursor
            cases sameCursor
            rw [earlier, Option.getD_some] at isLow
            omega
      · rw [fallenAfter_level isCursor below] at noted
        split at noted
        · cases noted
        · obtain ⟨_, _, _, _, sameCursor, overlap⟩ := sound.fallen low noted
          rw [isCursor] at sameCursor
          cases sameCursor
          exact overlap

theorem GuardSound.poll :
    GuardSound (state.poll tip) := by
  refine ⟨poll_covers sound.covers permitted, ?_, ?_, ?_, ?_⟩
  · intro fallenTip newer fell
    rcases fellBelow_cons fell with ⟨rfl, cursor, start, same, below⟩ | ⟨rest, rfl, earlier⟩
    · injection same with isCursor isTip isStart
      subst isTip
      right
      exact ⟨_, fallenAfter_below isCursor below, Nat.min_le_left _ _⟩
    · rcases sound.pending fallenTip rest earlier with covered | ⟨low, noted, lowest⟩
      · left
        intro ledger above within
        obtain ⟨observation, member, covers⟩ := covered ledger above within
        exact ⟨observation, List.mem_cons_of_mem _ member, covers⟩
      · rcases poll_pending sound noted with covered | ⟨lower, stillNoted, lowerBound⟩
        · left
          intro ledger above within
          exact ⟨_, List.mem_cons_self, covered ledger (by omega) within⟩
        · exact Or.inr ⟨lower, stillNoted, Nat.le_trans lowerBound lowest⟩
  · intro fallenTip newer fell
    have isSome : state.cursor.isSome = true := by
      rcases fellBelow_cons fell with ⟨_, cursor, start, same, _⟩ | ⟨rest, _, earlier⟩
      · injection same with isCursor
        rw [isCursor]
        rfl
      · exact (sound.running fallenTip rest earlier).1
    obtain ⟨cursor, isCursor⟩ := Option.isSome_iff_exists.mp isSome
    exact ⟨isSome, _, cursor, rfl, isCursor⟩
  · rintro poll cursor ⟨⟩ isCursor
    change state.cursor = some cursor at isCursor
    refine ⟨?_, ?_⟩
    · change cursor ≤ state.cursor.getD 0
      exact Nat.le_of_eq (by rw [isCursor, Option.getD_some])
    · change IndexerReorgGuard.getOverlapStart _ tip = _
      rw [isCursor]
      rfl
  · intro low noted
    obtain ⟨cursor, isCursor, overlap⟩ := poll_fallen sound permitted noted
    exact ⟨_, cursor, rfl, isCursor, isCursor, overlap⟩

end

end Polls

section Pages

variable {state : GuardState} {poll : RunningPoll} {start : Nat}
  {events : List (NormalizedContractEvent Value)} {processed : Nat}

section

variable (sound : GuardSound state)
include sound

theorem page_covers (running : state.running = some poll) (started : poll.start = some start)
    (permitted : KeepsCovered state (.page events processed))
    (rises : state.cursor.getD 0 < (highestLedger (poll.cursor.getD 0 : Nat) events).toNat)
    {tip ledger : Nat} {newer : List GuardObservation} (fell : FellBelow state.log tip newer)
    (above : tip < ledger)
    (within : ledger ≤ (highestLedger (poll.cursor.getD 0 : Nat) events).toNat) :
    ∃ observation ∈ .moved start (highestLedger (poll.cursor.getD 0 : Nat) events).toNat :: newer,
      observation.Covers ledger := by
  obtain ⟨_, latest, cursor, isLatest, isCursor⟩ := sound.running tip newer fell
  rw [running] at isLatest
  cases isLatest
  obtain ⟨bound, returned⟩ := sound.read poll cursor running isCursor
  rw [started] at returned
  obtain ⟨_, next, _, rolled⟩ := IndexerReorgGuard.getOverlapStart_bounds returned.symm
  by_cases fresh : state.cursor.getD 0 < ledger
  · exact ⟨_, List.mem_cons_self, by omega, within⟩
  · rcases sound.pending tip newer fell with covered | ⟨low, noted, lowest⟩
    · obtain ⟨observation, member, covers⟩ := covered ledger above (by omega)
      exact ⟨observation, List.mem_cons_of_mem _ member, covers⟩
    · obtain ⟨latest, read, isLatest, isRead, isStored, overlap⟩ := sound.fallen low noted
      rw [running] at isLatest
      cases isLatest
      rw [isCursor] at isRead
      cases isRead
      have below : poll.tip < cursor := by
        obtain ⟨pollCursor, pollTip, pollStart⟩ := poll
        change pollCursor = some cursor at isCursor
        subst isCursor
        simp only [KeepsCovered, running, noted] at permitted
        rcases permitted with below | noneAbove
        · exact below
        · have notAbove := (not_lt_highestLedger_iff cursor events).mpr noneAbove
          simp only [Option.getD_some] at rises
          omega
      have isStart := rolled (Or.inl below)
      exact ⟨_, List.mem_cons_self, by omega, within⟩

theorem GuardSound.rise {ledger : Nat} (rises : state.cursor.getD 0 < ledger)
    (covers : ∀ tip newer, FellBelow state.log tip newer → ∀ l, tip < l → l ≤ ledger →
      ∃ observation ∈ .moved start ledger :: newer, observation.Covers l) :
    GuardSound { state with
      cursor := some ledger, fallen := none, log := .moved start ledger :: state.log } := by
  refine ⟨⟨?_, ?_⟩, ?_, ?_, ?_, nofun⟩
  · intro cursor tip first member
    rcases List.mem_cons.mp member with now | before
    · exact nomatch now
    · exact sound.covers.started cursor tip first before
  · intro first reached earlier suffix tip newer fell l above within
    rcases List.suffix_cons_iff.mp suffix with same | older
    · cases same
      exact covers tip newer fell l above within
    · exact sound.covers.refetched first reached earlier older tip newer fell l above within
  · intro tip newer fell
    rcases fellBelow_cons fell with ⟨_, _, _, same, _⟩ | ⟨rest, rfl, earlier⟩
    · exact nomatch same
    · exact Or.inl (covers tip rest earlier)
  · intro tip newer fell
    rcases fellBelow_cons fell with ⟨_, _, _, same, _⟩ | ⟨rest, rfl, earlier⟩
    · exact nomatch same
    · exact ⟨rfl, (sound.running tip rest earlier).2⟩
  · intro latest cursor isLatest isCursor
    obtain ⟨bound, returned⟩ := sound.read latest cursor isLatest isCursor
    exact ⟨Nat.le_trans bound (Nat.le_of_lt rises), returned⟩

theorem GuardSound.level (running : state.running = some poll) {ledger : Nat}
    (floor : poll.cursor.getD 0 ≤ ledger) (level : ledger ≤ state.cursor.getD 0) :
    GuardSound { state with cursor := some ledger } := by
  refine ⟨sound.covers, ?_, ?_, ?_, ?_⟩
  · intro tip newer fell
    rcases sound.pending tip newer fell with covered | noted
    · exact Or.inl fun l above within => covered l above (Nat.le_trans within level)
    · exact Or.inr noted
  · exact fun tip newer fell => ⟨rfl, (sound.running tip newer fell).2⟩
  · intro latest cursor isLatest isCursor
    obtain ⟨_, returned⟩ := sound.read latest cursor isLatest isCursor
    rw [running] at isLatest
    cases isLatest
    rw [isCursor, Option.getD_some] at floor
    exact ⟨floor, returned⟩
  · intro low noted
    obtain ⟨latest, cursor, isLatest, isRead, isStored, overlap⟩ := sound.fallen low noted
    refine ⟨latest, cursor, isLatest, isRead, ?_, overlap⟩
    rw [running] at isLatest
    cases isLatest
    rw [isRead, Option.getD_some] at floor
    rw [isStored, Option.getD_some] at level
    exact congrArg some (Nat.le_antisymm level floor)

theorem GuardSound.page (running : state.running = some poll) (started : poll.start = some start)
    (permitted : KeepsCovered state (.page events processed)) :
    GuardSound
      (state.moveTo start (highestLedger (poll.cursor.getD 0 : Nat) events).toNat) := by
  have floor := floor_le_highestLedger (poll.cursor.getD 0 : Nat) events
  unfold GuardState.moveTo
  split
  · rename_i rises
    exact sound.rise rises fun tip newer fell ledger above within =>
      page_covers sound running started permitted rises fell above within
  · rename_i level
    exact sound.level running (by omega) (Nat.le_of_not_lt level)

end

end Pages

section Runs

variable {before after : GuardState} {label : GuardLabel Value}

theorem guardStep_sound (sound : GuardSound before) (permitted : KeepsCovered before label)
    (moved : guardStep before label = some after) : GuardSound after := by
  cases label with
  | poll tip =>
      cases moved
      exact sound.poll permitted
  | page events processed =>
      simp only [guardStep] at moved
      split at moved
      · rename_i cursor tip start running
        split at moved
        · cases moved
          exact sound.page running rfl permitted
        · cases moved
          exact sound
      · cases moved

end Runs

/-! ### The worker's polls -/

namespace IndexerWorker

variable (worker : IndexerWorker ScVal Value) (contract : IndexerContract Value)

end IndexerWorker

/-! ### A fall that a leap repairs, and one that nothing repairs -/

instance (state : GuardState) (label : GuardLabel Value) : Decidable (KeepsCovered state label) := by
  unfold KeepsCovered
  split
  · split <;> infer_instance
  · split <;> infer_instance

def storedAt (ledger : Nat) : GuardState :=
  { config := { }, cursor := some ledger, running := none, fallen := none, log := [] }

/-- The tip falls to 95 and is next seen at 106. -/
def fallAndLeap : List (GuardLabel String) :=
  [.poll 95, .poll 106, .page [ledgerEvent 98, ledgerEvent 104] 2]

/-- The tip falls to 98 and is next seen at 102. -/
def fallAndRecover : List (GuardLabel String) :=
  [.poll 98, .poll 102, .page [ledgerEvent 102] 1]

end AudioBlock.Indexer
