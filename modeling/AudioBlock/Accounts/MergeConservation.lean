/-
Which merges keep the points, and which identities they can move.

A merge adds the points of the secondary account to the primary one and leaves them where
they were; it copies an identity and leaves it as well, which a unique column refuses.  So
the law holds in a step exactly if there is nothing to move.
-/
import AudioBlock.Accounts.AccountMergeService

namespace AudioBlock.Accounts

open AudioBlock.Foundation AudioBlock.Auth

/-! ### The law -/

/-- What an account is found by, of the columns that a merge moves. -/
inductive Identity
  | privyUserId
  | walletAddress
  | email
  | stellarPublicKey
  deriving DecidableEq

namespace Identity

def takeover : Identity → Takeover
  | .privyUserId => Takeover.privyUserId
  | .walletAddress => Takeover.walletAddress
  | .email => Takeover.email
  | .stellarPublicKey => Takeover.stellarPublicKey

def value (account : Account) : Identity → Option String
  | .privyUserId => account.privyUserId
  | .walletAddress => account.profile.walletAddress
  | .email => account.profile.email
  | .stellarPublicKey => account.profile.stellarPublicKey

def all : List Identity := [.privyUserId, .walletAddress, .email, .stellarPublicKey]

theorem mem_all (identity : Identity) : identity ∈ all := by
  cases identity <;> decide

def Moves (primary secondary : Account) (identity : Identity) : Prop :=
  identity.takeover.wanted primary secondary = true

instance (primary secondary : Account) (identity : Identity) :
    Decidable (identity.Moves primary secondary) :=
  inferInstanceAs (Decidable (_ = true))

end Identity

structure MergeLawful (state : MergeState) (label : MergeLabel) : Prop where
  conserved : totalPoints (mergeStep state label).accounts = totalPoints state.accounts
  once : ∀ result, (mergeOutcome state label).2 = .ok result →
    result.mergedUserId ∉ state.mergedAway
  moved : ∀ primary secondary identity,
    mergeCandidates state.accounts label.primaryUserId label.secondaryUserId =
      .ok (primary, secondary) → Identity.Moves primary secondary identity →
    (∃ result, (mergeOutcome state label).2 = .ok result) ∧
      ∀ account ∈ (mergeStep state label).accounts,
        identity.value account = identity.value secondary → account.key = label.primaryUserId

def NothingToMove (state : MergeState) (label : MergeLabel) : Prop :=
  match mergeCandidates state.accounts label.primaryUserId label.secondaryUserId with
  | .error _ => True
  | .ok (primary, secondary) =>
      (∀ identity ∈ Identity.all, ¬Identity.Moves primary secondary identity) ∧
        exactValue (primary.rewardPoints + secondary.rewardPoints) =
          exactValue primary.rewardPoints ∧
        label.secondaryUserId ∉ state.mergedAway

/-! ### Totals -/

section Totals

variable {accounts : List Account} {row saved : Account} {total : ℚ}

theorem totalPoints_cons {account : Account} :
    totalPoints (account :: accounts) = some total ↔
      ∃ own rest, exactValue account.rewardPoints = some own ∧ totalPoints accounts = some rest ∧
        own + rest = total := by
  simp only [totalPoints]
  cases exactValue account.rewardPoints with
  | none => simp
  | some own => simp

theorem totalPoints_mem (counted : totalPoints accounts = some total) (member : row ∈ accounts) :
    ∃ own, exactValue row.rewardPoints = some own := by
  induction accounts generalizing total with
  | nil => exact absurd member List.not_mem_nil
  | cons first rest ih =>
      obtain ⟨own, later, first, counted, _⟩ := totalPoints_cons.mp counted
      cases List.mem_cons.mp member with
      | inl same => exact ⟨own, same ▸ first⟩
      | inr earlier => exact ih counted earlier

theorem totalPoints_saveRow {own : ℚ} (keys : (accounts.map Account.key).Nodup)
    (counted : totalPoints accounts = some total) (member : row ∈ accounts)
    (named : saved.key = row.key) (had : exactValue row.rewardPoints = some own) :
    totalPoints (saveRow Account.key saved accounts) =
      (exactValue saved.rewardPoints).map fun new => total - own + new := by
  induction accounts generalizing total with
  | nil => exact absurd member List.not_mem_nil
  | cons first rest ih =>
      obtain ⟨head, later, firstOwn, restTotal, rfl⟩ := totalPoints_cons.mp counted
      obtain ⟨fresh, restKeys⟩ := List.nodup_cons.mp keys
      change totalPoints ((if first.key = saved.key then saved else first) ::
        saveRow Account.key saved rest) = _
      by_cases same : row = first
      · subst same
        rw [if_pos named.symm, saveRow_absent (named ▸ fresh)]
        cases firstOwn.symm.trans had
        simp only [totalPoints, restTotal]
        cases exactValue saved.rewardPoints with
        | none => rfl
        | some new =>
            simp only [Option.bind_some, Option.map_some]
            ring_nf
      · have present : row ∈ rest := (List.mem_cons.mp member).resolve_left same
        have other : first.key ≠ saved.key := by
          intro equal
          exact fresh ((equal.trans named) ▸ List.mem_map_of_mem present)
        rw [if_neg other]
        simp only [totalPoints, firstOwn, ih restKeys restTotal present]
        cases exactValue saved.rewardPoints with
        | none => rfl
        | some new =>
            simp only [Option.bind_some, Option.map_some]
            ring_nf

end Totals

/-! ### The unique columns -/

section Unique

variable {accounts saved : List Account} {account : Account}

theorem UniqueColumn.mem_all (column : UniqueColumn) : column ∈ UniqueColumn.all := by
  cases column <;> decide

theorem isUnique_iff : isUnique accounts account = true ↔
    ∀ other ∈ accounts, other.key ≠ account.key → ∀ column : UniqueColumn,
      clashes (column.value other) (column.value account) = false := by
  unfold isUnique
  rw [List.all_eq_true]
  constructor
  · intro all other member different column
    have apart := all other member
    rw [decide_eq_false different, Bool.false_or, List.all_eq_true] at apart
    simpa using apart column column.mem_all
  · intro apart other member
    by_cases same : other.key = account.key
    · rw [decide_eq_true same, Bool.true_or]
    · rw [decide_eq_false same, Bool.false_or, List.all_eq_true]
      intro column _
      rw [apart other member same column]
      rfl

theorem clashes_comm (one other : Option String) : clashes one other = clashes other one := by
  unfold clashes
  by_cases same : one = other
  · rw [same]
  · simp [same, Ne.symm same]

theorem isUnique_same {row : Account} (unique : isUnique accounts row = true)
    (named : account.key = row.key) (same : ∀ column : UniqueColumn,
      column.value account = column.value row) : isUnique accounts account = true := by
  rw [isUnique_iff] at unique ⊢
  intro other member different column
  rw [same column]
  exact unique other member (named ▸ different) column

theorem isUnique_saveRow {row other : Account} (unique : isUnique accounts other = true)
    (member : row ∈ accounts) (named : account.key = row.key)
    (same : ∀ column : UniqueColumn, column.value account = column.value row) :
    isUnique (saveRow Account.key account accounts) other = true := by
  rw [isUnique_iff] at unique ⊢
  intro stored present different column
  cases mem_saveRow present with
  | inl new =>
      subst new
      rw [same column]
      exact unique row member (named ▸ different) column
  | inr before => exact unique stored before.1 different column

theorem save_stored (named : account.key ∈ accounts.map Account.key)
    (unique : isUnique accounts account = true) :
    save accounts account = .ok (saveRow Account.key account accounts) := by
  unfold save storeRow
  rw [if_pos unique, if_pos named]

theorem save_ok (done : save accounts account = .ok saved) :
    isUnique accounts account = true ∧ saved = storeRow Account.key account accounts := by
  unfold save at done
  split at done
  · rename_i unique
    cases done
    exact ⟨unique, rfl⟩
  · cases done

theorem save_unique (before : ∀ row ∈ accounts, isUnique accounts row = true)
    (done : save accounts account = .ok saved) : ∀ row ∈ saved, isUnique saved row = true := by
  obtain ⟨unique, rfl⟩ := save_ok done
  rw [isUnique_iff] at unique
  intro row member
  rw [isUnique_iff]
  intro other present different column
  cases mem_storeRow present with
  | inl new =>
      cases mem_storeRow member with
      | inl own => exact absurd (new.trans own.symm ▸ rfl) different
      | inr stored =>
          rw [clashes_comm, new]
          exact unique row stored (new ▸ different.symm) column
  | inr old =>
      cases mem_storeRow member with
      | inl own =>
          rw [own]
          exact unique other old (own ▸ different) column
      | inr stored => exact isUnique_iff.mp (before row stored) other old different column

end Unique

/-! ### What the primary account becomes -/

section Takeovers

variable (primary secondary : Account)

theorem Takeover.copy_keeps (takeover : Takeover) (listed : takeover ∈ Takeover.all) :
    (takeover.copy primary secondary).key = primary.key ∧
      (takeover.copy primary secondary).rewardPoints = primary.rewardPoints := by
  simp only [Takeover.all, List.mem_cons, List.not_mem_nil, or_false] at listed
  rcases listed with rfl | rfl | rfl | rfl | rfl | rfl <;> exact ⟨rfl, rfl⟩

theorem foldl_takeover_keeps (takeovers : List Takeover) (fields : List String)
    (listed : ∀ takeover ∈ takeovers, takeover ∈ Takeover.all) :
    (takeovers.foldl (Takeover.apply secondary) (primary, fields)).1.key = primary.key ∧
      (takeovers.foldl (Takeover.apply secondary) (primary, fields)).1.rewardPoints =
        primary.rewardPoints := by
  induction takeovers generalizing primary fields with
  | nil => exact ⟨rfl, rfl⟩
  | cons first rest ih =>
      have later := fun takeover member => listed takeover (List.mem_cons_of_mem _ member)
      rw [List.foldl_cons]
      unfold Takeover.apply
      split
      · obtain ⟨named, points⟩ := first.copy_keeps primary secondary (listed first List.mem_cons_self)
        obtain ⟨key, kept⟩ := ih (first.copy primary secondary) (fields ++ [first.field]) later
        exact ⟨key.trans named, kept.trans points⟩
      · exact ih primary fields later

theorem takeOver_keeps : (takeOver primary secondary).1.key = primary.key ∧
    (takeOver primary secondary).1.rewardPoints = primary.rewardPoints :=
  foldl_takeover_keeps primary secondary Takeover.all [] fun _ listed => listed

theorem mergedPrimary_points :
    (mergedPrimary primary secondary).rewardPoints =
      primary.rewardPoints + secondary.rewardPoints :=
  congrArg (fun points => points + secondary.rewardPoints) (takeOver_keeps primary secondary).2

theorem mergedPrimary_unique (still : ∀ identity : Identity, ¬identity.Moves primary secondary)
    (column : UniqueColumn) :
    column.value (mergedPrimary primary secondary) = column.value primary := by
  have privy : ¬Takeover.privyUserId.wanted primary secondary = true := still .privyUserId
  have wallet : ¬Takeover.walletAddress.wanted primary secondary = true := still .walletAddress
  have email : ¬Takeover.email.wanted primary secondary = true := still .email
  have stellar : ¬Takeover.stellarPublicKey.wanted primary secondary = true :=
    still .stellarPublicKey
  have social : (takeOver primary secondary).1.toPrivyAccount.user = primary.user ∧
      (takeOver primary secondary).1.privyUserId = primary.privyUserId := by
    unfold takeOver Takeover.all
    simp only [List.foldl_cons, List.foldl_nil, Takeover.apply, privy, wallet, email, stellar,
      Bool.false_eq_true, if_false]
    constructor
    · split <;> split <;> rfl
    · split <;> split <;> rfl
  obtain ⟨user, privyUserId⟩ := social
  have profile : (mergedPrimary primary secondary).profile = primary.profile :=
    congrArg Auth.User.profile user
  cases column with
  | privyUserId => exact privyUserId
  | dynamixUserId | stellarPublicKey | username | name | email =>
      simp only [UniqueColumn.value, profile]

end Takeovers

/-! ### One merge -/

section Merge

variable {accounts : List Account} {primary secondary : Account}
  {primaryUserId secondaryUserId : String}

theorem mergeCandidates_ok
    (found : mergeCandidates accounts primaryUserId secondaryUserId = .ok (primary, secondary)) :
    primaryUserId ≠ secondaryUserId ∧ (primary ∈ accounts ∧ primary.key = primaryUserId) ∧
      secondary ∈ accounts ∧ secondary.key = secondaryUserId := by
  unfold mergeCandidates at found
  split at found
  · cases found
  rename_i different
  split at found
  · cases found
  · cases found
  rename_i first second
  split at found
  · cases found
  · cases found
    exact ⟨different, findRow_mem first, findRow_mem second⟩

theorem totalPoints_same {saved : Account} (same : ∀ row ∈ accounts, row.key = saved.key →
    saved.rewardPoints = row.rewardPoints) :
    totalPoints (saveRow Account.key saved accounts) = totalPoints accounts := by
  induction accounts with
  | nil => rfl
  | cons first rest ih =>
      have later := ih fun row member => same row (List.mem_cons_of_mem _ member)
      change totalPoints ((if first.key = saved.key then saved else first) ::
        saveRow Account.key saved rest) = _
      simp only [totalPoints, later]
      split
      · rename_i named
        rw [same first List.mem_cons_self named]
      · rfl

theorem mem_keys {account : Account} (member : account ∈ accounts) :
    account.key ∈ accounts.map Account.key := List.mem_map_of_mem member

theorem saveBoth_still (sound : SoundTable accounts)
    (found : mergeCandidates accounts primaryUserId secondaryUserId = .ok (primary, secondary))
    (still : ∀ identity : Identity, ¬identity.Moves primary secondary) (now : Nat) {own total : ℚ}
    (had : exactValue primary.rewardPoints = some own) (counted : totalPoints accounts = some total) :
    ∃ committed, saveBoth accounts (mergedPrimary primary secondary)
        (mergedSecondary now primaryUserId secondary) = .ok committed ∧
      totalPoints committed =
        (exactValue (primary.rewardPoints + secondary.rewardPoints)).map
          fun new => total - own + new := by
  obtain ⟨different, ⟨isPrimary, primaryKey⟩, isSecondary, secondaryKey⟩ := mergeCandidates_ok found
  have key : (mergedPrimary primary secondary).key = primary.key :=
    (takeOver_keeps primary secondary).1
  have same := mergedPrimary_unique primary secondary still
  have first := save_stored (key ▸ mem_keys isPrimary)
    (isUnique_same (sound.unique primary isPrimary) key same)
  have apart : secondary.key ≠ (mergedPrimary primary secondary).key := by
    rw [key, primaryKey, secondaryKey]
    exact different.symm
  have kept : secondary ∈ saveRow Account.key (mergedPrimary primary secondary) accounts :=
    saveRow_mem_other isSecondary apart
  have unique := isUnique_saveRow (sound.unique secondary isSecondary) isPrimary key same
  have named : secondary.key ∈
      (saveRow Account.key (mergedPrimary primary secondary) accounts).map Account.key :=
    mem_keys kept
  have stored : (mergedSecondary now primaryUserId secondary).key ∈
      (saveRow Account.key (mergedPrimary primary secondary) accounts).map Account.key := named
  have second := save_stored stored
    (isUnique_same unique rfl fun column => by cases column <;> rfl)
  have both : saveBoth accounts (mergedPrimary primary secondary)
      (mergedSecondary now primaryUserId secondary) =
        .ok (saveRow Account.key (mergedSecondary now primaryUserId secondary)
          (saveRow Account.key (mergedPrimary primary secondary) accounts)) := by
    unfold saveBoth
    rw [first]
    exact second
  refine ⟨_, both, ?_⟩
  rw [totalPoints_same, totalPoints_saveRow sound.keys counted isPrimary key had,
    mergedPrimary_points]
  intro row member named
  cases mem_saveRow member with
  | inl new => exact absurd (new ▸ named).symm apart
  | inr before =>
      rw [List.inj_on_of_nodup_map sound.keys before.1 isSecondary named]
      rfl

variable {state : MergeState} {label : MergeLabel}

theorem mergeOutcome_refused {failure : ServiceError}
    (refused : mergeCandidates state.accounts label.primaryUserId label.secondaryUserId =
      .error failure) : mergeOutcome state label = (state.accounts, .error failure) := by
  unfold mergeOutcome mergeAccounts
  rw [refused]

section

variable
  (found : mergeCandidates state.accounts label.primaryUserId label.secondaryUserId = .ok (primary, secondary))
include found

theorem mergeOutcome_committed {committed : List Account}
    (saved : saveBoth state.accounts (mergedPrimary primary secondary)
      (mergedSecondary label.now label.primaryUserId secondary) = .ok committed) :
    mergeOutcome state label =
      (committed, .ok ⟨label.primaryUserId, label.secondaryUserId, (takeOver primary secondary).2⟩) := by
  unfold mergeOutcome mergeAccounts
  rw [found]
  dsimp only
  rw [saved]

theorem mergeOutcome_rolledBack {failure : ServiceError}
    (failed : saveBoth state.accounts (mergedPrimary primary secondary)
      (mergedSecondary label.now label.primaryUserId secondary) = .error failure) :
    mergeOutcome state label = (state.accounts, .error failure) := by
  unfold mergeOutcome mergeAccounts
  rw [found]
  dsimp only
  rw [failed]

theorem not_lawful_of_moves {identity : Identity} (moves : identity.Moves primary secondary) :
    ¬MergeLawful state label := by
  intro lawful
  obtain ⟨⟨result, committed⟩, handed⟩ := lawful.moved primary secondary identity found moves
  obtain ⟨different, _, _, secondaryKey⟩ := mergeCandidates_ok found
  cases saved : saveBoth state.accounts (mergedPrimary primary secondary)
      (mergedSecondary label.now label.primaryUserId secondary) with
  | error failure =>
      rw [mergeOutcome_rolledBack found saved] at committed
      cases committed
  | ok rows =>
      have stored : mergedSecondary label.now label.primaryUserId secondary ∈ rows := by
        unfold saveBoth at saved
        split at saved
        · cases saved
        · obtain ⟨_, rfl⟩ := save_ok saved
          exact (findRow_mem (findRow_storeRow _ _)).1
      unfold mergeStep at handed
      rw [mergeOutcome_committed found saved] at handed
      have same : identity.value (mergedSecondary label.now label.primaryUserId secondary) =
          identity.value secondary := by
        cases identity <;> rfl
      exact different ((handed _ stored same).symm.trans secondaryKey)

end

theorem mergeLawful_iff (sound : SoundTable state.accounts) :
    MergeLawful state label ↔ NothingToMove state label := by
  unfold NothingToMove
  split
  · rename_i failure refused
    have outcome := mergeOutcome_refused refused
    refine ⟨fun _ => trivial, fun _ => ⟨?_, ?_, ?_⟩⟩
    · unfold mergeStep
      rw [outcome]
    · intro result answered
      rw [outcome] at answered
      cases answered
    · intro primary secondary identity found
      rw [refused] at found
      cases found
  · rename_i primary secondary found
    by_cases still : ∀ identity : Identity, ¬identity.Moves primary secondary
    · obtain ⟨total, counted⟩ := sound.points
      obtain ⟨_, ⟨isPrimary, _⟩, _⟩ := mergeCandidates_ok found
      obtain ⟨own, had⟩ := totalPoints_mem counted isPrimary
      obtain ⟨committed, saved, after⟩ := saveBoth_still sound found still label.now had counted
      have outcome := mergeOutcome_committed found saved
      have accounts : (mergeStep state label).accounts = committed := by
        unfold mergeStep
        rw [outcome]
      have conserved : totalPoints (mergeStep state label).accounts = totalPoints state.accounts ↔
          exactValue (primary.rewardPoints + secondary.rewardPoints) =
            exactValue primary.rewardPoints := by
        rw [accounts, after, counted, had]
        cases exactValue (primary.rewardPoints + secondary.rewardPoints) with
        | none => simp
        | some new =>
            simp only [Option.map_some, Option.some.injEq]
            constructor <;> intro same <;> linarith
      constructor
      · intro lawful
        refine ⟨fun identity _ => still identity, conserved.mp lawful.conserved, ?_⟩
        have answered : (mergeOutcome state label).2 = .ok _ := congrArg Prod.snd outcome
        exact lawful.once _ answered
      · intro condition
        refine ⟨conserved.mpr condition.2.1, ?_, ?_⟩
        · intro result answered
          rw [outcome] at answered
          cases answered
          exact condition.2.2
        · intro one other identity same moves
          cases found.symm.trans same
          exact absurd moves (still identity)
    · simp only [not_forall, not_not] at still
      obtain ⟨identity, moves⟩ := still
      constructor
      · intro lawful
        exact absurd lawful (not_lawful_of_moves found moves)
      · intro condition
        exact absurd moves (condition.1 identity identity.mem_all)

theorem saveBoth_sound (sound : SoundTable accounts) {committed : List Account}
    (saved : saveBoth accounts primary secondary = .ok committed) :
    (committed.map Account.key).Nodup ∧
      ∀ account ∈ committed, isUnique committed account = true := by
  unfold saveBoth at saved
  split at saved
  · cases saved
  · rename_i rows first
    have unique := save_unique (save_unique sound.unique first) saved
    obtain ⟨_, rfl⟩ := save_ok first
    obtain ⟨_, rfl⟩ := save_ok saved
    exact ⟨storeRow_nodup (storeRow_nodup sound.keys), unique⟩

theorem mergeStep_sound (sound : SoundTable state.accounts) (lawful : MergeLawful state label) :
    SoundTable (mergeStep state label).accounts := by
  obtain ⟨total, counted⟩ := sound.points
  have points : ∃ total, totalPoints (mergeStep state label).accounts = some total :=
    ⟨total, lawful.conserved.trans counted⟩
  have table : ((mergeStep state label).accounts.map Account.key).Nodup ∧
      ∀ account ∈ (mergeStep state label).accounts,
        isUnique (mergeStep state label).accounts account = true := by
    cases found : mergeCandidates state.accounts label.primaryUserId label.secondaryUserId with
    | error failure =>
        unfold mergeStep
        rw [mergeOutcome_refused found]
        exact ⟨sound.keys, sound.unique⟩
    | ok both =>
        obtain ⟨primary, secondary⟩ := both
        cases saved : saveBoth state.accounts (mergedPrimary primary secondary)
            (mergedSecondary label.now label.primaryUserId secondary) with
        | error failure =>
            unfold mergeStep
            rw [mergeOutcome_rolledBack found saved]
            exact ⟨sound.keys, sound.unique⟩
        | ok committed =>
            unfold mergeStep
            rw [mergeOutcome_committed found saved]
            exact saveBoth_sound sound saved
  exact ⟨table.1, table.2, points⟩

end Merge

/-! ### Whole runs -/

theorem mergeMachine_conserves_iff {state : MergeState} (initial : mergeMachine.initial state)
    (labels : List MergeLabel) :
    mergeMachine.Permits MergeLawful state labels ↔
      mergeMachine.Permits NothingToMove state labels := by
  apply Machine.permits_iff (fun reached => SoundTable reached.accounts) (fun _ => True)
  · exact fun reached label sound _ => mergeLawful_iff sound
  · intro before label after sound _ lawful moved
    cases moved
    exact mergeStep_sound sound lawful
  · exact initial.1
  · exact fun _ _ => trivial

/-! Two accounts, one of them with an email and a wallet. -/

def bareAccount (id : String) (points : Float) : Account :=
  { user :=
      { id
        profile := ⟨none, none, none, none, .listener, none, none, none, false⟩
        passwordHash := none
        twoFactorEnabled := false
        twoFactorSecret := none
        twoFactorRecoveryCodeHashes := none }
    privyUserId := none
    deletedAt := none
    twitter := ⟨none, none, none, none, false, false⟩
    stellarArtistId := none
    stellarArtistTokenId := none
    facebook := ⟨none, none, none, none, false⟩
    rewardPoints := points
    deletionRequestedAt := none
    deletionScheduledFor := none
    deletionReason := none }

def twoAccounts (points : Float) : MergeState := ⟨[bareAccount "a" 5, bareAccount "b" points], []⟩

theorem twoAccounts_sound (points : Float) {total : ℚ}
    (counted : totalPoints (twoAccounts points).accounts = some total) :
    mergeMachine.initial (twoAccounts points) := by
  refine ⟨⟨?_, ?_, total, counted⟩, rfl⟩
  · change ["a", "b"].Nodup
    decide
  · intro account member
    cases member with
    | head => rfl
    | tail _ later =>
        cases List.mem_singleton.mp later
        rfl

theorem twoAccounts_conserved :
    mergeMachine.Permits MergeLawful (twoAccounts 0) [⟨0, "a", "b"⟩] := by
  have counted : totalPoints (twoAccounts 0).accounts = some 5 := by decide +kernel
  refine (mergeMachine_conserves_iff (twoAccounts_sound 0 counted) _).mpr ⟨⟨?_, ?_, ?_⟩, trivial⟩
  · decide
  · decide +kernel
  · exact List.not_mem_nil

theorem twoAccounts_counted_twice :
    mergeMachine.initial (twoAccounts 2) ∧
      ¬mergeMachine.Permits MergeLawful (twoAccounts 2) [⟨0, "a", "b"⟩] := by
  have counted : totalPoints (twoAccounts 2).accounts = some 7 := by decide +kernel
  refine ⟨twoAccounts_sound 2 counted, ?_⟩
  rintro ⟨lawful, _⟩
  have conserved := lawful.conserved
  have after : totalPoints (mergeStep (twoAccounts 2) ⟨0, "a", "b"⟩).accounts = some 9 := by
    decide +kernel
  rw [after, counted] at conserved
  exact absurd conserved (by decide)

end AudioBlock.Accounts
