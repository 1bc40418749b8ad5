/-
Which tokens of mails are accepted again, over whole runs.

No operation clears a token column: the properties that it unsets leave the columns as they
are.  So a row keeps the latest token of each kind that was issued for it, and what ends a used
token is a newer one or its expiry.
-/
import AudioBlock.Auth.AccountTokens
import AudioBlock.Auth.SecondFactor

namespace AudioBlock.Auth

open AudioBlock.Foundation

namespace AccountsRun

def latest (run : AccountsRun) (kind : MailToken) (userId : String) : Option TokenIssue :=
  run.issues.find? fun issue => decide (issue.kind = kind ∧ issue.userId = userId)

/-- What a step is to do: accept no token that was used, and leave no secret where it turns the
second factor off. -/
structure Lawful (platform : Platform) (run : AccountsRun) (label : AccountsLabel)
    (after : AccountsRun) : Prop where
  once : after.used.Nodup
  disabled : ∀ userId code, label = .disableTwoFactor userId code →
    (run.disableTwoFactor platform userId code).2 = .ok () →
      ∀ row ∈ after.rows, row.id = userId → row.twoFactorSecret = none

def StepsLawfully (platform : Platform) (run : AccountsRun) (label : AccountsLabel) : Prop :=
  ∀ after, accountsStep platform run label = some after → Lawful platform run label after

def Superseded (run : AccountsRun) (kind : MailToken) (token : String) : Prop :=
  ∀ issue ∈ run.issues, issue.kind = kind → issue.token = token →
    issue.issuedAt + kind.lifetime < run.now ∨ run.latest kind issue.userId ≠ some issue

/-- No used token is presented again before it is superseded, and nobody confirms with a code
that the second factor be turned off. -/
def TokensSpent (platform : Platform) (run : AccountsRun) : AccountsLabel → Prop
  | .resetPassword token _ =>
      (MailToken.passwordReset, token) ∈ run.used → run.Superseded .passwordReset token
  | .verifyEmail token =>
      (MailToken.emailVerification, token) ∈ run.used → run.Superseded .emailVerification token
  | .disableTwoFactor userId code => ∀ row ∈ run.findById userId,
      row.twoFactorEnabled = true → verifyTotpCode platform run.now row.toUser code = false
  | _ => True

instance (run : AccountsRun) (kind : MailToken) (token : String) :
    Decidable (run.Superseded kind token) :=
  inferInstanceAs (Decidable (∀ issue ∈ run.issues, _ → _ → _ ∨ _))

instance (platform : Platform) (run : AccountsRun) :
    (label : AccountsLabel) → Decidable (run.TokensSpent platform label)
  | .resetPassword _ _ | .verifyEmail _ => inferInstanceAs (Decidable (_ → _))
  | .disableTwoFactor userId _ =>
      inferInstanceAs (Decidable (∀ row ∈ run.findById userId, _ → _))
  | .elapse _ | .registerWithEmail _ _ _ _ _ | .forgotPassword _ _
  | .enableTwoFactor _ _ _ => isTrue trivial

structure Holds (run : AccountsRun) : Prop where
  stored : ∀ row ∈ run.rows, ∀ kind : MailToken,
    kind.stored row = (run.latest kind row.id).map TokenIssue.token ∧
      kind.expiry row = (run.latest kind row.id).map fun issue => issue.issuedAt + kind.lifetime
  distinct : (run.issues.map TokenIssue.token).Nodup
  owned : ∀ issue ∈ run.issues, issue.userId ∈ run.rows.map fun row => row.id

variable {platform : Platform} {run after : AccountsRun} {label : AccountsLabel}

theorem latest_some {kind : MailToken} {userId : String} {issue : TokenIssue}
    (found : run.latest kind userId = some issue) :
    issue ∈ run.issues ∧ issue.kind = kind ∧ issue.userId = userId := by
  refine ⟨List.mem_of_find?_eq_some found, ?_⟩
  simpa using List.find?_some found

theorem Holds.same_issue (holds : run.Holds) {one other : TokenIssue} (first : one ∈ run.issues)
    (second : other ∈ run.issues) (same : one.token = other.token) : one = other :=
  List.inj_on_of_nodup_map holds.distinct first second same

/-! ### Saving an account -/

def property (entity : AccountEntity) : MailToken → Property (Option String)
  | .passwordReset => entity.passwordResetToken
  | .emailVerification => entity.emailVerificationToken

def expiryProperty (entity : AccountEntity) : MailToken → Property (Option Nat)
  | .passwordReset => entity.passwordResetTokenExpiry
  | .emailVerification => entity.emailVerificationTokenExpiry

theorem stored_written (entity : AccountEntity) (row : AccountRow) (kind : MailToken) :
    kind.stored (entity.written row) = (property entity kind).column (kind.stored row) := by
  cases kind <;> rfl

theorem expiry_written (entity : AccountEntity) (row : AccountRow) (kind : MailToken) :
    kind.expiry (entity.written row) = (expiryProperty entity kind).column (kind.expiry row) := by
  cases kind <;> rfl

theorem save_ids (run : AccountsRun) (id : String) (entity : AccountEntity) :
    ((run.save id entity).rows.map fun row => row.id) = run.rows.map fun row => row.id := by
  unfold save
  rw [List.map_map]
  refine List.map_congr_left fun row _ => ?_
  by_cases same : row.id = id
  · simp [same]
  · simp [same]

/-- The saved object either leaves the token columns or writes what they hold. -/
def LeavesTokens (row : AccountRow) (entity : AccountEntity) : Prop :=
  ∀ kind, (∀ token, property entity kind = .value token → token = kind.stored row) ∧
    ∀ expiry, expiryProperty entity kind = .value expiry → expiry = kind.expiry row

theorem Holds.save (holds : run.Holds) {row : AccountRow} (member : row ∈ run.rows)
    {entity : AccountEntity} (leaves : LeavesTokens row entity) : (run.save row.id entity).Holds := by
  obtain ⟨stored, distinct, owned⟩ := holds
  refine ⟨fun saved present kind => ?_, distinct, fun issue known => ?_⟩
  · obtain ⟨before, earlier, same⟩ := List.mem_map.mp present
    have known := stored before earlier kind
    split at same
    · rename_i sameId
      subst same
      rw [stored_written, expiry_written, AccountEntity.written_id]
      have own := stored row member kind
      rw [← sameId] at own
      constructor
      · exact Property.column_eq known.1 fun token assigned =>
          ((leaves kind).1 token assigned).trans own.1
      · exact Property.column_eq known.2 fun expiry assigned =>
          ((leaves kind).2 expiry assigned).trans own.2
    · subst same
      exact known
  · rw [save_ids]
    exact owned issue known

/-! ### Issuing a token -/

theorem latest_issue (kind issued : MailToken) (userId owner token : String) :
    (run.issue issued owner token).latest kind userId =
      if issued = kind ∧ owner = userId then
        some { kind := issued, userId := owner, token, issuedAt := run.now }
      else run.latest kind userId := by
  unfold latest issue
  rw [List.find?_cons]
  by_cases same : issued = kind ∧ owner = userId
  · rw [if_pos same]
    simp [same]
  · rw [if_neg same]
    simp [same]

theorem latest_none (holds : run.Holds) {userId : String}
    (absent : userId ∉ run.rows.map fun row => row.id) (kind : MailToken) :
    run.latest kind userId = none := by
  cases found : run.latest kind userId with
  | none => rfl
  | some issue =>
      obtain ⟨known, _, rfl⟩ := latest_some found
      exact absurd (holds.owned issue known) absent

theorem Holds.forgotPassword (holds : run.Holds) {email token : String}
    (new : run.NewToken token) : (run.forgotPassword email token).Holds := by
  unfold AccountsRun.forgotPassword
  split
  · exact holds
  rename_i row found
  have member := List.mem_of_find?_eq_some found
  refine ⟨fun saved present kind => ?_, ?_, fun issue known => ?_⟩
  · obtain ⟨before, earlier, same⟩ := List.mem_map.mp present
    rw [latest_issue]
    have known := holds.stored before earlier kind
    split at same
    · rename_i sameId
      subst same
      rw [AccountEntity.written_id, sameId]
      cases kind with
      | passwordReset =>
          rw [if_pos ⟨rfl, rfl⟩]
          exact ⟨rfl, rfl⟩
      | emailVerification =>
          rw [if_neg (by simp)]
          exact holds.stored row member .emailVerification
    · rename_i different
      subst same
      rw [if_neg fun same => different same.2.symm]
      exact known
  · exact List.nodup_cons.mpr ⟨new, holds.distinct⟩
  · change issue.userId ∈ (run.save row.id _).rows.map fun row => row.id
    rw [save_ids]
    rcases List.mem_cons.mp known with rfl | earlier
    · exact List.mem_map_of_mem member
    · exact holds.owned issue earlier

theorem Holds.registerWithEmail (holds : run.Holds) {id email passwordHash token : String}
    {profile : Profile} (free : id ∉ run.rows.map fun row => row.id) (new : run.NewToken token) :
    (run.registerWithEmail id email passwordHash token profile).1.Holds := by
  unfold AccountsRun.registerWithEmail
  split
  · exact holds
  refine ⟨fun row present kind => ?_, ?_, fun issue known => ?_⟩
  · rw [latest_issue]
    rcases List.mem_append.mp present with earlier | added
    · have other : id ≠ row.id := fun same => free (same ▸ List.mem_map_of_mem earlier)
      rw [if_neg fun same => other same.2]
      exact holds.stored row earlier kind
    · rw [List.mem_singleton.mp added]
      cases kind with
      | passwordReset =>
          rw [if_neg (by simp)]
          change none = (run.latest _ id).map _ ∧ none = (run.latest _ id).map _
          rw [latest_none holds free]
          exact ⟨rfl, rfl⟩
      | emailVerification =>
          rw [if_pos ⟨rfl, rfl⟩]
          exact ⟨rfl, rfl⟩
  · exact List.nodup_cons.mpr ⟨new, holds.distinct⟩
  · change issue.userId ∈ (run.rows ++ [_]).map fun row : AccountRow => row.id
    rw [List.map_append]
    rcases List.mem_cons.mp known with rfl | earlier
    · exact List.mem_append_right _ (List.mem_singleton_self _)
    · exact List.mem_append_left _ (holds.owned issue earlier)

/-! ### Redeeming a token -/

def Redeems (run : AccountsRun) (kind : MailToken) (token : String) : Prop :=
  ∃ row, (run.rows.find? fun row => decide (kind.stored row = some token)) = some row ∧
    ∀ expiry ∈ kind.expiry row, run.now ≤ expiry

theorem redeem_cases (run : AccountsRun) (kind : MailToken) (token : String)
    (assign : AccountEntity → AccountEntity) :
    (¬run.Redeems kind token ∧ (run.redeem kind token assign).1 = run) ∨
      run.Redeems kind token ∧ ∃ row ∈ run.rows,
        (run.redeem kind token assign).1 =
          { run.save row.id (assign (.loaded row)) with used := run.used ++ [(kind, token)] } := by
  unfold redeem
  cases found : run.rows.find? fun row => decide (kind.stored row = some token) with
  | none =>
      refine Or.inl ⟨?_, rfl⟩
      rintro ⟨row, other, _⟩
      cases found.symm.trans other
  | some row =>
      dsimp only
      split
      · rename_i expired
        refine Or.inl ⟨?_, rfl⟩
        rintro ⟨other, same, valid⟩
        cases found.symm.trans same
        obtain ⟨expiry, present, past⟩ := (Option.any_eq_true _ _).mp expired
        exact absurd (of_decide_eq_true past) (Nat.not_lt.mpr (valid expiry present))
      · rename_i valid
        refine Or.inr ⟨⟨row, found, fun expiry present => ?_⟩, row, List.mem_of_find?_eq_some found,
          rfl⟩
        rw [Option.mem_def.mp present, Option.any_some, decide_eq_true_eq] at valid
        exact Nat.le_of_not_lt valid

theorem Holds.redeems_iff (holds : run.Holds) (kind : MailToken) (token : String) :
    run.Redeems kind token ↔ ¬run.Superseded kind token := by
  constructor
  · rintro ⟨row, found, valid⟩ superseded
    have member := List.mem_of_find?_eq_some found
    have has : kind.stored row = some token := by simpa using List.find?_some found
    obtain ⟨stored, expiry⟩ := holds.stored row member kind
    rw [has] at stored
    obtain ⟨issue, last, named⟩ := Option.map_eq_some_iff.mp stored.symm
    obtain ⟨known, sameKind, owner⟩ := latest_some last
    rw [last] at expiry
    rcases superseded issue known sameKind named with expired | newer
    · exact absurd expired (Nat.not_lt.mpr (valid _ expiry))
    · exact newer (owner ▸ last)
  · intro current
    unfold Superseded at current
    simp only [not_forall, not_or, exists_prop, ne_eq, not_not] at current
    obtain ⟨issue, known, sameKind, named, alive, last⟩ := current
    obtain ⟨owner, present, same⟩ := List.mem_map.mp (holds.owned issue known)
    have has : kind.stored owner = some token := by
      rw [(holds.stored owner present kind).1, same, last, ← named]
      rfl
    cases found : run.rows.find? fun row => decide (kind.stored row = some token) with
    | none => exact absurd (decide_eq_true has) (List.find?_eq_none.mp found owner present)
    | some row =>
        refine ⟨row, found, fun expiry limit => ?_⟩
        have stores : kind.stored row = some token := by simpa using List.find?_some found
        obtain ⟨stored, until_⟩ := holds.stored row (List.mem_of_find?_eq_some found) kind
        rw [stores] at stored
        obtain ⟨other, lastOther, otherNamed⟩ := Option.map_eq_some_iff.mp stored.symm
        cases holds.same_issue known (latest_some lastOther).1 (named.trans otherNamed.symm)
        rw [lastOther, Option.mem_def.mp limit] at until_
        cases until_
        exact Nat.le_of_not_lt alive

theorem Holds.redeem (holds : run.Holds) {kind : MailToken} {token : String}
    {assign : AccountEntity → AccountEntity}
    (leaves : ∀ row, LeavesTokens row (assign (.loaded row))) :
    (run.redeem kind token assign).1.Holds := by
  rcases redeem_cases run kind token assign with ⟨_, same⟩ | ⟨_, row, member, saved⟩
  · rw [same]
    exact holds
  · rw [saved]
    have kept := holds.save member (leaves row)
    exact ⟨kept.stored, kept.distinct, kept.owned⟩

theorem loaded_leaves (row : AccountRow) : LeavesTokens row (.loaded row) := by
  intro kind
  cases kind with
  | passwordReset | emailVerification =>
      constructor
      · rintro token ⟨⟩
        rfl
      · rintro expiry ⟨⟩
        rfl

theorem LeavesTokens.congr {row : AccountRow} {entity other : AccountEntity}
    (leaves : LeavesTokens row entity)
    (tokens : ∀ kind, property other kind = .undefined ∨ property other kind = property entity kind)
    (expiries : ∀ kind, expiryProperty other kind = .undefined ∨
      expiryProperty other kind = expiryProperty entity kind) : LeavesTokens row other := by
  intro kind
  constructor
  · intro token assigned
    rcases tokens kind with undefined | same
    · cases undefined.symm.trans assigned
    · exact (leaves kind).1 token (same.symm.trans assigned)
  · intro expiry assigned
    rcases expiries kind with undefined | same
    · cases undefined.symm.trans assigned
    · exact (leaves kind).2 expiry (same.symm.trans assigned)

theorem Holds.resetPassword (holds : run.Holds) (token passwordHash : String) :
    (run.resetPassword token passwordHash).1.Holds := by
  refine holds.redeem fun row => (loaded_leaves row).congr ?_ ?_
  · intro kind
    cases kind with
    | passwordReset => exact Or.inl rfl
    | emailVerification => exact Or.inr rfl
  · intro kind
    cases kind with
    | passwordReset => exact Or.inl rfl
    | emailVerification => exact Or.inr rfl

theorem Holds.verifyEmail (holds : run.Holds) (token : String) :
    (run.verifyEmail token).1.Holds := by
  refine holds.redeem fun row => (loaded_leaves row).congr ?_ ?_
  · intro kind
    cases kind with
    | passwordReset => exact Or.inr rfl
    | emailVerification => exact Or.inl rfl
  · intro kind
    cases kind with
    | passwordReset => exact Or.inr rfl
    | emailVerification => exact Or.inl rfl

/-! ### The second factor -/

theorem Holds.enableTwoFactor (holds : run.Holds) (userId secret : String)
    (recoveryCodeHashes : List String) :
    (run.enableTwoFactor userId secret recoveryCodeHashes).1.Holds := by
  unfold AccountsRun.enableTwoFactor
  split
  · exact holds
  rename_i row found
  split
  · exact holds
  · refine holds.save (findRow_mem found).1 ((loaded_leaves row).congr ?_ ?_)
    · exact fun kind => Or.inr (by cases kind <;> rfl)
    · exact fun kind => Or.inr (by cases kind <;> rfl)

theorem disableTwoFactor_cases (platform : Platform) (run : AccountsRun) (userId code : String) :
    (∀ row ∈ run.findById userId, row.twoFactorEnabled = true →
        verifyTotpCode platform run.now row.toUser code = false) ∧
      (∃ failure, run.disableTwoFactor platform userId code = (run, .error failure)) ∨
    ∃ row entity, row ∈ run.rows ∧ row.id = userId ∧ row.twoFactorEnabled = true ∧
      verifyTotpCode platform run.now row.toUser code = true ∧
      run.findById userId = some row ∧ entity.twoFactorSecret = .undefined ∧
      LeavesTokens row entity ∧
      run.disableTwoFactor platform userId code = (run.save row.id entity, .ok ()) := by
  unfold disableTwoFactor
  cases found : run.findById userId with
  | none =>
      refine Or.inl ⟨?_, _, rfl⟩
      rintro row ⟨⟩
  | some row =>
      dsimp only
      split
      · rename_i disabled
        refine Or.inl ⟨?_, _, rfl⟩
        rintro _ ⟨⟩ enabled
        cases disabled.symm.trans enabled
      · rename_i enabled
        split
        · rename_i confirmed
          obtain ⟨member, named⟩ := findRow_mem found
          refine Or.inr ⟨row, _, member, named, eq_true_of_ne_false enabled, confirmed, rfl, ?_, ?_,
            rfl⟩
          · rfl
          · exact (loaded_leaves row).congr (fun kind => Or.inr (by cases kind <;> rfl))
              (fun kind => Or.inr (by cases kind <;> rfl))
        · rename_i refused
          refine Or.inl ⟨?_, _, rfl⟩
          rintro _ ⟨⟩ _
          exact eq_false_of_ne_true refused

theorem verifyTotpCode_secret {now : Nat} {user : User} {code : String}
    (confirmed : verifyTotpCode platform now user code = true) : user.twoFactorSecret ≠ none := by
  intro missing
  rw [verifyTotpCode, missing] at confirmed
  cases confirmed

theorem Holds.disableTwoFactor (holds : run.Holds) (userId code : String) :
    (run.disableTwoFactor platform userId code).1.Holds := by
  rcases disableTwoFactor_cases platform run userId code with
    ⟨_, failure, refused⟩ | ⟨row, entity, member, _, _, _, _, _, leaves, saved⟩
  · rw [refused]
    exact holds
  · rw [saved]
    exact holds.save member leaves

/-! ### Steps and runs -/

theorem accountsStep_holds (holds : run.Holds)
    (moved : accountsStep platform run label = some after) : after.Holds := by
  cases label with
  | elapse milliseconds =>
      cases moved
      exact ⟨holds.stored, holds.distinct, holds.owned⟩
  | registerWithEmail id email passwordHash verificationToken profile =>
      obtain ⟨⟨free, new⟩, same⟩ := Option.ite_none_right_eq_some.mp moved
      cases same
      exact holds.registerWithEmail free new
  | forgotPassword email resetToken =>
      obtain ⟨new, same⟩ := Option.ite_none_right_eq_some.mp moved
      cases same
      exact holds.forgotPassword new
  | resetPassword token passwordHash =>
      cases moved
      exact holds.resetPassword token passwordHash
  | verifyEmail token =>
      cases moved
      exact holds.verifyEmail token
  | enableTwoFactor userId secret recoveryCodeHashes =>
      cases moved
      exact holds.enableTwoFactor userId secret recoveryCodeHashes
  | disableTwoFactor userId code =>
      cases moved
      exact holds.disableTwoFactor userId code

theorem redeem_once_iff (holds : run.Holds) (once : run.used.Nodup) (kind : MailToken)
    (token : String) (assign : AccountEntity → AccountEntity) :
    (run.redeem kind token assign).1.used.Nodup ↔
      ((kind, token) ∈ run.used → run.Superseded kind token) := by
  have redeems := holds.redeems_iff kind token
  rcases redeem_cases run kind token assign with ⟨refused, same⟩ | ⟨accepted, row, _, saved⟩
  · rw [same]
    exact iff_of_true once fun _ => not_not.mp (mt redeems.mpr refused)
  · rw [saved]
    have current := redeems.mp accepted
    change (run.used ++ [(kind, token)]).Nodup ↔ _
    constructor
    · intro nodup used
      exact absurd rfl ((List.nodup_append.mp nodup).2.2 _ used _ (List.mem_singleton_self _))
    · intro spent
      refine List.nodup_append.mpr ⟨once, List.nodup_singleton _, fun one earlier other new => ?_⟩
      rw [List.mem_singleton.mp new]
      rintro rfl
      exact current (spent earlier)

theorem forgotPassword_used (run : AccountsRun) (email resetToken : String) :
    (run.forgotPassword email resetToken).used = run.used := by
  unfold forgotPassword
  split <;> rfl

theorem registerWithEmail_used (run : AccountsRun) (id email passwordHash token : String)
    (profile : Profile) :
    (run.registerWithEmail id email passwordHash token profile).1.used = run.used := by
  unfold registerWithEmail
  split <;> rfl

theorem enableTwoFactor_used (run : AccountsRun) (userId secret : String) (hashes : List String) :
    (run.enableTwoFactor userId secret hashes).1.used = run.used := by
  unfold enableTwoFactor
  split
  · rfl
  · split <;> rfl

theorem lawful_of_used (once : run.used.Nodup) (same : after.used = run.used)
    (other : ∀ userId code, label ≠ .disableTwoFactor userId code) :
    Lawful platform run label after := by
  refine ⟨?_, fun userId code equal => absurd equal (other userId code)⟩
  rw [same]
  exact once

theorem disable_lawful_iff (once : run.used.Nodup) (userId code : String) :
    run.StepsLawfully platform (.disableTwoFactor userId code) ↔
      run.TokensSpent platform (.disableTwoFactor userId code) := by
  rcases disableTwoFactor_cases platform run userId code with
    ⟨unconfirmed, failure, refused⟩ |
      ⟨row, entity, member, named, enabled, confirmed, found, secret, _, saved⟩
  · refine iff_of_true ?_ unconfirmed
    rintro after ⟨⟩
    rw [refused]
    refine ⟨once, ?_⟩
    rintro _ _ ⟨⟩ succeeded
    rw [refused] at succeeded
    cases succeeded
  · constructor
    · intro lawful
      have step : accountsStep platform run (.disableTwoFactor userId code) =
          some (run.save row.id entity) := by
        change some (run.disableTwoFactor platform userId code).1 = _
        rw [saved]
      have written : entity.written row ∈ (run.save row.id entity).rows :=
        List.mem_map.mpr ⟨row, member, if_pos rfl⟩
      have cleared := (lawful _ step).disabled userId code rfl (by rw [saved])
        (entity.written row) written named
      have left : (entity.written row).twoFactorSecret = row.twoFactorSecret := by
        change entity.twoFactorSecret.column row.twoFactorSecret = _
        rw [secret]
        rfl
      exact absurd (left.symm.trans cleared) (verifyTotpCode_secret confirmed)
    · intro unconfirmed
      cases confirmed.symm.trans (unconfirmed row found enabled)

theorem stepsLawfully_iff (holds : run.Holds) (once : run.used.Nodup) :
    run.StepsLawfully platform label ↔ run.TokensSpent platform label := by
  cases label with
  | elapse milliseconds =>
      refine iff_of_true ?_ trivial
      rintro after ⟨⟩
      exact lawful_of_used once rfl (by rintro _ _ ⟨⟩)
  | registerWithEmail id email passwordHash verificationToken profile =>
      refine iff_of_true ?_ trivial
      intro after moved
      obtain ⟨_, same⟩ := Option.ite_none_right_eq_some.mp moved
      cases same
      exact lawful_of_used once (registerWithEmail_used _ _ _ _ _ _) (by rintro _ _ ⟨⟩)
  | forgotPassword email resetToken =>
      refine iff_of_true ?_ trivial
      intro after moved
      obtain ⟨_, same⟩ := Option.ite_none_right_eq_some.mp moved
      cases same
      exact lawful_of_used once (forgotPassword_used _ _ _) (by rintro _ _ ⟨⟩)
  | resetPassword token passwordHash =>
      have redeemed := redeem_once_iff holds once .passwordReset token fun user =>
        { user with
          passwordHash := .value (some passwordHash)
          passwordResetToken := .undefined
          passwordResetTokenExpiry := .undefined }
      constructor
      · exact fun lawful => redeemed.mp (lawful _ rfl).once
      · rintro spent after ⟨⟩
        exact ⟨redeemed.mpr spent, by rintro _ _ ⟨⟩⟩
  | verifyEmail token =>
      have redeemed := redeem_once_iff holds once .emailVerification token fun user =>
        { user with
          emailVerified := .value true
          emailVerificationToken := .undefined
          emailVerificationTokenExpiry := .undefined }
      constructor
      · exact fun lawful => redeemed.mp (lawful _ rfl).once
      · rintro spent after ⟨⟩
        exact ⟨redeemed.mpr spent, by rintro _ _ ⟨⟩⟩
  | enableTwoFactor userId secret recoveryCodeHashes =>
      refine iff_of_true ?_ trivial
      rintro after ⟨⟩
      exact lawful_of_used once (enableTwoFactor_used _ _ _ _) (by rintro _ _ ⟨⟩)
  | disableTwoFactor userId code => exact disable_lawful_iff once userId code

theorem initial_holds (begins : (accountsMachine platform).initial run) :
    run.Holds ∧ run.used.Nodup := by
  obtain ⟨issues, used, rows⟩ := begins
  refine ⟨⟨fun row member kind => ?_, ?_, ?_⟩, ?_⟩
  · rw [latest, issues]
    exact rows row member kind
  · rw [issues]
    exact List.nodup_nil
  · rw [issues]
    exact fun issue known => absurd known List.not_mem_nil
  · rw [used]
    exact List.nodup_nil

end AccountsRun

/-- Over every run tokens are single use, and no secret is left, exactly where no used token is
presented before it is superseded and nobody confirms that the second factor be turned off. -/
theorem accountsMachine_lawful_iff (platform : Platform) (run : AccountsRun)
    (begins : (accountsMachine platform).initial run) (labels : List AccountsLabel) :
    (accountsMachine platform).Permits (AccountsRun.StepsLawfully platform) run labels ↔
      (accountsMachine platform).Permits (AccountsRun.TokensSpent platform) run labels := by
  refine Machine.permits_iff (fun run => run.Holds ∧ run.used.Nodup) (fun _ => True) ?_ ?_ labels
    (AccountsRun.initial_holds begins) (fun _ _ => trivial)
  · exact fun run label known _ => AccountsRun.stepsLawfully_iff known.1 known.2
  · exact fun run label after known _ lawful moved =>
      ⟨AccountsRun.accountsStep_holds known.1 moved, (lawful after moved).once⟩

/-! An account that resets its password, and one that turns its second factor off. -/

def tokenOwner : AccountRow :=
  { twoFactorUser with
    emailVerificationToken := none
    emailVerificationTokenExpiry := none
    passwordResetToken := none
    passwordResetTokenExpiry := none }

def ownerAccount : AccountsRun := { now := 0, rows := [tokenOwner], issues := [], used := [] }

/-- The second reset needs a second token. -/
def twoResets : List AccountsLabel :=
  [.forgotPassword "a@b.com" "r1", .resetPassword "r1" "h1", .forgotPassword "a@b.com" "r2",
    .resetPassword "r1" "h2", .resetPassword "r2" "h2"]

def sameReset : List AccountsLabel :=
  [.forgotPassword "a@b.com" "r1", .resetPassword "r1" "h1", .resetPassword "r1" "h2"]

theorem ownerAccount_initial : (accountsMachine plainPlatform).initial ownerAccount := by
  refine ⟨rfl, rfl, fun row member kind => ?_⟩
  rw [List.mem_singleton.mp member]
  cases kind <;> exact ⟨rfl, rfl⟩

theorem twoResets_lawful :
    (accountsMachine plainPlatform).Permits (AccountsRun.StepsLawfully plainPlatform)
      ownerAccount twoResets :=
  (accountsMachine_lawful_iff plainPlatform ownerAccount ownerAccount_initial twoResets).mpr
    (by decide +kernel)

/-- One token resets the password twice, and the secret stays where the factor is off. -/
theorem sameReset_unlawful :
    ¬(accountsMachine plainPlatform).Permits (AccountsRun.StepsLawfully plainPlatform)
        ownerAccount sameReset ∧
      ((accountsMachine plainPlatform).run ownerAccount sameReset).map AccountsRun.used =
        some [(.passwordReset, "r1"), (.passwordReset, "r1")] ∧
      ((accountsMachine plainPlatform).run ownerAccount [.disableTwoFactor "u1" "123456"]).map
          (fun run => run.rows.map fun row => (row.twoFactorEnabled, row.twoFactorSecret)) =
        some [(false, some "123456")] := by
  have executed : ((accountsMachine plainPlatform).run ownerAccount sameReset).map
      AccountsRun.used = some [(.passwordReset, "r1"), (.passwordReset, "r1")] := by
    decide +kernel
  refine ⟨fun permitted => ?_, executed, by decide +kernel⟩
  obtain ⟨run, ran, used⟩ := Option.map_eq_some_iff.mp executed
  have once : run.used.Nodup :=
    Machine.run_preserves (fun run => run.used.Nodup)
      (fun _ _ after _ lawful moved => (lawful after moved).once) sameReset List.nodup_nil
      permitted ran
  rw [used] at once
  exact absurd once (by decide)

end AudioBlock.Auth
