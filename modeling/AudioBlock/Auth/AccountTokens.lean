/-
Password-reset and e-mail-verification tokens, and the second factor that is turned off.

The operations are taken one after another.  A saved object leaves the columns of its undefined
properties as they are.  Tokens and identifiers are drawn at random, so new ones differ from all
before.  The mails are left out; the link of a mail carries the token.

`issues` records every token with its account and time, the latest first, and `used` which
tokens were accepted.
-/
import AudioBlock.Auth.AuthService
import AudioBlock.Foundation.EntityColumns
import AudioBlock.Foundation.Machine
import AudioBlock.Foundation.Rows

namespace AudioBlock.Auth

open AudioBlock.Foundation

structure AccountRow extends User where
  emailVerificationToken : Option String
  emailVerificationTokenExpiry : Option Nat
  passwordResetToken : Option String
  passwordResetTokenExpiry : Option Nat
  deriving DecidableEq

structure AccountEntity where
  emailVerified : Property Bool
  passwordHash : Property (Option String)
  emailVerificationToken : Property (Option String)
  emailVerificationTokenExpiry : Property (Option Nat)
  passwordResetToken : Property (Option String)
  passwordResetTokenExpiry : Property (Option Nat)
  twoFactorEnabled : Property Bool
  twoFactorSecret : Property (Option String)
  twoFactorRecoveryCodeHashes : Property (Option (List String))

namespace AccountEntity

def loaded (row : AccountRow) : AccountEntity :=
  { emailVerified := .value row.profile.emailVerified
    passwordHash := .value row.passwordHash
    emailVerificationToken := .value row.emailVerificationToken
    emailVerificationTokenExpiry := .value row.emailVerificationTokenExpiry
    passwordResetToken := .value row.passwordResetToken
    passwordResetTokenExpiry := .value row.passwordResetTokenExpiry
    twoFactorEnabled := .value row.twoFactorEnabled
    twoFactorSecret := .value row.twoFactorSecret
    twoFactorRecoveryCodeHashes := .value row.twoFactorRecoveryCodeHashes }

/-- The row after the save. -/
def written (entity : AccountEntity) (row : AccountRow) : AccountRow :=
  { row with
    profile :=
      { row.profile with
        emailVerified := entity.emailVerified.column row.profile.emailVerified }
    passwordHash := entity.passwordHash.column row.passwordHash
    emailVerificationToken := entity.emailVerificationToken.column row.emailVerificationToken
    emailVerificationTokenExpiry :=
      entity.emailVerificationTokenExpiry.column row.emailVerificationTokenExpiry
    passwordResetToken := entity.passwordResetToken.column row.passwordResetToken
    passwordResetTokenExpiry :=
      entity.passwordResetTokenExpiry.column row.passwordResetTokenExpiry
    twoFactorEnabled := entity.twoFactorEnabled.column row.twoFactorEnabled
    twoFactorSecret := entity.twoFactorSecret.column row.twoFactorSecret
    twoFactorRecoveryCodeHashes :=
      entity.twoFactorRecoveryCodeHashes.column row.twoFactorRecoveryCodeHashes }

@[simp] theorem loaded_written (row : AccountRow) : (loaded row).written row = row := rfl

@[simp] theorem written_id (entity : AccountEntity) (row : AccountRow) :
    (entity.written row).id = row.id := rfl

end AccountEntity

inductive MailToken
  | passwordReset
  | emailVerification
  deriving DecidableEq

namespace MailToken

def stored (row : AccountRow) : MailToken → Option String
  | passwordReset => row.passwordResetToken
  | emailVerification => row.emailVerificationToken

def expiry (row : AccountRow) : MailToken → Option Nat
  | passwordReset => row.passwordResetTokenExpiry
  | emailVerification => row.emailVerificationTokenExpiry

/-- An hour, or a day. -/
def lifetime : MailToken → Nat
  | passwordReset => 3600000
  | emailVerification => 86400000

def invalid : MailToken → ServiceError
  | passwordReset => .plain "Invalid reset token"
  | emailVerification => .plain "Invalid verification token"

def expired : MailToken → ServiceError
  | passwordReset => .plain "Reset token has expired"
  | emailVerification => .plain "Verification token has expired"

end MailToken

structure TokenIssue where
  kind : MailToken
  userId : String
  token : String
  issuedAt : Nat
  deriving DecidableEq

structure AccountsRun where
  now : Nat
  rows : List AccountRow
  issues : List TokenIssue
  used : List (MailToken × String)
  deriving DecidableEq

namespace AccountsRun

def save (run : AccountsRun) (id : String) (entity : AccountEntity) : AccountsRun :=
  { run with rows := run.rows.map fun row => if row.id = id then entity.written row else row }

def findById (run : AccountsRun) (id : String) : Option AccountRow :=
  findRow (fun row => row.id) id run.rows

def issue (run : AccountsRun) (kind : MailToken) (userId token : String) : AccountsRun :=
  { run with issues := { kind, userId, token, issuedAt := run.now } :: run.issues }

/-- A new account; `profile` has the remaining fields of the request. -/
def registerWithEmail (run : AccountsRun) (id email passwordHash verificationToken : String)
    (profile : Profile) : AccountsRun × Except ServiceError Unit :=
  if run.rows.any fun row => decide (row.profile.email = some email) then
    (run, .error (.conflict "User already exists"))
  else
    let row : AccountRow :=
      { id
        profile := { profile with email := some email, emailVerified := false }
        passwordHash := some passwordHash
        twoFactorEnabled := false
        twoFactorSecret := none
        twoFactorRecoveryCodeHashes := none
        emailVerificationToken := some verificationToken
        emailVerificationTokenExpiry := some (run.now + MailToken.emailVerification.lifetime)
        passwordResetToken := none
        passwordResetTokenExpiry := none }
    ({ run with rows := run.rows ++ [row] }.issue .emailVerification id verificationToken, .ok ())

def forgotPassword (run : AccountsRun) (email resetToken : String) : AccountsRun :=
  match run.rows.find? fun row => decide (row.profile.email = some email) with
  | none => run
  | some row =>
      (run.save row.id
        { AccountEntity.loaded row with
          passwordResetToken := .value (some resetToken)
          passwordResetTokenExpiry :=
            .value (some (run.now + MailToken.passwordReset.lifetime)) }).issue
        .passwordReset row.id resetToken

/-- The account of a token is found and saved as `assign` leaves it, unless the token has
expired. -/
def redeem (run : AccountsRun) (kind : MailToken) (token : String)
    (assign : AccountEntity → AccountEntity) : AccountsRun × Except ServiceError Unit :=
  match run.rows.find? fun row => decide (kind.stored row = some token) with
  | none => (run, .error kind.invalid)
  | some row =>
      if (kind.expiry row).any fun expiry => decide (expiry < run.now) then
        (run, .error kind.expired)
      else
        ({ run.save row.id (assign (.loaded row)) with used := run.used ++ [(kind, token)] },
          .ok ())

def resetPassword (run : AccountsRun) (token passwordHash : String) :
    AccountsRun × Except ServiceError Unit :=
  run.redeem .passwordReset token fun user =>
    { user with
      passwordHash := .value (some passwordHash)
      passwordResetToken := .undefined
      passwordResetTokenExpiry := .undefined }

def verifyEmail (run : AccountsRun) (token : String) : AccountsRun × Except ServiceError Unit :=
  run.redeem .emailVerification token fun user =>
    { user with
      emailVerified := .value true
      emailVerificationToken := .undefined
      emailVerificationTokenExpiry := .undefined }

def enableTwoFactor (run : AccountsRun) (userId secret : String)
    (recoveryCodeHashes : List String) : AccountsRun × Except ServiceError Unit :=
  match run.findById userId with
  | none => (run, .error (.plain "User not found"))
  | some row =>
      if row.passwordHash.getD "" = "" then
        (run, .error (.plain
          "Two-factor authentication is only available for email/password accounts"))
      else
        (run.save row.id
          { AccountEntity.loaded row with
            twoFactorEnabled := .value true
            twoFactorSecret := .value (some secret)
            twoFactorRecoveryCodeHashes := .value (some recoveryCodeHashes) }, .ok ())

def disableTwoFactor (platform : Platform) (run : AccountsRun) (userId code : String) :
    AccountsRun × Except ServiceError Unit :=
  match run.findById userId with
  | none => (run, .error (.notFound "User not found"))
  | some row =>
      if row.twoFactorEnabled = false then
        (run, .error (.businessLogic "Two-factor authentication is not enabled"))
      else if verifyTotpCode platform run.now row.toUser code then
        (run.save row.id
          { AccountEntity.loaded row with
            twoFactorEnabled := .value false
            twoFactorSecret := .undefined
            twoFactorRecoveryCodeHashes := .undefined }, .ok ())
      else (run, .error (.authentication "Invalid two-factor code"))

/-- A token that no mail has carried. -/
def NewToken (run : AccountsRun) (token : String) : Prop := token ∉ run.issues.map TokenIssue.token

instance (run : AccountsRun) (token : String) : Decidable (run.NewToken token) :=
  inferInstanceAs (Decidable (¬_))

end AccountsRun

inductive AccountsLabel
  | elapse (milliseconds : Nat)
  | registerWithEmail (id email passwordHash verificationToken : String) (profile : Profile)
  | forgotPassword (email resetToken : String)
  | resetPassword (token passwordHash : String)
  | verifyEmail (token : String)
  | enableTwoFactor (userId secret : String) (recoveryCodeHashes : List String)
  | disableTwoFactor (userId code : String)

def accountsStep (platform : Platform) (run : AccountsRun) : AccountsLabel → Option AccountsRun
  | .elapse milliseconds => some { run with now := run.now + milliseconds }
  | .registerWithEmail id email passwordHash verificationToken profile =>
      if id ∉ run.rows.map (fun row => row.id) ∧ run.NewToken verificationToken then
        some (run.registerWithEmail id email passwordHash verificationToken profile).1
      else none
  | .forgotPassword email resetToken =>
      if run.NewToken resetToken then some (run.forgotPassword email resetToken) else none
  | .resetPassword token passwordHash => some (run.resetPassword token passwordHash).1
  | .verifyEmail token => some (run.verifyEmail token).1
  | .enableTwoFactor userId secret recoveryCodeHashes =>
      some (run.enableTwoFactor userId secret recoveryCodeHashes).1
  | .disableTwoFactor userId code => some (run.disableTwoFactor platform userId code).1

def accountsMachine (platform : Platform) : Machine AccountsRun AccountsLabel where
  initial run := run.issues = [] ∧ run.used = [] ∧
    ∀ row ∈ run.rows, ∀ kind : MailToken, kind.stored row = none ∧ kind.expiry row = none
  step := accountsStep platform

end AudioBlock.Auth
