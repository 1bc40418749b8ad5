/-
The verification of artists: applications, reviews, and the badge on the account.

A request is the call that it makes next with what it has loaded so far.  An application and
the badge are two rows, written by two calls.  A save writes back the whole copy that was
loaded; notes that are left out stay as they are stored.  Applications pass the checks of
their DTO first, so that their fields are texts.
-/
import AudioBlock.Auth.Tokens
import AudioBlock.Foundation.EntityColumns
import AudioBlock.Foundation.Machine
import AudioBlock.Foundation.Rows
import AudioBlock.Foundation.Text
import AudioBlock.Songs.Song

namespace AudioBlock.Artists

open AudioBlock.Foundation
open AudioBlock.Auth (UserRole)
open AudioBlock.Songs (AppError)

inductive VerificationStatus
  | pending
  | approved
  | rejected
  deriving DecidableEq

def VerificationStatus.text : VerificationStatus → String
  | .pending => "pending"
  | .approved => "approved"
  | .rejected => "rejected"

structure ArtistVerification where
  id : String
  userId : String
  status : VerificationStatus
  displayNameProof : String
  socialLinks : List String
  musicLinks : List String
  notes : Option String
  reviewedBy : Option String
  reviewedAt : Option Nat
  rejectionReason : Option String
  deriving DecidableEq

structure ArtistAccount where
  id : String
  role : UserRole
  isVerified : Bool
  deriving DecidableEq

structure VerificationApplicationInput where
  displayNameProof : String
  socialLinks : List String
  musicLinks : List String
  notes : Option String
  deriving DecidableEq

def verificationLinkMaxLength : Nat := 500

def verificationMaxLinks : Nat := 10

def verificationReasonMaxLength : Nat := 500

/-! ### The checks of a request -/

def uuidPattern : List (Char → Bool) :=
  let hex : Char → Bool := fun char =>
    char.isDigit || decide ('a' ≤ char.toLower ∧ char.toLower ≤ 'f')
  let dash : Char → Bool := fun char => decide (char = '-')
  List.replicate 8 hex ++ [dash] ++ List.replicate 4 hex ++ [dash] ++
    [fun char => decide (char = '4')] ++ List.replicate 3 hex ++ [dash] ++
    [fun char => decide (char.toLower ∈ ['8', '9', 'a', 'b'])] ++ List.replicate 3 hex ++ [dash] ++
    List.replicate 12 hex

def isUuid (value : String) : Bool :=
  decide (value.toList.length = uuidPattern.length) &&
    (uuidPattern.zip value.toList).all fun entry => entry.1 entry.2

def validateUUID (value fieldName : String) : Except AppError Unit :=
  if value = "" then .error (.validation (fieldName ++ " is required"))
  else if isUuid value = true then .ok ()
  else .error (.validation (fieldName ++ " must be a valid UUID"))

def validateStringLength (value fieldName : String) (minLength maxLength : Nat) :
    Except AppError Unit :=
  if value = "" then .error (.validation (fieldName ++ " is required"))
  else if utf16Length value.toList < minLength then
    .error (.validation
      (fieldName ++ " must be at least " ++ toString minLength ++ " characters"))
  else if maxLength < utf16Length value.toList then
    .error (.validation (fieldName ++ " cannot exceed " ++ toString maxLength ++ " characters"))
  else .ok ()

def trimmed (text : String) : String := String.ofList (trim text.toList)

/-- One link; `protocolOf` is the protocol that `new URL` reads, which throws without one. -/
def checkLink (protocolOf : String → Option String) (fieldName link : String) :
    Except AppError Unit :=
  if verificationLinkMaxLength < utf16Length link.toList then
    .error (.validation ("Each " ++ fieldName ++ " entry cannot exceed " ++
      toString verificationLinkMaxLength ++ " characters"))
  else
    match protocolOf link with
    | none => .error (.validation (fieldName ++ " contains an invalid URL: " ++ link))
    | some protocol =>
        if protocol ≠ "http:" ∧ protocol ≠ "https:" then
          .error (.validation (fieldName ++ " entries must be http(s) URLs"))
        else .ok ()

def normalizeLinks (protocolOf : String → Option String) (links : List String)
    (fieldName : String) : Except AppError (List String) := do
  if verificationMaxLinks < links.length then
    .error (.validation
      (fieldName ++ " cannot contain more than " ++ toString verificationMaxLinks ++ " links"))
  else
    let normalized := (links.map trimmed).filter fun link => decide (link ≠ "")
    normalized.forM (checkLink protocolOf fieldName)
    .ok normalized.eraseDups

/-- What a checked application is stored with. -/
structure ApplicationForm where
  displayNameProof : String
  socialLinks : List String
  musicLinks : List String
  notes : Property (Option String)
  deriving DecidableEq

def checkApplication (protocolOf : String → Option String) (user : ArtistAccount)
    (application : VerificationApplicationInput) : Except AppError ApplicationForm := do
  if user.role ≠ .artist ∧ user.role ≠ .admin then
    .error (.authorization "Only artist accounts can apply for verification")
  else
    validateStringLength application.displayNameProof "displayNameProof" 1 200
    let socialLinks ← normalizeLinks protocolOf application.socialLinks "socialLinks"
    let musicLinks ← normalizeLinks protocolOf application.musicLinks "musicLinks"
    if socialLinks = [] then .error (.validation "At least one social link is required")
    else if musicLinks = [] then .error (.validation "At least one music link is required")
    else
      .ok
        { displayNameProof := trimmed application.displayNameProof
          socialLinks := socialLinks
          musicLinks := musicLinks
          notes := match application.notes with
            | none => .undefined
            | some notes => .value (some (trimmed notes)) }

/-! ### The calls -/

inductive ReviewDecision
  | approve
  | reject (reason : String)
  deriving DecidableEq

def ReviewDecision.status : ReviewDecision → VerificationStatus
  | .approve => .approved
  | .reject _ => .rejected

inductive VerificationCall
  | findUser (userId : String) (application : VerificationApplicationInput)
  | findApproved (userId : String) (form : ApplicationForm)
  | findPending (userId : String) (form : ApplicationForm)
  /-- `copy` is the pending application that was loaded. -/
  | saveResubmitted (copy : ArtistVerification) (form : ApplicationForm)
  | insertApplication (userId : String) (form : ApplicationForm)
  | findForReview (verificationId adminId : String) (decision : ReviewDecision)
  | saveDecision (copy : ArtistVerification) (decision : ReviewDecision)
  | markVerified (saved : ArtistVerification)
  | findOtherApproved (saved : ArtistVerification)
  | clearVerified (saved : ArtistVerification)
  | answered (saved : ArtistVerification)
  | refused (failure : AppError)
  /-- A call of the database that threw. -/
  | thrown
  deriving DecidableEq

inductive VerificationOperation
  | applyForVerification (userId : String) (application : VerificationApplicationInput)
  | approveVerification (verificationId adminId : String)
  | rejectVerification (verificationId adminId : String) (reason : Option String)

def orRefused (checks : Except AppError VerificationCall) : VerificationCall :=
  match checks with
  | .error failure => .refused failure
  | .ok call => call

def VerificationOperation.first : VerificationOperation → VerificationCall
  | .applyForVerification userId application => orRefused do
      validateUUID userId "userId"
      return .findUser userId application
  | .approveVerification verificationId adminId => orRefused do
      validateUUID verificationId "id"
      return .findForReview verificationId adminId .approve
  | .rejectVerification verificationId adminId reason => orRefused do
      let trimmedReason := trimmed (reason.getD "")
      validateStringLength trimmedReason "reason" 1 verificationReasonMaxLength
      validateUUID verificationId "id"
      return .findForReview verificationId adminId (.reject trimmedReason)

structure VerificationState where
  users : List ArtistAccount
  verifications : List ArtistVerification
  requests : List VerificationCall
  deriving DecidableEq

inductive VerificationStep
  | begin (operation : VerificationOperation)
  /-- With the clock of the process, and the id that the database draws. -/
  | step (index now : Nat) (drawn : String)
  | fails (index : Nat)

namespace VerificationState

def findWithStatus (state : VerificationState) (userId : String) (status : VerificationStatus) :
    Option ArtistVerification :=
  state.verifications.find? fun row => decide (row.userId = userId ∧ row.status = status)

def place (state : VerificationState) (index : Nat) (call : VerificationCall) : VerificationState :=
  { state with requests := state.requests.set index call }

/-- The update of the badge of one account. -/
def setVerified (state : VerificationState) (userId : String) (isVerified : Bool) :
    VerificationState :=
  { state with
    users := state.users.map fun user =>
      if user.id = userId then { user with isVerified := isVerified } else user }

end VerificationState

def resubmitted (copy : ArtistVerification) (form : ApplicationForm) (stored : ArtistVerification) :
    ArtistVerification :=
  { copy with
    displayNameProof := form.displayNameProof
    socialLinks := form.socialLinks
    musicLinks := form.musicLinks
    notes := form.notes.column stored.notes }

def newApplication (userId : String) (form : ApplicationForm) (drawn : String) :
    ArtistVerification :=
  { id := drawn
    userId := userId
    status := .pending
    displayNameProof := form.displayNameProof
    socialLinks := form.socialLinks
    musicLinks := form.musicLinks
    notes := form.notes.column none
    reviewedBy := none
    reviewedAt := none
    rejectionReason := none }

def decided (verification : ArtistVerification) (adminId : String) (now : Nat) :
    ReviewDecision → ArtistVerification
  | .approve =>
      { verification with
        status := .approved
        reviewedBy := some adminId
        reviewedAt := some now
        rejectionReason := none }
  | .reject reason =>
      { verification with
        status := .rejected
        reviewedBy := some adminId
        reviewedAt := some now
        rejectionReason := some reason }

/-- `loadPendingVerification`, and the decision on what it loads. -/
def reviewCall (found : Option ArtistVerification) (adminId : String) (now : Nat)
    (decision : ReviewDecision) : VerificationCall :=
  match found with
  | none => .refused (.notFound "Verification application not found")
  | some verification =>
      if verification.status ≠ .pending then
        .refused (.conflict ("Application has already been " ++ verification.status.text))
      else .saveDecision (decided verification adminId now decision) decision

def performVerification (protocolOf : String → Option String) (state : VerificationState)
    (now : Nat) (drawn : String) :
    VerificationCall → Option (VerificationState × VerificationCall)
  | .findUser userId application =>
      some (state, match findRow ArtistAccount.id userId state.users with
        | none => .refused (.notFound "User not found")
        | some user => orRefused do
            let form ← checkApplication protocolOf user application
            return .findApproved userId form)
  | .findApproved userId form =>
      some (state, match state.findWithStatus userId .approved with
        | some _ => .refused (.conflict "This account is already verified")
        | none => .findPending userId form)
  | .findPending userId form =>
      some (state, match state.findWithStatus userId .pending with
        | some pending => .saveResubmitted pending form
        | none => .insertApplication userId form)
  | .saveResubmitted copy form =>
      some ({ state with
          verifications := state.verifications.map fun row =>
            if row.id = copy.id then resubmitted copy form row else row },
        .answered (resubmitted copy form copy))
  | .insertApplication userId form =>
      if drawn ∈ state.verifications.map ArtistVerification.id then none
      else some ({ state with
          verifications := state.verifications ++ [newApplication userId form drawn] },
        .answered (newApplication userId form drawn))
  | .findForReview verificationId adminId decision =>
      some (state, reviewCall (findRow ArtistVerification.id verificationId state.verifications)
        adminId now decision)
  | .saveDecision copy decision =>
      some ({ state with
          verifications := saveRow ArtistVerification.id copy state.verifications },
        match decision with
        | .approve => .markVerified copy
        | .reject _ => .findOtherApproved copy)
  | .markVerified saved => some (state.setVerified saved.userId true, .answered saved)
  | .findOtherApproved saved =>
      some (state, match state.findWithStatus saved.userId .approved with
        | some _ => .answered saved
        | none => .clearVerified saved)
  | .clearVerified saved => some (state.setVerified saved.userId false, .answered saved)
  | .answered _ | .refused _ | .thrown => none

def failVerification : VerificationCall → Option VerificationCall
  | .answered _ | .refused _ | .thrown => none
  | _ => some .thrown

def verificationStep (protocolOf : String → Option String) (state : VerificationState) :
    VerificationStep → Option VerificationState
  | .begin operation => some { state with requests := state.requests ++ [operation.first] }
  | .step index now drawn =>
      state.requests[index]?.bind fun call =>
        (performVerification protocolOf state now drawn call).map fun answer =>
          answer.1.place index answer.2
  | .fails index =>
      state.requests[index]?.bind fun call =>
        (failVerification call).map fun next => state.place index next

end AudioBlock.Artists
