/-
The `user.created` webhook of Privy, and `createUser`, which it calls.

`WebhookPlatform` stands for the HMAC, the text that the body is signed as, and the
recovery of the address that signed a message.  Redis and the database are awaited one
call at a time.  The transaction log of a created account and its token are left out.
-/
import AudioBlock.Auth.PrivyLogin

namespace AudioBlock.Auth

open AudioBlock.Foundation AudioBlock.Songs

/-- An account of `linked_accounts`, as far as the webhook reads it. -/
structure WebhookAccount where
  type : String
  walletClientType : Option String
  address : Option String

structure WebhookUser where
  id : Option String
  email : Option String
  wallet : Option String
  linkedAccounts : List WebhookAccount

/-- The `data` of a `user.created` event; addresses stand for the objects around them. -/
structure UserCreatedData where
  user : Option WebhookUser
  id : Option String
  email : Option String
  wallet : Option String

structure WebhookPlatform where
  appSecret : Option String
  hmac : (secret payload : String) → String
  stringify : UserCreatedData → String
  /-- The address that signed a message, or an error. -/
  verifyMessage : (message signature : String) → Except ServiceError String

/-! ### The signature of a delivery -/

/-- `parseInt(text, 10)`; none stands for `NaN`. -/
def parseInt (text : List Char) : Option Int :=
  let magnitude (digits : List Char) : Option Int :=
    match digits.takeWhile Char.isDigit with
    | [] => none
    | shown => some (Nat.ofDigitChars 10 shown 0 : Int)
  match text.dropWhile isBlank with
  | '-' :: digits => (magnitude digits).map Neg.neg
  | '+' :: digits => magnitude digits
  | digits => magnitude digits

def showTimestamp : Option Int → String
  | none => "NaN"
  | some seconds => toString seconds

def signatureExpired : ServiceError := .authentication "Webhook timestamp expired"

/-- A timestamp that is no number passes the comparison with the tolerance. -/
def verifyPrivyWebhookSignature (platform : WebhookPlatform) (now : Nat)
    (signature : Option String) (data : UserCreatedData) : Except ServiceError Unit :=
  match truthy platform.appSecret with
  | none => .error (.businessLogic "Privy webhooks not configured")
  | some appSecret =>
      match truthy signature with
      | none => .error (.authentication "Missing webhook signature")
      | some header =>
          let parts := header.toList.splitOn ','
          match parts.find? ("t=".toList.isPrefixOf ·), parts.find? ("v1=".toList.isPrefixOf ·) with
          | some timestampPart, some signaturePart =>
              let timestamp := parseInt ((timestampPart.splitOn '=')[1]?.getD [])
              let expectedSignature := String.ofList ((signaturePart.splitOn '=')[1]?.getD [])
              if timestamp.any fun seconds =>
                  decide (300 < (((now / 1000 : Nat) : Int) - seconds).natAbs) then
                .error signatureExpired
              else
                let computed := platform.hmac appSecret
                  (showTimestamp timestamp ++ "." ++ platform.stringify data)
                if expectedSignature.utf8ByteSize ≠ computed.utf8ByteSize then
                  .error (.authentication "Failed to verify webhook signature")
                else if expectedSignature ≠ computed then
                  .error (.authentication "Invalid webhook signature")
                else .ok ()
          | _, _ => .error (.authentication "Failed to verify webhook signature")

/-! ### Creating an account -/

structure CreateUserData where
  privyUserId : Option String
  email : Option String
  walletAddress : Option String
  role : UserRole
  emailVerified : Bool
  signature : Option String
  message : Option String

def validateRequired (value : Option String) (field : String) : Except ServiceError String :=
  match truthy value with
  | some text => .ok text
  | none => .error (.validation (field ++ " is required"))

def inAddress (char : Char) : Bool := !isBlank char && char != '@'

/-- `/^[^\s@]+@[^\s@]+\.[^\s@]+$/`. -/
def isEmail (text : List Char) : Bool :=
  let name := text.takeWhile inAddress
  match text.dropWhile inAddress with
  | '@' :: domain =>
      !name.isEmpty && domain.all inAddress && ((domain.drop 1).dropLast).contains '.'
  | _ => false

def isHexDigit (char : Char) : Bool :=
  char.isDigit || ('a' ≤ char && char ≤ 'f') || ('A' ≤ char && char ≤ 'F')

/-- `/^0x[a-fA-F0-9]{40}$/`. -/
def isEthereumAddress (text : List Char) : Bool :=
  match text with
  | '0' :: 'x' :: digits => digits.all isHexDigit && digits.length == 40
  | _ => false

/-- The first match of `/Nonce:\s*([A-Za-z0-9-]+)/`. -/
def nonceOfMessage : List Char → Option (List Char)
  | [] => none
  | head :: rest =>
      let word := (((head :: rest).drop 6).dropWhile isBlank).takeWhile fun char =>
        char.isAlphanum || char == '-'
      if "Nonce:".toList.isPrefixOf (head :: rest) && !word.isEmpty then some word
      else nonceOfMessage rest

example : nonceOfMessage "Sign in. Nonce: 5f-0c".toList = some "5f-0c".toList := by decide +kernel

/-- A call that `createUser` awaits. -/
inductive CreateUserCall
  | readNonce (nonce : String)
  | deleteNonce
  | checkUserExists
  | persistUser
  deriving DecidableEq

/-- `validateUserCreation` up to its first call of Redis. -/
def beginCreateUser (platform : WebhookPlatform) (dto : CreateUserData) :
    Except ServiceError CreateUserCall := do
  let email ← validateRequired dto.email "email"
  let walletAddress ← validateRequired dto.walletAddress "walletAddress"
  let signature ← validateRequired dto.signature "signature"
  let message ← validateRequired dto.message "message"
  if isEmail email.toList = false then
    throw (.validation "Invalid email format")
  if isEthereumAddress walletAddress.toList = false then
    throw (.validation "Invalid Ethereum address format")
  let recovered ← platform.verifyMessage message signature
  if recovered.toLower ≠ walletAddress.toLower then
    throw (.authentication "Invalid signature")
  match nonceOfMessage message.toList with
  | none => throw (.validation "Nonce missing in message")
  | some nonce => return .readNonce (String.ofList nonce)

/-- The answer to `redis.get`. -/
def afterStoredNonce (nonce : String) (stored : Option String) :
    Except ServiceError CreateUserCall :=
  match truthy stored with
  | none => .error (.authentication "Nonce expired")
  | some found =>
      if found ≠ nonce then .error (.authentication "Nonce mismatch") else .ok .deleteNonce

def persistedAccount (drawn : String) (dto : CreateUserData) : PrivyAccount :=
  { user :=
      { id := drawn
        profile :=
          { dynamixUserId := none
            email := dto.email
            walletAddress := dto.walletAddress
            stellarPublicKey := none
            role := dto.role
            username := none
            profileImage := none
            name := none
            emailVerified := dto.emailVerified }
        passwordHash := none
        twoFactorEnabled := false
        twoFactorSecret := none
        twoFactorRecoveryCodeHashes := none }
    privyUserId := dto.privyUserId
    deletedAt := none
    twitter := ⟨none, none, none, none, false, false⟩ }

/-! ### The handler -/

namespace UserCreatedData

def privyUserId (data : UserCreatedData) : Option String :=
  (truthy (data.user.bind WebhookUser.id)).or (truthy data.id)

def emailAddress (data : UserCreatedData) : Option String :=
  (truthy (data.user.bind WebhookUser.email)).or (truthy data.email)

def embeddedWallet (data : UserCreatedData) : Option WebhookAccount :=
  ((data.user.map WebhookUser.linkedAccounts).getD []).find? fun linked =>
    decide (linked.type = "wallet" ∧ linked.walletClientType = some "privy")

def walletAddress (data : UserCreatedData) : Option String :=
  (truthy (data.embeddedWallet.bind WebhookAccount.address)).or
    ((truthy (data.user.bind WebhookUser.wallet)).or (truthy data.wallet))

/-- What the handler passes to `createUser`. -/
def createUserData (data : UserCreatedData) : CreateUserData :=
  { privyUserId := data.privyUserId
    email := data.emailAddress
    walletAddress := data.walletAddress
    role := .listener
    emailVerified := data.emailAddress.isSome
    signature := none
    message := none }

end UserCreatedData

theorem beginCreateUser_unsigned (platform : WebhookPlatform) {dto : CreateUserData}
    (unsigned : dto.signature = none) : ∃ failure, beginCreateUser platform dto = .error failure := by
  unfold beginCreateUser
  cases validateRequired dto.email "email" with
  | error failure => exact ⟨failure, rfl⟩
  | ok email =>
      cases validateRequired dto.walletAddress "walletAddress" with
      | error failure => exact ⟨failure, rfl⟩
      | ok walletAddress =>
          rw [unsigned]
          exact ⟨.validation "signature is required", rfl⟩

end AudioBlock.Auth
