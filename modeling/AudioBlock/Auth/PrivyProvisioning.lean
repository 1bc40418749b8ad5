/-
The account of one Privy identity, made by logins and by `user.created` deliveries.

Deliveries and logins of the identity are at the Redis or database call that they await
next and take their steps in any order; a delivery whose signature is refused does not
become a request.  The tokens of a login are left out.  Performed alone, the calls of a
login are `loginAccount`.
-/
import AudioBlock.Auth.PrivyWebhooks
import AudioBlock.Foundation.Machine

namespace AudioBlock.Auth

open AudioBlock.Foundation AudioBlock.Songs

/-- The call that a login awaits next, or how it ended. -/
inductive PrivyLoginCall
  | findIdentity
  | findEmail
  | findWallet
  | saveLinked (account : PrivyAccount)
  | findAgain
  | saveUser (account : PrivyAccount)
  | saveNew
  | loggedIn (account : PrivyAccount)
  | threw (failure : ServiceError)

inductive DeliveryCall
  | findUser
  | creating (call : CreateUserCall)
  | handled
  | threw (failure : ServiceError)

inductive ProvisionRequest
  | delivery (data : UserCreatedData) (next : DeliveryCall)
  | login (payload : IdTokenPayload) (next : PrivyLoginCall)

def ProvisionRequest.ended : ProvisionRequest → Bool
  | .delivery _ .handled | .delivery _ (.threw _) => true
  | .login _ (.loggedIn _) | .login _ (.threw _) => true
  | _ => false

/-! ### A login -/

def mergeByWallet (payload : IdTokenPayload) : PrivyLoginCall :=
  if (truthy payload.wallet).isSome then .findWallet else .findAgain

def mergeByEmail (payload : IdTokenPayload) : PrivyLoginCall :=
  if (truthy payload.email).isSome then .findEmail else mergeByWallet payload

/-- The login has its account: it brings it up to date, and saves it where that changed it. -/
def continueLogin (payload : IdTokenPayload) (account : PrivyAccount) : PrivyLoginCall :=
  let final := LoginDraft.update { account, updated := false } payload
  if final.updated then .saveUser final.account else .loggedIn final.account

def newAccount (drawn identity : String) (payload : IdTokenPayload) : PrivyAccount :=
  (LoginDraft.update { account := createdAccount drawn identity payload, updated := false }
    payload).account

def afterSave (accounts : List PrivyAccount) (account : PrivyAccount) (next : PrivyLoginCall) :
    List PrivyAccount × PrivyLoginCall :=
  match saveAccount accounts account with
  | .error failure => (accounts, .threw failure)
  | .ok saved => (saved, next)

def performLoginCall (identity drawn : String) (payload : IdTokenPayload)
    (accounts : List PrivyAccount) : PrivyLoginCall → List PrivyAccount × PrivyLoginCall
  | .findIdentity =>
      (accounts,
        match findByPrivyUserId accounts identity with
        | some account => continueLogin payload account
        | none => mergeByEmail payload)
  | .findEmail =>
      (accounts,
        match findMergeable accounts payload.email none with
        | some account => .saveLinked { account with privyUserId := some identity }
        | none => mergeByWallet payload)
  | .findWallet =>
      (accounts,
        match findMergeable accounts none payload.wallet with
        | some account => .saveLinked { account with privyUserId := some identity }
        | none => .findAgain)
  | .saveLinked account => afterSave accounts account (continueLogin payload account)
  | .findAgain =>
      (accounts,
        match findByPrivyUserId accounts identity with
        | some account => continueLogin payload account
        | none => .saveNew)
  | .saveUser account => afterSave accounts account (.loggedIn account)
  | .saveNew =>
      let account := newAccount drawn identity payload
      afterSave accounts account (.loggedIn account)
  | .loggedIn account => (accounts, .loggedIn account)
  | .threw failure => (accounts, .threw failure)

/-! ### A delivery -/

structure ProvisionState where
  accounts : List PrivyAccount
  nonces : String → Option String
  requests : List ProvisionRequest

namespace ProvisionState

def deleteNonce (state : ProvisionState) (email : Option String) : ProvisionState :=
  { state with nonces := fun other => if some other = email then none else state.nonces other }

def begin (state : ProvisionState) (request : ProvisionRequest) : ProvisionState :=
  { state with requests := state.requests ++ [request] }

def place (state : ProvisionState) (index : Nat) (request : ProvisionRequest) : ProvisionState :=
  { state with requests := state.requests.set index request }

end ProvisionState

def performCreateUser (drawn : String) (dto : CreateUserData) (state : ProvisionState) :
    CreateUserCall → ProvisionState × DeliveryCall
  | .readNonce nonce =>
      (state,
        match afterStoredNonce nonce (dto.email.bind state.nonces) with
        | .error failure => .threw failure
        | .ok call => .creating call)
  | .deleteNonce => (state.deleteNonce dto.email, .creating .checkUserExists)
  | .checkUserExists =>
      (state,
        if state.accounts.any fun account =>
            decide (account.user.profile.walletAddress = dto.walletAddress) then
          .threw (.conflict "User already exists")
        else .creating .persistUser)
  | .persistUser =>
      match saveAccount state.accounts (persistedAccount drawn dto) with
      | .error failure => (state, .threw failure)
      | .ok saved => ({ state with accounts := saved }, .handled)

/-- `handleUserCreated`; the missing identity fails before the first await. -/
def handleUserCreated (platform : WebhookPlatform) (accounts : List PrivyAccount)
    (data : UserCreatedData) : DeliveryCall :=
  match data.privyUserId with
  | none => .threw (.validation "Missing Privy user ID in webhook payload")
  | some privyUserId =>
      match findByPrivyUserId accounts privyUserId with
      | some _ => .handled
      | none =>
          match beginCreateUser platform data.createUserData with
          | .error failure => .threw failure
          | .ok call => .creating call

def performDelivery (platform : WebhookPlatform) (drawn : String) (data : UserCreatedData)
    (state : ProvisionState) : DeliveryCall → ProvisionState × DeliveryCall
  | .findUser => (state, handleUserCreated platform state.accounts data)
  | .creating call => performCreateUser drawn data.createUserData state call
  | .handled => (state, .handled)
  | .threw failure => (state, .threw failure)

def performRequest (platform : WebhookPlatform) (identity drawn : String)
    (state : ProvisionState) : ProvisionRequest → ProvisionState × ProvisionRequest
  | .delivery data next =>
      let performed := performDelivery platform drawn data state next
      (performed.1, .delivery data performed.2)
  | .login payload next =>
      let performed := performLoginCall identity drawn payload state.accounts next
      ({ state with accounts := performed.1 }, .login payload performed.2)

/-! ### The machine of one identity -/

/-- `drawn` is the identifier that the database gives a row inserted in this step. -/
inductive ProvisionLabel
  | deliver (now : Nat) (signature : Option String) (data : UserCreatedData)
  | login (idToken : String)
  | perform (index : Nat) (drawn : String)

section Machine

variable (platform : WebhookPlatform) (privy : PrivyPlatform) (identity : String)

def provisionStep (state : ProvisionState) : ProvisionLabel → Option ProvisionState
  | .deliver now signature data =>
      if data.privyUserId = some identity then
        match verifyPrivyWebhookSignature platform now signature data with
        | .error _ => some state
        | .ok () => some (state.begin (.delivery data .findUser))
      else none
  | .login idToken =>
      match readIdToken privy idToken with
      | .error _ => none
      | .ok (payload, named) =>
          if named = identity then some (state.begin (.login payload .findIdentity)) else none
  | .perform index drawn =>
      if drawn ∈ state.accounts.map PrivyAccount.id then none
      else
        match state.requests[index]? with
        | none => none
        | some request =>
            let performed := performRequest platform identity drawn state request
            some (performed.1.place index performed.2)

def HasAccount (accounts : List PrivyAccount) : Prop :=
  ∃ account ∈ accounts, account.privyUserId = some identity

instance (accounts : List PrivyAccount) : Decidable (HasAccount identity accounts) :=
  inferInstanceAs (Decidable (∃ account ∈ accounts, _))

/-- No account has the identity yet, and nothing has been asked. -/
structure Unprovisioned (state : ProvisionState) : Prop where
  distinct : DistinctAccounts state.accounts
  absent : ¬HasAccount identity state.accounts
  idle : state.requests = []

def provisioningMachine : Machine ProvisionState ProvisionLabel where
  initial := Unprovisioned identity
  step := provisionStep platform privy identity

end Machine

section Provisioned

variable (identity : String)

structure Provisioned (state : ProvisionState) : Prop where
  handled : ∀ data failure, .delivery data (.threw failure) ∉ state.requests
  atMostOne : ∀ one ∈ state.accounts, ∀ other ∈ state.accounts,
    one.privyUserId = some identity → other.privyUserId = some identity → one = other
  exactlyOne : state.requests ≠ [] → (∀ request ∈ state.requests, request.ended = true) →
    ∃! account, account ∈ state.accounts ∧ account.privyUserId = some identity

def Accepts (accounts : List PrivyAccount) (account : PrivyAccount) : Prop :=
  uniquelyHeld accounts account = true ∨ HasAccount identity accounts

/-- The condition on a step: a delivery looks for an account that is there, and a login
saves nothing that takes another account's email. -/
def MayPerform (accounts : List PrivyAccount) (drawn : String) : ProvisionRequest → Prop
  | .delivery _ .findUser => HasAccount identity accounts
  | .login _ (.saveLinked account) => Accepts identity accounts account
  | .login _ (.saveUser account) => Accepts identity accounts account
  | .login payload .saveNew => Accepts identity accounts (newAccount drawn identity payload)
  | _ => True

instance (accounts : List PrivyAccount) (drawn : String) :
    (request : ProvisionRequest) → Decidable (MayPerform identity accounts drawn request)
  | .delivery _ .findUser => inferInstanceAs (Decidable (HasAccount identity accounts))
  | .login _ (.saveLinked _) | .login _ (.saveUser _) | .login _ .saveNew =>
      inferInstanceAs (Decidable (_ ∨ HasAccount identity accounts))
  | .delivery _ (.creating _) | .delivery _ .handled | .delivery _ (.threw _) => isTrue trivial
  | .login _ .findIdentity | .login _ .findEmail | .login _ .findWallet => isTrue trivial
  | .login _ .findAgain | .login _ (.loggedIn _) | .login _ (.threw _) => isTrue trivial

def AfterLogin (state : ProvisionState) : ProvisionLabel → Prop
  | .perform index drawn =>
      ∀ request ∈ state.requests[index]?, MayPerform identity state.accounts drawn request
  | _ => True

instance (state : ProvisionState) :
    (label : ProvisionLabel) → Decidable (AfterLogin identity state label)
  | .perform index drawn =>
      inferInstanceAs (Decidable (∀ request ∈ state.requests[index]?,
        MayPerform identity state.accounts drawn request))
  | .deliver .. | .login _ => isTrue trivial

end Provisioned

/-! ### A login performed alone -/

section Alone

variable {identity drawn : String} {payload : IdTokenPayload}

variable {accounts : List PrivyAccount}

end Alone

/-! ### What a call does -/

section Calls

variable {identity : String}

/-- How far a request has come tells what is in the table, or in its hands. -/
def RequestSound (identity : String) (accounts : List PrivyAccount) : ProvisionRequest → Prop
  | .delivery data next =>
      data.privyUserId = some identity ∧
        match next with
        | .findUser => True
        | .handled => HasAccount identity accounts
        | .creating _ | .threw _ => False
  | .login _ next =>
      match next with
      | .saveLinked account | .saveUser account => account.privyUserId = some identity
      | .loggedIn _ | .threw _ => HasAccount identity accounts
      | _ => True

variable {request : ProvisionRequest} {account : PrivyAccount}

theorem RequestSound.of_has {accounts after : List PrivyAccount}
    (sound : RequestSound identity accounts request)
    (kept : HasAccount identity accounts → HasAccount identity after) :
    RequestSound identity after request := by
  cases request with
  | delivery data next =>
      obtain ⟨named, sofar⟩ := sound
      refine ⟨named, ?_⟩
      cases next with
      | handled => exact kept sofar
      | findUser | creating _ | threw _ => exact sofar
  | login payload next =>
      cases next with
      | loggedIn _ | threw _ => exact kept sound
      | findIdentity | findEmail | findWallet | saveLinked _ | findAgain | saveUser _ | saveNew =>
          exact sound

/-- What one call leaves, where it may be performed. -/
structure CallSound (identity : String) (accounts after : List PrivyAccount)
    (request : ProvisionRequest) : Prop where
  distinct : DistinctAccounts after
  kept : HasAccount identity accounts → HasAccount identity after
  request : RequestSound identity after request

theorem CallSound.unchanged {accounts : List PrivyAccount} (distinct : DistinctAccounts accounts)
    (sound : RequestSound identity accounts request) :
    CallSound identity accounts accounts request := ⟨distinct, id, sound⟩

variable {accounts : List PrivyAccount} {payload : IdTokenPayload}

theorem continueLogin_sound (own : account.privyUserId = some identity)
    (has : HasAccount identity accounts) :
    RequestSound identity accounts (.login payload (continueLogin payload account)) := by
  unfold continueLogin
  dsimp only
  split
  · exact (LoginDraft.update_identity _ _).2.trans own
  · exact has

theorem findByPrivyUserId_has (found : findByPrivyUserId accounts identity = some account) :
    account.privyUserId = some identity ∧ HasAccount identity accounts := by
  obtain ⟨member, same⟩ := findRow_mem found
  exact ⟨same, account, member, same⟩

theorem HasAccount.find (has : HasAccount identity accounts) :
    ∃ account, findByPrivyUserId accounts identity = some account := by
  obtain ⟨account, member, same⟩ := has
  exact findRow_isSome (same ▸ List.mem_map_of_mem member)

theorem handleUserCreated_handled_iff (platform : WebhookPlatform) {data : UserCreatedData}
    (named : data.privyUserId = some identity) :
    handleUserCreated platform accounts data = .handled ↔ HasAccount identity accounts := by
  unfold handleUserCreated
  rw [named]
  dsimp only
  cases found : findByPrivyUserId accounts identity with
  | some account => exact ⟨fun _ => (findByPrivyUserId_has found).2, fun _ => rfl⟩
  | none =>
      have unsigned : data.createUserData.signature = none := rfl
      obtain ⟨failure, refused⟩ := beginCreateUser_unsigned platform unsigned
      rw [refused]
      constructor
      · intro impossible
        cases impossible
      · intro has
        obtain ⟨account, present⟩ := has.find
        rw [found] at present
        cases present

theorem afterSave_sound {next : PrivyLoginCall} (distinct : DistinctAccounts accounts)
    (own : account.privyUserId = some identity) (accepts : Accepts identity accounts account)
    (goes : ∀ saved, HasAccount identity saved → RequestSound identity saved (.login payload next)) :
    CallSound identity accounts (afterSave accounts account next).1
      (.login payload (afterSave accounts account next).2) := by
  unfold afterSave
  cases done : saveAccount accounts account with
  | error failure =>
      refine .unchanged distinct ?_
      rcases accepts with unique | has
      · unfold saveAccount at done
        rw [if_pos unique] at done
        cases done
      · exact has
  | ok saved =>
      have has : HasAccount identity saved := ⟨account, saveAccount_mem done, own⟩
      exact ⟨saveAccount_distinct distinct done, fun _ => has, goes saved has⟩

theorem mergeByWallet_sound : RequestSound identity accounts (.login payload (mergeByWallet payload)) := by
  unfold mergeByWallet
  split
  · trivial
  · trivial

theorem mergeByEmail_sound : RequestSound identity accounts (.login payload (mergeByEmail payload)) := by
  unfold mergeByEmail
  split
  · trivial
  · exact mergeByWallet_sound

theorem performLoginCall_sound {drawn : String} {next : PrivyLoginCall}
    (distinct : DistinctAccounts accounts)
    (sound : RequestSound identity accounts (.login payload next))
    (may : MayPerform identity accounts drawn (.login payload next)) :
    CallSound identity accounts (performLoginCall identity drawn payload accounts next).1
      (.login payload (performLoginCall identity drawn payload accounts next).2) := by
  cases next with
  | findIdentity =>
      refine .unchanged distinct ?_
      dsimp only [performLoginCall]
      cases found : findByPrivyUserId accounts identity with
      | some account =>
          obtain ⟨own, has⟩ := findByPrivyUserId_has found
          exact continueLogin_sound own has
      | none => exact mergeByEmail_sound
  | findEmail =>
      refine .unchanged distinct ?_
      dsimp only [performLoginCall]
      cases findMergeable accounts payload.email none with
      | some account => exact rfl
      | none => exact mergeByWallet_sound
  | findWallet =>
      refine .unchanged distinct ?_
      dsimp only [performLoginCall]
      cases findMergeable accounts none payload.wallet with
      | some account => exact rfl
      | none => trivial
  | saveLinked account =>
      exact afterSave_sound distinct sound may fun saved has => continueLogin_sound sound has
  | findAgain =>
      refine .unchanged distinct ?_
      dsimp only [performLoginCall]
      cases found : findByPrivyUserId accounts identity with
      | some account =>
          obtain ⟨own, has⟩ := findByPrivyUserId_has found
          exact continueLogin_sound own has
      | none => trivial
  | saveUser account => exact afterSave_sound distinct sound may fun saved has => has
  | saveNew =>
      have own : (newAccount drawn identity payload).privyUserId = some identity :=
        (LoginDraft.update_identity _ _).2
      exact afterSave_sound distinct own may fun saved has => has
  | loggedIn account => exact .unchanged distinct sound
  | threw failure => exact .unchanged distinct sound

theorem performRequest_sound (platform : WebhookPlatform) (drawn : String)
    {state : ProvisionState} (distinct : DistinctAccounts state.accounts)
    (sound : RequestSound identity state.accounts request)
    (may : MayPerform identity state.accounts drawn request) :
    CallSound identity state.accounts
      (performRequest platform identity drawn state request).1.accounts
      (performRequest platform identity drawn state request).2 := by
  cases request with
  | login payload next => exact performLoginCall_sound distinct sound may
  | delivery data next =>
      obtain ⟨named, sofar⟩ := sound
      cases next with
      | findUser =>
          have handled := (handleUserCreated_handled_iff platform named).mpr may
          refine .unchanged distinct ?_
          change RequestSound identity state.accounts
            (.delivery data (handleUserCreated platform state.accounts data))
          rw [handled]
          exact ⟨named, may⟩
      | handled => exact .unchanged distinct ⟨named, sofar⟩
      | creating call => exact sofar.elim
      | threw failure => exact sofar.elim

end Calls

/-! ### Runs -/

section Runs

variable {platform : WebhookPlatform} {privy : PrivyPlatform} {identity : String}

structure ProvisionSound (identity : String) (state : ProvisionState) : Prop where
  distinct : DistinctAccounts state.accounts
  requests : ∀ request ∈ state.requests, RequestSound identity state.accounts request

variable {state : ProvisionState}

theorem ProvisionSound.begin (sound : ProvisionSound identity state) {request : ProvisionRequest}
    (started : RequestSound identity state.accounts request) :
    ProvisionSound identity (state.begin request) := by
  refine ⟨sound.distinct, ?_⟩
  intro other member
  rcases List.mem_append.mp member with before | new
  · exact sound.requests other before
  · exact List.mem_singleton.mp new ▸ started

theorem performRequest_requests {drawn : String} (state : ProvisionState)
    (request : ProvisionRequest) :
    (performRequest platform identity drawn state request).1.requests = state.requests := by
  cases request with
  | login payload next => rfl
  | delivery data next =>
      cases next with
      | findUser | handled | threw failure => rfl
      | creating call =>
          cases call with
          | readNonce nonce => rfl
          | deleteNonce => rfl
          | checkUserExists => rfl
          | persistUser =>
              simp only [performRequest, performDelivery, performCreateUser]
              split
              · rfl
              · rfl

theorem provisionStep_sound {after : ProvisionState} {label : ProvisionLabel}
    (sound : ProvisionSound identity state) (allowed : AfterLogin identity state label)
    (moved : provisionStep platform privy identity state label = some after) :
    ProvisionSound identity after := by
  cases label with
  | deliver now signature data =>
      simp only [provisionStep] at moved
      split at moved
      · rename_i named
        split at moved
        · cases moved
          exact sound
        · cases moved
          exact sound.begin ⟨named, trivial⟩
      · cases moved
  | login idToken =>
      simp only [provisionStep] at moved
      split at moved
      · cases moved
      · split at moved
        · cases moved
          exact sound.begin trivial
        · cases moved
  | perform index drawn =>
      simp only [provisionStep] at moved
      split at moved
      · cases moved
      cases asked : state.requests[index]? with
      | none =>
          rw [asked] at moved
          cases moved
      | some request =>
          rw [asked] at moved
          cases moved
          have performed := performRequest_sound platform drawn sound.distinct
            (sound.requests request (List.mem_of_getElem? asked)) (allowed request asked)
          refine ⟨performed.distinct, ?_⟩
          intro other member
          rcases List.mem_or_eq_of_mem_set member with before | new
          · rw [performRequest_requests] at before
            exact (sound.requests other before).of_has performed.kept
          · exact new ▸ performed.request

theorem DistinctAccounts.eq_of_identity {accounts : List PrivyAccount}
    (distinct : DistinctAccounts accounts) {one other : PrivyAccount} (first : one ∈ accounts)
    (second : other ∈ accounts) (own : one.privyUserId = some identity)
    (same : other.privyUserId = some identity) : one = other :=
  List.inj_on_of_nodup_map distinct.ids first second
    (distinct.identities one first other second identity own same)

theorem RequestSound.has {accounts : List PrivyAccount} {request : ProvisionRequest}
    (sound : RequestSound identity accounts request) (ended : request.ended = true) :
    HasAccount identity accounts := by
  cases request with
  | delivery data next =>
      cases next with
      | handled => exact sound.2
      | findUser | creating _ => cases ended
      | threw failure => exact sound.2.elim
  | login payload next =>
      cases next with
      | loggedIn _ | threw _ => exact sound
      | findIdentity | findEmail | findWallet | saveLinked _ | findAgain | saveUser _ | saveNew =>
          cases ended

theorem ProvisionSound.provisioned (sound : ProvisionSound identity state) :
    Provisioned identity state := by
  refine ⟨?_, ?_, ?_⟩
  · intro data failure member
    exact (sound.requests _ member).2.elim
  · intro one first other second own same
    exact sound.distinct.eq_of_identity first second own same
  · intro asked ended
    obtain ⟨request, member⟩ := List.exists_mem_of_ne_nil _ asked
    obtain ⟨account, present, own⟩ := (sound.requests request member).has (ended request member)
    refine ⟨account, ⟨present, own⟩, ?_⟩
    rintro other ⟨stored, same⟩
    exact sound.distinct.eq_of_identity stored present same own

/-- Where every delivery comes after a login has made the account, and no login takes
another account's email, all deliveries are handled and the identity has one account. -/
theorem provisioningMachine_provisions {state : ProvisionState}
    (reached : (provisioningMachine platform privy identity).Reachable (AfterLogin identity) state) :
    Provisioned identity state := by
  have sound := reached.invariant (ProvisionSound identity)
    (fun state (begins : Unprovisioned identity state) =>
      ⟨begins.distinct, fun request member =>
        absurd (begins.idle ▸ member) List.not_mem_nil⟩)
    (fun _ _ _ sound allowed moved => provisionStep_sound sound allowed moved)
  exact sound.provisioned

end Runs

/-! A person signs up: the login and the delivery, in both orders. -/

def signUpDid : String := "did:privy:signup"

def signUpPlatform : PrivyPlatform where
  isPrivyEnabled := true
  appId := some "app"
  decode _ := none
  getKey _ := .error (.unknownKey "")
  signedBy _ _ := false
  isSessionRevoked _ _ _ := false
  readPayload _ := .object
    { sub := some signUpDid, id := none, email := some "listener@example.org"
      emailVerified := true, wallet_address := none, walletAddress := none, linkedAccounts := [] }
  uuid := some

def signUpEvent : UserCreatedData where
  user := some
    { id := some signUpDid, email := some "listener@example.org", wallet := none
      linkedAccounts :=
        [⟨"wallet", some "privy", some "0x00000000000000000000000000000000000000a1"⟩] }
  id := none
  email := none
  wallet := none

def signUpWebhooks : WebhookPlatform where
  appSecret := some "app secret"
  hmac secret payload := secret ++ payload
  stringify _ := "body"
  verifyMessage _ _ := .error (.plain "invalid raw signature length")

def signUpDelivery : ProvisionLabel := .deliver 0 (some "t=0,v1=app secret0.body") signUpEvent

def nobody : ProvisionState := ⟨[], fun _ => none, []⟩

theorem nobody_unprovisioned (identity : String) : Unprovisioned identity nobody where
  distinct := ⟨List.nodup_nil, fun _ member => (nomatch member)⟩
  absent := fun has => absurd has.choose_spec.1 List.not_mem_nil
  idle := rfl

def loginFirst : List ProvisionLabel :=
  .login "header.body.sig" :: List.replicate 4 (.perform 0 "first") ++
    [signUpDelivery, .perform 1 "second"]

theorem provisioningMachine_provisions_loginFirst :
    ∃ state, (provisioningMachine signUpWebhooks signUpPlatform signUpDid).run nobody loginFirst =
        some state ∧ state.requests.map ProvisionRequest.ended = [true, true] ∧
      Provisioned signUpDid state := by
  have executed : ∃ state,
      (provisioningMachine signUpWebhooks signUpPlatform signUpDid).run nobody loginFirst =
          some state ∧
        (provisioningMachine signUpWebhooks signUpPlatform signUpDid).Permits
          (AfterLogin signUpDid) nobody loginFirst ∧
        state.requests.map ProvisionRequest.ended = [true, true] :=
    ⟨_, rfl, by decide +kernel, by decide +kernel⟩
  obtain ⟨state, ran, permitted, ended⟩ := executed
  exact ⟨state, ran, ended, provisioningMachine_provisions
    (.of_run loginFirst (.start (nobody_unprovisioned signUpDid)) permitted ran)⟩

/-- The delivery comes before any login and fails for the signature that it does not carry. -/
theorem provisioningMachine_refuses_delivery :
    ∃ state, (provisioningMachine signUpWebhooks signUpPlatform signUpDid).Reachable
        (fun _ _ => True) state ∧
      ProvisionRequest.delivery signUpEvent (.threw (.validation "signature is required")) ∈
        state.requests ∧ state.accounts = [] ∧ ¬Provisioned signUpDid state := by
  have executed : ∃ state,
      (provisioningMachine signUpWebhooks signUpPlatform signUpDid).run nobody
          [signUpDelivery, .perform 0 "first"] = some state ∧
        ProvisionRequest.delivery signUpEvent (.threw (.validation "signature is required")) ∈
          state.requests ∧ state.accounts = [] :=
    ⟨_, rfl, List.mem_singleton.mpr rfl, rfl⟩
  obtain ⟨state, ran, refused, empty⟩ := executed
  refine ⟨state, ?_, refused, empty, fun provisioned => provisioned.handled _ _ refused⟩
  exact .of_run _ (.start (nobody_unprovisioned signUpDid)) (Machine.permits_always _ _ _) ran

end AudioBlock.Auth
