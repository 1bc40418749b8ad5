/-
Wallet login, one awaited call at a time.

A request of `login` is at the Redis or database call that it awaits next; any
number of requests take their steps in any order, and each call may fail.  A
signature is a term: the fact that a key signed a message, or any other text.
The accounts are fixed.  A nonce leaves Redis when a login deletes it and, in a
step of its own, when it expires or another service deletes it; the 16 random
bytes of a new nonce have not been drawn before.

The state records history beside Redis: the nonces issued, for each request the
stored nonce that it found equal to its own, and the logins that issued tokens.
The tokens themselves and the body's role, which `login` does not read, are left
out.
-/
import AudioBlock.Auth.SecondFactor
import AudioBlock.Foundation.Weighing

namespace AudioBlock.Auth

open AudioBlock.Foundation

inductive Signature
  | signed (key message : String)
  | other (text : String)
  deriving DecidableEq

structure JWTDTO where
  signature : Signature
  message : String
  email : String
  deriving DecidableEq

/-! ### The nonce of a message -/

/-- `\w`. -/
def isWordChar (char : Char) : Bool := char.isAlphanum || char == '_'

/-- The first match of `/Nonce: (\w+)/`; the group takes all word characters. -/
def matchNonce : List Char → Option (List Char)
  | [] => none
  | head :: rest =>
      let word := ((head :: rest).drop 7).takeWhile isWordChar
      if "Nonce: ".toList.isPrefixOf (head :: rest) && !word.isEmpty then some word
      else matchNonce rest

def nonceInMessage (message : String) : Option String :=
  (matchNonce message.toList).map String.ofList

example : nonceInMessage "Audioblocks Login\nNonce: 5f0c\nEmail: a@b.com" = some "5f0c" := by
  decide +kernel

/-! ### Requests -/

/-- The call that a request awaits next, or how it ended. -/
inductive LoginCall
  | readNonce (nonce : String)
  | deleteNonce
  | findUser
  | storeRefreshToken (user : User)
  | returned (user : User)
  | threw (failure : ServiceError)
  deriving DecidableEq

structure LoginRequest where
  dto : JWTDTO
  read : Option String
  next : LoginCall
  deriving DecidableEq

structure WalletSession where
  dto : JWTDTO
  read : Option String
  user : User
  deriving DecidableEq

structure WalletState where
  now : Nat
  nonces : String → Option String
  requests : List LoginRequest
  issued : List (String × String)
  logins : List WalletSession

namespace WalletState

def setNonce (state : WalletState) (email : String) (nonce : Option String) : WalletState :=
  { state with nonces := fun other => if other = email then nonce else state.nonces other }

def issue (state : WalletState) (email nonce : String) : WalletState :=
  { state.setNonce email (some nonce) with issued := state.issued ++ [(email, nonce)] }

def begin (state : WalletState) (request : LoginRequest) : WalletState :=
  { state with requests := state.requests ++ [request] }

def place (state : WalletState) (index : Nat) (request : LoginRequest) : WalletState :=
  { state with requests := state.requests.set index request }

def succeed (state : WalletState) (login : WalletSession) : WalletState :=
  { state with logins := state.logins ++ [login] }

end WalletState

def findAccountByEmail (accounts : List User) (email : String) : Option User :=
  accounts.find? fun user => decide (user.profile.email = some email)

/-- `login` up to its first await.  The signature is not looked at. -/
def beginLogin (dto : JWTDTO) : LoginCall :=
  if dto.message = "" then .findUser
  else
    match nonceInMessage dto.message with
    | none => .threw (.plain "Nonce missing in message")
    | some nonce => .readNonce nonce

/-- The answer to `redis.get`. -/
def afterReadNonce (request : LoginRequest) (nonce : String) (stored : Option String) :
    LoginRequest :=
  match stored with
  | none => { request with next := .threw (.plain "Invalid or expired nonce") }
  | some found =>
      if found = "" ∨ found ≠ nonce then
        { request with next := .threw (.plain "Invalid or expired nonce") }
      else { request with read := some found, next := .deleteNonce }

def afterFindAccount (env : AuthEnv) (now : Nat) : Option User → LoginCall
  | none => .threw (.plain "User not found")
  | some user =>
      match signToken env now user with
      | .error failure => .threw failure
      | .ok _ => .storeRefreshToken user

def performLogin (env : AuthEnv) (accounts : List User) (state : WalletState)
    (request : LoginRequest) : WalletState × LoginRequest :=
  match request.next with
  | .readNonce nonce => (state, afterReadNonce request nonce (state.nonces request.dto.email))
  | .deleteNonce => (state.setNonce request.dto.email none, { request with next := .findUser })
  | .findUser =>
      (state,
        { request with
          next := afterFindAccount env state.now (findAccountByEmail accounts request.dto.email) })
  | .storeRefreshToken user =>
      (state.succeed { dto := request.dto, read := request.read, user },
        { request with next := .returned user })
  | .returned _ | .threw _ => (state, request)

inductive WalletLabel
  | elapse (milliseconds : Nat)
  | getNonce (email nonce : String)
  | removeNonce (email : String)
  | login (dto : JWTDTO)
  | step (index : Nat)
  | fails (index : Nat) (failure : ServiceError)

def walletStep (env : AuthEnv) (accounts : List User) (state : WalletState) :
    WalletLabel → Option WalletState
  | .elapse milliseconds => some { state with now := state.now + milliseconds }
  | .getNonce email nonce =>
      if email = "" then some state
      else if nonce ∈ state.issued.map Prod.snd then none
      else some (state.issue email nonce)
  | .removeNonce email => some (state.setNonce email none)
  | .login dto => some (state.begin { dto, read := none, next := beginLogin dto })
  | .step index =>
      match state.requests[index]? with
      | none => none
      | some request =>
          some ((performLogin env accounts state request).1.place index
            (performLogin env accounts state request).2)
  | .fails index failure =>
      match state.requests[index]? with
      | none => none
      | some request => some (state.place index { request with next := .threw failure })

def noLogins : WalletState :=
  { now := 0, nonces := fun _ => none, requests := [], issued := [], logins := [] }

def walletMachine (env : AuthEnv) (accounts : List User) : Machine WalletState WalletLabel where
  initial state := state = noLogins
  step := walletStep env accounts

/-! ### Authentic logins -/

def JWTDTO.SignedBy (dto : JWTDTO) (user : User) : Prop :=
  ∃ key ∈ user.profile.walletAddress, dto.signature = .signed key dto.message

instance (dto : JWTDTO) (user : User) : Decidable (dto.SignedBy user) :=
  inferInstanceAs (Decidable (∃ key ∈ user.profile.walletAddress, _))

def WalletSession.Authentic (state : WalletState) (login : WalletSession) : Prop :=
  login.user.profile.email = some login.dto.email ∧ login.dto.SignedBy login.user ∧
    ∃ nonce, nonceInMessage login.dto.message = some nonce ∧ login.read = some nonce ∧
      (login.dto.email, nonce) ∈ state.issued

def OwnRequest (accounts : List User) (state : WalletState) (request : LoginRequest) : Prop :=
  match request.next with
  | .readNonce nonce =>
      state.nonces request.dto.email = some nonce →
        ∀ other ∈ state.requests, other.next = .deleteNonce → other.read ≠ some nonce
  | .findUser =>
      ∀ user ∈ findAccountByEmail accounts request.dto.email,
        request.dto.message ≠ "" ∧ request.dto.SignedBy user
  | _ => True

def OwnWallet (accounts : List User) (state : WalletState) : WalletLabel → Prop
  | .step index => ∀ request ∈ state.requests[index]?, OwnRequest accounts state request
  | _ => True

instance (accounts : List User) (state : WalletState) (request : LoginRequest) :
    Decidable (OwnRequest accounts state request) := by
  unfold OwnRequest
  split
  · infer_instance
  · infer_instance
  · infer_instance

instance (accounts : List User) (state : WalletState) :
    (label : WalletLabel) → Decidable (OwnWallet accounts state label)
  | .step index =>
      inferInstanceAs (Decidable (∀ request ∈ state.requests[index]?, OwnRequest accounts state request))
  | .elapse _ | .getNonce .. | .removeNonce _ | .login _ | .fails .. => isTrue trivial

/-! ### The invariant -/

/-- The request may still succeed with what it has read. -/
def LoginCall.isOpen : LoginCall → Bool
  | .deleteNonce | .findUser | .storeRefreshToken _ => true
  | .readNonce _ | .returned _ | .threw _ => false

def LoginRequest.holds (nonce : String) (request : LoginRequest) : Bool :=
  decide (request.read = some nonce) && request.next.isOpen

def WalletSession.spent (nonce : String) (login : WalletSession) : Bool :=
  decide (login.read = some nonce)

def WalletState.uses (state : WalletState) (nonce : String) : Nat :=
  state.logins.countP (WalletSession.spent nonce) +
    weigh (indicator (LoginRequest.holds nonce)) state.requests

def LoginRequest.ReadOwn (request : LoginRequest) : Prop :=
  ∃ nonce, nonceInMessage request.dto.message = some nonce ∧ request.read = some nonce

def LoginRequest.Checked (request : LoginRequest) : Prop :=
  match request.next with
  | .readNonce nonce => nonceInMessage request.dto.message = some nonce
  | .deleteNonce => request.ReadOwn
  | .findUser => request.dto.message ≠ "" → request.ReadOwn
  | .storeRefreshToken user =>
      request.ReadOwn ∧ request.dto.SignedBy user ∧
        user.profile.email = some request.dto.email
  | .returned _ | .threw _ => True

structure WalletSound (state : WalletState) : Prop where
  distinct : (state.issued.map Prod.snd).Nodup
  stored : ∀ email nonce, state.nonces email = some nonce → (email, nonce) ∈ state.issued
  reads : ∀ request ∈ state.requests, ∀ nonce, request.read = some nonce →
    (request.dto.email, nonce) ∈ state.issued
  spends : ∀ login ∈ state.logins, ∀ nonce, login.read = some nonce →
    (login.dto.email, nonce) ∈ state.issued
  once : ∀ nonce, state.uses nonce ≤ 1
  unused : ∀ email nonce, state.nonces email = some nonce →
    state.logins.countP (WalletSession.spent nonce) = 0 ∧
      ∀ request ∈ state.requests, request.holds nonce = true → request.next = .deleteNonce
  checked : ∀ request ∈ state.requests, request.Checked
  authentic : ∀ login ∈ state.logins, login.Authentic state

section Steps

variable {state : WalletState} {index : Nat} {request : LoginRequest}

theorem holds_iff {nonce : String} :
    request.holds nonce = true ↔ request.read = some nonce ∧ request.next.isOpen = true := by
  unfold LoginRequest.holds
  rw [Bool.and_eq_true, decide_eq_true_iff]

theorem WalletSession.Authentic.issued {login : WalletSession} {after : WalletState}
    (authentic : login.Authentic state) (more : ∀ pair ∈ state.issued, pair ∈ after.issued) :
    login.Authentic after := by
  obtain ⟨email, signed, nonce, shown, read, member⟩ := authentic
  exact ⟨email, signed, nonce, shown, read, more _ member⟩

section

variable (sound : WalletSound state)
include sound

theorem WalletSound.issued_unique {first second : String × String}
    (isFirst : first ∈ state.issued) (isSecond : second ∈ state.issued)
    (same : first.2 = second.2) : first = second :=
  List.inj_on_of_nodup_map sound.distinct isFirst isSecond same

theorem WalletSound.elapse (now : Nat) :
    WalletSound { state with now } :=
  ⟨sound.distinct, sound.stored, sound.reads, sound.spends, sound.once, sound.unused,
    sound.checked, fun login member => (sound.authentic login member).issued fun _ => id⟩

theorem WalletSound.removeNonce (email : String) :
    WalletSound (state.setNonce email none) := by
  have remains : ∀ other nonce, (state.setNonce email none).nonces other = some nonce →
      state.nonces other = some nonce := by
    intro other nonce found
    change (if other = email then none else state.nonces other) = some nonce at found
    split at found
    · cases found
    · exact found
  refine ⟨sound.distinct, ?_, sound.reads, sound.spends, sound.once, ?_, sound.checked, ?_⟩
  · exact fun other nonce found => sound.stored other nonce (remains other nonce found)
  · exact fun other nonce found => sound.unused other nonce (remains other nonce found)
  · exact fun login member => (sound.authentic login member).issued fun _ => id

theorem WalletSound.getNonce (email nonce : String) (fresh : nonce ∉ state.issued.map Prod.snd) :
    WalletSound (state.issue email nonce) := by
  have more : ∀ pair ∈ state.issued, pair ∈ state.issued ++ [(email, nonce)] :=
    fun _ => List.mem_append_left _
  have unknown : ∀ {other}, (other, nonce) ∉ state.issued :=
    fun member => fresh (List.mem_map_of_mem (f := Prod.snd) member)
  refine ⟨?_, ?_, ?_, ?_, sound.once, ?_, sound.checked, ?_⟩
  · change ((state.issued ++ [(email, nonce)]).map Prod.snd).Nodup
    rw [List.map_append, List.nodup_append]
    refine ⟨sound.distinct, List.nodup_singleton _, ?_⟩
    intro old member new single same
    rw [List.mem_singleton.mp single] at same
    rw [same] at member
    exact fresh member
  · intro other stored found
    change (if other = email then some nonce else state.nonces other) = some stored at found
    split at found
    · rename_i own
      cases found
      rw [own]
      exact List.mem_append_right _ (List.mem_singleton.mpr rfl)
    · exact more _ (sound.stored other stored found)
  · exact fun one member stored read => more _ (sound.reads one member stored read)
  · exact fun login member stored read => more _ (sound.spends login member stored read)
  · intro other stored found
    change (if other = email then some nonce else state.nonces other) = some stored at found
    split at found
    · cases found
      constructor
      · rw [List.countP_eq_zero]
        intro login member spent
        exact unknown (sound.spends login member nonce (of_decide_eq_true spent))
      · intro one member held
        exact absurd (sound.reads one member nonce (holds_iff.mp held).1) unknown
    · exact sound.unused other stored found
  · exact fun login member => (sound.authentic login member).issued more

end

theorem beginLogin_checked (dto : JWTDTO) :
    ({ dto, read := none, next := beginLogin dto } : LoginRequest).Checked := by
  by_cases silent : dto.message = ""
  · simp only [LoginRequest.Checked, beginLogin, if_pos silent]
    exact fun spoken => absurd silent spoken
  · cases shown : nonceInMessage dto.message with
    | none => simp only [LoginRequest.Checked, beginLogin, if_neg silent, shown]
    | some nonce => simp only [LoginRequest.Checked, beginLogin, if_neg silent, shown]

section

variable (sound : WalletSound state)
include sound

theorem WalletSound.begin (dto : JWTDTO) :
    WalletSound (state.begin { dto, read := none, next := beginLogin dto }) := by
  have closed : ∀ nonce,
      ({ dto, read := none, next := beginLogin dto } : LoginRequest).holds nonce = false :=
    fun _ => rfl
  refine ⟨sound.distinct, sound.stored, ?_, sound.spends, ?_, ?_, ?_, ?_⟩
  · intro one member nonce read
    rcases List.mem_append.mp member with before | now
    · exact sound.reads one before nonce read
    · rw [List.mem_singleton.mp now] at read
      cases read
  · intro nonce
    unfold WalletState.uses WalletState.begin
    rw [weigh_snoc, indicator_of_other (closed nonce)]
    exact sound.once nonce
  · intro email nonce found
    refine ⟨(sound.unused email nonce found).1, ?_⟩
    intro one member held
    rcases List.mem_append.mp member with before | now
    · exact (sound.unused email nonce found).2 one before held
    · rw [List.mem_singleton.mp now, closed nonce] at held
      cases held
  · intro one member
    rcases List.mem_append.mp member with before | now
    · exact sound.checked one before
    · rw [List.mem_singleton.mp now]
      exact beginLogin_checked dto
  · exact fun login member => (sound.authentic login member).issued fun _ => id

section

variable (present : state.requests[index]? = some request)
include present

theorem WalletSound.place {next : LoginRequest} (same : next.dto = request.dto)
    (reads : ∀ nonce, next.read = some nonce → (request.dto.email, nonce) ∈ state.issued)
    (holds : ∀ nonce, next.holds nonce = true → request.holds nonce = true ∨ state.uses nonce = 0)
    (unused : ∀ email nonce, state.nonces email = some nonce → next.holds nonce = true →
      next.next = .deleteNonce) (checked : next.Checked) :
    WalletSound (state.place index next) := by
  refine ⟨sound.distinct, sound.stored, ?_, sound.spends, ?_, ?_, ?_, ?_⟩
  · apply forall_mem_set _ _ _ sound.reads
    intro nonce read
    rw [same]
    exact reads nonce read
  · intro nonce
    have before := sound.once nonce
    have moved := weigh_set (indicator (LoginRequest.holds nonce)) state.requests index request next
      present
    unfold WalletState.uses at before ⊢
    change state.logins.countP (WalletSession.spent nonce) +
      weigh (indicator (LoginRequest.holds nonce)) (state.requests.set index next) ≤ 1
    cases held : next.holds nonce with
    | false =>
        rw [indicator_of_other held] at moved
        omega
    | true =>
        rw [indicator_of_chosen held] at moved
        rcases holds nonce held with already | idle
        · rw [indicator_of_chosen already] at moved
          omega
        · unfold WalletState.uses at idle
          omega
  · intro email nonce found
    refine ⟨(sound.unused email nonce found).1, ?_⟩
    exact forall_mem_set _ _ _ (sound.unused email nonce found).2 (unused email nonce found)
  · exact forall_mem_set _ _ _ sound.checked checked
  · exact fun login member => (sound.authentic login member).issued fun _ => id

theorem WalletSound.end {next : LoginCall} (closed : next.isOpen = false)
    (checked : ({ request with next } : LoginRequest).Checked) :
    WalletSound (state.place index { request with next }) := by
  have free : ∀ nonce, ({ request with next } : LoginRequest).holds nonce = true → False := by
    intro nonce held
    have opened := (holds_iff.mp held).2
    rw [closed] at opened
    cases opened
  have member := List.mem_of_getElem? present
  exact sound.place present rfl (sound.reads request member) (fun nonce held => (free nonce held).elim)
    (fun email nonce _ held => (free nonce held).elim) checked

theorem WalletSound.replaced :
    WalletSound (state.place index request) := by
  have member := List.mem_of_getElem? present
  exact sound.place present rfl (sound.reads request member) (fun _ => Or.inl)
    (fun email nonce stored => (sound.unused email nonce stored).2 request member)
    (sound.checked request member)

end

theorem WalletSound.fails (failure : ServiceError)
    (present : state.requests[index]? = some request) :
    WalletSound (state.place index { request with next := .threw failure }) :=
  sound.end present rfl trivial

/-! ### The calls of a login -/

theorem WalletSound.readNonce {nonce : String} (present : state.requests[index]? = some request)
    (call : request.next = .readNonce nonce)
    (alone : state.nonces request.dto.email = some nonce →
      ∀ other ∈ state.requests, other.next = .deleteNonce → other.read ≠ some nonce) :
    WalletSound
      (state.place index (afterReadNonce request nonce (state.nonces request.dto.email))) := by
  have member := List.mem_of_getElem? present
  have shown := sound.checked request member
  simp only [LoginRequest.Checked, call] at shown
  unfold afterReadNonce
  split
  · exact sound.fails _ present
  · rename_i found stored
    split
    · exact sound.fails _ present
    · rename_i accepted
      have same : found = nonce := Classical.not_not.mp (not_or.mp accepted).2
      subst same
      obtain ⟨unspent, holders⟩ := sound.unused _ _ stored
      have idle : state.uses found = 0 := by
        unfold WalletState.uses
        rw [unspent, Nat.zero_add]
        apply weigh_eq_zero
        intro other inRequests
        cases held : other.holds found with
        | false => exact indicator_of_other held
        | true =>
            have deleting := holders other inRequests held
            exact absurd (holds_iff.mp held).1 (alone stored other inRequests deleting)
      have read : ∀ {other : String}, some found = some other → found = other := Option.some.inj
      refine sound.place present rfl ?_ ?_ (fun _ _ _ _ => rfl) ⟨found, shown, rfl⟩
      · intro other own
        cases read own
        exact sound.stored _ _ stored
      · intro other held
        cases read (holds_iff.mp held).1
        exact Or.inr idle

theorem WalletSound.deleteNonce (present : state.requests[index]? = some request)
    (call : request.next = .deleteNonce) :
    WalletSound ((state.setNonce request.dto.email none).place index
      { request with next := .findUser }) := by
  have member := List.mem_of_getElem? present
  have shown := sound.checked request member
  simp only [LoginRequest.Checked, call] at shown
  refine (sound.removeNonce request.dto.email).place present rfl (sound.reads request member) ?_ ?_
    fun _ => shown
  · intro nonce held
    refine Or.inl (holds_iff.mpr ⟨(holds_iff.mp held).1, ?_⟩)
    rw [call]
    rfl
  · intro email nonce stored held
    change (if email = request.dto.email then none else state.nonces email) = some nonce at stored
    split at stored
    · cases stored
    · rename_i elsewhere
      have first := sound.stored email nonce stored
      have second := sound.reads request member nonce (holds_iff.mp held).1
      exact absurd (congrArg Prod.fst (sound.issued_unique first second rfl)) elsewhere

end

theorem findAccountByEmail_email {accounts : List User} {email : String} {user : User}
    (found : findAccountByEmail accounts email = some user) : user.profile.email = some email := by
  have chosen := List.find?_some found
  exact of_decide_eq_true chosen

theorem WalletSound.findUser (env : AuthEnv) (accounts : List User) (sound : WalletSound state)
    (present : state.requests[index]? = some request) (call : request.next = .findUser)
    (own : ∀ user ∈ findAccountByEmail accounts request.dto.email,
      request.dto.message ≠ "" ∧ request.dto.SignedBy user) :
    WalletSound (state.place index
      { request with
        next := afterFindAccount env state.now
          (findAccountByEmail accounts request.dto.email) }) := by
  have member := List.mem_of_getElem? present
  have shown := sound.checked request member
  simp only [LoginRequest.Checked, call] at shown
  cases found : findAccountByEmail accounts request.dto.email with
  | none => exact sound.fails _ present
  | some user =>
      obtain ⟨spoken, signed⟩ := own user found
      unfold afterFindAccount
      dsimp only
      split
      · exact sound.fails _ present
      · refine sound.place present rfl (sound.reads request member) ?_ ?_
          ⟨shown spoken, signed, findAccountByEmail_email found⟩
        · intro nonce held
          refine Or.inl (holds_iff.mpr ⟨(holds_iff.mp held).1, ?_⟩)
          rw [call]
          rfl
        · intro email nonce stored held
          have before : request.holds nonce = true := by
            refine holds_iff.mpr ⟨(holds_iff.mp held).1, ?_⟩
            rw [call]
            rfl
          have deleting := (sound.unused email nonce stored).2 request member before
          rw [call] at deleting
          cases deleting

theorem WalletSound.storeRefreshToken (sound : WalletSound state) {user : User}
    (present : state.requests[index]? = some request)
    (call : request.next = .storeRefreshToken user) :
    WalletSound ((state.succeed { dto := request.dto, read := request.read, user }).place index
      { request with next := .returned user }) := by
  have member := List.mem_of_getElem? present
  have shown := sound.checked request member
  simp only [LoginRequest.Checked, call] at shown
  obtain ⟨⟨nonce, inMessage, read⟩, signed, email⟩ := shown
  have issued := sound.reads request member nonce read
  have held : request.holds nonce = true := by
    refine holds_iff.mpr ⟨read, ?_⟩
    rw [call]
    rfl
  have closed : ∀ other, ({ request with next := .returned user } : LoginRequest).holds other =
      false := by
    intro other
    unfold LoginRequest.holds
    rw [LoginCall.isOpen, Bool.and_false]
  have spentOther : ∀ other, other ≠ nonce →
      WalletSession.spent other { dto := request.dto, read := request.read, user } = false := by
    intro other different
    unfold WalletSession.spent
    rw [read]
    exact decide_eq_false fun same => different (Option.some.inj same).symm
  refine ⟨sound.distinct, sound.stored, ?_, ?_, ?_, ?_, ?_, ?_⟩
  · exact forall_mem_set _ _ _ sound.reads (sound.reads request member)
  · intro login inLogins other seen
    rcases List.mem_append.mp inLogins with before | now
    · exact sound.spends login before other seen
    · rw [List.mem_singleton.mp now] at seen ⊢
      exact sound.reads request member other seen
  · intro other
    have before := sound.once other
    have moved := weigh_set (indicator (LoginRequest.holds other)) state.requests index request
      { request with next := .returned user } present
    rw [indicator_of_other (closed other)] at moved
    unfold WalletState.uses at before ⊢
    change (state.logins ++ [_]).countP _ + weigh _ (state.requests.set index _) ≤ 1
    rw [List.countP_append, List.countP_singleton]
    by_cases same : other = nonce
    · subst same
      rw [indicator_of_chosen held] at moved
      split
      · omega
      · omega
    · rw [spentOther other same, if_neg Bool.false_ne_true]
      omega
  · intro address other found
    have unused := sound.unused address other found
    have different : other ≠ nonce := by
      rintro rfl
      have deleting := unused.2 request member held
      rw [call] at deleting
      cases deleting
    constructor
    · change (state.logins ++ [_]).countP _ = 0
      rw [List.countP_append, List.countP_singleton, unused.1, spentOther other different,
        if_neg Bool.false_ne_true]
    · apply forall_mem_set _ _ _ unused.2
      intro stillHeld
      rw [closed other] at stillHeld
      cases stillHeld
  · exact forall_mem_set _ _ _ sound.checked trivial
  · intro login inLogins
    rcases List.mem_append.mp inLogins with before | now
    · exact (sound.authentic login before).issued fun _ => id
    · rw [List.mem_singleton.mp now]
      exact ⟨email, signed, nonce, inMessage, read, issued⟩

end Steps

/-! ### Runs -/

theorem walletStep_sound (env : AuthEnv) (accounts : List User) {state after : WalletState}
    {label : WalletLabel} (sound : WalletSound state) (own : OwnWallet accounts state label)
    (moved : walletStep env accounts state label = some after) : WalletSound after := by
  cases label with
  | elapse milliseconds =>
      cases moved
      exact sound.elapse _
  | getNonce email nonce =>
      simp only [walletStep] at moved
      split at moved
      · cases moved
        exact sound
      · split at moved
        · cases moved
        · rename_i fresh
          cases moved
          exact sound.getNonce email nonce fresh
  | removeNonce email =>
      cases moved
      exact sound.removeNonce email
  | login dto =>
      cases moved
      exact sound.begin dto
  | step index =>
      simp only [walletStep] at moved
      split at moved
      · cases moved
      · rename_i request present
        cases moved
        have allowed := own request present
        unfold OwnRequest at allowed
        unfold performLogin
        split
        · rename_i nonce call
          rw [call] at allowed
          exact sound.readNonce present call allowed
        · rename_i call
          exact sound.deleteNonce present call
        · rename_i call
          rw [call] at allowed
          exact sound.findUser env accounts present call allowed
        · rename_i user call
          exact sound.storeRefreshToken present call
        · rename_i user call
          exact sound.replaced present
        · exact sound.replaced present
  | fails index failure =>
      simp only [walletStep] at moved
      split at moved
      · cases moved
      · rename_i request present
        cases moved
        exact sound.fails failure present

theorem noLogins_sound : WalletSound noLogins where
  distinct := List.nodup_nil
  stored _ _ found := nomatch found
  reads _ member := absurd member List.not_mem_nil
  spends _ member := absurd member List.not_mem_nil
  once _ := Nat.zero_le 1
  unused _ _ found := nomatch found
  checked _ member := absurd member List.not_mem_nil
  authentic _ member := absurd member List.not_mem_nil

/-- Every login carries the account's signature over a message with the nonce that
was stored for it, and a nonce leads to one login at most. -/
theorem walletMachine_authentic (env : AuthEnv) (accounts : List User) (state : WalletState)
    (reached : (walletMachine env accounts).Reachable (OwnWallet accounts) state) :
    (∀ login ∈ state.logins, login.Authentic state) ∧
      ∀ nonce, state.logins.countP (fun login => decide (login.read = some nonce)) ≤ 1 := by
  have sound : WalletSound state := by
    apply reached.invariant WalletSound
    · rintro initial rfl
      exact noLogins_sound
    · exact fun before label after sound own moved => walletStep_sound env accounts sound own moved
  refine ⟨sound.authentic, ?_⟩
  intro nonce
  exact Nat.le_trans (Nat.le_add_right _ _) (sound.once nonce)

/-! An account with a wallet, and a login that its owner begins. -/

def walletUser : User :=
  { twoFactorUser with
    profile := { twoFactorUser.profile with walletAddress := some "0xA1" } }

def loginMessage : String := "Audioblocks Login\nNonce: 5f0c\nEmail: a@b.com"

def ownerLogin : JWTDTO :=
  { signature := .signed "0xA1" loginMessage, message := loginMessage, email := "a@b.com" }

def loginSteps : List WalletLabel :=
  .getNonce "a@b.com" "5f0c" :: .login ownerLogin :: List.replicate 4 (.step 0)

theorem walletMachine_authentic_owner :
    ∃ state, (walletMachine oneSecretEnv [walletUser]).run noLogins loginSteps = some state ∧
      state.logins ≠ [] ∧ (∀ login ∈ state.logins, login.Authentic state) ∧
        ∀ nonce, state.logins.countP (fun login => decide (login.read = some nonce)) ≤ 1 := by
  have executed : ∃ state,
      (walletMachine oneSecretEnv [walletUser]).run noLogins loginSteps = some state ∧
        (walletMachine oneSecretEnv [walletUser]).Permits (OwnWallet [walletUser]) noLogins
          loginSteps ∧ state.logins ≠ [] := ⟨_, rfl, by decide +kernel, by decide +kernel⟩
  obtain ⟨state, ran, permitted, some⟩ := executed
  exact ⟨state, ran, some, walletMachine_authentic oneSecretEnv [walletUser] state
    (.of_run loginSteps (.start rfl) permitted ran)⟩

/-- The body of somebody who asked for a nonce and has no key. -/
def strangerLogin : JWTDTO :=
  { signature := .other "0x", message := "Nonce: 5f0c", email := "a@b.com" }

def strangerSteps : List WalletLabel :=
  .getNonce "a@b.com" "5f0c" :: .login strangerLogin :: List.replicate 4 (.step 0)

/-- Both requests read the nonce before either deletes it. -/
def racingSteps : List WalletLabel :=
  [.getNonce "a@b.com" "5f0c", .login ownerLogin, .login ownerLogin, .step 0, .step 1] ++
    List.replicate 3 (.step 0) ++ List.replicate 3 (.step 1)

theorem walletMachine_admits_stranger :
    (∃ state, (walletMachine oneSecretEnv [walletUser]).run noLogins strangerSteps = some state ∧
      ∃ login ∈ state.logins, ¬login.dto.SignedBy login.user) ∧
        ∃ state, (walletMachine oneSecretEnv [walletUser]).run noLogins racingSteps = some state ∧
          state.logins.countP (fun login => decide (login.read = some "5f0c")) = 2 :=
  ⟨⟨_, rfl, by decide +kernel⟩, ⟨_, rfl, by decide +kernel⟩⟩

end AudioBlock.Auth
