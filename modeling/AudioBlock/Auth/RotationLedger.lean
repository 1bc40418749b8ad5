/-
Refresh-token rotation, one awaited database call at a time.

A request is at the database call that it awaits next.  A step performs that call
and the code after it up to the next await; any number of requests take their
steps in any order.  `refreshToken`, `privyRefreshToken` and `logout` begin a
request; a login stores the first token of a new family in one step.  Accounts do
not change here, and a row's key is its unique token.  Audit records and access
tokens are left out.

The state also records history: the tokens that a rotation has revoked, the
exchanges made, and for each request the family of the token it presented if that
token was rotated already.
-/
import AudioBlock.Auth.Tokens
import AudioBlock.Foundation.Machine
import AudioBlock.Foundation.Weighing

namespace AudioBlock.Auth

open AudioBlock.Foundation

/-- The database call that a request awaits next. -/
inductive RefreshCall
  | findToken (payloadId : String) (token : SignedToken)
  | findUser (payloadId : String) (found : RefreshToken)
  | privyFindUser (userId : String) (token : SignedToken)
  | privyFindToken (user : User) (token : SignedToken)
  | saveRevoked (user : User) (found : RefreshToken)
  | storeSuccessor (old : SignedToken) (successor : RefreshToken)
  | revokeFamily (familyId : Nat)
  | revokeUser (userId : String)
  | finished
  deriving DecidableEq

structure RefreshRequest where
  replays : Option Nat
  next : RefreshCall
  deriving DecidableEq

structure RotationState where
  now : Nat
  issued : Nat
  rows : List RefreshToken
  requests : List RefreshRequest
  rotated : List SignedToken
  exchanges : List (SignedToken × SignedToken)
  deriving DecidableEq

namespace RotationState

def findToken (state : RotationState) (token : SignedToken) : Option RefreshToken :=
  state.rows.find? fun row => decide (row.token = token)

def revokeWhere (state : RotationState) (chosen : RefreshToken → Bool) : RotationState :=
  { state with
    rows := state.rows.map fun row => if chosen row then { row with revoked := true } else row }

def store (state : RotationState) (row : RefreshToken) : RotationState :=
  { state with rows := state.rows ++ [row] }

/-- Two identifiers are drawn: the one of a token and the one of a family. -/
def draw (state : RotationState) : RotationState :=
  { state with issued := state.issued + 2 }

def rotate (state : RotationState) (token : SignedToken) : RotationState :=
  { state with rotated := state.rotated ++ [token] }

def exchange (state : RotationState) (old new : SignedToken) : RotationState :=
  { state with exchanges := state.exchanges ++ [(old, new)] }

def replayedFamily (state : RotationState) (token : SignedToken) : Option Nat :=
  if token ∈ state.rotated then (state.findToken token).bind RefreshToken.familyId else none

def begin (state : RotationState) (replays : Option Nat) (next : RefreshCall) : RotationState :=
  { state with requests := state.requests ++ [{ replays, next }] }

end RotationState

def findAccount (accounts : List User) (id : String) : Option User :=
  accounts.find? fun user => decide (user.id = id)

/-! ### How requests begin -/

def beginRefreshToken (env : AuthEnv) (now : Nat) (token : SignedToken) : RefreshCall :=
  match token.verify env.refreshSecret now with
  | .error _ => .finished
  | .ok payload => if payload.id = "" then .finished else .findToken payload.id token

def beginPrivyRefreshToken (userId : String) (token : SignedToken) : RefreshCall :=
  if userId = "" then .finished else .privyFindUser userId token

def beginLogout (env : AuthEnv) (now : Nat) (token : SignedToken) : RefreshCall :=
  match token.verify env.refreshSecret now with
  | .error _ => .finished
  | .ok payload => if payload.id = "" then .finished else .revokeUser payload.id

/-! ### What a step of a request does -/

def checkFound (now : Nat) (found : RefreshToken) (proceed : RefreshCall) : RefreshCall :=
  if found.revoked then
    match found.familyId with
    | none => .finished
    | some familyId => .revokeFamily familyId
  else if found.expiresAt < now then .finished
  else proceed

def saveRevoked (env : AuthEnv) (state : RotationState) (user : User) (found : RefreshToken) :
    RotationState × RefreshCall :=
  let revoked :=
    (state.revokeWhere fun row => decide (row.token = found.token)).rotate found.token
  match signToken env state.now user with
  | .error _ => (revoked, .finished)
  | .ok _ =>
      (revoked.draw,
        .storeSuccessor found.token
          (newRefreshToken state.now (state.issued + 1) user.id
            (signRefreshToken env state.now state.issued user) found.familyId))

def afterFindToken (state : RotationState) (payloadId : String) (token : SignedToken) :
    RefreshCall :=
  match state.findToken token with
  | none => .finished
  | some found => checkFound state.now found (.findUser payloadId found)

def afterFindUser (accounts : List User) (payloadId : String) (found : RefreshToken) :
    RefreshCall :=
  match findAccount accounts payloadId with
  | none => .finished
  | some user => .saveRevoked user found

def afterPrivyFindUser (accounts : List User) (userId : String) (token : SignedToken) :
    RefreshCall :=
  match findAccount accounts userId with
  | none => .finished
  | some user => .privyFindToken user token

def afterPrivyFindToken (state : RotationState) (user : User) (token : SignedToken) :
    RefreshCall :=
  match state.findToken token with
  | none => .finished
  | some found =>
      if found.userId = user.id then checkFound state.now found (.saveRevoked user found)
      else .revokeUser user.id

def performCall (env : AuthEnv) (accounts : List User) (state : RotationState) :
    RefreshCall → RotationState × RefreshCall
  | .findToken payloadId token => (state, afterFindToken state payloadId token)
  | .findUser payloadId found => (state, afterFindUser accounts payloadId found)
  | .privyFindUser userId token => (state, afterPrivyFindUser accounts userId token)
  | .privyFindToken user token => (state, afterPrivyFindToken state user token)
  | .saveRevoked user found => saveRevoked env state user found
  | .storeSuccessor old successor =>
      ((state.store successor).exchange old successor.token, .finished)
  | .revokeFamily familyId =>
      (state.revokeWhere fun row => decide (row.familyId = some familyId), .finished)
  | .revokeUser userId => (state.revokeWhere fun row => decide (row.userId = userId), .finished)
  | .finished => (state, .finished)

inductive RotationLabel
  | elapse (milliseconds : Nat)
  | login (user : User)
  | refreshToken (token : SignedToken)
  | privyRefreshToken (userId : String) (token : SignedToken)
  | logout (token : SignedToken)
  | step (index : Nat)

def RotationState.proceed (state : RotationState) (index : Nat) (request : RefreshRequest)
    (next : RefreshCall) : RotationState :=
  { state with requests := state.requests.set index { request with next } }

def loginRow (env : AuthEnv) (state : RotationState) (user : User) : RefreshToken :=
  newRefreshToken state.now (state.issued + 1) user.id
    (signRefreshToken env state.now state.issued user) none

def rotationStep (env : AuthEnv) (accounts : List User) (state : RotationState) :
    RotationLabel → Option RotationState
  | .elapse milliseconds => some { state with now := state.now + milliseconds }
  | .login user => some (state.store (loginRow env state user)).draw
  | .refreshToken token =>
      some (state.begin (state.replayedFamily token) (beginRefreshToken env state.now token))
  | .privyRefreshToken userId token =>
      some (state.begin (state.replayedFamily token) (beginPrivyRefreshToken userId token))
  | .logout token => some (state.begin none (beginLogout env state.now token))
  | .step index =>
      match state.requests[index]? with
      | none => none
      | some request =>
          let (after, next) := performCall env accounts state request.next
          some (after.proceed index request next)

def rotationMachine (env : AuthEnv) (accounts : List User) :
    Machine RotationState RotationLabel where
  initial state :=
    state.rows = [] ∧ state.requests = [] ∧ state.rotated = [] ∧ state.exchanges = []
  step := rotationStep env accounts

/-! ### The condition on a step -/

def NotReplayed (state : RotationState) (familyId : Option Nat) : Prop :=
  ∀ request ∈ state.requests, request.next = .finished → request.replays ≠ none →
    request.replays ≠ familyId

/-- A rotation is not overtaken: another request has not rotated the row when it
is saved, and no reuse of the family was answered before the successor is stored. -/
def CallAlone (state : RotationState) : RefreshCall → Prop
  | .saveRevoked _ found => found.token ∉ state.rotated
  | .storeSuccessor _ successor => NotReplayed state successor.familyId
  | _ => True

def RotatesAlone (env : AuthEnv) (accounts : List User) (state : RotationState) :
    RotationLabel → Prop
  | .step index => ∀ request ∈ state.requests[index]?, CallAlone state request.next
  | .refreshToken token =>
      token ∈ state.rotated →
        token.secret = env.refreshSecret ∧ jwtSeconds state.now < token.claims.exp ∧
          token.claims.id ≠ ""
  | .privyRefreshToken userId token =>
      token ∈ state.rotated →
        userId ≠ "" ∧ findAccount accounts userId ≠ none ∧
          ∀ row ∈ state.rows, row.token = token → row.userId = userId
  | _ => True

instance (state : RotationState) (familyId : Option Nat) : Decidable (NotReplayed state familyId) :=
  inferInstanceAs (Decidable (∀ request ∈ state.requests, _))

instance (state : RotationState) : (call : RefreshCall) → Decidable (CallAlone state call)
  | .saveRevoked _ found => inferInstanceAs (Decidable (found.token ∉ state.rotated))
  | .storeSuccessor _ successor =>
      inferInstanceAs (Decidable (NotReplayed state successor.familyId))
  | .findToken .. | .findUser .. | .privyFindUser .. | .privyFindToken .. | .revokeFamily _
  | .revokeUser _ | .finished => isTrue trivial

instance (env : AuthEnv) (accounts : List User) (state : RotationState) :
    (label : RotationLabel) → Decidable (RotatesAlone env accounts state label)
  | .step index =>
      inferInstanceAs (Decidable (∀ request ∈ state.requests[index]?, CallAlone state request.next))
  | .refreshToken token => inferInstanceAs (Decidable (token ∈ state.rotated → _))
  | .privyRefreshToken _ token => inferInstanceAs (Decidable (token ∈ state.rotated → _))
  | .elapse _ | .login _ | .logout _ => isTrue trivial

/-!
### The heads of the families

A family has one head: the stored row that no rotation has revoked, or the
successor that a request is about to store.  `Ledger` counts heads, tokens and
exchanges over both places together, so that a token leaves one place in the step
in which it enters the other.
-/

/-- The exchange that a request is about to store. -/
def RefreshCall.stores : RefreshCall → Option (SignedToken × RefreshToken)
  | .storeSuccessor old successor => some (old, successor)
  | _ => none

def pendingWeight (chosen : SignedToken × RefreshToken → Bool) (request : RefreshRequest) : Nat :=
  match request.next.stores with
  | none => 0
  | some entry => if chosen entry then 1 else 0

def hasToken (token : SignedToken) (row : RefreshToken) : Bool :=
  decide (row.token = token)

def isHead (rotated : List SignedToken) (family : Nat) (row : RefreshToken) : Bool :=
  decide (row.familyId = some family ∧ row.token ∉ rotated)

def RefreshToken.IdentifiedBelow (row : RefreshToken) (issued : Nat) : Prop :=
  (∃ jti, row.token.claims.jti = some jti ∧ jti < issued) ∧
    ∃ family, row.familyId = some family ∧ family < issued

structure Ledger (state : RotationState) : Prop where
  identified : ∀ row ∈ state.rows, row.IdentifiedBelow state.issued
  pendingIdentified : ∀ request ∈ state.requests, ∀ entry, request.next.stores = some entry →
    entry.2.IdentifiedBelow state.issued
  distinct : ∀ token,
    weigh (indicator (hasToken token)) state.rows +
      weigh (pendingWeight fun entry => decide (entry.2.token = token)) state.requests ≤ 1
  oneHead : ∀ family,
    weigh (indicator (isHead state.rotated family)) state.rows +
      weigh (pendingWeight fun entry => decide (entry.2.familyId = some family))
        state.requests ≤ 1
  rotatedOnce : state.rotated.Nodup
  rotatedStored : ∀ token ∈ state.rotated, ∃ row ∈ state.rows, row.token = token
  exchanged : ∀ token,
    weigh (indicator fun exchange : SignedToken × SignedToken => decide (exchange.1 = token))
        state.exchanges +
      weigh (pendingWeight fun entry => decide (entry.1 = token)) state.requests ≤
        state.rotated.count token

variable (chosen : SignedToken × RefreshToken → Bool)

theorem pendingWeight_idle {request : RefreshRequest} (idle : request.next.stores = none) :
    pendingWeight chosen request = 0 := by
  unfold pendingWeight
  rw [idle]

theorem pendingWeight_storing {request : RefreshRequest} {entry : SignedToken × RefreshToken}
    (storing : request.next.stores = some entry) :
    pendingWeight chosen request = if chosen entry then 1 else 0 := by
  unfold pendingWeight
  rw [storing]

variable {row : RefreshToken}

theorem RefreshToken.IdentifiedBelow.mono {earlier later : Nat}
    (known : row.IdentifiedBelow earlier) (grown : earlier ≤ later) :
    row.IdentifiedBelow later := by
  obtain ⟨⟨jti, drawn, before⟩, family, joined, below⟩ := known
  exact ⟨⟨jti, drawn, Nat.lt_of_lt_of_le before grown⟩, family, joined,
    Nat.lt_of_lt_of_le below grown⟩

theorem RefreshToken.IdentifiedBelow.token_ne {issued : Nat} (known : row.IdentifiedBelow issued)
    {token : SignedToken} (fresh : token.claims.jti = some issued) : row.token ≠ token := by
  rintro rfl
  obtain ⟨⟨jti, drawn, before⟩, _⟩ := known
  rw [drawn] at fresh
  exact absurd (Option.some.inj fresh) (Nat.ne_of_lt before)

theorem RefreshToken.IdentifiedBelow.family_ne {issued family : Nat}
    (known : row.IdentifiedBelow issued) (fresh : issued ≤ family) :
    row.familyId ≠ some family := by
  obtain ⟨_, joined, isSome, below⟩ := known
  rw [isSome]
  intro same
  cases same
  exact absurd below (Nat.not_lt_of_le fresh)

namespace RotationState

variable {state : RotationState}

theorem weigh_revokeWhere (weight : RefreshToken → Nat) (chosen : RefreshToken → Bool)
    (blind : ∀ row, weight { row with revoked := true } = weight row) :
    weigh weight (state.revokeWhere chosen).rows = weigh weight state.rows := by
  change weigh weight (state.rows.map _) = _
  rw [weigh_map]
  congr 1
  funext row
  split
  · exact blind row
  · rfl

theorem findToken_mem {token : SignedToken} {found : RefreshToken}
    (isFound : state.findToken token = some found) :
    found ∈ state.rows ∧ found.token = token := by
  have named := List.find?_some isFound
  exact ⟨List.mem_of_find?_eq_some isFound, of_decide_eq_true named⟩

end RotationState

/-! ### The ledger -/

section Ledger

variable {state : RotationState} {index : Nat} {request : RefreshRequest}

section

variable (ledger : Ledger state)
include ledger

theorem Ledger.revokeWhere (chosen : RefreshToken → Bool) :
    Ledger (state.revokeWhere chosen) where
  identified row member := by
    obtain ⟨before, present, token, family, _, _⟩ := revokedRow_before member
    have known := ledger.identified before present
    unfold RefreshToken.IdentifiedBelow at known ⊢
    rw [token, family]
    exact known
  pendingIdentified := ledger.pendingIdentified
  distinct token := by
    rw [RotationState.weigh_revokeWhere _ _ fun _ => rfl]
    exact ledger.distinct token
  oneHead family := by
    rw [RotationState.weigh_revokeWhere _ _ fun _ => rfl]
    exact ledger.oneHead family
  rotatedOnce := ledger.rotatedOnce
  rotatedStored token rotated := by
    obtain ⟨row, member, same⟩ := ledger.rotatedStored token rotated
    obtain ⟨after, present, kept, _⟩ := revokedRow_after chosen member
    exact ⟨after, present, kept.trans same⟩
  exchanged := ledger.exchanged

theorem Ledger.proceed (present : state.requests[index]? = some request) {next : RefreshCall}
    (before : request.next.stores = none) (after : next.stores = none) :
    Ledger (state.proceed index request next) := by
  have same : ∀ chosen, weigh (pendingWeight chosen) (state.proceed index request next).requests =
      weigh (pendingWeight chosen) state.requests := by
    intro chosen
    apply weigh_set_same _ _ _ _ _ present
    rw [pendingWeight_idle chosen before, pendingWeight_idle chosen after]
  refine ⟨ledger.identified, ?_, ?_, ?_, ledger.rotatedOnce, ledger.rotatedStored, ?_⟩
  · apply forall_mem_set _ _ _ ledger.pendingIdentified
    intro entry stored
    rw [after] at stored
    cases stored
  · intro token
    rw [same]
    exact ledger.distinct token
  · intro family
    rw [same]
    exact ledger.oneHead family
  · intro token
    rw [same]
    exact ledger.exchanged token

theorem Ledger.begin (replays : Option Nat) {next : RefreshCall} (idle : next.stores = none) :
    Ledger (state.begin replays next) := by
  have same : ∀ chosen, weigh (pendingWeight chosen) (state.begin replays next).requests =
      weigh (pendingWeight chosen) state.requests := by
    intro chosen
    exact (weigh_snoc _ _ _).trans (congrArg _ (pendingWeight_idle chosen idle))
  refine ⟨ledger.identified, ?_, ?_, ?_, ledger.rotatedOnce, ledger.rotatedStored, ?_⟩
  · intro other member entry stored
    rcases List.mem_append.mp member with old | new
    · exact ledger.pendingIdentified other old entry stored
    · rw [List.mem_singleton.mp new, idle] at stored
      cases stored
  · intro token
    rw [same]
    exact ledger.distinct token
  · intro family
    rw [same]
    exact ledger.oneHead family
  · intro token
    rw [same]
    exact ledger.exchanged token

theorem Ledger.fresh_token {token : SignedToken} (fresh : token.claims.jti = some state.issued) :
    weigh (indicator (hasToken token)) state.rows = 0 ∧
      weigh (pendingWeight fun entry => decide (entry.2.token = token)) state.requests = 0 := by
  refine ⟨weigh_eq_zero _ _ ?_, weigh_eq_zero _ _ ?_⟩
  · intro row member
    exact indicator_of_other (decide_eq_false ((ledger.identified row member).token_ne fresh))
  · intro other member
    cases stored : other.next.stores with
    | none => exact pendingWeight_idle _ stored
    | some entry =>
        rw [pendingWeight_storing _ stored, if_neg]
        exact fun same => (ledger.pendingIdentified other member entry stored).token_ne fresh
          (of_decide_eq_true same)

theorem Ledger.fresh_family {family : Nat} (fresh : state.issued ≤ family) :
    weigh (indicator (isHead state.rotated family)) state.rows = 0 ∧
      weigh (pendingWeight fun entry => decide (entry.2.familyId = some family))
        state.requests = 0 := by
  refine ⟨weigh_eq_zero _ _ ?_, weigh_eq_zero _ _ ?_⟩
  · intro row member
    exact indicator_of_other (decide_eq_false fun head =>
      (ledger.identified row member).family_ne fresh head.1)
  · intro other member
    cases stored : other.next.stores with
    | none => exact pendingWeight_idle _ stored
    | some entry =>
        rw [pendingWeight_storing _ stored, if_neg]
        exact fun same => (ledger.pendingIdentified other member entry stored).family_ne fresh
          (of_decide_eq_true same)

theorem Ledger.login (env : AuthEnv) (user : User) :
    Ledger (state.store (loginRow env state user)).draw := by
  have drawn : (loginRow env state user).token.claims.jti = some state.issued := rfl
  have joined : (loginRow env state user).familyId = some (state.issued + 1) := rfl
  refine ⟨?_, ?_, ?_, ?_, ledger.rotatedOnce, ?_, ledger.exchanged⟩
  · intro row member
    rcases List.mem_append.mp member with old | new
    · exact (ledger.identified row old).mono (Nat.le_add_right _ _)
    · rw [List.mem_singleton.mp new]
      exact ⟨⟨state.issued, drawn, Nat.lt_add_of_pos_right Nat.two_pos⟩, state.issued + 1, joined,
        Nat.lt_succ_self _⟩
  · intro other member entry stored
    exact (ledger.pendingIdentified other member entry stored).mono (Nat.le_add_right _ _)
  · intro token
    change weigh (indicator (hasToken token)) (state.rows ++ [loginRow env state user]) +
      weigh _ state.requests ≤ 1
    rw [weigh_snoc]
    by_cases same : (loginRow env state user).token = token
    · obtain ⟨noRow, noPending⟩ := ledger.fresh_token (same ▸ drawn)
      rw [noRow, noPending]
      have atMost := indicator_le_one (hasToken token) (loginRow env state user)
      omega
    · have absent : hasToken token (loginRow env state user) = false := decide_eq_false same
      have known := ledger.distinct token
      rw [indicator_of_other absent]
      exact known
  · intro family
    change weigh (indicator (isHead state.rotated family)) (state.rows ++ [loginRow env state user]) +
      weigh _ state.requests ≤ 1
    rw [weigh_snoc]
    by_cases same : family = state.issued + 1
    · have later : state.issued ≤ family := same.symm ▸ Nat.le_succ state.issued
      obtain ⟨noRow, noPending⟩ := ledger.fresh_family later
      rw [noRow, noPending]
      have atMost := indicator_le_one (isHead state.rotated family) (loginRow env state user)
      omega
    · have notHead : isHead state.rotated family (loginRow env state user) = false := by
        apply decide_eq_false
        intro head
        exact same (Option.some.inj (head.1.symm.trans joined))
      have known := ledger.oneHead family
      rw [indicator_of_other notHead]
      exact known
  · intro token rotated
    obtain ⟨row, member, same⟩ := ledger.rotatedStored token rotated
    exact ⟨row, List.mem_append_left _ member, same⟩

end

variable {row successor : RefreshToken}

theorem heads_rotate {rows : List RefreshToken} {rotated : List SignedToken} (member : row ∈ rows)
    (alone : row.token ∉ rotated) (family : Nat) :
    weigh (indicator (isHead (rotated ++ [row.token]) family)) rows +
        (if decide (row.familyId = some family) then 1 else 0) ≤
      weigh (indicator (isHead rotated family)) rows := by
  have fewer : ∀ other, isHead (rotated ++ [row.token]) family other = true →
      isHead rotated family other = true := by
    intro other head
    obtain ⟨joined, live⟩ := of_decide_eq_true head
    exact decide_eq_true ⟨joined, fun earlier => live (List.mem_append_left _ earlier)⟩
  by_cases joined : row.familyId = some family
  · rw [if_pos (decide_eq_true joined)]
    apply weigh_indicator_drop member fewer (decide_eq_true ⟨joined, alone⟩)
    exact decide_eq_false fun head => head.2 (List.mem_append_right _ (List.mem_singleton.mpr rfl))
  · rw [if_neg (fun isTrue => joined (of_decide_eq_true isTrue))]
    exact weigh_indicator_mono rows fewer

section

variable (ledger : Ledger state) (present : state.requests[index]? = some request)
include ledger present

section

variable (idle : request.next.stores = none) (member : row ∈ state.rows)
  (alone : row.token ∉ state.rotated)
include idle member alone

theorem Ledger.rotate_fails :
    Ledger ((state.rotate row.token).proceed index request .finished) := by
  have moved : Ledger (state.proceed index request .finished) :=
    ledger.proceed present idle rfl
  refine ⟨moved.identified, moved.pendingIdentified, moved.distinct, ?_, ?_, ?_, ?_⟩
  · intro family
    have before := moved.oneHead family
    have dropped := heads_rotate member alone family
    change weigh (indicator (isHead state.rotated family)) state.rows +
      weigh _ (state.requests.set _ _) ≤ 1 at before
    change weigh (indicator (isHead (state.rotated ++ [row.token]) family)) state.rows +
      weigh _ (state.requests.set _ _) ≤ 1
    omega
  · exact List.nodup_append.mpr ⟨ledger.rotatedOnce, List.nodup_singleton _,
      fun token earlier other now same => alone (List.mem_singleton.mp now ▸ same ▸ earlier)⟩
  · intro token rotated
    rcases List.mem_append.mp rotated with earlier | now
    · exact ledger.rotatedStored token earlier
    · exact ⟨row, member, (List.mem_singleton.mp now).symm⟩
  · intro token
    have before := moved.exchanged token
    change _ ≤ (state.rotated ++ [row.token]).count token
    rw [List.count_append]
    exact Nat.le_trans before (Nat.le_add_right _ _)

theorem Ledger.rotate_succeeds (drawn : successor.token.claims.jti = some state.issued)
    (joins : successor.familyId = row.familyId) :
    Ledger ((state.rotate row.token).draw.proceed index request
      (.storeSuccessor row.token successor)) := by
  have rotated := ledger.rotate_fails present idle member alone
  have pending : ∀ chosen,
      weigh (pendingWeight chosen) (state.requests.set index
          { request with next := .storeSuccessor row.token successor }) =
        weigh (pendingWeight chosen) state.requests +
          if chosen (row.token, successor) then 1 else 0 := by
    intro chosen
    have moved := weigh_set (pendingWeight chosen) state.requests index request
      { request with next := .storeSuccessor row.token successor } present
    rw [pendingWeight_idle chosen idle] at moved
    exact moved
  refine ⟨?_, ?_, ?_, ?_, rotated.rotatedOnce, rotated.rotatedStored, ?_⟩
  · exact fun other present => (ledger.identified other present).mono (Nat.le_add_right _ _)
  · apply forall_mem_set
    · exact fun other present entry stored =>
        (ledger.pendingIdentified other present entry stored).mono (Nat.le_add_right _ _)
    · intro entry stored
      cases stored
      obtain ⟨_, family, joined, below⟩ := ledger.identified row member
      exact ⟨⟨state.issued, drawn, Nat.lt_add_of_pos_right Nat.two_pos⟩, family,
        joins.trans joined, Nat.lt_add_right 2 below⟩
  · intro token
    change weigh (indicator (hasToken token)) state.rows + weigh _ (state.requests.set _ _) ≤ 1
    rw [pending]
    have before := ledger.distinct token
    by_cases same : successor.token = token
    · obtain ⟨noRow, noPending⟩ := ledger.fresh_token (same ▸ drawn)
      rw [noRow, noPending, if_pos (decide_eq_true same)]
    · rw [if_neg fun isTrue => same (of_decide_eq_true isTrue)]
      exact before
  · intro family
    change weigh (indicator (isHead (state.rotated ++ [row.token]) family)) state.rows +
      weigh _ (state.requests.set _ _) ≤ 1
    rw [pending]
    have before := ledger.oneHead family
    have dropped := heads_rotate member alone family
    rw [← joins] at dropped
    dsimp only
    omega
  · intro token
    change _ + weigh _ (state.requests.set _ _) ≤ (state.rotated ++ [row.token]).count token
    rw [pending, List.count_append]
    have before := ledger.exchanged token
    have counted : [row.token].count token = if decide (row.token = token) then 1 else 0 := by
      rw [List.count_singleton]
      rfl
    rw [counted]
    dsimp only
    change weigh _ state.exchanges + _ ≤ _ at before
    change weigh _ state.exchanges + _ ≤ _
    omega

end

theorem Ledger.storeSuccessor {old : SignedToken}
    (storing : request.next = .storeSuccessor old successor) :
    Ledger (((state.store successor).exchange old successor.token).proceed index request
      .finished) := by
  have stores : request.next.stores = some (old, successor) := by
    rw [storing]
    rfl
  have pending : ∀ chosen,
      weigh (pendingWeight chosen) (state.requests.set index { request with next := .finished }) +
          (if chosen (old, successor) then 1 else 0) =
        weigh (pendingWeight chosen) state.requests := by
    intro chosen
    have moved := weigh_set (pendingWeight chosen) state.requests index request
      { request with next := .finished } present
    rw [pendingWeight_storing chosen stores] at moved
    exact moved
  have placed := List.mem_of_getElem? present
  refine ⟨?_, ?_, ?_, ?_, ledger.rotatedOnce, ?_, ?_⟩
  · intro row member
    rcases List.mem_append.mp member with before | now
    · exact ledger.identified row before
    · rw [List.mem_singleton.mp now]
      exact ledger.pendingIdentified request placed _ stores
  · apply forall_mem_set _ _ _ ledger.pendingIdentified
    intro entry stored
    cases stored
  · intro token
    change weigh (indicator (hasToken token)) (state.rows ++ [successor]) +
      weigh _ (state.requests.set _ _) ≤ 1
    rw [weigh_snoc]
    have before := ledger.distinct token
    rw [← pending] at before
    change _ + (_ + indicator (hasToken token) successor) ≤ 1 at before
    omega
  · intro family
    change weigh (indicator (isHead state.rotated family)) (state.rows ++ [successor]) +
      weigh _ (state.requests.set _ _) ≤ 1
    rw [weigh_snoc]
    have before := ledger.oneHead family
    rw [← pending] at before
    have entered : indicator (isHead state.rotated family) successor ≤
        indicator (fun row : RefreshToken => decide (row.familyId = some family)) successor :=
      indicator_mono fun head => decide_eq_true (of_decide_eq_true head).1
    change _ ≤ if decide (successor.familyId = some family) = true then 1 else 0 at entered
    dsimp only at before
    omega
  · intro token rotated
    obtain ⟨row, member, same⟩ := ledger.rotatedStored token rotated
    exact ⟨row, List.mem_append_left _ member, same⟩
  · intro token
    change weigh _ (state.exchanges ++ [(old, successor.token)]) +
      weigh _ (state.requests.set _ _) ≤ state.rotated.count token
    rw [weigh_snoc]
    have before := ledger.exchanged token
    rw [← pending] at before
    unfold indicator at before ⊢
    dsimp only at before ⊢
    omega

theorem Ledger.pending_unrotated {old : SignedToken}
    (storing : request.next = .storeSuccessor old successor) :
    successor.token ∉ state.rotated := by
  intro rotated
  obtain ⟨row, member, same⟩ := ledger.rotatedStored successor.token rotated
  have stores : request.next.stores = some (old, successor) := by
    rw [storing]
    rfl
  have carries : hasToken successor.token row = true := decide_eq_true same
  have stored := weight_le_weigh (indicator (hasToken successor.token)) state.rows row member
  rw [indicator_of_chosen carries] at stored
  have pending := weight_le_weigh
    (pendingWeight fun entry => decide (entry.2.token = successor.token)) state.requests request
    (List.mem_of_getElem? present)
  rw [pendingWeight_storing _ stores, if_pos (decide_eq_true rfl)] at pending
  have atMost := ledger.distinct successor.token
  omega

end

theorem Ledger.row_unique (ledger : Ledger state) {other : RefreshToken}
    (member : row ∈ state.rows) (present : other ∈ state.rows) (same : row.token = other.token) :
    row = other := by
  have atMost := ledger.distinct other.token
  rw [weigh_indicator, List.countP_eq_length_filter] at atMost
  have first : row ∈ state.rows.filter (hasToken other.token) :=
    List.mem_filter.mpr ⟨member, decide_eq_true same⟩
  have second : other ∈ state.rows.filter (hasToken other.token) :=
    List.mem_filter.mpr ⟨present, decide_eq_true rfl⟩
  cases held : state.rows.filter (hasToken other.token) with
  | nil =>
      rw [held] at first
      cases first
  | cons head rest =>
      rw [held, List.length_cons] at atMost
      have empty : rest = [] := List.eq_nil_of_length_eq_zero (by omega)
      rw [held, empty] at first second
      rw [List.mem_singleton.mp first, List.mem_singleton.mp second]

end Ledger

end AudioBlock.Auth
