/-
Every run of rotations that are not overtaken keeps one live token a family.

`Consistent` says what a request knows at the call it awaits: the row it
remembers, and where a request can be that presented a rotated token.  The
invariant joins it with the ledger and with the revocation of every rotated row.
-/
import AudioBlock.Auth.RotationLedger

namespace AudioBlock.Auth

open AudioBlock.Foundation

/-! ### What a request knows -/

def Remembers (state : RotationState) : RefreshCall → Prop
  | .findUser _ found | .saveRevoked _ found =>
      ∃ row ∈ state.rows, row.token = found.token ∧ row.familyId = found.familyId
  | _ => True

def RotatedIn (state : RotationState) (family : Nat) (token : SignedToken) : Prop :=
  token ∈ state.rotated ∧ ∀ row ∈ state.rows, row.token = token → row.familyId = some family

def Replays (accounts : List User) (state : RotationState) (family : Nat) : RefreshCall → Prop
  | .findToken _ token => RotatedIn state family token
  | .privyFindUser userId token =>
      RotatedIn state family token ∧ findAccount accounts userId ≠ none ∧
        ∀ row ∈ state.rows, row.token = token → row.userId = userId
  | .privyFindToken user token =>
      RotatedIn state family token ∧ ∀ row ∈ state.rows, row.token = token → row.userId = user.id
  | .revokeFamily familyId => familyId = family
  | .finished => ∀ row ∈ state.rows, row.familyId = some family → row.revoked = true
  | _ => False

structure Consistent (accounts : List User) (state : RotationState) (request : RefreshRequest) :
    Prop where
  remembers : Remembers state request.next
  replays : ∀ family, request.replays = some family →
    family < state.issued ∧ Replays accounts state family request.next

/-- What a change of the tables leaves to the requests: rows stay, and a new row
is neither rotated nor in a family whose reuse was answered. -/
structure Grows (state after : RotationState) : Prop where
  kept : ∀ row ∈ state.rows, ∃ later ∈ after.rows, later.token = row.token ∧
    later.familyId = row.familyId
  origin : ∀ row ∈ after.rows,
    (∃ before ∈ state.rows, row.token = before.token ∧ row.familyId = before.familyId ∧
      row.userId = before.userId ∧ (before.revoked = true → row.revoked = true)) ∨
    (row.token ∉ state.rotated ∧ NotReplayed state row.familyId)
  rotated : ∀ token ∈ state.rotated, token ∈ after.rotated
  issued : state.issued ≤ after.issued

section Growth

variable {accounts : List User} {state after : RotationState} {request : RefreshRequest}

theorem RotatedIn.grows {family : Nat} {token : SignedToken}
    (known : RotatedIn state family token) (grows : Grows state after) :
    RotatedIn after family token := by
  refine ⟨grows.rotated token known.1, ?_⟩
  intro row member same
  rcases grows.origin row member with ⟨before, present, kept, joined, _⟩ | ⟨unrotated, _⟩
  · exact joined.trans (known.2 before present (kept.symm.trans same))
  · exact absurd (same ▸ known.1) unrotated

private theorem owner_grows {token : SignedToken} {userId : String}
    (rotated : token ∈ state.rotated)
    (owned : ∀ row ∈ state.rows, row.token = token → row.userId = userId)
    (grows : Grows state after) : ∀ row ∈ after.rows, row.token = token → row.userId = userId := by
  intro row member same
  rcases grows.origin row member with ⟨before, present, kept, _, user, _⟩ | ⟨unrotated, _⟩
  · exact user.trans (owned before present (kept.symm.trans same))
  · exact absurd (same ▸ rotated) unrotated

theorem Consistent.grows (known : Consistent accounts state request)
    (member : request ∈ state.requests) (grows : Grows state after) :
    Consistent accounts after request := by
  obtain ⟨remembers, replays⟩ := known
  constructor
  · cases awaits : request.next with
    | findUser payloadId found | saveRevoked user found =>
        rw [awaits] at remembers
        obtain ⟨row, present, token, joined⟩ := remembers
        obtain ⟨later, stays, sameToken, sameFamily⟩ := grows.kept row present
        exact ⟨later, stays, sameToken.trans token, sameFamily.trans joined⟩
    | _ => trivial
  · intro family presented
    obtain ⟨below, held⟩ := replays family presented
    refine ⟨Nat.lt_of_lt_of_le below grows.issued, ?_⟩
    cases awaits : request.next with
    | findToken payloadId token =>
        rw [awaits] at held
        exact RotatedIn.grows held grows
    | privyFindUser userId token =>
        rw [awaits] at held
        exact ⟨held.1.grows grows, held.2.1, owner_grows held.1.1 held.2.2 grows⟩
    | privyFindToken user token =>
        rw [awaits] at held
        exact ⟨held.1.grows grows, owner_grows held.1.1 held.2 grows⟩
    | revokeFamily familyId =>
        rw [awaits] at held
        exact held
    | finished =>
        rw [awaits] at held
        intro row present joined
        rcases grows.origin row present with ⟨before, earlier, _, same, _, revoked⟩ | ⟨_, quiet⟩
        · exact revoked (held before earlier (same.symm.trans joined))
        · exact absurd (presented.trans joined.symm)
            (quiet request member awaits (presented ▸ Option.some_ne_none family))
    | findUser _ _ | saveRevoked _ _ | storeSuccessor _ _ | revokeUser _ =>
        rw [awaits] at held
        exact held.elim

theorem Grows.same_rows (rows : after.rows = state.rows) (rotated : after.rotated = state.rotated)
    (issued : state.issued ≤ after.issued) : Grows state after := by
  refine ⟨?_, ?_, ?_, issued⟩
  · intro row member
    exact ⟨row, rows ▸ member, rfl, rfl⟩
  · intro row member
    exact Or.inl ⟨row, rows ▸ member, rfl, rfl, rfl, id⟩
  · intro token member
    exact rotated ▸ member

theorem Grows.revokeWhere (chosen : RefreshToken → Bool) :
    Grows state (state.revokeWhere chosen) where
  kept row member := by
    obtain ⟨later, present, token, family, _⟩ := revokedRow_after chosen member
    exact ⟨later, present, token, family⟩
  origin row member := by
    obtain ⟨before, present, token, family, user, revoked⟩ := revokedRow_before member
    exact Or.inl ⟨before, present, token, family, user, fun earlier => revoked (Or.inl earlier)⟩
  rotated token member := member
  issued := Nat.le_refl _

theorem Grows.store {row : RefreshToken} (unrotated : row.token ∉ state.rotated)
    (quiet : NotReplayed state row.familyId) : Grows state (state.store row) where
  kept other member := ⟨other, List.mem_append_left _ member, rfl, rfl⟩
  origin other member := by
    rcases List.mem_append.mp member with before | now
    · exact Or.inl ⟨other, before, rfl, rfl, rfl, id⟩
    · rw [List.mem_singleton.mp now]
      exact Or.inr ⟨unrotated, quiet⟩
  rotated token member := member
  issued := Nat.le_refl _

end Growth

/-! ### The invariant of a run -/

structure RotationSound (accounts : List User) (state : RotationState) : Prop where
  ledger : Ledger state
  rotatedRevoked : ∀ row ∈ state.rows, row.token ∈ state.rotated → row.revoked = true
  consistent : ∀ request ∈ state.requests, Consistent accounts state request

section Steps

variable {env : AuthEnv} {accounts : List User} {state after : RotationState} {index : Nat}
  {request : RefreshRequest} {next : RefreshCall}

section

variable (sound : RotationSound accounts state) (present : state.requests[index]? = some request)
include sound present

theorem RotationSound.move (grows : Grows state after) (same : after.requests = state.requests)
    (ledger : Ledger (after.proceed index request next))
    (revoked : ∀ row ∈ after.rows, row.token ∈ after.rotated → row.revoked = true)
    (remembers : Remembers after next)
    (replays : ∀ family, request.replays = some family → Replays accounts after family next) :
    RotationSound accounts (after.proceed index request next) := by
  have moved : Grows state (after.proceed index request next) :=
    ⟨grows.kept, grows.origin, grows.rotated, grows.issued⟩
  refine ⟨ledger, revoked, ?_⟩
  apply forall_mem_set
  · intro other member
    rw [same] at member
    exact (sound.consistent other member).grows member moved
  · refine ⟨remembers, ?_⟩
    intro family presented
    have known := (sound.consistent request (List.mem_of_getElem? present)).replays family presented
    exact ⟨Nat.lt_of_lt_of_le known.1 grows.issued, replays family presented⟩

theorem RotationSound.read (idle : request.next.stores = none) (stillIdle : next.stores = none)
    (remembers : Remembers state next)
    (replays : ∀ family, request.replays = some family → Replays accounts state family next) :
    RotationSound accounts (state.proceed index request next) :=
  sound.move present (.same_rows rfl rfl (Nat.le_refl _)) rfl
    (sound.ledger.proceed present idle stillIdle) sound.rotatedRevoked remembers replays

theorem RotationSound.revoke (idle : request.next.stores = none) (chosen : RefreshToken → Bool)
    (replays : ∀ family, request.replays = some family →
      ∀ row ∈ (state.revokeWhere chosen).rows, row.familyId = some family →
        row.revoked = true) :
    RotationSound accounts ((state.revokeWhere chosen).proceed index request .finished) := by
  refine sound.move present (.revokeWhere chosen) rfl
    ((sound.ledger.revokeWhere chosen).proceed present idle rfl) ?_ ?_ replays
  · intro row member rotated
    obtain ⟨before, earlier, token, _, _, revoked⟩ := revokedRow_before member
    exact revoked (Or.inl (sound.rotatedRevoked before earlier (token ▸ rotated)))
  · trivial

theorem RotationSound.no_replay
    (elsewhere : ∀ family, ¬Replays accounts state family request.next) :
    request.replays = none := by
  cases presented : request.replays with
  | none => rfl
  | some family =>
      exact absurd ((sound.consistent request (List.mem_of_getElem? present)).replays family
        presented).2 (elsewhere family)

end

private theorem replays_of_none (absent : request.replays = none) (call : RefreshCall) :
    ∀ family, request.replays = some family → Replays accounts after family call := by
  intro family presented
  rw [absent] at presented
  cases presented

theorem RotationSound.check (sound : RotationSound accounts state)
    (present : state.requests[index]? = some request) (idle : request.next.stores = none)
    {found : RefreshToken} (member : found ∈ state.rows) (stillIdle : next.stores = none)
    (remembers : Remembers state next)
    (replayed : ∀ family, request.replays = some family →
      found.token ∈ state.rotated ∧ found.familyId = some family) :
    RotationSound accounts (state.proceed index request (checkFound state.now found next)) := by
  obtain ⟨_, joined, isSome, _⟩ := sound.ledger.identified found member
  by_cases isRevoked : found.revoked = true
  · have next_eq : checkFound state.now found next = .revokeFamily joined := by
      unfold checkFound
      rw [if_pos isRevoked, isSome]
    rw [next_eq]
    refine sound.read present idle rfl ?_ ?_
    · trivial
    · intro family presented
      exact Option.some.inj (isSome.symm.trans (replayed family presented).2)
  · have noReplay : request.replays = none := by
      cases presented : request.replays with
      | none => rfl
      | some family =>
          exact absurd (sound.rotatedRevoked found member (replayed family presented).1) isRevoked
    unfold checkFound
    rw [if_neg isRevoked]
    split
    · refine sound.read present idle rfl ?_ (replays_of_none noReplay _)
      trivial
    · exact sound.read present idle stillIdle remembers (replays_of_none noReplay _)

variable {user : User} {token : SignedToken}

theorem findAccount_id {id : String} (found : findAccount accounts id = some user) :
    user.id = id := by
  have named := List.find?_some found
  exact of_decide_eq_true named

section

variable (sound : RotationSound accounts state)
include sound

theorem RotatedIn.found {family : Nat} (known : RotatedIn state family token) :
    state.findToken token ≠ none := by
  obtain ⟨row, member, same⟩ := sound.ledger.rotatedStored token known.1
  intro absent
  exact absurd (decide_eq_true same) (List.find?_eq_none.mp absent row member)

section

variable (present : state.requests[index]? = some request)
include present

theorem RotationSound.findToken {payloadId : String}
    (awaits : request.next = .findToken payloadId token) :
    RotationSound accounts
      (state.proceed index request (afterFindToken state payloadId token)) := by
  have known := sound.consistent request (List.mem_of_getElem? present)
  have idle : request.next.stores = none := by rw [awaits]; rfl
  have replayed : ∀ family, request.replays = some family → RotatedIn state family token := by
    intro family presented
    have held := (known.replays family presented).2
    rw [awaits] at held
    exact held
  unfold afterFindToken
  cases isFound : state.findToken token with
  | none =>
      refine sound.read present idle rfl ?_ ?_
      · trivial
      · intro family presented
        exact absurd isFound (RotatedIn.found sound (replayed family presented))
  | some found =>
      obtain ⟨member, same⟩ := RotationState.findToken_mem isFound
      refine sound.check present idle member rfl ?_ ?_
      · exact ⟨found, member, rfl, rfl⟩
      · intro family presented
        obtain ⟨rotated, joined⟩ := replayed family presented
        exact ⟨same ▸ rotated, joined found member same⟩

theorem RotationSound.privyFindToken (awaits : request.next = .privyFindToken user token) :
    RotationSound accounts
      (state.proceed index request (afterPrivyFindToken state user token)) := by
  have known := sound.consistent request (List.mem_of_getElem? present)
  have idle : request.next.stores = none := by rw [awaits]; rfl
  have replayed : ∀ family, request.replays = some family → RotatedIn state family token ∧
      ∀ row ∈ state.rows, row.token = token → row.userId = user.id := by
    intro family presented
    have held := (known.replays family presented).2
    rw [awaits] at held
    exact held
  unfold afterPrivyFindToken
  cases isFound : state.findToken token with
  | none =>
      refine sound.read present idle rfl ?_ ?_
      · trivial
      · intro family presented
        exact absurd isFound (RotatedIn.found sound (replayed family presented).1)
  | some found =>
      obtain ⟨member, same⟩ := RotationState.findToken_mem isFound
      by_cases owned : found.userId = user.id
      · simp only [if_pos owned]
        refine sound.check present idle member rfl ?_ ?_
        · exact ⟨found, member, rfl, rfl⟩
        · intro family presented
          obtain ⟨⟨rotated, joined⟩, _⟩ := replayed family presented
          exact ⟨same ▸ rotated, joined found member same⟩
      · simp only [if_neg owned]
        refine sound.read present idle rfl ?_ ?_
        · trivial
        · intro family presented
          exact absurd ((replayed family presented).2 found member same) owned

theorem RotationSound.privyFindUser {userId : String}
    (awaits : request.next = .privyFindUser userId token) :
    RotationSound accounts
      (state.proceed index request (afterPrivyFindUser accounts userId token)) := by
  have known := sound.consistent request (List.mem_of_getElem? present)
  have idle : request.next.stores = none := by rw [awaits]; rfl
  unfold afterPrivyFindUser
  cases isFound : findAccount accounts userId with
  | none =>
      refine sound.read present idle rfl ?_ ?_
      · trivial
      · intro family presented
        have held := (known.replays family presented).2
        rw [awaits] at held
        exact absurd isFound held.2.1
  | some user =>
      refine sound.read present idle rfl ?_ ?_
      · trivial
      · intro family presented
        have held := (known.replays family presented).2
        rw [awaits] at held
        refine ⟨held.1, ?_⟩
        rw [findAccount_id isFound]
        exact held.2.2

theorem RotationSound.findUser {payloadId : String} {found : RefreshToken}
    (awaits : request.next = .findUser payloadId found) :
    RotationSound accounts
      (state.proceed index request (afterFindUser accounts payloadId found)) := by
  have known := sound.consistent request (List.mem_of_getElem? present)
  have idle : request.next.stores = none := by rw [awaits]; rfl
  have noReplay := sound.no_replay present (by rw [awaits]; exact fun _ held => held)
  have remembered := known.remembers
  rw [awaits] at remembered
  unfold afterFindUser
  cases findAccount accounts payloadId with
  | none =>
      refine sound.read present idle rfl ?_ (replays_of_none noReplay _)
      trivial
  | some user => exact sound.read present idle rfl remembered (replays_of_none noReplay _)

theorem RotationSound.saveRevoked {found : RefreshToken}
    (awaits : request.next = .saveRevoked user found) (alone : found.token ∉ state.rotated) :
    RotationSound accounts
      ((saveRevoked env state user found).1.proceed index request
        (saveRevoked env state user found).2) := by
  have known := sound.consistent request (List.mem_of_getElem? present)
  have idle : request.next.stores = none := by rw [awaits]; rfl
  have noReplay := sound.no_replay present (by rw [awaits]; exact fun _ held => held)
  have remembered := known.remembers
  rw [awaits] at remembered
  obtain ⟨row, member, sameToken, sameFamily⟩ := remembered
  obtain ⟨later, stored, token, family, _⟩ := revokedRow_after
    (fun row : RefreshToken => decide (row.token = found.token)) member
  have ledger := sound.ledger.revokeWhere fun row => decide (row.token = found.token)
  have named : later.token = found.token := token.trans sameToken
  have revoked : ∀ row ∈ (state.revokeWhere fun row => decide (row.token = found.token)).rows,
      row.token ∈ state.rotated ++ [found.token] → row.revoked = true := by
    intro row present rotated
    obtain ⟨before, earlier, token, _, _, becomes⟩ := revokedRow_before present
    rw [token] at rotated
    rcases List.mem_append.mp rotated with old | now
    · exact becomes (Or.inl (sound.rotatedRevoked before earlier old))
    · exact becomes (Or.inr (decide_eq_true (List.mem_singleton.mp now)))
  have revokes : Grows state (state.revokeWhere fun row => decide (row.token = found.token)) :=
    .revokeWhere _
  unfold Auth.saveRevoked
  cases signToken env state.now user with
  | error failure =>
      have rotates := ledger.rotate_fails present idle stored (named ▸ alone)
      rw [named] at rotates
      refine sound.move present
        ⟨revokes.kept, revokes.origin, fun token old => List.mem_append_left _ old, Nat.le_refl _⟩ rfl rotates
        revoked ?_ (replays_of_none noReplay _)
      trivial
  | ok access =>
      have joins : (newRefreshToken state.now (state.issued + 1) user.id
          (signRefreshToken env state.now state.issued user) found.familyId).familyId =
            later.familyId := by
        obtain ⟨_, joined, isSome, _⟩ := sound.ledger.identified row member
        rw [family, isSome, newRefreshToken, ← sameFamily, isSome]
        rfl
      have rotates := ledger.rotate_succeeds present idle stored (named ▸ alone) rfl joins
      rw [named] at rotates
      refine sound.move present
        ⟨revokes.kept, revokes.origin, fun token old => List.mem_append_left _ old, Nat.le_add_right _ _⟩ rfl
        rotates revoked ?_ (replays_of_none noReplay _)
      trivial

theorem RotationSound.storeSuccessor {old : SignedToken} {successor : RefreshToken}
    (awaits : request.next = .storeSuccessor old successor)
    (quiet : NotReplayed state successor.familyId) :
    RotationSound accounts
      (((state.store successor).exchange old successor.token).proceed index request
        .finished) := by
  have noReplay := sound.no_replay present (by rw [awaits]; exact fun _ held => held)
  have unrotated := sound.ledger.pending_unrotated present awaits
  have stored := Grows.store unrotated quiet
  refine sound.move present ⟨stored.kept, stored.origin, stored.rotated, stored.issued⟩ rfl
    (sound.ledger.storeSuccessor present awaits) ?_ ?_ (replays_of_none noReplay _)
  · intro row member rotated
    rcases List.mem_append.mp member with before | now
    · exact sound.rotatedRevoked row before rotated
    · rw [List.mem_singleton.mp now] at rotated
      exact absurd rotated unrotated
  · trivial

theorem RotationSound.perform (alone : CallAlone state request.next) :
    RotationSound accounts
      ((performCall env accounts state request.next).1.proceed index request
        (performCall env accounts state request.next).2) := by
  have known := sound.consistent request (List.mem_of_getElem? present)
  cases awaits : request.next with
  | findToken payloadId token => exact sound.findToken present awaits
  | findUser payloadId found => exact sound.findUser present awaits
  | privyFindUser userId token => exact sound.privyFindUser present awaits
  | privyFindToken user token => exact sound.privyFindToken present awaits
  | saveRevoked user found =>
      rw [awaits] at alone
      exact sound.saveRevoked present awaits alone
  | storeSuccessor old successor =>
      rw [awaits] at alone
      exact sound.storeSuccessor present awaits alone
  | revokeFamily familyId =>
      refine sound.revoke present (by rw [awaits]; rfl) _ ?_
      intro family presented row member joined
      have held := (known.replays family presented).2
      rw [awaits] at held
      obtain ⟨before, _, _, sameFamily, _, revoked⟩ := revokedRow_before member
      exact revoked (Or.inr (decide_eq_true
        ((sameFamily.symm.trans joined).trans (congrArg some held.symm))))
  | revokeUser userId =>
      have noReplay := sound.no_replay present (by rw [awaits]; exact fun _ held => held)
      refine sound.revoke present (by rw [awaits]; rfl) _ ?_
      intro family presented
      rw [noReplay] at presented
      cases presented
  | finished =>
      refine sound.read present (by rw [awaits]; rfl) rfl ?_ ?_
      · trivial
      · intro family presented
        have held := (known.replays family presented).2
        rw [awaits] at held
        exact held

end

end

theorem beginRefreshToken_findToken {now : Nat} (signedWith : token.secret = env.refreshSecret)
    (unexpired : jwtSeconds now < token.claims.exp) (named : token.claims.id ≠ "") :
    beginRefreshToken env now token = .findToken token.claims.id token := by
  have verified : token.verify env.refreshSecret now = .ok token.claims := by
    unfold SignedToken.verify
    rw [if_pos signedWith, if_neg (Nat.not_le_of_lt unexpired)]
  unfold beginRefreshToken
  rw [verified]
  exact if_neg named

theorem beginRefreshToken_idle (state : RotationState) (token : SignedToken) :
    (beginRefreshToken env state.now token).stores = none ∧
      Remembers state (beginRefreshToken env state.now token) := by
  unfold beginRefreshToken
  split
  · exact ⟨rfl, trivial⟩
  · split
    · exact ⟨rfl, trivial⟩
    · exact ⟨rfl, trivial⟩

theorem beginPrivyRefreshToken_idle (state : RotationState) (userId : String)
    (token : SignedToken) :
    (beginPrivyRefreshToken userId token).stores = none ∧
      Remembers state (beginPrivyRefreshToken userId token) := by
  unfold beginPrivyRefreshToken
  split
  · exact ⟨rfl, trivial⟩
  · exact ⟨rfl, trivial⟩

theorem beginLogout_idle (state : RotationState) (token : SignedToken) :
    (beginLogout env state.now token).stores = none ∧
      Remembers state (beginLogout env state.now token) := by
  unfold beginLogout
  split
  · exact ⟨rfl, trivial⟩
  · split
    · exact ⟨rfl, trivial⟩
    · exact ⟨rfl, trivial⟩

theorem RotationSound.begin (sound : RotationSound accounts state) (replays : Option Nat)
    (idle : next.stores = none) (remembers : Remembers state next)
    (held : ∀ family, replays = some family →
      family < state.issued ∧ Replays accounts state family next) :
    RotationSound accounts (state.begin replays next) := by
  refine ⟨sound.ledger.begin replays idle, sound.rotatedRevoked, ?_⟩
  intro request member
  rcases List.mem_append.mp member with before | now
  · exact (sound.consistent request before).grows before (.same_rows rfl rfl (Nat.le_refl _))
  · rw [List.mem_singleton.mp now]
    exact ⟨remembers, held⟩

theorem RotationSound.replayedFamily (sound : RotationSound accounts state) {family : Nat}
    (replayed : state.replayedFamily token = some family) :
    token ∈ state.rotated ∧ family < state.issued ∧ RotatedIn state family token := by
  unfold RotationState.replayedFamily at replayed
  split at replayed
  · rename_i rotated
    obtain ⟨found, isFound, joined⟩ := Option.bind_eq_some_iff.mp replayed
    obtain ⟨member, same⟩ := RotationState.findToken_mem isFound
    obtain ⟨_, known, isSome, below⟩ := sound.ledger.identified found member
    have family_eq : known = family := Option.some.inj (isSome.symm.trans joined)
    refine ⟨rotated, family_eq ▸ below, rotated, ?_⟩
    intro row present carries
    rw [sound.ledger.row_unique present member (carries.trans same.symm)]
    exact joined
  · cases replayed

theorem rotationSound_step (env : AuthEnv) (accounts : List User)
    (state after : RotationState) (label : RotationLabel) (sound : RotationSound accounts state)
    (permitted : RotatesAlone env accounts state label)
    (moved : rotationStep env accounts state label = some after) :
    RotationSound accounts after := by
  cases label with
  | elapse milliseconds =>
      cases moved
      refine ⟨⟨sound.ledger.identified, sound.ledger.pendingIdentified, sound.ledger.distinct,
        sound.ledger.oneHead, sound.ledger.rotatedOnce, sound.ledger.rotatedStored,
        sound.ledger.exchanged⟩, sound.rotatedRevoked, ?_⟩
      exact fun request member => (sound.consistent request member).grows member
        (.same_rows rfl rfl (Nat.le_refl _))
  | login user =>
      cases moved
      have unrotated : (loginRow env state user).token ∉ state.rotated := by
        intro rotated
        obtain ⟨row, member, same⟩ := sound.ledger.rotatedStored _ rotated
        exact (sound.ledger.identified row member).token_ne rfl same
      have quiet : NotReplayed state (loginRow env state user).familyId := by
        intro request member _ _ joined
        have known := ((sound.consistent request member).replays (state.issued + 1) joined).1
        omega
      have stored := Grows.store unrotated quiet
      refine ⟨sound.ledger.login env user, ?_, ?_⟩
      · intro row member rotated
        rcases List.mem_append.mp member with before | now
        · exact sound.rotatedRevoked row before rotated
        · rw [List.mem_singleton.mp now] at rotated
          exact absurd rotated unrotated
      · exact fun request member => (sound.consistent request member).grows member
          ⟨stored.kept, stored.origin, stored.rotated, Nat.le_add_right _ _⟩
  | refreshToken token =>
      cases moved
      obtain ⟨idle, remembers⟩ := @beginRefreshToken_idle env state token
      refine sound.begin _ idle remembers ?_
      intro family replayed
      obtain ⟨rotated, below, held⟩ := sound.replayedFamily replayed
      obtain ⟨signedWith, unexpired, named⟩ := permitted rotated
      rw [beginRefreshToken_findToken signedWith unexpired named]
      exact ⟨below, held⟩
  | privyRefreshToken userId token =>
      cases moved
      obtain ⟨idle, remembers⟩ := beginPrivyRefreshToken_idle state userId token
      refine sound.begin _ idle remembers ?_
      intro family replayed
      obtain ⟨rotated, below, held⟩ := sound.replayedFamily replayed
      obtain ⟨named, registered, owned⟩ := permitted rotated
      unfold beginPrivyRefreshToken
      rw [if_neg named]
      exact ⟨below, held, registered, owned⟩
  | logout token =>
      cases moved
      obtain ⟨idle, remembers⟩ := @beginLogout_idle env state token
      exact sound.begin none idle remembers fun family absent => by cases absent
  | step index =>
      simp only [rotationStep] at moved
      split at moved
      · cases moved
      · rename_i request present
        cases moved
        exact sound.perform present (permitted request present)

end Steps

theorem rotationSound_initial (env : AuthEnv) (accounts : List User) (state : RotationState)
    (begins : (rotationMachine env accounts).initial state) : RotationSound accounts state := by
  obtain ⟨now, issued, rows, requests, rotated, exchanges⟩ := state
  obtain ⟨rfl, rfl, rfl, rfl⟩ := begins
  refine ⟨⟨?_, ?_, fun _ => Nat.zero_le 1, fun _ => Nat.zero_le 1, List.nodup_nil, ?_,
    fun _ => Nat.le_refl 0⟩, ?_, ?_⟩
  · exact fun row absent => by cases absent
  · exact fun request absent => by cases absent
  · exact fun token absent => by cases absent
  · exact fun row absent => by cases absent
  · exact fun request absent => by cases absent

theorem rotationMachine_sound (env : AuthEnv) (accounts : List User) (state : RotationState)
    (reached : (rotationMachine env accounts).Reachable (RotatesAlone env accounts) state) :
    RotationSound accounts state :=
  reached.invariant (RotationSound accounts) (rotationSound_initial env accounts)
    fun before label after earlier permitted moved =>
      rotationSound_step env accounts before after label earlier permitted moved

theorem RotationSound.live_le_one {accounts : List User} {state : RotationState}
    (sound : RotationSound accounts state) (family : Nat) :
    (state.rows.countP fun row => decide (row.familyId = some family ∧ row.revoked = false)) ≤
      1 := by
  have atMost := sound.ledger.oneHead family
  rw [weigh_indicator] at atMost
  have fewer : (state.rows.countP fun row =>
      decide (row.familyId = some family ∧ row.revoked = false)) ≤
        state.rows.countP (isHead state.rotated family) := by
    apply List.countP_mono_left
    intro row member live
    obtain ⟨joined, unrevoked⟩ := of_decide_eq_true live
    refine decide_eq_true ⟨joined, fun rotated => ?_⟩
    rw [sound.rotatedRevoked row member rotated] at unrevoked
    cases unrevoked
  omega

/-- A token is exchanged at most once, a family has at most one live token, and
when a request that presented a rotated token has returned its family has none. -/
theorem rotationMachine_single_successor (env : AuthEnv) (accounts : List User)
    (state : RotationState)
    (reached : (rotationMachine env accounts).Reachable (RotatesAlone env accounts) state) :
    (∀ token, (state.exchanges.countP fun exchange => decide (exchange.1 = token)) ≤ 1) ∧
      (∀ family, (state.rows.countP fun row =>
        decide (row.familyId = some family ∧ row.revoked = false)) ≤ 1) ∧
      ∀ request ∈ state.requests, request.next = .finished →
        ∀ family, request.replays = some family →
          ∀ row ∈ state.rows, row.familyId = some family → row.revoked = true := by
  have sound := rotationMachine_sound env accounts state reached
  refine ⟨?_, sound.live_le_one, ?_⟩
  · intro token
    have counted := sound.ledger.exchanged token
    rw [weigh_indicator] at counted
    have once := List.nodup_iff_count.mp sound.ledger.rotatedOnce token
    omega
  · intro request member returned family presented
    have held := ((sound.consistent request member).replays family presented).2
    rw [returned] at held
    exact held

/-! ### Two requests with one token -/

def rotationEnv : AuthEnv :=
  { jwtSecret := "jwt", refreshTokenSecret := "refresh", authMode := .legacy
    legacyFallback := true }

def listener : User :=
  { id := "u1"
    profile :=
      { dynamixUserId := none
        email := some "a@b.com"
        walletAddress := none
        stellarPublicKey := none
        role := .listener
        username := none
        profileImage := none
        name := none
        emailVerified := true }
    passwordHash := some "password123"
    twoFactorEnabled := false
    twoFactorSecret := none
    twoFactorRecoveryCodeHashes := none }

def noTokens : RotationState :=
  { now := 0, issued := 0, rows := [], requests := [], rotated := [], exchanges := [] }

/-- The refresh token of `listener` with a given identifier, signed at time 0. -/
def listenerToken (jti : Nat) : SignedToken := signRefreshToken rotationEnv 0 jti listener

/-- Both requests look the token up before either saves it. -/
def racingRequests : List RotationLabel :=
  [.login listener, .refreshToken (listenerToken 0), .refreshToken (listenerToken 0), .step 0,
    .step 1, .step 0, .step 1, .step 0, .step 1, .step 0, .step 1]

/-- Two rotations one after the other, and then the first token again. -/
def replayedToken : List RotationLabel :=
  [.login listener, .refreshToken (listenerToken 0), .step 0, .step 0, .step 0, .step 0,
    .refreshToken (listenerToken 2), .step 1, .step 1, .step 1, .step 1,
    .refreshToken (listenerToken 0), .step 2, .step 2]

theorem rotationMachine_exchanges_twice :
    ∃ state, (rotationMachine rotationEnv [listener]).Reachable (fun _ _ => True) state ∧
      (state.exchanges.countP fun exchange => decide (exchange.1 = listenerToken 0)) = 2 ∧
        (state.rows.countP fun row =>
          decide (row.familyId = some 1 ∧ row.revoked = false)) = 2 := by
  have executed : ∃ state,
      (rotationMachine rotationEnv [listener]).run noTokens racingRequests = some state ∧
      (state.exchanges.countP fun exchange => decide (exchange.1 = listenerToken 0)) = 2 ∧
        (state.rows.countP fun row =>
          decide (row.familyId = some 1 ∧ row.revoked = false)) = 2 :=
    ⟨_, rfl, by decide +kernel, by decide +kernel⟩
  obtain ⟨state, ran, outcome⟩ := executed
  exact ⟨state, Machine.Reachable.of_run racingRequests (.start ⟨rfl, rfl, rfl, rfl⟩)
    (Machine.permits_always _ _ _) ran, outcome⟩

theorem rotationMachine_revokes_replayed :
    ∃ state, (rotationMachine rotationEnv [listener]).run noTokens replayedToken = some state ∧
      (∀ token, (state.exchanges.countP fun exchange => decide (exchange.1 = token)) ≤ 1) ∧
      (∀ family, (state.rows.countP fun row =>
        decide (row.familyId = some family ∧ row.revoked = false)) ≤ 1) ∧
      ∀ request ∈ state.requests, request.next = .finished →
        ∀ family, request.replays = some family →
          ∀ row ∈ state.rows, row.familyId = some family → row.revoked = true := by
  have permitted : (rotationMachine rotationEnv [listener]).Permits
      (RotatesAlone rotationEnv [listener]) noTokens replayedToken := by
    decide +kernel
  exact ⟨_, rfl, rotationMachine_single_successor rotationEnv [listener] _
    (Machine.Reachable.of_run replayedToken (.start ⟨rfl, rfl, rfl, rfl⟩) permitted rfl)⟩

end AudioBlock.Auth
