/-
Revoked Privy sessions, and the check of a token against them.

The records lie in Redis.  A command takes effect in the step that issues it, if it does; where
it fails, or is not answered in time, it may or may not have taken effect.  A verification first
checks the token by itself and looks for revocations in a later step.  Redis and the service
read one clock, which does not run back; the numbers that they compute with are exact.

`sessionCalls`, `userCalls` and `verdicts` record the calls that succeeded or took effect, the
latest first, and the answers of the lookups.
-/
import AudioBlock.Auth.PrivyMiddleware
import AudioBlock.Foundation.Machine
import Mathlib.Algebra.Order.Floor.Defs
import Mathlib.Data.List.AList
import Mathlib.Data.Rat.Floor

namespace AudioBlock.Auth

open AudioBlock.Foundation

/-- A key of Redis: the number that its text writes, in thousandths, and when it expires. -/
structure RevocationEntry where
  value : Nat
  expires : Option Nat
  deriving DecidableEq

abbrev RevocationStore := AList fun _ : String => RevocationEntry

namespace RevocationStore

def get (store : RevocationStore) (now : Nat) (key : String) : Option Nat :=
  ((store.lookup key).filter fun entry => entry.expires.all fun due => decide (now < due)).map
    RevocationEntry.value

def set (store : RevocationStore) (key : String) (value : Nat) : RevocationStore :=
  store.insert key { value, expires := none }

/-- `SET key value EX ttl`; `ttl` is in seconds. -/
def setEx (store : RevocationStore) (now : Nat) (key : String) (value ttl : Nat) :
    RevocationStore :=
  store.insert key { value, expires := some (now + 1000 * ttl) }

end RevocationStore

def revokedKey (sessionId : String) : String := "privy:revoked:" ++ sessionId

def revokedUserKey (userId : String) : String := "privy:revoked-user:" ++ userId

/-- What comes of a command that writes. -/
inductive StoreOutcome
  | stored
  /-- It took effect, and the caller sees an error. -/
  | unconfirmed
  | failed
  deriving DecidableEq

def revocationTtl (expiresAt : ℚ) (now : Nat) : Int := ⌈expiresAt - now / 1000⌉

/-- `isSessionRevoked`; a lookup that is not answered counts as the failure mode says. -/
def isSessionRevoked (store : RevocationStore) (failOpen answered : Bool) (now : Nat)
    (sessionId userId : String) (issuedAt : Nat) : Bool :=
  if answered then
    let session := store.get now (revokedKey sessionId)
    let cutoff := if userId = "" then none else store.get now (revokedUserKey userId)
    session.isSome || cutoff.any fun cutoff => decide (1000 * issuedAt < cutoff)
  else !failOpen

/-- `verifyPrivyAccessToken` up to the lookup. -/
def verifyClaims (platform : PrivyPlatform) (appId : String) (now : Nat) (token : String) :
    Except PrivyFailure VerifiedPrivyToken := do
  let header ← readJwtHeader platform token
  let kid ← checkHeader header
  let key ← platform.getKey kid
  verifyPrivySignature platform appId now token key header
  normalisedClaims header

theorem verifyPrivyAccessToken_eq (platform : PrivyPlatform) (appId : String) (now : Nat)
    (token : String) :
    verifyPrivyAccessToken platform appId now token =
      (do
        let result ← verifyClaims platform appId now token
        if platform.isSessionRevoked result.sessionId result.userId result.issuedAt then
          .error (.sessionRevoked result.sessionId)
        else .ok result) := by
  unfold verifyPrivyAccessToken verifyClaims
  simp only [bind_assoc]

/-- A call of `revokeSession` that succeeded or took effect. -/
structure SessionCall where
  sessionId : String
  expiresAt : ℚ
  succeeded : Bool
  deriving DecidableEq

/-- A call of `revokeAllForUser` that took effect. -/
structure UserCall where
  userId : String
  calledAt : Nat
  succeeded : Bool
  deriving DecidableEq

structure RevocationRun where
  now : Nat
  store : RevocationStore
  /-- The tokens that are checked and not yet looked up. -/
  checked : List VerifiedPrivyToken
  sessionCalls : List SessionCall
  userCalls : List UserCall
  verdicts : List (Except PrivyFailure VerifiedPrivyToken)

namespace RevocationRun

def create (now : Nat) : RevocationRun :=
  { now
    store := ∅
    checked := []
    sessionCalls := []
    userCalls := []
    verdicts := [] }

/-- An expiry that is not a finite number is refused, and one that has passed needs no record. -/
def revokeSession (run : RevocationRun) (sessionId : String) (expiresAt : Option ℚ)
    (outcome : StoreOutcome) : RevocationRun :=
  match expiresAt with
  | none => run
  | some expiresAt =>
      let ttl := revocationTtl expiresAt run.now
      if ttl ≤ 0 then
        { run with
          sessionCalls := { sessionId, expiresAt, succeeded := true } :: run.sessionCalls }
      else if outcome = .failed then run
      else
        { run with
          store := run.store.setEx run.now (revokedKey sessionId) 1000 ttl.toNat
          sessionCalls :=
            { sessionId, expiresAt, succeeded := outcome = .stored } :: run.sessionCalls }

def revokeAllForUser (run : RevocationRun) (userId : String) (outcome : StoreOutcome) :
    RevocationRun :=
  if outcome = .failed then run
  else
    { run with
      store := run.store.set (revokedUserKey userId) run.now
      userCalls :=
        { userId, calledAt := run.now, succeeded := outcome = .stored } :: run.userCalls }

def lookup (run : RevocationRun) (failOpen answered : Bool) (token : VerifiedPrivyToken) :
    Except PrivyFailure VerifiedPrivyToken :=
  if isSessionRevoked run.store failOpen answered run.now token.sessionId token.userId
      token.issuedAt then
    .error (.sessionRevoked token.sessionId)
  else .ok token

end RevocationRun

inductive RevocationLabel
  | elapse (milliseconds : Nat)
  | check (token : String)
  | lookup (index : Nat) (answered : Bool)
  | revokeSession (sessionId : String) (expiresAt : Option ℚ) (outcome : StoreOutcome)
  | revokeAllForUser (userId : String) (outcome : StoreOutcome)

section Steps

variable (platform : PrivyPlatform) (appId : String) (failOpen : Bool)

def revocationStep (run : RevocationRun) : RevocationLabel → Option RevocationRun
  | .elapse milliseconds => some { run with now := run.now + milliseconds }
  | .check token =>
      match verifyClaims platform appId run.now token with
      | .error failure => some { run with verdicts := run.verdicts ++ [.error failure] }
      | .ok claims => some { run with checked := run.checked ++ [claims] }
  | .lookup index answered =>
      run.checked[index]?.map fun token =>
        { run with
          checked := run.checked.eraseIdx index
          verdicts := run.verdicts ++ [run.lookup failOpen answered token] }
  | .revokeSession sessionId expiresAt outcome =>
      some (run.revokeSession sessionId expiresAt outcome)
  | .revokeAllForUser userId outcome => some (run.revokeAllForUser userId outcome)

def revocationMachine : Machine RevocationRun RevocationLabel where
  initial run := ∃ now, run = .create now
  step := revocationStep platform appId failOpen

end Steps

/-!
### Tokens that stay refused

The cutoff of a user is kept for good.  The record of a session is kept for the remaining
lifetime of one token, and the latest record replaces the one before; a token of the session
that lives longer is accepted once the record is gone.
-/

theorem revokedKey_ne_revokedUserKey (sessionId userId : String) :
    revokedKey sessionId ≠ revokedUserKey userId := by
  unfold revokedKey revokedUserKey
  intro same
  have letters := congrArg String.toList same
  have session : "privy:revoked:".toList = "privy:revoked".toList ++ [':'] := by decide
  have user : "privy:revoked-user:".toList = "privy:revoked".toList ++ '-' :: "user:".toList := by
    decide
  rw [String.toList_append, String.toList_append, session, user, List.append_assoc,
    List.append_assoc] at letters
  exact absurd (List.cons.inj (List.append_cancel_left letters)).1 (by decide)

theorem revokedKey_injective {one other : String} (same : revokedKey one = revokedKey other) :
    one = other := by
  unfold revokedKey at same
  have letters := congrArg String.toList same
  rw [String.toList_append, String.toList_append] at letters
  exact String.toList_inj.mp (List.append_cancel_left letters)

theorem revokedUserKey_injective {one other : String}
    (same : revokedUserKey one = revokedUserKey other) : one = other := by
  unfold revokedUserKey at same
  have letters := congrArg String.toList same
  rw [String.toList_append, String.toList_append] at letters
  exact String.toList_inj.mp (List.append_cancel_left letters)

theorem revocationTtl_covers {expiresAt : ℚ} {now : Nat}
    (positive : 0 < revocationTtl expiresAt now) :
    1000 * expiresAt ≤ (now + 1000 * (revocationTtl expiresAt now).toNat : Nat) := by
  have ceil : expiresAt - now / 1000 ≤ (revocationTtl expiresAt now : ℚ) := Int.le_ceil _
  have whole : ((revocationTtl expiresAt now).toNat : ℚ) = (revocationTtl expiresAt now : ℚ) := by
    exact_mod_cast Int.toNat_of_nonneg (le_of_lt positive)
  push_cast
  rw [whole]
  linarith

theorem revocationTtl_passed {expiresAt : ℚ} {now : Nat} (none : revocationTtl expiresAt now ≤ 0) :
    1000 * expiresAt ≤ now := by
  have ceil : expiresAt - now / 1000 ≤ (revocationTtl expiresAt now : ℚ) := Int.le_ceil _
  have nothing : (revocationTtl expiresAt now : ℚ) ≤ 0 := by exact_mod_cast none
  linarith

theorem verifyClaims_named {claims : VerifiedPrivyToken} {platform : PrivyPlatform}
    {appId token : String} {now : Nat}
    (verified : verifyClaims platform appId now token = .ok claims) : claims.userId ≠ "" := by
  obtain ⟨_, _, verified⟩ := ok_of_bind verified
  obtain ⟨_, _, verified⟩ := ok_of_bind verified
  obtain ⟨_, _, verified⟩ := ok_of_bind verified
  obtain ⟨_, _, verified⟩ := ok_of_bind verified
  exact (normalisedClaims_userId verified).2

namespace RevocationRun

/-- The last call of `revokeSession` for a session. -/
def lastCall (run : RevocationRun) (sessionId : String) : Option SessionCall :=
  run.sessionCalls.find? fun call => decide (call.sessionId = sessionId)

def accepted (failOpen : Bool) (run : RevocationRun) : RevocationLabel → Option VerifiedPrivyToken
  | .lookup index answered =>
      run.checked[index]?.bind fun token => (run.lookup failOpen answered token).toOption
  | _ => none

structure Permanent (failOpen : Bool) (run : RevocationRun) (label : RevocationLabel) : Prop where
  session : ∀ token ∈ run.accepted failOpen label, ∀ call ∈ run.sessionCalls,
    call.succeeded → call.sessionId ≠ token.sessionId
  user : ∀ token ∈ run.accepted failOpen label, ∀ call ∈ run.userCalls,
    call.succeeded → call.userId = token.userId → call.calledAt ≤ 1000 * token.issuedAt

structure Lawful (failOpen : Bool) (run : RevocationRun) (label : RevocationLabel) : Prop where
  session : ∀ index, label = .lookup index true → ∀ token ∈ run.accepted failOpen label,
    run.now < 1000 * token.expiresAt → ∀ call ∈ run.lastCall token.sessionId,
      call.expiresAt < token.expiresAt
  user : ∀ index, label = .lookup index true → ∀ token ∈ run.accepted failOpen label,
    ∀ call ∈ run.userCalls, call.userId = token.userId → call.calledAt ≤ 1000 * token.issuedAt
  unanswered : ∀ index, label = .lookup index false → ∀ token ∈ run.accepted failOpen label,
    failOpen = true

structure Recorded (run : RevocationRun) : Prop where
  past : ∀ call ∈ run.userCalls, call.calledAt ≤ run.now
  cutoffs : ∀ call ∈ run.userCalls, ∃ value,
    run.store.lookup (revokedUserKey call.userId) = some { value, expires := none } ∧
      call.calledAt ≤ value
  sessions : ∀ sessionId, ∀ call ∈ run.lastCall sessionId, 1000 * call.expiresAt ≤ run.now ∨
    ∃ value due : Nat,
      run.store.lookup (revokedKey sessionId) = some { value, expires := some due } ∧
        1000 * call.expiresAt ≤ due
  named : ∀ token ∈ run.checked, token.userId ≠ ""

theorem create_recorded (now : Nat) : (create now).Recorded where
  past _ member := absurd member List.not_mem_nil
  cutoffs _ member := absurd member List.not_mem_nil
  sessions _ call found := absurd found (Option.not_mem_none call)
  named _ member := absurd member List.not_mem_nil

variable {run after : RevocationRun} {failOpen : Bool}

theorem accepted_unrevoked {index : Nat} {answered : Bool} {token : VerifiedPrivyToken}
    (accepted : token ∈ run.accepted failOpen (.lookup index answered)) :
    token ∈ run.checked ∧ isSessionRevoked run.store failOpen answered run.now token.sessionId
      token.userId token.issuedAt = false := by
  obtain ⟨checked, pending, verdict⟩ := Option.bind_eq_some_iff.mp accepted
  unfold lookup at verdict
  split at verdict
  · cases verdict
  · rename_i free
    cases verdict
    exact ⟨List.mem_of_getElem? pending, eq_false_of_ne_true free⟩

theorem answered_unrecorded {store : RevocationStore} {now : Nat} {sessionId userId : String}
    {issuedAt : Nat}
    (free : isSessionRevoked store failOpen true now sessionId userId issuedAt = false) :
    store.get now (revokedKey sessionId) = none ∧
      (userId ≠ "" → ∀ cutoff ∈ store.get now (revokedUserKey userId),
        cutoff ≤ 1000 * issuedAt) := by
  unfold isSessionRevoked at free
  rw [if_pos rfl] at free
  obtain ⟨session, cutoff⟩ := Bool.or_eq_false_iff.mp free
  refine ⟨Option.isSome_eq_false_iff.mp session |> Option.isNone_iff_eq_none.mp, ?_⟩
  intro named value found
  rw [if_neg named, found] at cutoff
  exact Nat.le_of_not_lt (of_decide_eq_false cutoff)

theorem Recorded.lawful (recorded : run.Recorded) (label : RevocationLabel) :
    run.Lawful failOpen label := by
  refine ⟨?_, ?_, ?_⟩
  · rintro index rfl token accepted early call last
    have free := (answered_unrecorded (accepted_unrevoked accepted).2).1
    by_contra covered
    have expiry : (token.expiresAt : ℚ) ≤ call.expiresAt := not_lt.mp covered
    have alive : (run.now : ℚ) < 1000 * token.expiresAt := by exact_mod_cast early
    rcases recorded.sessions token.sessionId call last with passed | ⟨value, due, found, covers⟩
    · linarith
    · have unexpired : run.now < due := by
        have alive : (run.now : ℚ) < due := by linarith
        exact_mod_cast alive
      simp [RevocationStore.get, found, unexpired] at free
  · rintro index rfl token accepted call member same
    obtain ⟨checked, free⟩ := accepted_unrevoked accepted
    obtain ⟨value, found, before⟩ := recorded.cutoffs call member
    rw [same] at found
    refine Nat.le_trans before ((answered_unrecorded free).2 (recorded.named _ checked) value ?_)
    simp [RevocationStore.get, found]
  · rintro index rfl token accepted
    have free := (accepted_unrevoked accepted).2
    simpa [isSessionRevoked] using free

/-! ### What a step does to the records -/

theorem Recorded.revokeSession (recorded : run.Recorded) (sessionId : String)
    (expiresAt : Option ℚ) (outcome : StoreOutcome) :
    (run.revokeSession sessionId expiresAt outcome).Recorded := by
  obtain ⟨past, cutoffs, sessions, named⟩ := recorded
  unfold RevocationRun.revokeSession
  split
  · exact ⟨past, cutoffs, sessions, named⟩
  rename_i expiresAt
  dsimp only
  split
  · rename_i passed
    refine ⟨past, cutoffs, fun other call last => ?_, named⟩
    rcases List.find?_cons_eq_some.mp last with ⟨_, rfl⟩ | ⟨_, earlier⟩
    · exact Or.inl (revocationTtl_passed passed)
    · exact sessions other call earlier
  rename_i positive
  split
  · exact ⟨past, cutoffs, sessions, named⟩
  refine ⟨past, fun call member => ?_, fun other call last => ?_, named⟩
  · obtain ⟨value, found, before⟩ := cutoffs call member
    refine ⟨value, ?_, before⟩
    rw [← found]
    exact AList.lookup_insert_ne (revokedKey_ne_revokedUserKey _ _).symm
  · rcases List.find?_cons_eq_some.mp last with ⟨same, rfl⟩ | ⟨different, earlier⟩
    · have same : sessionId = other := of_decide_eq_true same
      subst same
      exact Or.inr ⟨_, _, AList.lookup_insert _,
        revocationTtl_covers (Int.lt_of_not_ge positive)⟩
    · refine (sessions other call earlier).imp id fun ⟨value, due, found, covers⟩ =>
        ⟨value, due, ?_, covers⟩
      rw [← found]
      refine AList.lookup_insert_ne fun same => ?_
      simp [revokedKey_injective same] at different

theorem Recorded.revokeAllForUser (recorded : run.Recorded) (userId : String)
    (outcome : StoreOutcome) : (run.revokeAllForUser userId outcome).Recorded := by
  obtain ⟨past, cutoffs, sessions, named⟩ := recorded
  unfold RevocationRun.revokeAllForUser
  split
  · exact ⟨past, cutoffs, sessions, named⟩
  refine ⟨fun call member => ?_, fun call member => ?_, fun sessionId call last => ?_, named⟩
  · rcases List.mem_cons.mp member with rfl | earlier
    · exact Nat.le_refl run.now
    · exact past call earlier
  · by_cases same : call.userId = userId
    · refine ⟨run.now, ?_, ?_⟩
      · rw [same]
        exact AList.lookup_insert _
      · rcases List.mem_cons.mp member with rfl | earlier
        · exact Nat.le_refl run.now
        · exact past call earlier
    · rcases List.mem_cons.mp member with rfl | earlier
      · exact absurd rfl same
      · obtain ⟨value, found, before⟩ := cutoffs call earlier
        refine ⟨value, ?_, before⟩
        rw [← found]
        exact AList.lookup_insert_ne fun equal => same (revokedUserKey_injective equal)
  · refine (sessions sessionId call last).imp id fun ⟨value, due, found, covers⟩ =>
      ⟨value, due, ?_, covers⟩
    rw [← found]
    exact AList.lookup_insert_ne (revokedKey_ne_revokedUserKey _ _)

theorem revocationStep_recorded {platform : PrivyPlatform} {appId : String}
    {label : RevocationLabel} (recorded : run.Recorded)
    (moved : revocationStep platform appId failOpen run label = some after) : after.Recorded := by
  cases label with
  | elapse milliseconds =>
      cases moved
      obtain ⟨past, cutoffs, sessions, named⟩ := recorded
      refine ⟨?_, cutoffs, fun sessionId call last => ?_, named⟩
      · exact fun call member => Nat.le_add_right_of_le (past call member)
      · refine (sessions sessionId call last).imp (fun passed => ?_) id
        refine le_trans passed ?_
        exact_mod_cast Nat.le_add_right run.now milliseconds
  | check token =>
      simp only [revocationStep] at moved
      split at moved
      · cases moved
        exact ⟨recorded.past, recorded.cutoffs, recorded.sessions, recorded.named⟩
      · rename_i claims verified
        cases moved
        refine ⟨recorded.past, recorded.cutoffs, recorded.sessions, fun token member => ?_⟩
        rcases List.mem_append.mp member with earlier | new
        · exact recorded.named token earlier
        · rw [List.mem_singleton.mp new]
          exact verifyClaims_named verified
  | lookup index answered =>
      obtain ⟨token, pending, rfl⟩ := Option.map_eq_some_iff.mp moved
      exact ⟨recorded.past, recorded.cutoffs, recorded.sessions,
        fun token member => recorded.named token (List.mem_of_mem_eraseIdx member)⟩
  | revokeSession sessionId expiresAt outcome =>
      cases moved
      exact recorded.revokeSession sessionId expiresAt outcome
  | revokeAllForUser userId outcome =>
      cases moved
      exact recorded.revokeAllForUser userId outcome

end RevocationRun

/-- In every run, a revoked token stays refused as far as its record reaches. -/
theorem revocationMachine_lawful (platform : PrivyPlatform) (appId : String) (failOpen : Bool)
    (now : Nat) (labels : List RevocationLabel) :
    (revocationMachine platform appId failOpen).Permits (RevocationRun.Lawful failOpen)
      (.create now) labels := by
  refine (Machine.permits_iff RevocationRun.Recorded (fun _ => True) ?_ ?_ labels
    (RevocationRun.create_recorded now) (fun _ _ => trivial)).mp (Machine.permits_always _ _ labels)
  · exact fun run label recorded _ => iff_of_true trivial (recorded.lawful label)
  · exact fun run label after recorded _ _ moved =>
      RevocationRun.revocationStep_recorded recorded moved

/-! A session with a token that expires after a minute and one that expires after an hour. -/

def sessionToken (expiry : Nat) : PrivyJwt where
  alg := "ES256"
  kid := some "k1"
  typ := some "JWT"
  sub := some "did:privy:1"
  sid := some "s1"
  iss := some "privy.io"
  aud := some "app"
  iat := some 0
  nbf := none
  exp := some expiry

def twoTokens : PrivyPlatform where
  isPrivyEnabled := true
  appId := some "app"
  decode token :=
    if token = "minute" then some (sessionToken 60)
    else if token = "hour" then some (sessionToken 3600)
    else none
  getKey kid := .ok kid
  signedBy _ key := key = "k1"
  isSessionRevoked _ _ _ := false
  readPayload _ := .unreadable
  uuid text := some text

def earlyExpiry : List RevocationLabel :=
  [.revokeSession "s1" (some 60) .stored, .elapse 60000, .check "hour", .lookup 0 true]

/-- The other token is accepted as soon as the record is gone. -/
theorem earlyExpiry_accepted :
    ¬(revocationMachine twoTokens "app" false).Permits (RevocationRun.Permanent false)
        (.create 0) earlyExpiry ∧
      ((revocationMachine twoTokens "app" false).run (.create 0) (earlyExpiry.take 3)).map
          (fun run => (run.now, run.sessionCalls,
            (run.accepted false (.lookup 0 true)).map fun token =>
              (token.sessionId, token.expiresAt))) =
        some (60000, [{ sessionId := "s1", expiresAt := 60, succeeded := true }],
          some ("s1", 3600)) := by
  have executed :
      ((revocationMachine twoTokens "app" false).run (.create 0) (earlyExpiry.take 3)).map
          (fun run => (run.now, run.sessionCalls,
            (run.accepted false (.lookup 0 true)).map fun token =>
              (token.sessionId, token.expiresAt))) =
        some (60000, [{ sessionId := "s1", expiresAt := 60, succeeded := true }],
          some ("s1", 3600)) := by decide +kernel
  refine ⟨fun permitted => ?_, executed⟩
  obtain ⟨run, ran, shown⟩ := Option.map_eq_some_iff.mp executed
  obtain ⟨_, shown⟩ := Prod.mk.inj shown
  obtain ⟨calls, shown⟩ := Prod.mk.inj shown
  obtain ⟨token, accepted, named⟩ := Option.map_eq_some_iff.mp shown
  replace permitted : (revocationMachine twoTokens "app" false).Permits
      (RevocationRun.Permanent false) (.create 0) (earlyExpiry.take 3 ++ earlyExpiry.drop 3) :=
    permitted
  obtain ⟨permanent, _⟩ := permitted.later ran
  have called : { sessionId := "s1", expiresAt := 60, succeeded := true } ∈ run.sessionCalls := by
    rw [calls]
    exact List.mem_singleton_self _
  exact permanent.session token accepted _ called rfl (Prod.mk.inj named).1.symm

end AudioBlock.Auth
