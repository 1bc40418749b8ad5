/-
Requests with an idempotency key, and the responses that are replayed to them.

A response is looked up before the handler runs and stored after it has answered, so requests
interleave at both calls of redis, of which each may fail.  A body stands for its JSON.
-/
import AudioBlock.Foundation.CallTable
import AudioBlock.Foundation.Machine
import AudioBlock.Foundation.Rows
import AudioBlock.Songs.Song

namespace AudioBlock.Middlewares

open AudioBlock.Foundation
open AudioBlock.Songs (truthy)

structure RequestHead where
  userId : Option String
  ip : Option String
  method : String
  path : String
  idempotencyKey : Option String
  deriving DecidableEq

def cacheKey (head : RequestHead) : Option String :=
  (truthy head.idempotencyKey).map fun key =>
    let userId := ((truthy head.userId).or (truthy head.ip)).getD "anonymous"
    "idempotency:" ++ userId ++ ":" ++ head.method ++ ":" ++ head.path ++ ":" ++ key

structure Response where
  statusCode : Nat
  body : String
  deriving DecidableEq

def Response.successful (response : Response) : Bool :=
  decide (200 ≤ response.statusCode ∧ response.statusCode < 300)

structure CachedResponse where
  key : String
  response : Response
  expiresAt : Nat
  deriving DecidableEq

inductive RunEnd
  | notCached (response : Response)
  | notStored (response : Response)
  | stored (response : Response) (storedAt : Nat)
  deriving DecidableEq

inductive RequestPhase
  | looking
  | replayed (response : Response)
  | running
  | storing (response : Response)
  | ended (run : RunEnd)
  deriving DecidableEq

structure IdempotentRequest where
  key : Option String
  phase : RequestPhase
  deriving DecidableEq

structure IdempotencyState where
  cache : List CachedResponse
  requests : List IdempotentRequest
  clock : Nat

inductive IdempotencyLabel
  | arrive (head : RequestHead)
  | lookup (index now : Nat) (answered : Bool)
  /-- The handler answers, by `res.json` or otherwise. -/
  | respond (index : Nat) (response : Response) (byJson : Bool)
  | store (index now : Nat) (written : Bool)

namespace IdempotencyState

def place (state : IdempotencyState) (index : Nat) (request : IdempotentRequest)
    (phase : RequestPhase) : IdempotencyState :=
  { state with requests := state.requests.set index { request with phase := phase } }

/-- `redis.get`, which finds no expired entry. -/
def cached (state : IdempotencyState) (key : String) (now : Nat) : Option CachedResponse :=
  (findRow CachedResponse.key key state.cache).filter fun entry => decide (now < entry.expiresAt)

def cacheResponse (state : IdempotencyState) (entry : CachedResponse) : IdempotencyState :=
  { state with cache := storeRow CachedResponse.key entry state.cache }

end IdempotencyState

def lifetime (ttlMs : Nat) : Nat := (ttlMs + 999) / 1000 * 1000

/-- What the lookup of a key leads to; a failed one counts as a new request. -/
def lookedUp (found : Option CachedResponse) : RequestPhase :=
  match found with
  | some entry => .replayed entry.response
  | none => .running

/-- Redis rejects a lifetime of zero. -/
def storedPhase (ttlMs : Nat) (response : Response) (now : Nat) (written : Bool) : RunEnd :=
  if written = true ∧ 0 < lifetime ttlMs then .stored response now else .notStored response

def idempotencyStep (ttlMs : Nat) (state : IdempotencyState) :
    IdempotencyLabel → Option IdempotencyState
  | .arrive head =>
      let key := cacheKey head
      some { state with
        requests := state.requests ++
          [{ key := key, phase := if key = none then .running else .looking }] }
  | .lookup index now answered =>
      state.requests[index]?.bind fun request =>
        match request.key, request.phase with
        | some key, .looking =>
            if now < state.clock then none
            else
              some ({ state with clock := now }.place index request
                (lookedUp (if answered then state.cached key now else none)))
        | _, _ => none
  | .respond index response byJson =>
      state.requests[index]?.bind fun request =>
        match request.phase with
        | .running =>
            some (state.place index request
              (if request.key ≠ none ∧ byJson = true ∧ response.successful = true then
                .storing response
              else .ended (.notCached response)))
        | _ => none
  | .store index now written =>
      state.requests[index]?.bind fun request =>
        match request.key, request.phase with
        | some key, .storing response =>
            if now < state.clock then none
            else
              let run := storedPhase ttlMs response now written
              let next := { state with clock := now }.place index request (.ended run)
              some (match run with
                | .stored _ _ => next.cacheResponse
                    { key := key, response := response, expiresAt := now + lifetime ttlMs }
                | _ => next)
        | _, _ => none

def idempotencyMachine (ttlMs : Nat) : Machine IdempotencyState IdempotencyLabel where
  initial state := state.cache = [] ∧ state.requests = []
  step := idempotencyStep ttlMs

/-!
### Replays

A response within its lifetime is replayed to the requests of its key, and a handler runs where
there is none.

The cache holds, for each key, the response that was stored last, so a lookup that is answered
decides by the runs of the handler that have come to their end.  Those still under way it does
not see.
-/

/-! ### The law -/

def Ended (requests : List IdempotentRequest) (key : String) (run : RunEnd) : Prop :=
  { key := some key, phase := .ended run } ∈ requests

def RunEnd.Spent (ttlMs now : Nat) : RunEnd → Prop
  | .notCached _ | .notStored _ => True
  | .stored _ storedAt => storedAt + lifetime ttlMs ≤ now

def Remembered (ttlMs now : Nat) (requests : List IdempotentRequest) (key : String)
    (response : Response) : Prop :=
  ∃ storedAt, Ended requests key (.stored response storedAt) ∧
    now < storedAt + lifetime ttlMs ∧
      ∀ other otherAt, Ended requests key (.stored other otherAt) → otherAt ≤ storedAt

def LookupRule (ttlMs now : Nat) (requests : List IdempotentRequest) (key : String) :
    RequestPhase → Prop
  | .replayed response => Remembered ttlMs now requests key response
  | .running => ∀ run, Ended requests key run → run.Spent ttlMs now
  | _ => False

/-- What an answered lookup leads to follows from the runs that have ended before. -/
def Deduplicated (ttlMs : Nat) (state : IdempotencyState) : IdempotencyLabel → Prop
  | .lookup index now true =>
      ∀ after ∈ idempotencyStep ttlMs state (.lookup index now true),
        ∃ key phase, after.requests[index]? = some { key := some key, phase := phase } ∧
          LookupRule ttlMs now state.requests key phase
  | _ => True

/-! ### The cache and the runs -/

structure CacheConsistent (ttlMs : Nat) (state : IdempotencyState) : Prop where
  held : ∀ key entry, findRow CachedResponse.key key state.cache = some entry →
    ∃ storedAt, storedAt ≤ state.clock ∧ entry.expiresAt = storedAt + lifetime ttlMs ∧
      Ended state.requests key (.stored entry.response storedAt)
  kept : ∀ key response storedAt, Ended state.requests key (.stored response storedAt) →
    ∃ entry, findRow CachedResponse.key key state.cache = some entry ∧
      storedAt + lifetime ttlMs ≤ entry.expiresAt

section Steps

variable {ttlMs index now : Nat} {state after : IdempotencyState} {request : IdempotentRequest}

theorem ended_placed {requests : List IdempotentRequest} {key : String} {run : RunEnd}
    (present : requests[index]? = some request) (underWay : ∀ run, request.phase ≠ .ended run)
    (phase : RequestPhase) :
    Ended (requests.set index { request with phase := phase }) key run ↔
      (request.key = some key ∧ phase = .ended run) ∨ Ended requests key run := by
  have notItself : ({ key := some key, phase := .ended run } : IdempotentRequest) ≠ request := by
    intro same
    exact underWay run (same ▸ rfl)
  unfold Ended
  rw [mem_placed present, mem_of_present present, or_iff_right notItself]
  apply or_congr_left
  rw [IdempotentRequest.mk.injEq]
  exact and_congr eq_comm eq_comm

section

variable (consistent : CacheConsistent ttlMs state)
include consistent

theorem CacheConsistent.unstored (cache : after.cache = state.cache)
    (clock : state.clock ≤ after.clock)
    (same : ∀ key response storedAt, Ended after.requests key (.stored response storedAt) ↔
      Ended state.requests key (.stored response storedAt)) : CacheConsistent ttlMs after where
  held key entry found := by
    rw [cache] at found
    obtain ⟨storedAt, before, expires, ended⟩ := consistent.held key entry found
    exact ⟨storedAt, Nat.le_trans before clock, expires, (same _ _ _).mpr ended⟩
  kept key response storedAt ended := by
    rw [cache]
    exact consistent.kept key response storedAt ((same _ _ _).mp ended)

theorem CacheConsistent.placed (present : state.requests[index]? = some request)
    (underWay : ∀ run, request.phase ≠ .ended run) {phase : RequestPhase}
    (unstored : ∀ response storedAt, phase ≠ .ended (.stored response storedAt))
    (clock : state.clock ≤ now) :
    CacheConsistent ttlMs ({ state with clock := now }.place index request phase) := by
  refine consistent.unstored rfl clock ?_
  intro key response storedAt
  refine (ended_placed present underWay phase).trans (or_iff_right ?_)
  exact fun own => unstored response storedAt own.2

theorem CacheConsistent.storing {key : String} {response : Response}
    (present : state.requests[index]? = some request) (named : request.key = some key)
    (phase : request.phase = .storing response) (clock : state.clock ≤ now) :
    CacheConsistent ttlMs
      (({ state with clock := now }.place index request
        (.ended (.stored response now))).cacheResponse
          { key := key, response := response, expiresAt := now + lifetime ttlMs }) := by
  have underWay : ∀ run, request.phase ≠ .ended run := by
    intro run ended
    rw [phase] at ended
    cases ended
  have placed := fun {other run} =>
    @ended_placed index request state.requests other run present underWay
      (.ended (.stored response now))
  have latest := @findRow_storeRow CachedResponse String _ CachedResponse.key
    { key := key, response := response, expiresAt := now + lifetime ttlMs } state.cache
  constructor
  · intro other entry found
    change findRow _ other (storeRow _ _ state.cache) = some entry at found
    by_cases own : other = key
    · subst own
      cases latest.symm.trans found
      exact ⟨now, Nat.le_refl now, rfl, placed.mpr (Or.inl ⟨named, rfl⟩)⟩
    · rw [findRow_storeRow_other _ own] at found
      obtain ⟨storedAt, before, expires, ended⟩ := consistent.held other entry found
      exact ⟨storedAt, Nat.le_trans before clock, expires, placed.mpr (Or.inr ended)⟩
  · intro other given storedAt ended
    change ∃ entry, findRow _ other (storeRow _ _ state.cache) = some entry ∧ _
    by_cases own : other = key
    · subst own
      refine ⟨_, latest, ?_⟩
      apply Nat.add_le_add_right
      rcases placed.mp ended with ⟨_, same⟩ | earlier
      · cases same
        exact Nat.le_refl now
      · obtain ⟨entry, found, later⟩ := consistent.kept other given storedAt earlier
        obtain ⟨entryAt, before, expires, _⟩ := consistent.held other entry found
        rw [expires] at later
        exact Nat.le_trans (Nat.le_of_add_le_add_right later) (Nat.le_trans before clock)
    · rw [findRow_storeRow_other _ own]
      rcases placed.mp ended with ⟨same, _⟩ | earlier
      · exact absurd (Option.some.inj (same.symm.trans named)) own
      · exact consistent.kept other given storedAt earlier

end

theorem idempotencyStep_consistent (label : IdempotencyLabel)
    (consistent : CacheConsistent ttlMs state)
    (moved : idempotencyStep ttlMs state label = some after) : CacheConsistent ttlMs after := by
  cases label with
  | arrive head =>
      cases moved
      refine consistent.unstored rfl (Nat.le_refl state.clock) ?_
      intro key response storedAt
      refine List.mem_append.trans (or_iff_left ?_)
      intro arrived
      have phase := congrArg IdempotentRequest.phase (List.mem_singleton.mp arrived)
      change RequestPhase.ended _ = if _ then _ else _ at phase
      split at phase <;> cases phase
  | lookup index now answered =>
      obtain ⟨request, present, moved⟩ := Option.bind_eq_some_iff.mp moved
      split at moved
      · rename_i key _ phase
        split at moved
        · cases moved
        · rename_i inOrder
          cases moved
          refine consistent.placed present ?_ ?_ (Nat.not_lt.mp inOrder)
          · intro run ended
            rw [phase] at ended
            cases ended
          · intro response storedAt
            unfold lookedUp
            split <;> exact RequestPhase.noConfusion
      · cases moved
  | respond index response byJson =>
      obtain ⟨request, present, moved⟩ := Option.bind_eq_some_iff.mp moved
      split at moved
      · rename_i phase
        cases moved
        refine consistent.placed present ?_ ?_ (Nat.le_refl state.clock)
        · intro run ended
          rw [phase] at ended
          cases ended
        · intro given storedAt same
          split at same <;> cases same
      · cases moved
  | store index now written =>
      obtain ⟨request, present, moved⟩ := Option.bind_eq_some_iff.mp moved
      split at moved
      · rename_i key response named phase
        split at moved
        · cases moved
        · rename_i inOrder
          cases moved
          by_cases accepted : written = true ∧ 0 < lifetime ttlMs
          · simp only [storedPhase, if_pos accepted]
            exact consistent.storing present named phase (Nat.not_lt.mp inOrder)
          · simp only [storedPhase, if_neg accepted]
            refine consistent.placed present ?_ ?_ (Nat.not_lt.mp inOrder)
            · intro run ended
              rw [phase] at ended
              cases ended
            · intro given storedAt same
              cases same
      · cases moved

end Steps

/-! ### Every lookup -/

section Lookups

variable {ttlMs now : Nat} {state : IdempotencyState} {key : String}

theorem CacheConsistent.lookedUp (consistent : CacheConsistent ttlMs state) (now : Nat)
    (key : String) :
    LookupRule ttlMs now state.requests key (lookedUp (state.cached key now)) := by
  unfold IdempotencyState.cached
  cases found : findRow CachedResponse.key key state.cache with
  | none =>
      rw [Option.filter_none]
      intro run ended
      cases run with
      | notCached response => trivial
      | notStored response => trivial
      | stored response storedAt =>
          obtain ⟨entry, present, _⟩ := consistent.kept key response storedAt ended
          cases found.symm.trans present
  | some entry =>
      have lastOf : ∀ response storedAt, Ended state.requests key (.stored response storedAt) →
          storedAt + lifetime ttlMs ≤ entry.expiresAt := by
        intro response storedAt ended
        obtain ⟨other, present, later⟩ := consistent.kept key response storedAt ended
        cases found.symm.trans present
        exact later
      rw [Option.filter_some]
      split
      · rename_i alive
        obtain ⟨storedAt, _, expires, ended⟩ := consistent.held key entry found
        rw [decide_eq_true_eq, expires] at alive
        refine ⟨storedAt, ended, alive, ?_⟩
        intro other otherAt otherEnded
        have later := lastOf other otherAt otherEnded
        rw [expires] at later
        exact Nat.le_of_add_le_add_right later
      · rename_i expired
        rw [decide_eq_true_eq, Nat.not_lt] at expired
        intro run ended
        cases run with
        | notCached response => trivial
        | notStored response => trivial
        | stored response storedAt => exact Nat.le_trans (lastOf response storedAt ended) expired

theorem CacheConsistent.deduplicated (consistent : CacheConsistent ttlMs state)
    (label : IdempotencyLabel) : Deduplicated ttlMs state label := by
  unfold Deduplicated
  split
  · intro after moved
    obtain ⟨request, present, moved⟩ := Option.bind_eq_some_iff.mp moved
    split at moved
    · rename_i key named _
      split at moved
      · cases moved
      · cases moved
        obtain ⟨inside, _⟩ := List.getElem?_eq_some_iff.mp present
        refine ⟨key, _, ?_, consistent.lookedUp _ key⟩
        rw [← named]
        exact List.getElem?_set_self inside
    · cases moved
  · trivial

end Lookups

/-- However the requests interleave, an answered lookup replays the response of its key that was
stored last, if its lifetime is not over; it runs the handler only where every run of the handler
that has ended left no response to replay. -/
theorem idempotencyMachine_deduplicated (ttlMs : Nat) (state : IdempotencyState)
    (labels : List IdempotencyLabel) (begins : (idempotencyMachine ttlMs).initial state) :
    (idempotencyMachine ttlMs).Permits (Deduplicated ttlMs) state labels := by
  obtain ⟨noCache, noRequests⟩ := begins
  refine (Machine.permits_always _ state labels).strengthen (CacheConsistent ttlMs) ?_ ?_ ?_
  · exact fun state label consistent _ => consistent.deduplicated label
  · exact fun before label after consistent _ moved =>
      idempotencyStep_consistent label consistent moved
  · constructor
    · intro key entry found
      rw [noCache] at found
      cases found
    · intro key response storedAt ended
      unfold Ended at ended
      rw [noRequests] at ended
      cases ended

/-! ### Runs of one key -/

/-- The handler has been started for the request, and a stored response is not over. -/
def RequestPhase.ranWithin (ttlMs now : Nat) : RequestPhase → Bool
  | .looking | .replayed _ => false
  | .running | .storing _ | .ended (.notCached _) | .ended (.notStored _) => true
  | .ended (.stored _ storedAt) => decide (now < storedAt + lifetime ttlMs)

/-- No handler is started for a key beside another run within the lifetime. -/
def RunsOnce (ttlMs : Nat) (state : IdempotencyState) : IdempotencyLabel → Prop
  | .lookup index now answered =>
      ∀ after ∈ idempotencyStep ttlMs state (.lookup index now answered),
        ∀ request ∈ after.requests[index]?, request.phase = .running →
          ∀ other ∈ state.requests, other.key = request.key →
            other.phase.ranWithin ttlMs now = false
  | _ => True

instance (ttlMs : Nat) (state : IdempotencyState) : DecidablePred (RunsOnce ttlMs state)
  | .lookup _ _ _ => inferInstanceAs (Decidable (∀ after ∈ idempotencyStep _ _ _, _))
  | .arrive _ | .respond _ _ _ | .store _ _ _ => isTrue trivial

def mintRequest : RequestHead where
  userId := some "ada"
  ip := some "10.0.0.7"
  method := "POST"
  path := "/mint/7"
  idempotencyKey := some "k1"

def idleIdempotency : IdempotencyState where
  cache := []
  requests := []
  clock := 0

/-- The first run fails before the response of the second one is stored and replayed. -/
def retriedMint : List IdempotencyLabel :=
  [.arrive mintRequest, .lookup 0 1 true, .respond 0 { statusCode := 500, body := "null" } true,
    .arrive mintRequest, .lookup 1 2 true,
    .respond 1 { statusCode := 201, body := "7" } true, .store 1 3 true,
    .arrive mintRequest, .lookup 2 4 true]

def overlappingMints : List IdempotencyLabel :=
  [.arrive mintRequest, .arrive mintRequest, .lookup 0 1 true, .lookup 1 1 true]

theorem retriedMint_replayed :
    (((idempotencyMachine 60000).run idleIdempotency retriedMint).bind fun after =>
        after.requests[2]?) =
      some { key := cacheKey mintRequest
             phase := .replayed { statusCode := 201, body := "7" } } ∧
      (idempotencyMachine 60000).Permits (Deduplicated 60000) idleIdempotency retriedMint :=
  ⟨by decide +kernel,
    idempotencyMachine_deduplicated 60000 idleIdempotency retriedMint ⟨rfl, rfl⟩⟩

theorem mints_run_twice :
    ¬ (idempotencyMachine 60000).Permits (RunsOnce 60000) idleIdempotency retriedMint ∧
      ¬ (idempotencyMachine 60000).Permits (RunsOnce 60000) idleIdempotency overlappingMints := by
  decide +kernel

end AudioBlock.Middlewares
