/-
The sliding-window limiter, over a sorted set of redis or over the memory of the instance.

Both count a request before it is decided.  A member of a sorted set is named by the millisecond
and by a number drawn at random, of which only equality counts.
-/
import AudioBlock.Foundation.Rows
import AudioBlock.Foundation.SlidingWindow
import AudioBlock.Songs.Song
import Mathlib.Data.Int.Order.Basic

namespace AudioBlock.Middlewares

open AudioBlock.Foundation
open AudioBlock.Songs (AppError)

inductive FailureMode
  | openMode
  | closed
  deriving DecidableEq

structure SlidingWindowLimiter where
  windowMs : Nat
  max : Nat
  failureMode : FailureMode
  memoryFallback : Bool

/-- A request under the key that the generator gives it, and what `Math.random` draws for it. -/
structure LimitedRequest (Draw : Type) where
  key : String
  now : Nat
  draw : Draw
  deriving DecidableEq

/-- The `X-RateLimit` headers. -/
structure LimitHeaders where
  limit : Nat
  remaining : Nat
  reset : Nat
  deriving DecidableEq

inductive LimiterReply
  | next (headers : Option LimitHeaders)
  | handleError (headers : Option LimitHeaders) (error : AppError) (retryAfter : Nat)
  deriving DecidableEq

def LimiterReply.admitted : LimiterReply → Bool
  | .next _ => true
  | .handleError _ _ _ => false

def inSeconds (ms : Nat) : Nat := (ms + 999) / 1000

/-! ### Redis -/

structure ZMember (Draw : Type) where
  now : Nat
  draw : Draw
  deriving DecidableEq

structure ZEntry (Draw : Type) where
  score : Nat
  member : ZMember Draw
  deriving DecidableEq

structure SortedSet (Draw : Type) where
  key : String
  entries : List (ZEntry Draw)
  expiresAt : Nat

/-- One row for each key; the `Map` keeps the place of a key that is set again. -/
structure MemoryHits where
  key : String
  hits : List Nat
  deriving DecidableEq

structure LimiterState (Draw : Type) where
  redis : List (SortedSet Draw)
  memoryStore : List MemoryHits

section Redis

variable {Draw : Type} [DecidableEq Draw]

def zremrangebyscore (entries : List (ZEntry Draw)) (min max : Int) : List (ZEntry Draw) :=
  entries.filter fun entry => decide (¬ (min ≤ entry.score ∧ (entry.score : Int) ≤ max))

def zadd (entries : List (ZEntry Draw)) (score : Nat) (member : ZMember Draw) : List (ZEntry Draw) :=
  storeRow ZEntry.member { score := score, member := member } entries

def sortedSet (redis : List (SortedSet Draw)) (key : String) (now : Nat) : List (ZEntry Draw) :=
  match findRow SortedSet.key key redis with
  | some set => if now < set.expiresAt then set.entries else []
  | none => []

def windowStart (windowMs now : Nat) : Int := (now : Int) - windowMs

/-- The entries that the pipeline leaves of earlier requests. -/
def trimmed (windowMs : Nat) (redis : List (SortedSet Draw)) (key : String) (now : Nat) :
    List (ZEntry Draw) :=
  zremrangebyscore (sortedSet redis key now) 0 (windowStart windowMs now)

def redisCount (windowMs : Nat) (redis : List (SortedSet Draw)) (request : LimitedRequest Draw) :
    List (SortedSet Draw) × Nat :=
  let member := { now := request.now, draw := request.draw }
  let entries := zadd (trimmed windowMs redis request.key request.now) request.now member
  (storeRow SortedSet.key
      { key := request.key
        entries := entries
        expiresAt := request.now + inSeconds windowMs * 1000 } redis,
    entries.length)

end Redis

/-! ### Memory -/

def MEMORY_SWEEP_THRESHOLD : Nat := 10000

def sweep (windowMs now : Nat) (memoryStore : List MemoryHits) : List MemoryHits :=
  memoryStore.filter fun row =>
    decide (¬ ∃ last ∈ row.hits.getLast?, (last : Int) ≤ windowStart windowMs now)

def memoryHits (windowMs now : Nat) (memoryStore : List MemoryHits) (key : String) : List Nat :=
  (((findRow MemoryHits.key key memoryStore).map MemoryHits.hits).getD []).filter fun time =>
    decide ((time : Int) > windowStart windowMs now)

def memoryCount (windowMs : Nat) (memoryStore : List MemoryHits) (key : String) (now : Nat) :
    List MemoryHits × Nat :=
  let swept := if MEMORY_SWEEP_THRESHOLD < memoryStore.length then sweep windowMs now memoryStore
    else memoryStore
  let hits := memoryHits windowMs now swept key ++ [now]
  (storeRow MemoryHits.key { key := key, hits := hits } swept, hits.length)

/-! ### Replies -/

def rateLimited (message : String) : AppError := ⟨message, some 429, some "RATE_LIMITED"⟩

def externalService (message : String) : AppError :=
  ⟨message, some 503, some "EXTERNAL_SERVICE_ERROR"⟩

def MAX_UNAVAILABLE_RETRY_AFTER_SEC : Nat := 30

namespace SlidingWindowLimiter

def countedReply (limiter : SlidingWindowLimiter) (now count : Nat) : LimiterReply :=
  let headers :=
    { limit := limiter.max
      remaining := limiter.max - count
      reset := inSeconds (now + limiter.windowMs) }
  if limiter.max < count then
    .handleError (some headers) (rateLimited "Too many requests. Please try again later.")
      (inSeconds limiter.windowMs)
  else .next (some headers)

variable {Draw : Type} [DecidableEq Draw]

/-- The pipeline answers, or it throws. -/
def handle (limiter : SlidingWindowLimiter) (answers : Bool) (state : LimiterState Draw)
    (request : LimitedRequest Draw) : LimiterState Draw × LimiterReply :=
  if answers then
    let counted := redisCount limiter.windowMs state.redis request
    ({ state with redis := counted.1 }, limiter.countedReply request.now counted.2)
  else
    match limiter.failureMode, limiter.memoryFallback with
    | .openMode, _ => (state, .next none)
    | .closed, false =>
        (state, .handleError none
          (externalService "Service temporarily unavailable. Please try again later.")
          (min (inSeconds limiter.windowMs) MAX_UNAVAILABLE_RETRY_AFTER_SEC))
    | .closed, true =>
        let counted := memoryCount limiter.windowMs state.memoryStore request.key request.now
        ({ state with memoryStore := counted.1 }, limiter.countedReply request.now counted.2)

end SlidingWindowLimiter

/-- Beside those of `memoryCount`, sweeps may come at any time. -/
inductive LimiterEvent (Draw : Type)
  | request (request : LimitedRequest Draw)
  | sweep (now : Nat)
  deriving DecidableEq

def LimiterEvent.moment {Draw : Type} : LimiterEvent Draw → Nat
  | .request limited => limited.now
  | .sweep now => now

section Runs

variable {Draw : Type} [DecidableEq Draw]

def requestsOf (events : List (LimiterEvent Draw)) : List (LimitedRequest Draw) :=
  events.filterMap fun event =>
    match event with
    | .request request => some request
    | .sweep _ => none

def limiterReplies (limiter : SlidingWindowLimiter) (answers : Bool) :
    LimiterState Draw → List (LimiterEvent Draw) → List (LimitedRequest Draw × LimiterReply)
  | _, [] => []
  | state, .request request :: rest =>
      (request, (limiter.handle answers state request).2) ::
        limiterReplies limiter answers (limiter.handle answers state request).1 rest
  | state, .sweep now :: rest =>
      limiterReplies limiter answers
        { state with memoryStore := sweep limiter.windowMs now state.memoryStore } rest

def admittedRequests (limiter : SlidingWindowLimiter) (answers : Bool) (state : LimiterState Draw)
    (events : List (LimiterEvent Draw)) : List (LimitedRequest Draw) :=
  ((limiterReplies limiter answers state events).filter fun reply => reply.2.admitted).map Prod.fst

end Runs

/-!
### Counting over the window

The limiter counts the requests of a key that lie in the window, whichever store it uses.

A limiter that keeps the requests themselves stands for both: the sorted set of redis holds the
requests of the window where no two of them draw the same number in one millisecond, and the memory
holds their times, however often it is swept.
-/

variable {Draw : Type} {limiter : SlidingWindowLimiter} {windowMs clock now later : Nat}
  {request : LimitedRequest Draw} {past requests : List (LimitedRequest Draw)}

/-! ### Counting the requests themselves -/

def windowRequests (windowMs now : Nat) (key : String) (past : List (LimitedRequest Draw)) :
    List (LimitedRequest Draw) :=
  recent LimitedRequest.key LimitedRequest.now windowMs now key past

def windowReplies (limiter : SlidingWindowLimiter) :
    List (LimitedRequest Draw) → List (LimitedRequest Draw) → List (LimitedRequest Draw × LimiterReply)
  | _, [] => []
  | past, request :: rest =>
      let seen := windowRequests limiter.windowMs request.now request.key past
      (request, limiter.countedReply request.now (seen.length + 1)) ::
        windowReplies limiter (past ++ [request]) rest

theorem countedReply_admitted (limiter : SlidingWindowLimiter) (now count : Nat) :
    (limiter.countedReply now (count + 1)).admitted = decide (count < limiter.max) := by
  unfold SlidingWindowLimiter.countedReply
  by_cases full : limiter.max < count + 1
  · rw [if_pos full, decide_eq_false (by omega)]
    rfl
  · rw [if_neg full, decide_eq_true (by omega)]
    rfl

theorem windowReplies_admitted (past requests : List (LimitedRequest Draw)) :
    ((windowReplies limiter past requests).filter fun reply => reply.2.admitted).map Prod.fst =
      chosenEvents LimitedRequest.key LimitedRequest.now limiter.windowMs limiter.max past
        requests := by
  induction requests generalizing past with
  | nil => rfl
  | cons request rest ih =>
      unfold windowReplies chosenEvents windowRequests
      rw [List.filter_cons, countedReply_admitted, ← ih]
      split
      · rename_i room
        rw [if_pos (of_decide_eq_true room)]
        rfl
      · rename_i full
        rw [if_neg (fun room => full (decide_eq_true room))]
        rfl

theorem mem_windowRequests {key : String} : request ∈ windowRequests windowMs now key past ↔
    request ∈ past ∧ request.key = key ∧ now < request.now + windowMs :=
  mem_recent

theorem windowRequests_other {key : String} (different : request.key ≠ key) :
    windowRequests windowMs now key (past ++ [request]) = windowRequests windowMs now key past := by
  unfold windowRequests
  rw [recent_append, recent_other different, List.append_nil]

theorem windowRequests_own (forward : request.now ≤ now) :
    windowRequests windowMs now request.key
        (windowRequests windowMs request.now request.key past ++ [request]) =
      windowRequests windowMs now request.key (past ++ [request]) := by
  unfold windowRequests
  rw [recent_append, recent_append, recent_recent forward]

theorem windowRequests_key :
    ∀ other ∈ windowRequests windowMs request.now request.key past ++ [request],
      other.key = request.key := by
  intro other member
  cases List.mem_append.mp member with
  | inl earlier => exact (mem_windowRequests.mp earlier).2.1
  | inr single => rw [List.mem_singleton.mp single]

theorem past_before (before : ∀ other ∈ past, other.now ≤ request.now) :
    ∀ other ∈ past ++ [request], other.now ≤ request.now := by
  intro other member
  cases List.mem_append.mp member with
  | inl earlier => exact before other earlier
  | inr single => exact Nat.le_of_eq (congrArg LimitedRequest.now (List.mem_singleton.mp single))

/-! ### The sorted set -/

section Redis

variable {redis : List (SortedSet Draw)}

def entryOf (request : LimitedRequest Draw) : ZEntry Draw :=
  { score := request.now, member := { now := request.now, draw := request.draw } }

structure RedisTracks (windowMs clock : Nat) (past : List (LimitedRequest Draw))
    (redis : List (SortedSet Draw)) : Prop where
  before : ∀ request ∈ past, request.now ≤ clock
  kept : ∀ key now, clock ≤ now →
    trimmed windowMs redis key now = (windowRequests windowMs now key past).map entryOf

theorem zremrangebyscore_entries (key : String) (same : ∀ request ∈ requests, request.key = key) :
    zremrangebyscore (requests.map entryOf) 0 (windowStart windowMs now) =
      (windowRequests windowMs now key requests).map entryOf := by
  unfold zremrangebyscore windowRequests recent
  rw [List.filter_map]
  congr 1
  apply List.filter_congr
  intro request member
  rw [Function.comp_apply, decide_eq_decide, entryOf, windowStart]
  have named := same request member
  simp only [named, true_and]
  omega

theorem zadd_entries [DecidableEq Draw] (fresh : request ∉ past) :
    zadd ((windowRequests windowMs now request.key past).map entryOf) request.now
        { now := request.now, draw := request.draw } =
      (windowRequests windowMs now request.key past ++ [request]).map entryOf := by
  have absent : ({ now := request.now, draw := request.draw } : ZMember Draw) ∉
      ((windowRequests windowMs now request.key past).map entryOf).map ZEntry.member := by
    intro member
    rw [List.map_map] at member
    obtain ⟨other, present, same⟩ := List.mem_map.mp member
    obtain ⟨inPast, named, _⟩ := mem_windowRequests.mp present
    have equal := ZMember.mk.inj same
    have itself : other = request := by
      cases other
      cases request
      simp only at named equal
      rw [named, equal.1, equal.2]
    exact fresh (itself ▸ inPast)
  unfold zadd storeRow
  rw [if_neg absent, List.map_append]
  rfl

theorem sortedSet_stored (set : SortedSet Draw) (redis : List (SortedSet Draw)) (now : Nat) :
    sortedSet (storeRow SortedSet.key set redis) set.key now =
      if now < set.expiresAt then set.entries else [] := by
  unfold sortedSet
  rw [findRow_storeRow set redis]

theorem sortedSet_stored_other {set : SortedSet Draw} {key : String} (redis : List (SortedSet Draw))
    (now : Nat) (different : key ≠ set.key) :
    sortedSet (storeRow SortedSet.key set redis) key now = sortedSet redis key now := by
  unfold sortedSet
  rw [findRow_storeRow_other redis different]

theorem inSeconds_le (windowMs : Nat) : windowMs ≤ inSeconds windowMs * 1000 := by
  unfold inSeconds
  omega

theorem RedisTracks.stored (tracks : RedisTracks windowMs request.now past redis) :
    RedisTracks windowMs request.now (past ++ [request])
      (storeRow SortedSet.key
        { key := request.key
          entries := (windowRequests windowMs request.now request.key past ++ [request]).map entryOf
          expiresAt := request.now + inSeconds windowMs * 1000 } redis) where
  before := past_before tracks.before
  kept key now after := by
    by_cases own : key = request.key
    · subst own
      unfold trimmed
      rw [sortedSet_stored { key := request.key, entries := _, expiresAt := _ }]
      split
      · rw [zremrangebyscore_entries request.key windowRequests_key, windowRequests_own after]
      · rename_i expired
        have old : windowRequests windowMs now request.key (past ++ [request]) = [] := by
          apply recent_eq_nil
          intro other member
          have ago := past_before tracks.before other member
          have long := inSeconds_le windowMs
          simp only at expired
          omega
        rw [old]
        rfl
    · unfold trimmed
      rw [sortedSet_stored_other redis now own, windowRequests_other (Ne.symm own)]
      exact tracks.kept key now after

theorem RedisTracks.empty (windowMs clock : Nat) :
    RedisTracks windowMs clock ([] : List (LimitedRequest Draw)) [] where
  before _ absent := nomatch absent
  kept _ _ _ := rfl

theorem RedisTracks.forward (tracks : RedisTracks windowMs clock past redis)
    (forward : clock ≤ now) : RedisTracks windowMs now past redis where
  before request member := Nat.le_trans (tracks.before request member) forward
  kept key later after := tracks.kept key later (Nat.le_trans forward after)

theorem RedisTracks.counted [DecidableEq Draw] (tracks : RedisTracks windowMs clock past redis)
    (forward : clock ≤ request.now) (fresh : request ∉ past) :
    (redisCount windowMs redis request).2 =
        (windowRequests windowMs request.now request.key past).length + 1 ∧
      RedisTracks windowMs request.now (past ++ [request]) (redisCount windowMs redis request).1 := by
  have entries : zadd (trimmed windowMs redis request.key request.now) request.now
        { now := request.now, draw := request.draw } =
      (windowRequests windowMs request.now request.key past ++ [request]).map entryOf := by
    rw [tracks.kept request.key request.now forward]
    exact zadd_entries fresh
  unfold redisCount
  dsimp only
  rw [entries]
  refine ⟨?_, (tracks.forward forward).stored⟩
  rw [List.length_map, List.length_append]
  rfl

end Redis

/-! ### The memory -/

section Memory

variable {memoryStore : List MemoryHits}

structure MemoryTracks (windowMs clock : Nat) (past : List (LimitedRequest Draw))
    (memoryStore : List MemoryHits) : Prop where
  before : ∀ request ∈ past, request.now ≤ clock
  distinct : (memoryStore.map MemoryHits.key).Nodup
  newest : ∀ row ∈ memoryStore, ∀ last ∈ row.hits.getLast?, ∀ time ∈ row.hits, time ≤ last
  kept : ∀ key now, clock ≤ now →
    memoryHits windowMs now memoryStore key =
      (windowRequests windowMs now key past).map LimitedRequest.now

theorem memoryHits_sweep (distinct : (memoryStore.map MemoryHits.key).Nodup)
    (newest : ∀ row ∈ memoryStore, ∀ last ∈ row.hits.getLast?, ∀ time ∈ row.hits, time ≤ last)
    (forward : now ≤ later) (key : String) :
    memoryHits windowMs later (sweep windowMs now memoryStore) key =
      memoryHits windowMs later memoryStore key := by
  unfold memoryHits sweep
  rw [findRow_filter distinct]
  cases found : findRow MemoryHits.key key memoryStore with
  | none => rfl
  | some row =>
      rw [Option.filter_some]
      split
      · rfl
      · rename_i swept
        have gone : ∃ last ∈ row.hits.getLast?, (last : Int) ≤ windowStart windowMs now := by
          simpa using swept
        obtain ⟨last, isLast, old⟩ := gone
        symm
        apply List.filter_eq_nil_iff.mpr
        intro time member still
        have earlier := newest row (findRow_mem found).1 last isLast time member
        have inside := of_decide_eq_true still
        unfold windowStart at old inside
        omega

theorem MemoryTracks.empty (windowMs clock : Nat) :
    MemoryTracks windowMs clock ([] : List (LimitedRequest Draw)) [] where
  before _ absent := nomatch absent
  distinct := List.nodup_nil
  newest _ absent := nomatch absent
  kept _ _ _ := rfl

theorem MemoryTracks.swept (tracks : MemoryTracks windowMs clock past memoryStore)
    (forward : clock ≤ now) : MemoryTracks windowMs now past (sweep windowMs now memoryStore) where
  before request member := Nat.le_trans (tracks.before request member) forward
  distinct := tracks.distinct.sublist (List.filter_sublist.map MemoryHits.key)
  newest row member := tracks.newest row (List.mem_filter.mp member).1
  kept key later after := by
    rw [memoryHits_sweep tracks.distinct tracks.newest after]
    exact tracks.kept key later (Nat.le_trans forward after)

theorem MemoryTracks.forward (tracks : MemoryTracks windowMs clock past memoryStore)
    (forward : clock ≤ now) : MemoryTracks windowMs now past memoryStore where
  before request member := Nat.le_trans (tracks.before request member) forward
  distinct := tracks.distinct
  newest := tracks.newest
  kept key later after := tracks.kept key later (Nat.le_trans forward after)

theorem memoryHits_stored (row : MemoryHits) (memoryStore : List MemoryHits) :
    memoryHits windowMs now (storeRow MemoryHits.key row memoryStore) row.key =
      row.hits.filter fun (time : Nat) => decide ((time : Int) > windowStart windowMs now) := by
  unfold memoryHits
  rw [findRow_storeRow row memoryStore]
  rfl

theorem memoryHits_stored_other {row : MemoryHits} {key : String} (memoryStore : List MemoryHits)
    (different : key ≠ row.key) :
    memoryHits windowMs now (storeRow MemoryHits.key row memoryStore) key =
      memoryHits windowMs now memoryStore key := by
  unfold memoryHits
  rw [findRow_storeRow_other memoryStore different]

theorem filter_times (key : String) (same : ∀ request ∈ requests, request.key = key) :
    (requests.map LimitedRequest.now).filter
        (fun (time : Nat) => decide ((time : Int) > windowStart windowMs now)) =
      (windowRequests windowMs now key requests).map LimitedRequest.now := by
  unfold windowRequests recent
  rw [List.filter_map]
  congr 1
  apply List.filter_congr
  intro request member
  rw [Function.comp_apply, decide_eq_decide, windowStart]
  have named := same request member
  simp only [named, true_and]
  omega

theorem MemoryTracks.hit (tracks : MemoryTracks windowMs request.now past memoryStore) :
    MemoryTracks windowMs request.now (past ++ [request])
      (storeRow MemoryHits.key
        { key := request.key
          hits := (windowRequests windowMs request.now request.key past ++ [request]).map
            LimitedRequest.now }
        memoryStore) where
  before := past_before tracks.before
  distinct := storeRow_nodup tracks.distinct
  newest row member := by
    rcases mem_storeRow member with same | earlier
    · subst same
      intro last isLast time inHits
      rw [List.map_append, List.map_singleton, List.getLast?_concat] at isLast
      cases isLast
      obtain ⟨other, present, same⟩ := List.mem_map.mp inHits
      subst same
      cases List.mem_append.mp present with
      | inl kept => exact tracks.before other (mem_windowRequests.mp kept).1
      | inr single => exact Nat.le_of_eq (congrArg LimitedRequest.now (List.mem_singleton.mp single))
    · exact tracks.newest row earlier
  kept key now after := by
    by_cases own : key = request.key
    · subst own
      rw [memoryHits_stored { key := request.key, hits := _ },
        filter_times request.key windowRequests_key, windowRequests_own after]
    · rw [memoryHits_stored_other memoryStore own, windowRequests_other (Ne.symm own)]
      exact tracks.kept key now after

theorem MemoryTracks.counted (tracks : MemoryTracks windowMs clock past memoryStore)
    (forward : clock ≤ request.now) :
    (memoryCount windowMs memoryStore request.key request.now).2 =
        (windowRequests windowMs request.now request.key past).length + 1 ∧
      MemoryTracks windowMs request.now (past ++ [request])
        (memoryCount windowMs memoryStore request.key request.now).1 := by
  unfold memoryCount
  dsimp only
  generalize chosen : (if MEMORY_SWEEP_THRESHOLD < memoryStore.length then
    sweep windowMs request.now memoryStore else memoryStore) = swept
  have sweptTracks : MemoryTracks windowMs request.now past swept := by
    rw [← chosen]
    split
    · exact tracks.swept forward
    · exact tracks.forward forward
  have hits : memoryHits windowMs request.now swept request.key ++ [request.now] =
      (windowRequests windowMs request.now request.key past ++ [request]).map LimitedRequest.now := by
    rw [sweptTracks.kept request.key request.now (Nat.le_refl _), List.map_append]
    rfl
  rw [hits]
  refine ⟨?_, sweptTracks.hit⟩
  rw [List.length_map, List.length_append]
  rfl

end Memory

/-! ### Both paths -/

section Paths

variable [DecidableEq Draw] {events : List (LimiterEvent Draw)} {state : LimiterState Draw}

/-- The events come in the order of their times, none before the clock. -/
def InOrder (clock : Nat) (events : List (LimiterEvent Draw)) : Prop :=
  (∀ event ∈ events, clock ≤ event.moment) ∧
    events.Pairwise fun earlier later => earlier.moment ≤ later.moment

omit [DecidableEq Draw] in
theorem InOrder.cons {event : LimiterEvent Draw} (ordered : InOrder clock (event :: events)) :
    clock ≤ event.moment ∧ InOrder event.moment events := by
  obtain ⟨after, later, rest⟩ := ordered.imp id List.pairwise_cons.mp
  exact ⟨after event List.mem_cons_self, later, rest⟩

theorem limiterReplies_redis (tracks : RedisTracks limiter.windowMs clock past state.redis)
    (ordered : InOrder clock events) (distinct : (past ++ requestsOf events).Nodup) :
    limiterReplies limiter true state events = windowReplies limiter past (requestsOf events) := by
  induction events generalizing state clock past with
  | nil => rfl
  | cons event rest ih =>
      obtain ⟨forward, later⟩ := ordered.cons
      cases event with
      | request request =>
          have single : past ++ requestsOf (.request request :: rest) =
              past ++ [request] ++ requestsOf rest :=
            List.append_cons past request (requestsOf rest)
          rw [single] at distinct
          have fresh : request ∉ past := by
            have apart := List.disjoint_of_nodup_append (List.Nodup.of_append_left distinct)
            exact fun member => apart member (List.mem_singleton_self request)
          obtain ⟨count, next⟩ := tracks.counted forward fresh
          change (request, limiter.countedReply request.now (redisCount _ _ _).2) :: _ =
            (request, limiter.countedReply request.now (_ + 1)) :: _
          rw [count]
          exact congrArg _ (ih next later distinct)
      | sweep now => exact ih (tracks.forward forward) later distinct

theorem limiterReplies_memory (closed : limiter.failureMode = .closed)
    (fallback : limiter.memoryFallback = true)
    (tracks : MemoryTracks limiter.windowMs clock past state.memoryStore)
    (ordered : InOrder clock events) :
    limiterReplies limiter false state events = windowReplies limiter past (requestsOf events) := by
  induction events generalizing state clock past with
  | nil => rfl
  | cons event rest ih =>
      obtain ⟨forward, later⟩ := ordered.cons
      cases event with
      | request request =>
          obtain ⟨count, next⟩ := tracks.counted forward
          have handled : limiter.handle false state request =
              ({ state with
                memoryStore :=
                  (memoryCount limiter.windowMs state.memoryStore request.key request.now).1 },
              limiter.countedReply request.now
                (memoryCount limiter.windowMs state.memoryStore request.key request.now).2) := by
            unfold SlidingWindowLimiter.handle
            rw [closed, fallback]
            rfl
          unfold limiterReplies
          rw [handled, count]
          exact congrArg _ (ih next later)
      | sweep now => exact ih (tracks.swept forward) later

end Paths

def emptyLimiter (Draw : Type) : LimiterState Draw := { redis := [], memoryStore := [] }

/-- In every window the memory lets at most as many requests of a key through as the limit, however
it is swept, and redis answers every request the same where no two requests of a key draw the same
number in one millisecond. -/
theorem limiter_paths_agree [DecidableEq Draw] (limiter : SlidingWindowLimiter)
    (events : List (LimiterEvent Draw)) (closed : limiter.failureMode = .closed)
    (fallback : limiter.memoryFallback = true)
    (ordered : events.Pairwise fun earlier later => earlier.moment ≤ later.moment) :
    (∀ key start,
      (inWindow LimitedRequest.key LimitedRequest.now start limiter.windowMs key
        (admittedRequests limiter false (emptyLimiter Draw) events)).length ≤ limiter.max) ∧
      ((requestsOf events).Nodup →
        limiterReplies limiter false (emptyLimiter Draw) events =
          limiterReplies limiter true (emptyLimiter Draw) events) := by
  have inOrder : InOrder 0 events := ⟨fun event _ => Nat.zero_le event.moment, ordered⟩
  have memory : limiterReplies limiter false (emptyLimiter Draw) events =
      windowReplies limiter [] (requestsOf events) :=
    limiterReplies_memory closed fallback (MemoryTracks.empty limiter.windowMs 0) inOrder
  constructor
  · intro key start
    unfold admittedRequests
    rw [memory, windowReplies_admitted]
    exact inWindow_chosen_le start (requestsOf events) (List.Sublist.refl []) (Nat.zero_le _)
  · intro distinct
    have redis : limiterReplies limiter true (emptyLimiter Draw) events =
        windowReplies limiter [] (requestsOf events) :=
      limiterReplies_redis (RedisTracks.empty limiter.windowMs 0) inOrder distinct
    exact memory.trans redis.symm

def oneAMinute : SlidingWindowLimiter where
  windowMs := 60000
  max := 1
  failureMode := .closed
  memoryFallback := true

/-- Two requests of one client in one millisecond. -/
def atOnce (first second : Nat) : List (LimiterEvent Nat) :=
  [.request { key := "auth:rl:10.0.0.7", now := 1000, draw := first },
    .request { key := "auth:rl:10.0.0.7", now := 1000, draw := second }]

theorem atOnce_limited :
    (admittedRequests oneAMinute true (emptyLimiter Nat) (atOnce 5 7)).length = 1 ∧
      limiterReplies oneAMinute false (emptyLimiter Nat) (atOnce 5 7) =
        limiterReplies oneAMinute true (emptyLimiter Nat) (atOnce 5 7) :=
  ⟨by decide +kernel,
    (limiter_paths_agree oneAMinute (atOnce 5 7) rfl rfl (by decide)).2 (by decide)⟩

theorem sameDraw_uncounted :
    (inWindow LimitedRequest.key LimitedRequest.now 1000 oneAMinute.windowMs "auth:rl:10.0.0.7"
        (admittedRequests oneAMinute true (emptyLimiter Nat) (atOnce 5 5))).length = 2 ∧
      (admittedRequests oneAMinute false (emptyLimiter Nat) (atOnce 5 5)).length = 1 := by
  decide +kernel

end AudioBlock.Middlewares
