/-
How far apart the fetches lie that unknown kids start.

The cooldown counts from the last fetch that brought a key, so a fetch that fails does not
begin one.  What is left between two such fetches are the notes, which hold back the same
`kid` only, and the circuit breaker, which lets the first failures pass.
-/
import AudioBlock.Auth.ServedKeys
import AudioBlock.Foundation.SlidingWindow

namespace AudioBlock.Auth

open AudioBlock.Foundation

variable {Key : Type}

/-- A fetch that an unknown `kid` started; `coldCounts` tells whether one counts that started
before there was a set in which a `kid` can be unknown. -/
def FetchStart.counts (coldCounts : Bool) (start : FetchStart) : Bool :=
  start.unknown && (coldCounts || !start.cold)

namespace CacheRun

def counted (coldCounts : Bool) (run : CacheRun Key) : List Nat :=
  (run.fetches.filter (FetchStart.counts coldCounts)).map FetchStart.startedAt

/-- The starts lie the interval apart, so that no window holds more than its length allows. -/
structure Limited (coldCounts : Bool) (run : CacheRun Key) : Prop where
  spaced : Spaced run.cache.config.jwksNegativeTtlMs (run.counted coldCounts)
  bounded : ∀ start length, (Spaced.within start length (run.counted coldCounts)).length ≤
    length / run.cache.config.jwksNegativeTtlMs + 1

variable {coldCounts : Bool} {createPublicKey : Jwk → Option Key}

theorem limited_iff {run : CacheRun Key} : run.Limited coldCounts ↔
    Spaced run.cache.config.jwksNegativeTtlMs (run.counted coldCounts) :=
  ⟨Limited.spaced, fun spaced =>
    ⟨spaced, spaced.within_le run.cache.config.negativeTtlPositive⟩⟩

def StepsLimited (createPublicKey : Jwk → Option Key) (coldCounts : Bool) (run : CacheRun Key)
    (label : CacheLabel) : Prop :=
  ∀ after answers, cacheStep createPublicKey run label = some (after, answers) →
    after.Limited coldCounts

/-- Nothing in the cache holds a `kid` back that has no fresh key: it has a name and is not
noted, no fetch is in flight, the cooldown is over, and the breaker lets a call through. -/
structure Unguarded (run : CacheRun Key) (kid : String) : Prop where
  named : kid ≠ ""
  unnoted : run.cache.isUnknownKidCached kid run.now = false
  idle : run.cache.inFlight = false
  ready : ¬(run.cache.entry.isSome ∧ run.cache.canRefetch run.now = false)
  admits : (run.cache.breaker.beginExecute run.now).2.isOk

/-- An unknown `kid` that nothing holds back comes no earlier than the interval after the
start of each such fetch that has failed since the last success. -/
def FailuresCooled (coldCounts : Bool) (run : CacheRun Key) (label : CacheLabel) : Prop :=
  ∀ kid, label = .getKey kid → run.Unguarded kid → (run.startOf kid).counts coldCounts →
    ∀ failure ∈ run.failures, failure.counts coldCounts →
      failure.startedAt + run.cache.config.jwksNegativeTtlMs ≤ run.now

variable {run after : CacheRun Key} {kid : String}

/-! ### What a step does to the record -/

/-- Nothing is fetched: only notes, the breaker and the callers may change. -/
structure SameRecord (run after : CacheRun Key) : Prop where
  now : after.now = run.now
  config : after.cache.config = run.cache.config
  entry : after.cache.entry = run.cache.entry
  lastFetchAt : after.cache.lastFetchAt = run.cache.lastFetchAt
  inFlight : after.cache.inFlight = run.cache.inFlight
  starts : after.refreshes.map Refresh.start = run.refreshes.map Refresh.start
  fetches : after.fetches = run.fetches
  failures : after.failures = run.failures

theorem SameRecord.trans {middle : CacheRun Key} (first : SameRecord run middle)
    (second : SameRecord middle after) : SameRecord run after where
  now := second.now.trans first.now
  config := second.config.trans first.config
  entry := second.entry.trans first.entry
  lastFetchAt := second.lastFetchAt.trans first.lastFetchAt
  inFlight := second.inFlight.trans first.inFlight
  starts := second.starts.trans first.starts
  fetches := second.fetches.trans first.fetches
  failures := second.failures.trans first.failures

theorem sameRecord_notes (run : CacheRun Key) (unknownKids : KidMap Nat) (breaker : CircuitBreaker) :
    SameRecord run { run with cache := { run.cache with unknownKids, breaker } } :=
  ⟨rfl, rfl, rfl, rfl, rfl, rfl, rfl, rfl⟩

variable (refreshed : Except PrivyFailure (CacheEntry Key))

theorem select_same (kid : String) :
    SameRecord run (run.select refreshed kid).1 := by
  obtain ⟨unknownKids, same⟩ :=
    PrivyJwksCache.selectKey_notes run.cache run.now kid refreshed
  have selected : (run.select refreshed kid).1 =
      { run with cache := { run.cache with unknownKids } } := by
    rw [← same]
    rfl
  rw [selected]
  exact run.sameRecord_notes unknownKids run.cache.breaker

theorem selectAll_same (waiting : List String) :
    SameRecord run (run.selectAll refreshed waiting).1 := by
  induction waiting generalizing run with
  | nil => exact run.sameRecord_notes run.cache.unknownKids run.cache.breaker
  | cons kid rest ih => exact (select_same refreshed kid).trans ih

theorem join_starts (kid : String) (refreshes : List Refresh) :
    (join kid refreshes).map Refresh.start = refreshes.map Refresh.start := by
  cases refreshes with
  | nil => rfl
  | cons latest earlier => rfl

structure Begins (run : CacheRun Key) (kid : String) (after : CacheRun Key) : Prop where
  now : after.now = run.now
  config : after.cache.config = run.cache.config
  entry : after.cache.entry = run.cache.entry
  lastFetchAt : after.cache.lastFetchAt = run.cache.lastFetchAt
  inFlight : after.cache.inFlight = true
  starts : after.refreshes.map Refresh.start = run.startOf kid :: run.refreshes.map Refresh.start
  fetches : after.fetches = run.fetches ++ [run.startOf kid]
  failures : after.failures = run.failures

theorem refresh_record (run : CacheRun Key) (kid : String) :
    SameRecord run (run.refresh kid).1 ∨
      (run.cache.inFlight = false ∧
        ¬(run.cache.entry.isSome ∧ run.cache.canRefetch run.now = false) ∧
        (run.cache.breaker.beginExecute run.now).2.isOk) ∧
      Begins run kid (run.refresh kid).1 := by
  cases inFlight : run.cache.inFlight with
  | true =>
      have joined : run.refresh kid = ({ run with refreshes := join kid run.refreshes }, []) :=
        if_pos inFlight
      rw [joined]
      exact Or.inl ⟨rfl, rfl, rfl, rfl, rfl, join_starts kid run.refreshes, rfl, rfl⟩
  | false =>
      by_cases cooling : run.cache.entry.isSome ∧ run.cache.canRefetch run.now = false
      · left
        unfold refresh
        rw [if_neg (by rw [inFlight]; decide), if_pos cooling]
        exact select_same _ kid
      · cases admits : run.cache.breaker.beginExecute run.now with
        | mk breaker answer =>
            cases answer with
            | error wait =>
                left
                unfold refresh
                rw [if_neg (by rw [inFlight]; decide), if_neg cooling, admits]
                exact (run.sameRecord_notes run.cache.unknownKids breaker).trans (select_same _ kid)
            | ok admitted =>
                right
                rw [refresh_begins run kid inFlight cooling admits]
                exact ⟨⟨rfl, cooling, rfl⟩, rfl, rfl, rfl, rfl, rfl, rfl, rfl, rfl⟩

theorem getKey_record (run : CacheRun Key) (kid : String) :
    SameRecord run (run.getKey kid).1 ∨
      run.Unguarded kid ∧ Begins run kid (run.getKey kid).1 := by
  obtain ⟨unknownKids, notes⟩ :=
    PrivyJwksCache.answerFromCache_notes run.cache run.now kid
  have looked := run.sameRecord_notes unknownKids run.cache.breaker
  have guarded : (run.cache.answerFromCache run.now kid).2 = none →
      kid ≠ "" ∧ run.cache.isUnknownKidCached kid run.now = false :=
    PrivyJwksCache.answerFromCache_unanswered
  unfold getKey
  generalize run.cache.answerFromCache run.now kid = next at guarded notes
  obtain ⟨cache, answer⟩ := next
  cases notes
  cases answer with
  | some result => exact Or.inl looked
  | none =>
      obtain ⟨named, unnoted⟩ := guarded rfl
      rcases refresh_record { run with cache := { run.cache with unknownKids } } kid
        with same | ⟨⟨idle, ready, admits⟩, begins⟩
      · exact Or.inl (looked.trans same)
      · exact Or.inr ⟨⟨named, unnoted, idle, ready, admits⟩, begins.now, begins.config,
          begins.entry, begins.lastFetchAt, begins.inFlight, begins.starts, begins.fetches,
          begins.failures⟩

theorem Unguarded.begins (unguarded : run.Unguarded kid) (unknown : (run.startOf kid).unknown) :
    Begins run kid (run.getKey kid).1 := by
  obtain ⟨named, unnoted, idle, ready, admits⟩ := unguarded
  have shown :=
    PrivyJwksCache.answerFromCache_consulted run.cache run.now kid
  obtain ⟨unknownKids, forgotten⟩ :=
    PrivyJwksCache.forgetUnknownKid_notes run.cache run.now kid
  have refreshes : run.cache.answerFromCache run.now kid =
      ({ run.cache with unknownKids }, none) := by
    rw [← forgotten]
    generalize run.cache.answerFromCache run.now kid = next at shown
    cases shown with
    | unnamed message unnamed => exact absurd unnamed named
    | noted noted => cases unnoted.symm.trans noted
    | @served entry key present fresh found =>
        simp [startOf, present, found] at unknown
    | cooling present missing early =>
        exact absurd ⟨by rw [present]; rfl, early⟩ ready
    | refreshes _ _ => rfl
  unfold getKey
  rw [refreshes]
  cases admission : run.cache.breaker.beginExecute run.now with
  | mk breaker answer =>
      rw [admission] at admits
      cases answer with
      | error wait => cases admits
      | ok admitted =>
          have started := refresh_begins { run with cache := { run.cache with unknownKids } } kid
            idle ready admission
          dsimp only
          rw [started]
          exact ⟨rfl, rfl, rfl, rfl, rfl, rfl, rfl, rfl⟩

inductive Ends (run : CacheRun Key) (refresh : Refresh) : CacheRun Key → Prop
  | stored {after : CacheRun Key} (now : after.now = run.now)
      (config : after.cache.config = run.cache.config)
      (entry : after.cache.entry.map CacheEntry.fetchedAt = some run.now)
      (lastFetchAt : after.cache.lastFetchAt = some run.now)
      (inFlight : after.cache.inFlight = false)
      (starts : after.refreshes.map Refresh.start = run.refreshes.map Refresh.start)
      (fetches : after.fetches = run.fetches) (failures : after.failures = []) :
      Ends run refresh after
  | failed {after : CacheRun Key} (now : after.now = run.now)
      (config : after.cache.config = run.cache.config)
      (entry : after.cache.entry = run.cache.entry)
      (lastFetchAt : after.cache.lastFetchAt = run.cache.lastFetchAt)
      (inFlight : after.cache.inFlight = false)
      (starts : after.refreshes.map Refresh.start = run.refreshes.map Refresh.start)
      (fetches : after.fetches = run.fetches)
      (failures : after.failures = run.failures ++ [refresh.start]) : Ends run refresh after

theorem fetched_ends (run : CacheRun Key) (createPublicKey : Jwk → Option Key)
    (refresh : Refresh) (outcome : FetchOutcome) :
    Ends run refresh (run.fetched createPublicKey refresh outcome).1 := by
  have fails {ended : CacheRun Key} {refreshed : Except PrivyFailure (CacheEntry Key)}
      (same : Ends run refresh ended) :
      Ends run refresh (ended.selectAll refreshed refresh.waiting).1 := by
    have selected : SameRecord ended (ended.selectAll refreshed refresh.waiting).1 :=
      selectAll_same refreshed refresh.waiting
    cases same with
    | stored now config entry lastFetchAt inFlight starts fetches failures =>
        exact .stored (selected.now.trans now) (selected.config.trans config)
          ((congrArg _ selected.entry).trans entry) (selected.lastFetchAt.trans lastFetchAt)
          (selected.inFlight.trans inFlight) (selected.starts.trans starts)
          (selected.fetches.trans fetches) (selected.failures.trans failures)
    | failed now config entry lastFetchAt inFlight starts fetches failures =>
        exact .failed (selected.now.trans now) (selected.config.trans config)
          (selected.entry.trans entry) (selected.lastFetchAt.trans lastFetchAt)
          (selected.inFlight.trans inFlight) (selected.starts.trans starts)
          (selected.fetches.trans fetches) (selected.failures.trans failures)
  cases outcome with
  | failure message => exact fails (.failed rfl rfl rfl rfl rfl rfl rfl rfl)
  | document document =>
      cases usable : usableKeys createPublicKey document with
      | error error =>
          simp only [fetched, usable]
          exact fails (.failed rfl rfl rfl rfl rfl rfl rfl rfl)
      | ok keys =>
          simp only [fetched, usable]
          exact fails (.stored rfl rfl rfl rfl rfl rfl rfl rfl)

/-! ### The record over a run -/

/-- A fetch that counts has failed since the last success, is in flight, or began before the
last success, from which the cooldown counts. -/
structure Paced (run : CacheRun Key) : Prop where
  covered : ∀ start ∈ run.fetches, start ∈ run.failures ∨ start ∈ run.refreshes.map Refresh.start ∨
    ∃ fetchedAt ∈ run.cache.lastFetchAt, start.startedAt ≤ fetchedAt
  recorded : ∀ failure ∈ run.failures ++ run.refreshes.map Refresh.start, failure ∈ run.fetches
  past : ∀ start ∈ run.fetches, start.startedAt ≤ run.now
  stamped : run.cache.lastFetchAt = run.cache.entry.map CacheEntry.fetchedAt
  flight : (run.refreshes.map Refresh.start).length = run.cache.inFlight.toNat

theorem create_paced (config : PrivyJwksConfig) (now : Nat) :
    Paced (create config now : CacheRun Key) where
  covered _ member := absurd member List.not_mem_nil
  recorded _ member := absurd member List.not_mem_nil
  past _ member := absurd member List.not_mem_nil
  stamped := rfl
  flight := rfl

theorem SameRecord.paced (same : SameRecord run after) (paced : Paced run) : Paced after where
  covered := by
    rw [same.fetches, same.failures, same.starts, same.lastFetchAt]
    exact paced.covered
  recorded := by
    rw [same.fetches, same.failures, same.starts]
    exact paced.recorded
  past := by
    rw [same.fetches, same.now]
    exact paced.past
  stamped := by
    rw [same.lastFetchAt, same.entry]
    exact paced.stamped
  flight := by
    rw [same.starts, same.inFlight]
    exact paced.flight

theorem Begins.paced (begins : Begins run kid after) (idle : run.cache.inFlight = false)
    (paced : Paced run) : Paced after where
  covered := by
    rw [begins.fetches, begins.failures, begins.starts, begins.lastFetchAt]
    intro start member
    rcases List.mem_append.mp member with earlier | new
    · rcases paced.covered start earlier with failed | flying | before
      · exact Or.inl failed
      · exact Or.inr (Or.inl (List.mem_cons_of_mem _ flying))
      · exact Or.inr (Or.inr before)
    · rw [List.mem_singleton.mp new]
      exact Or.inr (Or.inl List.mem_cons_self)
  recorded := by
    rw [begins.fetches, begins.failures, begins.starts]
    intro start member
    rcases List.mem_append.mp member with failed | flying
    · exact List.mem_append_left _ (paced.recorded start (List.mem_append_left _ failed))
    · rcases List.mem_cons.mp flying with rfl | earlier
      · exact List.mem_append_right _ (List.mem_singleton_self _)
      · exact List.mem_append_left _ (paced.recorded start (List.mem_append_right _ earlier))
  past := by
    rw [begins.fetches, begins.now]
    intro start member
    rcases List.mem_append.mp member with earlier | new
    · exact paced.past start earlier
    · rw [List.mem_singleton.mp new]
      exact Nat.le_refl run.now
  stamped := by
    rw [begins.lastFetchAt, begins.entry]
    exact paced.stamped
  flight := by
    have flight := paced.flight
    rw [idle] at flight
    rw [begins.starts, begins.inFlight, List.length_cons, flight]
    rfl

theorem Ends.paced {refresh : Refresh} (paced : Paced run) (alone : run.refreshes = [refresh])
    (ends : Ends { run with refreshes := [] } refresh after) : Paced after := by
  obtain ⟨covered, recorded, past, stamped, flight⟩ := paced
  rw [alone] at covered recorded
  cases ends with
  | stored now config entry lastFetchAt inFlight starts fetches failures =>
      refine ⟨?_, ?_, ?_, lastFetchAt.trans entry.symm, ?_⟩
      · rw [fetches, lastFetchAt]
        exact fun start member => Or.inr (Or.inr ⟨run.now, rfl, past start member⟩)
      · rw [failures, starts]
        exact fun start member => absurd member List.not_mem_nil
      · rw [fetches, now]
        exact past
      · rw [starts, inFlight]
        rfl
  | failed now config entry lastFetchAt inFlight starts fetches failures =>
      refine ⟨?_, ?_, ?_, ?_, ?_⟩
      · rw [fetches, failures, lastFetchAt]
        intro start member
        rcases covered start member with failed | flying | before
        · exact Or.inl (List.mem_append_left _ failed)
        · exact Or.inl (List.mem_append_right _ flying)
        · exact Or.inr (Or.inr before)
      · rw [fetches, failures, starts]
        intro start member
        exact recorded start (by rwa [List.map_nil, List.append_nil] at member)
      · rw [fetches, now]
        exact past
      · rw [lastFetchAt, entry]
        exact stamped
      · rw [starts, inFlight]
        rfl

theorem Paced.length_eq (paced : Paced run) :
    run.refreshes.length = run.cache.inFlight.toNat := by
  have flight := paced.flight
  rwa [List.length_map] at flight

theorem cacheStep_paced {label : CacheLabel} {answers : List (KeyAnswer Key)} (paced : Paced run)
    (moved : cacheStep createPublicKey run label = some (after, answers)) :
    Paced after ∧ after.cache.config = run.cache.config ∧
      (after.fetches = run.fetches ∨
        ∃ kid, label = .getKey kid ∧ run.Unguarded kid ∧ Begins run kid after) := by
  cases label with
  | elapse milliseconds =>
      cases moved
      refine ⟨⟨paced.covered, paced.recorded, ?_, paced.stamped, paced.flight⟩, rfl, Or.inl rfl⟩
      exact fun start member => Nat.le_add_right_of_le (paced.past start member)
  | getKey kid =>
      have done : (run.getKey kid).1 = after := congrArg Prod.fst (Option.some.inj moved)
      rw [← done]
      rcases getKey_record run kid with same | ⟨unguarded, begins⟩
      · exact ⟨same.paced paced, same.config, Or.inl same.fetches⟩
      · exact ⟨begins.paced unguarded.idle paced, begins.config,
          Or.inr ⟨kid, rfl, unguarded, begins⟩⟩
  | fetched index outcome =>
      obtain ⟨refresh, found, same⟩ := Option.map_eq_some_iff.mp moved
      obtain ⟨alone, rfl⟩ := alone_of_flight paced.length_eq found
      have ends := fetched_ends { run with refreshes := run.refreshes.eraseIdx 0 }
        createPublicKey refresh outcome
      rw [same, alone] at ends
      refine ⟨Ends.paced paced alone ends, ?_⟩
      cases ends with
      | stored _ config _ _ _ _ fetches _ | failed _ config _ _ _ _ fetches _ =>
          exact ⟨config, Or.inl fetches⟩
  | isDegraded =>
      cases moved
      have same := run.sameRecord_notes run.cache.unknownKids (run.cache.breaker.getState run.now)
      exact ⟨same.paced paced, rfl, Or.inl rfl⟩

theorem Begins.counted (begins : Begins run kid after) :
    after.counted coldCounts = run.counted coldCounts ++
      if (run.startOf kid).counts coldCounts then [run.now] else [] := by
  unfold CacheRun.counted
  rw [begins.fetches, List.filter_append, List.map_append, List.filter_singleton]
  cases (run.startOf kid).counts coldCounts <;> rfl

theorem Paced.before (paced : Paced run) (unguarded : run.Unguarded kid)
    (cooled : ∀ failure ∈ run.failures, failure.counts coldCounts →
      failure.startedAt + run.cache.config.jwksNegativeTtlMs ≤ run.now) :
    ∀ time ∈ run.counted coldCounts, time + run.cache.config.jwksNegativeTtlMs ≤ run.now := by
  intro time member
  obtain ⟨start, counts, rfl⟩ := List.mem_map.mp member
  obtain ⟨started, counts⟩ := List.mem_filter.mp counts
  rcases paced.covered start started with failed | flying | ⟨fetchedAt, last, before⟩
  · exact cooled start failed counts
  · have none := paced.flight
    rw [unguarded.idle] at none
    exact absurd (List.eq_nil_of_length_eq_zero none ▸ flying) List.not_mem_nil
  · have stamped := paced.stamped
    rw [last] at stamped
    obtain ⟨entry, present, _⟩ := Option.map_eq_some_iff.mp stamped.symm
    have refetches : run.cache.canRefetch run.now = true := by
      by_contra early
      exact unguarded.ready ⟨by rw [present]; rfl, eq_false_of_ne_true early⟩
    rw [PrivyJwksCache.canRefetch, last] at refetches
    have late : fetchedAt + run.cache.config.jwksNegativeTtlMs ≤ run.now :=
      of_decide_eq_true refetches
    omega

theorem stepsLimited_iff {label : CacheLabel} (paced : Paced run)
    (limited : run.Limited coldCounts) :
    run.StepsLimited createPublicKey coldCounts label ↔ run.FailuresCooled coldCounts label := by
  constructor
  · rintro steps kid rfl unguarded counts failure failed failureCounts
    have unknown := (Bool.and_eq_true_iff.mp counts).1
    have begins := unguarded.begins unknown
    have after := (steps (run.getKey kid).1 (run.getKey kid).2 rfl).spaced
    rw [begins.counted, if_pos counts, begins.config] at after
    refine ((Spaced.concat_iff run.now).mp after).2 _ (List.mem_map.mpr ⟨failure, ?_, rfl⟩)
    exact List.mem_filter.mpr
      ⟨paced.recorded failure (List.mem_append_left _ failed), failureCounts⟩
  · intro cooled after answers moved
    obtain ⟨_, config, none | ⟨kid, rfl, unguarded, begins⟩⟩ := cacheStep_paced paced moved
    · rw [limited_iff, config, CacheRun.counted, none]
      exact limited.spaced
    · rw [limited_iff, config, begins.counted]
      split
      · rename_i counts
        exact (Spaced.concat_iff run.now).mpr
          ⟨limited.spaced, paced.before unguarded (cooled kid rfl unguarded counts)⟩
      · rw [List.append_nil]
        exact limited.spaced

theorem create_limited (config : PrivyJwksConfig) (now : Nat) (coldCounts : Bool) :
    (create config now : CacheRun Key).Limited coldCounts :=
  limited_iff.mpr List.Pairwise.nil

end CacheRun

/-- Over every run the fetches of unknown kids are limited exactly where none of these kids
comes too early after one that failed. -/
theorem cacheMachine_limited_iff (createPublicKey : Jwk → Option Key) (config : PrivyJwksConfig)
    (coldCounts : Bool) (now : Nat) (labels : List CacheLabel) :
    (cacheMachine createPublicKey config).Permits
        (CacheRun.StepsLimited createPublicKey coldCounts) (.create config now) labels ↔
      (cacheMachine createPublicKey config).Permits
        (CacheRun.FailuresCooled coldCounts) (.create config now) labels := by
  let holds (run : CacheRun Key) : Prop := CacheRun.Paced run ∧ run.Limited coldCounts
  refine Machine.permits_iff holds (fun _ => True) ?_ ?_ labels ?_ (fun _ _ => trivial)
  · rintro run label ⟨paced, limited⟩ _
    exact CacheRun.stepsLimited_iff paced limited
  · rintro run label after ⟨paced, limited⟩ _ steps moved
    obtain ⟨⟨_, answers⟩, stepped, rfl⟩ := Option.map_eq_some_iff.mp moved
    exact ⟨(CacheRun.cacheStep_paced paced stepped).1, steps _ _ stepped⟩
  · exact ⟨CacheRun.create_paced config now, CacheRun.create_limited config now coldCounts⟩

/-! Two unknown kids after each other, while the fetches fail. -/

def outage : List CacheLabel :=
  firstFetch hourAndDay basePoint "k1" ++
    [.elapse 60000, .getKey "a", .fetched 0 (.failure "timeout"), .getKey "b"]

/-- Both kids start a fetch at once, although the key set is there and the cooldown is over. -/
theorem outage_unlimited :
    ¬(cacheMachine importBasePoint hourAndDay).Permits
        (CacheRun.StepsLimited importBasePoint false) (.create hourAndDay 0) outage ∧
      ((cacheMachine importBasePoint hourAndDay).run (.create hourAndDay 0) outage).map
        (fun run => (run.cache.config.jwksNegativeTtlMs, run.counted false)) =
          some (60000, [90000, 90000]) := by
  have executed : ((cacheMachine importBasePoint hourAndDay).run (.create hourAndDay 0)
      outage).map (fun run => (run.cache.config.jwksNegativeTtlMs, run.counted false)) =
        some (60000, [90000, 90000]) := by decide +kernel
  refine ⟨fun permitted => ?_, executed⟩
  obtain ⟨run, ran, shown⟩ := Option.map_eq_some_iff.mp executed
  obtain ⟨interval, counted⟩ := Prod.mk.inj shown
  have limited : run.Limited false := by
    refine Machine.run_preserves (CacheRun.Limited false) ?_ outage
      (CacheRun.create_limited hourAndDay 0 false) permitted ran
    rintro before label after _ steps moved
    obtain ⟨⟨_, answers⟩, stepped, rfl⟩ := Option.map_eq_some_iff.mp moved
    exact steps _ _ stepped
  have spaced := limited.spaced
  rw [interval, counted] at spaced
  exact absurd spaced (by unfold Spaced; decide)

end AudioBlock.Auth
