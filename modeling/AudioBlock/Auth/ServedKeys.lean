/-
Which keys the cache serves over whole runs.

A `kid` is never both among the cached keys and among the unknown ones, so neither a lookup of
an unknown `kid` nor a fetch that fails keeps a cached key from being served.  The fresh window
is not bounded by the hard expiry, which shows where the first is configured to be the longer.
-/
import AudioBlock.Auth.PrivyJwksCache

namespace AudioBlock.Auth

open AudioBlock.Foundation

variable {Key : Type}

namespace PrivyJwksCache

variable {cache : PrivyJwksCache Key} {now : Nat} {kid : String}

/-- No cached `kid` is noted as unknown. -/
def Apart (cache : PrivyJwksCache Key) : Prop :=
  ∀ entry ∈ cache.entry, ∀ kid, kid ∈ entry.keys → kid ∉ cache.unknownKids

structure Fits (cache : PrivyJwksCache Key) (now : Nat) (kid : String)
    (result : Except PrivyFailure Key) : Prop where
  sound : ∀ key, result = .ok key →
    ∃ entry ∈ cache.entry, entry.keys.lookup kid = some key ∧ now < entry.hardExpireAt
  available : cache.config.allowStaleKeysOnError → ∀ entry ∈ cache.entry,
    now < entry.hardExpireAt → ∀ key, entry.keys.lookup kid = some key → result = .ok key

def Refreshed (cache : PrivyJwksCache Key) (now : Nat) :
    Except PrivyFailure (CacheEntry Key) → Prop
  | .ok entry => cache.entry = some entry ∧ now < entry.hardExpireAt
  | .error _ =>
      cache.config.allowStaleKeysOnError → ∀ entry ∈ cache.entry, entry.hardExpireAt ≤ now

theorem staleEntryOrThrow_refreshed (failure : PrivyFailure) :
    cache.Refreshed now (cache.staleEntryOrThrow now failure) := by
  unfold staleEntryOrThrow
  split
  · rename_i absent
    intro _ entry present
    cases absent.symm.trans present
  · rename_i entry present
    split
    · rename_i usable
      exact ⟨present, usable.2⟩
    · rename_i unusable
      intro allowed other same
      cases present.symm.trans same
      exact Nat.le_of_not_lt fun early => unusable ⟨allowed, early⟩

theorem selectKey_notes (cache : PrivyJwksCache Key) (now : Nat) (kid : String)
    (refreshed : Except PrivyFailure (CacheEntry Key)) :
    ∃ unknownKids, (cache.selectKey now kid refreshed).1 = { cache with unknownKids } := by
  unfold selectKey
  split
  · exact ⟨cache.unknownKids, rfl⟩
  · split
    · exact ⟨_, rfl⟩
    · exact ⟨_, rfl⟩

theorem Apart.note (apart : cache.Apart) (absent : ∀ entry ∈ cache.entry, kid ∉ entry.keys) :
    (cache.noteUnknownKid kid now).Apart := by
  intro entry present other cached noted
  rcases (AList.mem_insert _).mp noted with rfl | earlier
  · exact absent entry present cached
  · exact apart entry present other cached earlier

theorem Apart.erase (apart : cache.Apart) (kid : String) :
    Apart { cache with unknownKids := cache.unknownKids.erase kid } :=
  fun entry present other cached noted =>
    apart entry present other cached (AList.mem_erase.mp noted).2

theorem selectKey_fits (apart : cache.Apart) {refreshed : Except PrivyFailure (CacheEntry Key)}
    (served : cache.Refreshed now refreshed) (kid : String) :
    (cache.selectKey now kid refreshed).1.Apart ∧
      cache.Fits now kid (cache.selectKey now kid refreshed).2 := by
  cases refreshed with
  | error failure =>
      refine ⟨apart, ⟨?_, ?_⟩⟩
      · rintro key ⟨⟩
      · intro allowed entry present early
        exact absurd early (Nat.not_lt.mpr (served allowed entry present))
  | ok entry =>
      obtain ⟨present, early⟩ := served
      unfold selectKey
      split
      · rename_i failure same
        cases same
      · rename_i refreshed same
        cases same
        split
        · rename_i key found
          refine ⟨apart.erase kid, ⟨?_, ?_⟩⟩
          · rintro _ ⟨⟩
            exact ⟨entry, present, found, early⟩
          · intro _ other same _ wanted has
            cases present.symm.trans same
            rw [Option.some.inj (found.symm.trans has)]
        · rename_i missing
          have absent : ∀ other ∈ cache.entry, kid ∉ other.keys := by
            intro other same
            cases present.symm.trans same
            exact AList.lookup_eq_none.mp missing
          refine ⟨apart.note absent, ⟨?_, ?_⟩⟩
          · rintro key ⟨⟩
          · intro _ other same _ key has
            cases present.symm.trans same
            cases missing.symm.trans has

theorem isUnknownKidCached_noted (noted : cache.isUnknownKidCached kid now) :
    kid ∈ cache.unknownKids := by
  by_contra absent
  rw [isUnknownKidCached, AList.lookup_eq_none.mpr absent] at noted
  cases noted

theorem forgetUnknownKid_notes (cache : PrivyJwksCache Key) (now : Nat) (kid : String) :
    ∃ unknownKids, cache.forgetUnknownKid kid now = { cache with unknownKids } := by
  unfold forgetUnknownKid
  split
  · exact ⟨cache.unknownKids, rfl⟩
  · exact ⟨_, rfl⟩

theorem Apart.forget (apart : cache.Apart) : (cache.forgetUnknownKid kid now).Apart := by
  unfold forgetUnknownKid
  split
  · exact apart
  · exact apart.erase kid

/-- How `getKey` goes on: with an answer that the notes or the fresh keys give, or to the
refresh, which a fresh set allows only after the cooldown. -/
inductive Consulted (cache : PrivyJwksCache Key) (now : Nat) (kid : String) :
    PrivyJwksCache Key × Option (Except PrivyFailure Key) → Prop
  | unnamed (message : String) (named : kid = "") :
      Consulted cache now kid (cache, some (.error (.unknownKey message)))
  | noted (noted : cache.isUnknownKidCached kid now) :
      Consulted cache now kid (cache, some (.error (noMatchingKey kid)))
  | served {entry : CacheEntry Key} {key : Key} (present : cache.entry = some entry)
      (fresh : now < entry.expiresAt) (found : entry.keys.lookup kid = some key) :
      Consulted cache now kid (cache.forgetUnknownKid kid now, some (.ok key))
  | cooling {entry : CacheEntry Key} (present : cache.entry = some entry)
      (missing : entry.keys.lookup kid = none) (early : cache.canRefetch now = false) :
      Consulted cache now kid
        ((cache.forgetUnknownKid kid now).noteUnknownKid kid now,
          some (.error (noMatchingKey kid)))
  | refreshes (named : kid ≠ "") (unnoted : cache.isUnknownKidCached kid now = false) :
      Consulted cache now kid (cache.forgetUnknownKid kid now, none)

theorem answerFromCache_consulted (cache : PrivyJwksCache Key) (now : Nat) (kid : String) :
    Consulted cache now kid (cache.answerFromCache now kid) := by
  obtain ⟨unknownKids, forgotten⟩ :=
    forgetUnknownKid_notes cache now kid
  unfold answerFromCache
  split
  · rename_i unnamed
    exact .unnamed _ unnamed
  · rename_i named
    split
    · rename_i noted
      exact .noted noted
    · rename_i unnoted
      have refreshes : Consulted cache now kid (cache.forgetUnknownKid kid now, none) :=
        .refreshes named (eq_false_of_ne_true unnoted)
      dsimp only
      split
      · exact refreshes
      · rename_i entry fresh
        obtain ⟨present, early⟩ := Option.filter_eq_some_iff.mp fresh
        replace present : cache.entry = some entry := by
          rw [forgotten] at present
          exact present
        split
        · rename_i key found
          exact .served present (of_decide_eq_true early) found
        · rename_i missing
          split
          · exact refreshes
          · rename_i late
            refine .cooling present missing ?_
            rw [forgotten] at late
            exact eq_false_of_ne_true late

theorem answerFromCache_notes (cache : PrivyJwksCache Key) (now : Nat) (kid : String) :
    ∃ unknownKids, (cache.answerFromCache now kid).1 = { cache with unknownKids } := by
  generalize consulted : cache.answerFromCache now kid = next
  have shown := consulted ▸ answerFromCache_consulted cache now kid
  cases shown with
  | unnamed message named => exact ⟨cache.unknownKids, rfl⟩
  | noted noted => exact ⟨cache.unknownKids, rfl⟩
  | served present fresh found => exact forgetUnknownKid_notes cache now kid
  | cooling present missing early =>
      obtain ⟨unknownKids, forgotten⟩ :=
        forgetUnknownKid_notes cache now kid
      rw [forgotten]
      exact ⟨_, rfl⟩
  | refreshes named unnoted => exact forgetUnknownKid_notes cache now kid

theorem answerFromCache_unanswered (unanswered : (cache.answerFromCache now kid).2 = none) :
    kid ≠ "" ∧ cache.isUnknownKidCached kid now = false := by
  generalize consulted : cache.answerFromCache now kid = next at unanswered
  have shown := consulted ▸ answerFromCache_consulted cache now kid
  cases shown with
  | refreshes named unnoted => exact ⟨named, unnoted⟩
  | unnamed _ _ | noted _ | served _ _ _ | cooling _ _ _ => cases unanswered

theorem Apart.answerFromCache (apart : cache.Apart) :
    (cache.answerFromCache now kid).1.Apart := by
  generalize consulted : cache.answerFromCache now kid = next
  have shown := consulted ▸ answerFromCache_consulted cache now kid
  cases shown with
  | unnamed message named => exact apart
  | noted noted => exact apart
  | served present fresh found => exact apart.forget
  | @cooling entry present missing early =>
      refine apart.forget.note fun other same => ?_
      obtain ⟨unknownKids, forgotten⟩ :=
        forgetUnknownKid_notes cache now kid
      rw [forgotten] at same
      cases present.symm.trans same
      exact AList.lookup_eq_none.mp missing
  | refreshes named unnoted => exact apart.forget

theorem answerFromCache_fits (apart : cache.Apart)
    (named : ∀ entry ∈ cache.entry, "" ∉ entry.keys)
    (window : ∀ entry ∈ cache.entry, entry.expiresAt ≤ entry.hardExpireAt)
    {result : Except PrivyFailure Key}
    (answered : (cache.answerFromCache now kid).2 = some result) : cache.Fits now kid result := by
  generalize consulted : cache.answerFromCache now kid = next at answered
  have shown := consulted ▸ answerFromCache_consulted cache now kid
  have refused (failure : PrivyFailure) (absent : ∀ entry ∈ cache.entry, kid ∉ entry.keys) :
      cache.Fits now kid (.error failure) := by
    refine ⟨?_, fun _ entry present _ key found => ?_⟩
    · rintro key ⟨⟩
    · exact absurd (AList.lookup_isSome.mp (Option.isSome_of_eq_some found)) (absent entry present)
  cases shown with
  | unnamed message unnamed =>
      cases answered
      rw [unnamed] at refused ⊢
      exact refused _ named
  | noted noted =>
      cases answered
      exact refused _ fun entry present cached =>
        apart entry present kid cached (isUnknownKidCached_noted noted)
  | @served entry key present fresh found =>
      cases answered
      refine ⟨?_, ?_⟩
      · rintro _ ⟨⟩
        exact ⟨entry, present, found, Nat.lt_of_lt_of_le fresh (window entry present)⟩
      · intro _ other same _ wanted has
        cases present.symm.trans same
        rw [Option.some.inj (found.symm.trans has)]
  | cooling present missing early =>
      cases answered
      refine refused _ fun other same => ?_
      cases present.symm.trans same
      exact AList.lookup_eq_none.mp missing
  | refreshes named unnoted => cases answered

end PrivyJwksCache

/-! ### The keys of a document -/

section Import

variable {createPublicKey : Jwk → Option Key}

theorem importPrivyJwk_named {jwk : Jwk} {key : Key}
    (imported : importPrivyJwk createPublicKey jwk = some key) : jwk.kid ≠ .text "" := by
  unfold importPrivyJwk at imported
  obtain ⟨_, imported⟩ := Option.ite_none_left_eq_some.mp imported
  obtain ⟨_, imported⟩ := Option.ite_none_left_eq_some.mp imported
  obtain ⟨_, imported⟩ := Option.ite_none_left_eq_some.mp imported
  obtain ⟨named, _⟩ := Option.ite_none_left_eq_some.mp imported
  exact fun unnamed => named (Or.inr unnamed)

theorem importKeys_named {entries : List (Option Jwk)} {keys imported : KidMap Key}
    (named : "" ∉ keys) (read : importKeys createPublicKey keys entries = .ok imported) :
    "" ∉ imported := by
  induction entries generalizing keys with
  | nil =>
      cases read
      exact named
  | cons first rest ih =>
      cases first with
      | none => cases read
      | some jwk =>
          simp only [importKeys] at read
          split at read
          · rename_i key kid usable kidOf
            refine ih (fun member => ?_) read
            rcases (AList.mem_insert _).mp member with rfl | earlier
            · exact importPrivyJwk_named usable kidOf
            · exact named earlier
          · exact ih named read

theorem usableKeys_named {document : JwksDocument} {keys : KidMap Key}
    (usable : usableKeys createPublicKey document = .ok keys) : "" ∉ keys := by
  obtain ⟨imported, read, kept⟩ := ok_of_bind usable
  split at kept
  · cases kept
  · cases kept
    exact importKeys_named (AList.notMem_empty "") read

end Import

/-- The callers that a step brings. -/
def CacheLabel.callers : CacheLabel → List String
  | .getKey kid => [kid]
  | _ => []

namespace CacheRun

/-- Every caller that waits for a fetch. -/
def waiting (run : CacheRun Key) : List String := run.refreshes.flatMap Refresh.waiting

section Laws

variable (createPublicKey : Jwk → Option Key)

def Brought (run : CacheRun Key) (kid : String) (key : Key) : Prop :=
  ∃ latest ∈ run.latest, ∃ keys,
    usableKeys createPublicKey latest.document = .ok keys ∧ keys.lookup kid = some key

/-- The hard expiry of the last fetch is still to come. -/
def Unexpired (run : CacheRun Key) : Prop :=
  ∃ latest ∈ run.latest, run.now < latest.fetchedAt + run.cache.config.jwksStaleTtlMs

/-- What a step is to do: give keys of the last fetch only, before its hard expiry; give
every one of them then, where stale use is allowed; lose no caller; and have at most one
fetch in flight. -/
structure Lawful (run : CacheRun Key) (label : CacheLabel) (after : CacheRun Key)
    (answers : List (KeyAnswer Key)) : Prop where
  sound : ∀ answer ∈ answers, ∀ key, answer.result = .ok key →
    after.Brought createPublicKey answer.kid key ∧ after.Unexpired
  available : after.cache.config.allowStaleKeysOnError → after.Unexpired →
    ∀ answer ∈ answers, ∀ key, after.Brought createPublicKey answer.kid key →
      answer.result = .ok key
  callers : (answers.map KeyAnswer.kid ++ after.waiting).Perm
    (run.waiting ++ label.callers)
  single : after.refreshes.length ≤ 1

def StepsLawfully (run : CacheRun Key) (label : CacheLabel) : Prop :=
  ∀ after answers, cacheStep createPublicKey run label = some (after, answers) →
    Lawful createPublicKey run label after answers

inductive Shows (config : PrivyJwksConfig) : Option (CacheEntry Key) → Option LatestFetch → Prop
  | nothing : Shows config none none
  | fetch (latest : LatestFetch) (keys : KidMap Key)
      (usable : usableKeys createPublicKey latest.document = .ok keys) :
      Shows config (some (PrivyJwksCache.newEntry config keys latest.fetchedAt)) (some latest)

structure Consistent (run : CacheRun Key) : Prop where
  shows : Shows createPublicKey run.cache.config run.cache.entry run.latest
  apart : run.cache.Apart
  flight : run.refreshes.length = run.cache.inFlight.toNat

end Laws

variable {createPublicKey : Jwk → Option Key} {run : CacheRun Key}

section Steps

theorem Shows.of_entry {config : PrivyJwksConfig} {entry : CacheEntry Key}
    {latest : Option LatestFetch} (shows : Shows createPublicKey config (some entry) latest) :
    ∃ fetch keys, latest = some fetch ∧ usableKeys createPublicKey fetch.document = .ok keys ∧
      entry = PrivyJwksCache.newEntry config keys fetch.fetchedAt := by
  cases shows with
  | fetch fetch keys usable => exact ⟨fetch, keys, rfl, usable, rfl⟩

theorem Shows.of_latest {config : PrivyJwksConfig} {entry : Option (CacheEntry Key)}
    {latest : LatestFetch} (shows : Shows createPublicKey config entry (some latest)) :
    ∃ keys, usableKeys createPublicKey latest.document = .ok keys ∧
      entry = some (PrivyJwksCache.newEntry config keys latest.fetchedAt) := by
  cases shows with
  | fetch _ keys usable => exact ⟨keys, usable, rfl⟩

theorem Consistent.entry_shown (consistent : Consistent createPublicKey run)
    {entry : CacheEntry Key} (present : run.cache.entry = some entry) :
    ∃ fetch keys, run.latest = some fetch ∧
      usableKeys createPublicKey fetch.document = .ok keys ∧
      entry = PrivyJwksCache.newEntry run.cache.config keys fetch.fetchedAt := by
  have shows := consistent.shows
  rw [present] at shows
  exact shows.of_entry

theorem Consistent.named (consistent : Consistent createPublicKey run) :
    ∀ entry ∈ run.cache.entry, "" ∉ entry.keys := by
  intro entry present
  obtain ⟨fetch, keys, _, usable, rfl⟩ := consistent.entry_shown present
  exact usableKeys_named usable

theorem create_consistent (config : PrivyJwksConfig) (now : Nat) :
    Consistent createPublicKey (create config now) where
  shows := .nothing
  apart _ present := absurd present (Option.not_mem_none _)
  flight := rfl

theorem Consistent.right (consistent : Consistent createPublicKey run) {kid : String}
    {result : Except PrivyFailure Key} (fits : run.cache.Fits run.now kid result) :
    (∀ key, result = .ok key → run.Brought createPublicKey kid key ∧ run.Unexpired) ∧
      (run.cache.config.allowStaleKeysOnError → run.Unexpired →
        ∀ key, run.Brought createPublicKey kid key → result = .ok key) := by
  constructor
  · intro key served
    obtain ⟨entry, present, found, early⟩ := fits.sound key served
    obtain ⟨fetch, keys, fetched, usable, rfl⟩ := consistent.entry_shown present
    exact ⟨⟨fetch, fetched, keys, usable, found⟩, fetch, fetched, early⟩
  · rintro allowed ⟨latest, fetched, early⟩ key ⟨other, same, keys, usable, found⟩
    cases fetched.symm.trans same
    have shows := consistent.shows
    rw [fetched] at shows
    obtain ⟨imported, again, present⟩ := shows.of_latest
    cases usable.symm.trans again
    exact fits.available allowed _ present early key found

variable {refreshed : Except PrivyFailure (CacheEntry Key)}

theorem select_spec (apart : run.cache.Apart) (served : run.cache.Refreshed run.now refreshed)
    (kid : String) :
    ∃ unknownKids result,
      run.select refreshed kid =
          ({ run with cache := { run.cache with unknownKids } }, [{ kid, result }]) ∧
        PrivyJwksCache.Apart { run.cache with unknownKids } ∧ run.cache.Fits run.now kid result := by
  obtain ⟨keeps, fits⟩ := PrivyJwksCache.selectKey_fits apart served kid
  obtain ⟨unknownKids, same⟩ :=
    PrivyJwksCache.selectKey_notes run.cache run.now kid refreshed
  rw [same] at keeps
  refine ⟨unknownKids, _, ?_, keeps, fits⟩
  unfold select
  rw [← same]

theorem selectAll_spec (waiting : List String) (apart : run.cache.Apart)
    (served : run.cache.Refreshed run.now refreshed) :
    ∃ unknownKids answers,
      run.selectAll refreshed waiting =
          ({ run with cache := { run.cache with unknownKids } }, answers) ∧
        PrivyJwksCache.Apart { run.cache with unknownKids } ∧
        answers.map KeyAnswer.kid = waiting ∧
        ∀ answer ∈ answers, run.cache.Fits run.now answer.kid answer.result := by
  induction waiting generalizing run with
  | nil =>
      refine ⟨run.cache.unknownKids, [], rfl, apart, rfl, ?_⟩
      exact fun answer member => absurd member List.not_mem_nil
  | cons kid rest ih =>
      obtain ⟨unknownKids, result, first, keeps, fits⟩ := select_spec apart served kid
      obtain ⟨later, answers, more, apart, named, fit⟩ :=
        @ih { run with cache := { run.cache with unknownKids } } keeps served
      refine ⟨later, { kid, result } :: answers, ?_, apart, ?_, ?_⟩
      · simp only [selectAll, first, more, List.singleton_append]
      · rw [List.map_cons, named]
      · intro answer member
        rcases List.mem_cons.mp member with rfl | member
        · exact fits
        · exact ⟨(fit answer member).sound, (fit answer member).available⟩

/-- What comes of an operation as a whole. -/
structure Handles (createPublicKey : Jwk → Option Key) (run : CacheRun Key) (asked : List String)
    (done : CacheRun Key × List (KeyAnswer Key)) : Prop where
  consistent : Consistent createPublicKey done.1
  answered : ∀ answer ∈ done.2, done.1.cache.Fits done.1.now answer.kid answer.result
  callers : (done.2.map KeyAnswer.kid ++ done.1.waiting).Perm (run.waiting ++ asked)
  config : done.1.cache.config = run.cache.config

theorem Consistent.renote (consistent : Consistent createPublicKey run) (breaker : CircuitBreaker)
    {unknownKids : KidMap Nat} (apart : PrivyJwksCache.Apart { run.cache with unknownKids }) :
    Consistent createPublicKey { run with cache := { run.cache with breaker, unknownKids } } :=
  ⟨consistent.shows, apart, consistent.flight⟩

theorem Consistent.select_handles (consistent : Consistent createPublicKey run)
    (served : run.cache.Refreshed run.now refreshed) (kid : String) :
    Handles createPublicKey run [kid] (run.select refreshed kid) := by
  obtain ⟨unknownKids, result, selected, apart, fits⟩ := select_spec consistent.apart served kid
  rw [selected]
  refine ⟨consistent.renote run.cache.breaker apart, ?_, List.perm_append_comm, rfl⟩
  intro answer member
  rw [List.mem_singleton.mp member]
  exact ⟨fits.sound, fits.available⟩

theorem refresh_begins (run : CacheRun Key) {breaker : CircuitBreaker}
    {admitted : CircuitState} (kid : String)
    (idle : run.cache.inFlight = false)
    (ready : ¬(run.cache.entry.isSome ∧ run.cache.canRefetch run.now = false))
    (admits : run.cache.breaker.beginExecute run.now = (breaker, .ok admitted)) :
    run.refresh kid =
      ({ run with
        cache := { run.cache with breaker, inFlight := true }
        refreshes := { start := run.startOf kid, admitted, waiting := [kid] } :: run.refreshes
        fetches := run.fetches ++ [run.startOf kid] },
        []) := by
  unfold refresh
  rw [if_neg (by rw [idle]; decide), if_neg ready, admits]

theorem join_waiting (kid : String) (latest : Refresh) :
    (join kid [latest]).flatMap Refresh.waiting = [latest].flatMap Refresh.waiting ++ [kid] := by
  simp [join]

theorem Consistent.refresh_handles (consistent : Consistent createPublicKey run) (kid : String) :
    Handles createPublicKey run [kid] (run.refresh kid) := by
  have flight := consistent.flight
  unfold refresh
  split
  · rename_i inFlight
    rw [inFlight] at flight
    obtain ⟨latest, alone⟩ := List.length_eq_one_iff.mp flight
    refine ⟨⟨consistent.shows, consistent.apart, ?_⟩, ?_, ?_, rfl⟩
    · rw [inFlight, alone]
      rfl
    · exact fun answer member => absurd member List.not_mem_nil
    · rw [waiting, waiting, alone, join_waiting]
      exact .refl _
  · rename_i idle
    split
    · exact consistent.select_handles (PrivyJwksCache.staleEntryOrThrow_refreshed _) kid
    · split
      · rename_i breaker refusal _
        have known := consistent.renote breaker consistent.apart
        obtain ⟨kept, answered, callers, config⟩ :=
          known.select_handles (PrivyJwksCache.staleEntryOrThrow_refreshed
            (.keyUnavailable FetchError.circuitOpen.reason)) kid
        exact ⟨kept, answered, callers, config⟩
      · rename_i breaker admitted _
        refine ⟨⟨consistent.shows, consistent.apart, ?_⟩, ?_, ?_, rfl⟩
        · rw [eq_false_of_ne_true idle] at flight
          rw [List.eq_nil_of_length_eq_zero flight]
          rfl
        · exact fun answer member => absurd member List.not_mem_nil
        · exact @List.perm_append_comm _ [kid] _

theorem Consistent.getKey_handles (consistent : Consistent createPublicKey run)
    (window : run.cache.config.jwksTtlMs ≤ run.cache.config.jwksStaleTtlMs) (kid : String) :
    Handles createPublicKey run [kid] (run.getKey kid) := by
  obtain ⟨unknownKids, notes⟩ :=
    PrivyJwksCache.answerFromCache_notes run.cache run.now kid
  have apart : (run.cache.answerFromCache run.now kid).1.Apart := consistent.apart.answerFromCache
  rw [notes] at apart
  have known := consistent.renote run.cache.breaker apart
  unfold getKey
  split
  · rename_i cache result answered
    rw [answered] at notes
    cases notes
    have fits : run.cache.Fits run.now kid result := by
      refine PrivyJwksCache.answerFromCache_fits consistent.apart consistent.named ?_
        (congrArg Prod.snd answered)
      intro entry present
      obtain ⟨fetch, keys, _, _, rfl⟩ := consistent.entry_shown present
      exact Nat.add_le_add_left window _
    refine ⟨known, ?_, List.perm_append_comm, rfl⟩
    intro answer member
    rw [List.mem_singleton.mp member]
    exact ⟨fits.sound, fits.available⟩
  · rename_i cache answered
    rw [answered] at notes
    cases notes
    obtain ⟨kept, answered, callers, config⟩ := known.refresh_handles kid
    exact ⟨kept, answered, callers, config⟩

theorem fetched_handles (run : CacheRun Key)
    (shows : Shows createPublicKey run.cache.config run.cache.entry run.latest)
    (apart : run.cache.Apart) (idle : run.refreshes = []) (refresh : Refresh)
    (outcome : FetchOutcome) :
    let done := run.fetched createPublicKey refresh outcome
    Consistent createPublicKey done.1 ∧
      (∀ answer ∈ done.2, done.1.cache.Fits done.1.now answer.kid answer.result) ∧
      done.2.map KeyAnswer.kid = refresh.waiting ∧ done.1.refreshes = [] ∧
      done.1.cache.config = run.cache.config := by
  have ends {ended : CacheRun Key} {refreshed : Except PrivyFailure (CacheEntry Key)}
      (shows : Shows createPublicKey ended.cache.config ended.cache.entry ended.latest)
      (apart : ended.cache.Apart) (served : ended.cache.Refreshed ended.now refreshed)
      (idle : ended.refreshes = []) (landed : ended.cache.inFlight = false)
      (config : ended.cache.config = run.cache.config) :
      let done := ended.selectAll refreshed refresh.waiting
      Consistent createPublicKey done.1 ∧
        (∀ answer ∈ done.2, done.1.cache.Fits done.1.now answer.kid answer.result) ∧
        done.2.map KeyAnswer.kid = refresh.waiting ∧ done.1.refreshes = [] ∧
        done.1.cache.config = run.cache.config := by
    obtain ⟨unknownKids, answers, all, keeps, named, fit⟩ :=
      selectAll_spec refresh.waiting apart served
    dsimp only
    rw [all]
    refine ⟨⟨shows, keeps, ?_⟩, ?_, named, idle, config⟩
    · change ended.refreshes.length = ended.cache.inFlight.toNat
      rw [idle, landed]
      rfl
    · exact fun answer member => ⟨(fit answer member).sound, (fit answer member).available⟩
  cases outcome with
  | failure message =>
      exact ends shows apart (PrivyJwksCache.staleEntryOrThrow_refreshed _) idle rfl rfl
  | document document =>
      cases usable : usableKeys createPublicKey document with
      | error error =>
          simp only [fetched, usable]
          exact ends shows apart (PrivyJwksCache.staleEntryOrThrow_refreshed _) idle rfl rfl
      | ok keys =>
          simp only [fetched, usable]
          refine ends (.fetch { document, fetchedAt := run.now } keys usable) ?_ ?_ idle rfl rfl
          · exact fun _ _ kid _ => AList.notMem_empty kid
          · exact ⟨rfl, Nat.lt_add_of_pos_right run.cache.config.staleTtlPositive⟩

theorem alone_of_flight {index : Nat} {refresh : Refresh}
    (flight : run.refreshes.length = run.cache.inFlight.toNat)
    (found : run.refreshes[index]? = some refresh) : run.refreshes = [refresh] ∧ index = 0 := by
  obtain ⟨inside, _⟩ := List.getElem?_eq_some_iff.mp found
  have single := Bool.toNat_le run.cache.inFlight
  obtain ⟨only, listed⟩ := List.length_eq_one_iff.mp (by omega : run.refreshes.length = 1)
  have first : index = 0 := by omega
  subst first
  rw [listed] at found ⊢
  exact ⟨congrArg (fun refresh => [refresh]) (Option.some.inj found), rfl⟩

section

variable (consistent : Consistent createPublicKey run)
  (window : run.cache.config.jwksTtlMs ≤ run.cache.config.jwksStaleTtlMs)
include consistent window

theorem cacheStep_handles {label : CacheLabel} {done : CacheRun Key × List (KeyAnswer Key)}
    (moved : cacheStep createPublicKey run label = some done) :
    Handles createPublicKey run label.callers done := by
  cases label with
  | elapse milliseconds =>
      cases moved
      refine ⟨⟨consistent.shows, consistent.apart, consistent.flight⟩, ?_, ?_, rfl⟩
      · exact fun answer member => absurd member List.not_mem_nil
      · exact .of_eq (List.append_nil _).symm
  | getKey kid =>
      cases moved
      exact consistent.getKey_handles window kid
  | fetched index outcome =>
      obtain ⟨refresh, found, same⟩ := Option.map_eq_some_iff.mp moved
      subst same
      obtain ⟨listed, rfl⟩ := alone_of_flight consistent.flight found
      obtain ⟨kept, answered, named, idle, config⟩ :=
        fetched_handles { run with refreshes := run.refreshes.eraseIdx 0 }
          consistent.shows consistent.apart (by simp [listed]) refresh outcome
      refine ⟨kept, answered, ?_, config⟩
      rw [named, waiting, waiting, idle, listed]
      exact .of_eq (by simp [CacheLabel.callers])
  | isDegraded =>
      cases moved
      refine ⟨consistent.renote _ consistent.apart, ?_, ?_, rfl⟩
      · exact fun answer member => absurd member List.not_mem_nil
      · exact .of_eq (List.append_nil _).symm

theorem cacheStep_lawful (label : CacheLabel) :
    StepsLawfully createPublicKey run label := by
  intro after answers moved
  obtain ⟨kept, answered, callers, _⟩ := cacheStep_handles consistent window moved
  refine ⟨?_, ?_, callers, ?_⟩
  · exact fun answer member key served => (kept.right (answered answer member)).1 key served
  · intro allowed early answer member key brought
    exact (kept.right (answered answer member)).2 allowed early key brought
  · rw [kept.flight]
    exact Bool.toNat_le _

end

end Steps

end CacheRun

/-! ### A fresh window that outlasts the hard expiry -/

section Overlong

variable {createPublicKey : Jwk → Option Key} {config : PrivyJwksConfig} {jwk : Jwk} {key : Key}
  {kid : String}

def listing (jwk : Jwk) : JwksDocument := { keys := some [some jwk] }

theorem usableKeys_listing (imported : importPrivyJwk createPublicKey jwk = some key)
    (named : jwk.kid = .text kid) :
    usableKeys createPublicKey (listing jwk) = .ok ((∅ : KidMap Key).insert kid key) := by
  have read : importKeys createPublicKey ∅ [some jwk] = .ok ((∅ : KidMap Key).insert kid key) := by
    simp only [importKeys, imported, named]
  have listed : ((∅ : KidMap Key).insert kid key).keys.isEmpty = false := by
    rw [AList.keys_insert]
    rfl
  have kept : usableKeys createPublicKey (listing jwk) =
      if ((∅ : KidMap Key).insert kid key).keys.isEmpty then
        .error (.failed "Privy JWKS response contained no usable ES256 keys")
      else .ok ((∅ : KidMap Key).insert kid key) :=
    congrArg (fun keys => keys >>= _) read
  rw [kept, listed]
  exact if_neg Bool.false_ne_true

theorem create_admits (Key : Type) (config : PrivyJwksConfig) : ∃ breaker admitted,
    (PrivyJwksCache.create config 0 : PrivyJwksCache Key).breaker.beginExecute
      config.circuitResetTimeoutMs = (breaker, .ok admitted) := by
  cases starts : config.circuitStartsOpen with
  | false =>
      simp [PrivyJwksCache.create, CircuitBreaker.create, CircuitBreaker.beginExecute,
        CircuitBreaker.getState, starts]
  | true =>
      simp [PrivyJwksCache.create, CircuitBreaker.create, CircuitBreaker.beginExecute,
        CircuitBreaker.getState, CircuitBreaker.transition, starts]

def firstFetch (config : PrivyJwksConfig) (jwk : Jwk) (kid : String) : List CacheLabel :=
  [.elapse config.circuitResetTimeoutMs, .getKey kid, .fetched 0 (.document (listing jwk))]

theorem create_getKey (createPublicKey : Jwk → Option Key) (config : PrivyJwksConfig)
    (unempty : kid ≠ "") :
    ∃ run refresh, (cacheMachine createPublicKey config).run (.create config 0)
        [.elapse config.circuitResetTimeoutMs, .getKey kid] = some run ∧
      run.refreshes = [refresh] ∧ refresh.waiting = [kid] ∧ run.cache.config = config ∧
      run.now = config.circuitResetTimeoutMs := by
  obtain ⟨breaker, admitted, admits⟩ := create_admits Key config
  rw [← Nat.zero_add config.circuitResetTimeoutMs] at admits
  let waited : CacheRun Key :=
    { CacheRun.create config 0 with now := 0 + config.circuitResetTimeoutMs }
  let looked : CacheRun Key :=
    { waited with cache := { waited.cache with unknownKids := (∅ : KidMap Nat).erase kid } }
  have consulted : waited.cache.answerFromCache waited.now kid = (looked.cache, none) := by
    unfold PrivyJwksCache.answerFromCache
    rw [if_neg unempty]
    rfl
  let started : Refresh := { start := looked.startOf kid, admitted, waiting := [kid] }
  let begun : CacheRun Key :=
    { looked with
      cache := { looked.cache with breaker, inFlight := true }
      refreshes := [started]
      fetches := [looked.startOf kid] }
  have begins : looked.refresh kid = (begun, []) :=
    looked.refresh_begins kid rfl (fun cooling => Bool.noConfusion cooling.1) admits
  have asked : waited.getKey kid = (begun, []) := by
    unfold CacheRun.getKey
    rw [consulted]
    exact begins
  refine ⟨begun, started, ?_, rfl, rfl, rfl, Nat.zero_add _⟩
  change some (waited.getKey kid).1 = some begun
  rw [asked]

theorem cacheMachine_firstFetch (config : PrivyJwksConfig)
    (imported : importPrivyJwk createPublicKey jwk = some key)
    (named : jwk.kid = .text kid) :
    ∃ run, (cacheMachine createPublicKey config).run (.create config 0)
        (firstFetch config jwk kid) = some run ∧
      run.now = config.circuitResetTimeoutMs ∧
      run.cache.entry =
        some (PrivyJwksCache.newEntry config (AList.insert kid key ∅) run.now) ∧
      run.cache.config = config ∧
      run.latest = some { document := listing jwk, fetchedAt := run.now } ∧
      kid ∉ run.cache.unknownKids := by
  have unempty : kid ≠ "" := fun empty =>
    importPrivyJwk_named imported (named.trans (congrArg JwkField.text empty))
  obtain ⟨begun, refresh, ran, flight, waiting, same, now⟩ :=
    create_getKey createPublicKey config unempty
  have usable := usableKeys_listing imported named
  have ends : (cacheStep createPublicKey begun (.fetched 0 (.document (listing jwk)))).map Prod.fst =
      some
        { begun with
          refreshes := []
          cache :=
            { begun.cache with
              breaker := begun.cache.breaker.settle begun.now refresh.admitted true
              entry := some (PrivyJwksCache.newEntry config (AList.insert kid key ∅) begun.now)
              lastFetchAt := some begun.now
              inFlight := false
              unknownKids := (∅ : KidMap Nat).erase kid }
          latest := some { document := listing jwk, fetchedAt := begun.now }
          failures := [] } := by
    simp [cacheStep, flight, CacheRun.fetched, usable, PrivyJwksCache.fetchAndStore, waiting,
      CacheRun.selectAll, CacheRun.select, PrivyJwksCache.selectKey, PrivyJwksCache.newEntry, same,
      -AList.insert_empty]
  refine ⟨_, Machine.run_concat _ _ ran ends, now, rfl, same, rfl, ?_⟩
  exact fun noted => (AList.mem_erase.mp noted).1 rfl

theorem serves_expired (createPublicKey : Jwk → Option Key) {run : CacheRun Key} {keys : KidMap Key}
    (overlong : config.jwksStaleTtlMs < config.jwksTtlMs) (unempty : kid ≠ "")
    (present : run.cache.entry = some (PrivyJwksCache.newEntry config keys run.now))
    (found : keys.lookup kid = some key) (unnoted : kid ∉ run.cache.unknownKids) :
    ∃ after, cacheStep createPublicKey { run with now := run.now + config.jwksStaleTtlMs }
      (.getKey kid) = some (after, [{ kid, result := .ok key }]) ∧
        after.latest = run.latest ∧ after.now = run.now + config.jwksStaleTtlMs ∧
        after.cache.config = run.cache.config := by
  let later := run.now + config.jwksStaleTtlMs
  have fresh : later < run.now + config.jwksTtlMs := Nat.add_lt_add_left overlong _
  have unknown : run.cache.isUnknownKidCached kid later = false :=
    eq_false_of_ne_true fun noted => unnoted (PrivyJwksCache.isUnknownKidCached_noted noted)
  obtain ⟨unknownKids, forgotten⟩ :=
    PrivyJwksCache.forgetUnknownKid_notes run.cache later kid
  have used : (run.cache.entry.filter fun entry => decide (later < entry.expiresAt)) =
      some (PrivyJwksCache.newEntry config keys run.now) :=
    Option.filter_eq_some_iff.mpr ⟨present, decide_eq_true fresh⟩
  have answered : run.cache.answerFromCache later kid =
      ({ run.cache with unknownKids }, some (.ok key)) := by
    unfold PrivyJwksCache.answerFromCache
    rw [if_neg unempty, if_neg (by rw [unknown]; decide), forgotten]
    dsimp only
    rw [used]
    dsimp only [PrivyJwksCache.newEntry]
    rw [found]
  refine ⟨{ run with now := later, cache := { run.cache with unknownKids } }, ?_, rfl, rfl, rfl⟩
  simp only [cacheStep, CacheRun.getKey]
  rw [answered]

def expiry (config : PrivyJwksConfig) (jwk : Jwk) (kid : String) : List CacheLabel :=
  firstFetch config jwk kid ++ [.elapse config.jwksStaleTtlMs, .getKey kid]

theorem expiry_unlawful (overlong : config.jwksStaleTtlMs < config.jwksTtlMs)
    (imported : importPrivyJwk createPublicKey jwk = some key) (named : jwk.kid = .text kid) :
    ¬(cacheMachine createPublicKey config).Permits (CacheRun.StepsLawfully createPublicKey)
      (.create config 0) (expiry config jwk kid) := by
  intro permitted
  have unempty : kid ≠ "" := fun empty =>
    importPrivyJwk_named imported (named.trans (congrArg JwkField.text empty))
  obtain ⟨run, ran, _, present, same, latest, unnoted⟩ :=
    cacheMachine_firstFetch config imported named
  obtain ⟨after, moved, kept, now, settings⟩ :=
    serves_expired createPublicKey overlong unempty present
      (AList.lookup_insert _) unnoted
  obtain ⟨_, lawful, _⟩ := permitted.later ran
  have sound := (lawful after _ moved).sound _ (List.mem_singleton_self _) key rfl
  obtain ⟨fetch, fetched, early⟩ := sound.2
  rw [kept, latest] at fetched
  cases fetched
  rw [now, settings, same] at early
  exact Nat.lt_irrefl _ early

end Overlong

theorem importPrivyJwk_kid {createPublicKey : Jwk → Option Key} {jwk : Jwk} {key : Key}
    (imported : importPrivyJwk createPublicKey jwk = some key) : ∃ kid, jwk.kid = .text kid := by
  unfold importPrivyJwk at imported
  obtain ⟨_, imported⟩ := Option.ite_none_left_eq_some.mp imported
  obtain ⟨_, imported⟩ := Option.ite_none_left_eq_some.mp imported
  obtain ⟨_, imported⟩ := Option.ite_none_left_eq_some.mp imported
  obtain ⟨named, _⟩ := Option.ite_none_left_eq_some.mp imported
  cases kidOf : jwk.kid with
  | text kid => exact ⟨kid, rfl⟩
  | missing | other => exact absurd (Or.inl (by rw [kidOf]; rfl)) named

/-- Every run is lawful exactly where no fresh window outlasts the hard expiry. -/
theorem cacheMachine_lawful_iff (createPublicKey : Jwk → Option Key) (config : PrivyJwksConfig)
    (imports : ∃ jwk, (importPrivyJwk createPublicKey jwk).isSome) :
    (∀ now labels, (cacheMachine createPublicKey config).Permits
        (CacheRun.StepsLawfully createPublicKey) (.create config now) labels) ↔
      config.jwksTtlMs ≤ config.jwksStaleTtlMs := by
  constructor
  · intro lawful
    by_contra overlong
    obtain ⟨jwk, usable⟩ := imports
    obtain ⟨key, imported⟩ := Option.isSome_iff_exists.mp usable
    obtain ⟨kid, named⟩ := importPrivyJwk_kid imported
    exact expiry_unlawful (Nat.lt_of_not_le overlong) imported named (lawful 0 _)
  · intro window now labels
    let holds (run : CacheRun Key) : Prop :=
      CacheRun.Consistent createPublicKey run ∧ run.cache.config = config
    refine (Machine.permits_iff holds (fun _ => True) ?_ ?_ labels
      ⟨CacheRun.create_consistent config now, rfl⟩ (fun _ _ => trivial)).mp
        (Machine.permits_always _ _ labels)
    · rintro run label ⟨consistent, rfl⟩ _
      exact iff_of_true trivial (CacheRun.cacheStep_lawful consistent window label)
    · rintro run label after ⟨consistent, rfl⟩ _ _ moved
      obtain ⟨done, stepped, rfl⟩ := Option.map_eq_some_iff.mp moved
      have handles := CacheRun.cacheStep_handles consistent window stepped
      exact ⟨handles.consistent, handles.config⟩

/-! A document with the base point of the curve, and an import that keeps its coordinates. -/

def basePoint : Jwk where
  kid := .text "k1"
  kty := .text "EC"
  crv := .text "P-256"
  alg := .text "ES256"
  use := .text "sig"
  x := .text "axfR8uEsQkf4vOblY6RA8ncDfYEt6zOg9KE5RdiYwpY"
  y := .text "T-NC4v4af5uO5-tKfA-eFivOM1drMV7Oy7ZAaDe_UfU"

def importBasePoint (jwk : Jwk) : Option (JwkField × JwkField) :=
  if jwk.x = basePoint.x ∧ jwk.y = basePoint.y then some (jwk.x, jwk.y) else none

/-- The defaults of the settings, but for the two lifetimes. -/
def lifetimes (ttl stale : Nat) (ttlPositive : 0 < ttl) (staleTtlPositive : 0 < stale) :
    PrivyJwksConfig where
  jwksTtlMs := ttl
  jwksStaleTtlMs := stale
  jwksNegativeTtlMs := 60000
  circuitFailureThreshold := 5
  circuitResetTimeoutMs := 30000
  circuitStartsOpen := false
  allowStaleKeysOnError := true
  ttlPositive
  staleTtlPositive
  negativeTtlPositive := by decide

def hourAndDay : PrivyJwksConfig := lifetimes 3600000 86400000 (by decide) (by decide)

def twoDaysAndDay : PrivyJwksConfig := lifetimes 172800000 86400000 (by decide) (by decide)

theorem hourAndDay_lawful :
    (cacheMachine importBasePoint hourAndDay).Permits (CacheRun.StepsLawfully importBasePoint)
      (.create hourAndDay 0) (expiry hourAndDay basePoint "k1") :=
  (cacheMachine_lawful_iff importBasePoint hourAndDay ⟨basePoint, by decide⟩).mpr (by decide) 0 _

theorem twoDaysAndDay_unlawful :
    ¬(cacheMachine importBasePoint twoDaysAndDay).Permits (CacheRun.StepsLawfully importBasePoint)
        (.create twoDaysAndDay 0) (expiry twoDaysAndDay basePoint "k1") ∧
      (((cacheMachine importBasePoint twoDaysAndDay).run (.create twoDaysAndDay 0)
            ((expiry twoDaysAndDay basePoint "k1").take 4)).bind fun run =>
          (cacheStep importBasePoint run (.getKey "k1")).map fun done =>
            (run.now, run.latest.map LatestFetch.fetchedAt,
              done.2.map fun answer => answer.result.toOption)) =
        some (86430000, some 30000, [some (basePoint.x, basePoint.y)]) :=
  ⟨expiry_unlawful (by decide) rfl rfl, by decide +kernel⟩

end AudioBlock.Auth
