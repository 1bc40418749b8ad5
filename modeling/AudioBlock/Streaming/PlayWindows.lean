/-
When a playback counts once, and no window counts twice.

A request that finds no live key is under way until it has set one.  Per listener and song the
plays counted so far lie a window back while a request is under way, and under the live key
while none is.
-/
import AudioBlock.Streaming.PlayCounts

namespace AudioBlock.Streaming

open AudioBlock.Foundation AudioBlock.Songs

def PlayState.countedFor (state : PlayState) (key : SessionKey) : List CountedPlay :=
  state.counted.filter fun play => decide (play.key = key)

def PlayState.servedFor (state : PlayState) (key : SessionKey) : List ServedPlay :=
  state.served.filter fun play => decide (play.key = key)

def fetchesSince (served : List ServedPlay) : List ServedPlay :=
  served.takeWhile fun play => decide (play.endpoint = .streamSong)

def WindowsOnce (counted : List CountedPlay) : Prop :=
  counted.Pairwise fun later earlier => earlier.time + earlier.endpoint.lifetime ≤ later.time

def PlaybacksOnce (served : List ServedPlay) : Prop :=
  ∀ after play reloads fetch before, served = after ++ play :: (reloads ++ fetch :: before) →
    play.endpoint = .recordPlay → (∀ reload ∈ reloads, reload.endpoint = .streamSong) →
      fetch.endpoint = .streamSong → fetch.counted = true →
        (play :: (reloads ++ [fetch])).countP (fun request => request.counted) = 1

/-- For every listener and song. -/
def CountsPlays (state : PlayState) : Prop :=
  ∀ key, WindowsOnce (state.countedFor key) ∧ PlaybacksOnce (state.servedFor key)

/-- Between the check of the key and its setting. -/
def PlayCall.underway (key : SessionKey) : PlayCall → Bool
  | .increment _ own _ | .insertEvent own _ | .setKey _ own => decide (own = key)
  | _ => false

def TimelyCheck (state : PlayState) (now : Nat) : PlayCall → Prop
  | .getKey endpoint key _ =>
      (state.live key now = false → ∀ other ∈ state.calls, other.underway key = false) ∧
        (endpoint = .recordPlay →
          ∀ fetch ∈ fetchesSince (state.servedFor key), fetch.counted = true →
            now < fetch.time + PlayEndpoint.streamSong.lifetime)
  | _ => True

def TimelyChecks (state : PlayState) : PlayLabel → Prop
  | .request _ _ _ | .editSongs _ => True
  | .step index now => ∀ call ∈ state.calls[index]?, TimelyCheck state now call

instance (state : PlayState) (now : Nat) : DecidablePred (TimelyCheck state now)
  | .getKey _ _ _ => inferInstanceAs (Decidable (_ ∧ _))
  | .findSong _ _ _ | .increment _ _ _ | .insertEvent _ _ | .setKey _ _ | .ended | .refused _ _ =>
      isTrue trivial

instance (state : PlayState) : DecidablePred (TimelyChecks state)
  | .request _ _ _ | .editSongs _ => isTrue trivial
  | .step index now =>
      inferInstanceAs (Decidable (∀ call ∈ state.calls[index]?, TimelyCheck state now call))

/-! ### Requests one after another -/

variable {served : List ServedPlay} {play : ServedPlay}

theorem PlaybacksOnce.fetch (once : PlaybacksOnce served) {fetch : ServedPlay}
    (streams : fetch.endpoint = .streamSong) :
    PlaybacksOnce (fetch :: served) := by
  intro after play reloads first before split posts fetches streamed counted
  cases after with
  | nil =>
      obtain ⟨same, _rest⟩ := List.cons.inj split
      rw [same, posts] at streams
      cases streams
  | cons head rest =>
      exact once rest play reloads first before (List.cons.inj split).2 posts fetches streamed
        counted

theorem PlaybacksOnce.post (once : PlaybacksOnce served)
    (now : ∀ reloads fetch before, served = reloads ++ fetch :: before →
      (∀ reload ∈ reloads, reload.endpoint = .streamSong) → fetch.endpoint = .streamSong →
        fetch.counted = true →
          (play :: (reloads ++ [fetch])).countP (fun request => request.counted) = 1) :
    PlaybacksOnce (play :: served) := by
  intro after last reloads first before split posts fetches streamed counted
  cases after with
  | nil =>
      obtain ⟨same, rest⟩ := List.cons.inj split
      subst same
      exact now reloads first before rest fetches streamed counted
  | cons head rest =>
      exact once rest last reloads first before (List.cons.inj split).2 posts fetches streamed
        counted

theorem fetchesSince_split {reloads before : List ServedPlay} {fetch : ServedPlay}
    (fetches : ∀ reload ∈ reloads, reload.endpoint = .streamSong)
    (streamed : fetch.endpoint = .streamSong) :
    fetchesSince (reloads ++ fetch :: before) = reloads ++ fetch :: fetchesSince before := by
  unfold fetchesSince
  rw [List.takeWhile_append_of_pos fun reload member => decide_eq_true (fetches reload member),
    List.takeWhile_cons, decide_eq_true streamed]
  rfl

theorem one_counted {fetches : List ServedPlay} {now : Nat}
    (spaced : (fetches.filter fun fetch => fetch.counted).Pairwise fun later earlier =>
      earlier.time + PlayEndpoint.streamSong.lifetime ≤ later.time)
    (past : ∀ fetch ∈ fetches, fetch.time ≤ now)
    (timely : ∀ fetch ∈ fetches, fetch.counted = true →
      now < fetch.time + PlayEndpoint.streamSong.lifetime) :
    fetches.countP (fun fetch => fetch.counted) ≤ 1 := by
  rw [List.countP_eq_length_filter]
  rcases counted : fetches.filter fun fetch => fetch.counted with _ | ⟨later, _ | ⟨earlier, more⟩⟩
  · rw [counted]
    exact Nat.zero_le 1
  · rw [counted]
    exact Nat.le_refl 1
  · exfalso
    rw [counted] at spaced
    have apart := (List.pairwise_cons.mp spaced).1 earlier List.mem_cons_self
    have inLater : later ∈ fetches.filter fun fetch => fetch.counted := by
      rw [counted]
      exact List.mem_cons_self
    have inEarlier : earlier ∈ fetches.filter fun fetch => fetch.counted := by
      rw [counted]
      exact List.mem_cons_of_mem _ List.mem_cons_self
    obtain ⟨memberEarlier, countedEarlier⟩ := List.mem_filter.mp inEarlier
    have within := timely earlier memberEarlier countedEarlier
    have before := past later (List.mem_filter.mp inLater).1
    omega

theorem PlaybacksOnce.post_live (once : PlaybacksOnce served) {now : Nat}
    (uncounted : play.counted = false)
    (spaced : ((fetchesSince served).filter fun fetch => fetch.counted).Pairwise
      fun later earlier => earlier.time + PlayEndpoint.streamSong.lifetime ≤ later.time)
    (past : ∀ fetch ∈ fetchesSince served, fetch.time ≤ now)
    (timely : ∀ fetch ∈ fetchesSince served, fetch.counted = true →
      now < fetch.time + PlayEndpoint.streamSong.lifetime) : PlaybacksOnce (play :: served) := by
  refine once.post ?_
  intro reloads fetch before split fetches streamed counted
  have few := one_counted spaced past timely
  rw [split, fetchesSince_split fetches streamed, List.countP_append,
    List.countP_cons_of_pos counted] at few
  rw [List.countP_cons_of_neg (by rw [uncounted]; exact Bool.false_ne_true), List.countP_append,
    List.countP_singleton, if_pos counted]
  omega

theorem PlaybacksOnce.post_fresh (once : PlaybacksOnce served)
    (uncounted : ∀ fetch ∈ fetchesSince served, fetch.counted = false) :
    PlaybacksOnce (play :: served) := by
  refine once.post ?_
  intro reloads fetch before split fetches streamed counted
  have member : fetch ∈ fetchesSince served := by
    rw [split, fetchesSince_split fetches streamed]
    exact List.mem_append_right _ List.mem_cons_self
  rw [uncounted fetch member] at counted
  cases counted

/-! ### Where a listener's requests stand -/

/-- No request is under way, and the key outlives every window that was opened. -/
structure Quiet (state : PlayState) (key : SessionKey) : Prop where
  idle : ∀ call ∈ state.calls, call.underway key = false
  counted : ∀ play ∈ state.countedFor key, ∃ expiry, state.throttle key = some expiry ∧
    play.time + play.endpoint.lifetime ≤ expiry
  fetched : ∀ fetch ∈ fetchesSince (state.servedFor key), fetch.counted = true →
    ∃ expiry, state.throttle key = some expiry ∧
      fetch.time + PlayEndpoint.streamSong.lifetime ≤ expiry

def CountedLast (endpoint : PlayEndpoint) (clock : Nat) (counted : List CountedPlay) : Prop :=
  ∃ own others, counted = own :: others ∧ own.endpoint = endpoint ∧ own.time ≤ clock

def CountedSoFar (state : PlayState) (key : SessionKey) : PlayCall → Prop
  | .increment _ _ _ => ∀ play ∈ state.countedFor key,
      play.time + play.endpoint.lifetime ≤ state.clock
  | .insertEvent _ _ => CountedLast .streamSong state.clock (state.countedFor key)
  | .setKey endpoint _ => CountedLast endpoint state.clock (state.countedFor key)
  | _ => True

def PlayCall.posts : PlayCall → Bool
  | .increment .recordPlay _ _ | .setKey .recordPlay _ => true
  | _ => false

/-- One request is under way. -/
structure Busy (state : PlayState) (key : SessionKey) (index : Nat) (call : PlayCall) : Prop where
  present : state.calls[index]? = some call
  underway : call.underway key = true
  others : ∀ (other : Nat) found, state.calls[other]? = some found → other ≠ index →
    found.underway key = false
  counted : CountedSoFar state key call
  fetched : ∀ fetch ∈ fetchesSince (state.servedFor key), fetch.counted = true →
    fetch.time + PlayEndpoint.streamSong.lifetime ≤ state.clock
  fresh : call.posts = true → ∀ fetch ∈ fetchesSince (state.servedFor key), fetch.counted = false

structure Sound (state : PlayState) (key : SessionKey) : Prop where
  windows : WindowsOnce (state.countedFor key)
  playbacks : PlaybacksOnce (state.servedFor key)
  spaced : ((fetchesSince (state.servedFor key)).filter fun fetch => fetch.counted).Pairwise
    fun later earlier => earlier.time + PlayEndpoint.streamSong.lifetime ≤ later.time
  past : ∀ fetch ∈ fetchesSince (state.servedFor key), fetch.time ≤ state.clock
  phase : Quiet state key ∨ ∃ index call, Busy state key index call

section Steps

variable {state after : PlayState} {key : SessionKey}

theorem Sound.frame (sound : Sound state key)
    (counted : after.countedFor key = state.countedFor key) (served : after.servedFor key = state.servedFor key)
    (throttle : after.throttle key = state.throttle key) (clock : state.clock ≤ after.clock)
    (idle : (∀ call ∈ state.calls, call.underway key = false) →
      ∀ call ∈ after.calls, call.underway key = false)
    (kept : ∀ (index : Nat) call, state.calls[index]? = some call → call.underway key = true →
      after.calls[index]? = some call)
    (others : ∀ index : Nat, (∀ (other : Nat) call, state.calls[other]? = some call →
      other ≠ index → call.underway key = false) → ∀ (other : Nat) call,
        after.calls[other]? = some call → other ≠ index → call.underway key = false) :
    Sound after key where
  windows := by
    rw [counted]
    exact sound.windows
  playbacks := by
    rw [served]
    exact sound.playbacks
  spaced := by
    rw [served]
    exact sound.spaced
  past := by
    rw [served]
    exact fun fetch member => Nat.le_trans (sound.past fetch member) clock
  phase := by
    rcases sound.phase with quiet | ⟨index, call, busy⟩
    · refine Or.inl ⟨idle quiet.idle, ?_, ?_⟩
      · rw [counted, throttle]
        exact quiet.counted
      · rw [served, throttle]
        exact quiet.fetched
    · refine Or.inr ⟨index, call, kept index call busy.present busy.underway, busy.underway,
        others index busy.others, ?_, ?_, ?_⟩
      · have before := busy.counted
        cases call with
        | increment _ _ _ =>
            unfold CountedSoFar at before ⊢
            rw [counted]
            exact fun play member => Nat.le_trans (before play member) clock
        | insertEvent _ _ | setKey _ _ =>
            obtain ⟨own, rest, split, endpoint, time⟩ := before
            exact ⟨own, rest, counted.trans split, endpoint, Nat.le_trans time clock⟩
        | findSong _ _ _ | getKey _ _ _ | ended | refused _ _ => trivial
      · rw [served]
        exact fun fetch member done => Nat.le_trans (busy.fetched fetch member done) clock
      · rw [served]
        exact busy.fresh

variable {index : Nat} {call next : PlayCall} {now : Nat} {endpoint : PlayEndpoint}
  {userId : Option String}

theorem Sound.place (sound : Sound state key) (present : state.calls[index]? = some call)
    (waits : call.underway key = false) (goes : next.underway key = false)
    (counted : after.countedFor key = state.countedFor key)
    (served : after.servedFor key = state.servedFor key)
    (throttle : after.throttle key = state.throttle key) (clock : state.clock ≤ after.clock)
    (calls : after.calls = state.calls.set index next) : Sound after key := by
  refine sound.frame counted served throttle clock ?_ ?_ ?_
  · intro idle found member
    rw [calls] at member
    rcases List.mem_or_eq_of_mem_set member with before | same
    · exact idle found before
    · rw [same]
      exact goes
  · intro other found there underway
    have apart : index ≠ other := by
      intro same
      rw [← same, present] at there
      cases there
      rw [waits] at underway
      cases underway
    rw [calls, List.getElem?_set_ne apart]
    exact there
  · intro owner others other found there different
    rw [calls, List.getElem?_set] at there
    split at there
    · split at there
      · cases there
        exact goes
      · cases there
    · exact others other found there different

theorem Sound.submit (sound : Sound state key) (waits : call.underway key = false) :
    Sound { state with calls := state.calls ++ [call] } key := by
  have added : ∀ (other : Nat) found, (state.calls ++ [call])[other]? = some found →
      state.calls[other]? = some found ∨ found = call := by
    intro other found there
    rw [List.getElem?_append] at there
    split at there
    · exact Or.inl there
    · exact Or.inr (List.mem_singleton.mp (List.mem_of_getElem? there))
  refine sound.frame rfl rfl rfl (Nat.le_refl _) ?_ ?_ ?_
  · intro idle found member
    rcases List.mem_append.mp member with before | same
    · exact idle found before
    · rw [List.mem_singleton.mp same]
      exact waits
  · intro other found there _underway
    rw [List.getElem?_append_left (List.getElem?_eq_some_iff.mp there).1]
    exact there
  · intro owner others other found there different
    rcases added other found there with before | same
    · exact others other found before different
    · rw [same]
      exact waits

theorem Sound.busy (sound : Sound state key) (present : state.calls[index]? = some call)
    (underway : call.underway key = true) :
    Busy state key index call := by
  rcases sound.phase with quiet | ⟨owner, owning, busy⟩
  · rw [quiet.idle call (List.mem_of_getElem? present)] at underway
    cases underway
  · have same : index = owner := by
      by_contra different
      rw [busy.others index call present different] at underway
      cases underway
    subst same
    have whole := busy.present
    rw [present] at whole
    cases whole
    exact busy

theorem fetchesSince_cons (play : ServedPlay) (served : List ServedPlay) :
    fetchesSince (play :: served) =
      if play.endpoint = .streamSong then play :: fetchesSince served else [] := by
  unfold fetchesSince
  rw [List.takeWhile_cons]
  by_cases streams : play.endpoint = .streamSong
  · rw [decide_eq_true streams, if_pos streams]
    rfl
  · rw [decide_eq_false streams, if_neg streams]
    rfl

theorem mem_fetchesSince_cons {play fetch : ServedPlay} {served : List ServedPlay}
    (member : fetch ∈ fetchesSince (play :: served)) :
    fetch = play ∨ fetch ∈ fetchesSince served := by
  rw [fetchesSince_cons] at member
  split at member
  · exact List.mem_cons.mp member
  · cases member

theorem counted_fetchesSince_cons {play : ServedPlay} (uncounted : play.counted = false)
    (served : List ServedPlay) :
    ((fetchesSince (play :: served)).filter fun fetch => fetch.counted).Sublist
      ((fetchesSince served).filter fun fetch => fetch.counted) := by
  rw [fetchesSince_cons]
  split
  · rw [List.filter_cons_of_neg (by rw [uncounted]; exact Bool.false_ne_true)]
  · exact List.nil_sublist _

theorem serve_servedFor (play : ServedPlay) (own : play.key = key) :
    (state.serve play).servedFor key = play :: state.servedFor key :=
  List.filter_cons_of_pos (decide_eq_true own)

theorem count_countedFor (play : CountedPlay) (own : play.key = key) :
    (state.count play).countedFor key = play :: state.countedFor key :=
  List.filter_cons_of_pos (decide_eq_true own)

section

variable (sound : Sound state key)
  (present : state.calls[index]? = some (.getKey endpoint key userId)) (order : state.clock ≤ now)
include sound present order

theorem Sound.hit
    (timely : endpoint = .recordPlay → ∀ fetch ∈ fetchesSince (state.servedFor key),
      fetch.counted = true → now < fetch.time + PlayEndpoint.streamSong.lifetime) :
    Sound { state.serve { endpoint, key, time := now, counted := false } with
      calls := state.calls.set index .ended, clock := now } key := by
  have placed : Sound { state with calls := state.calls.set index .ended, clock := now } key :=
    sound.place present rfl rfl rfl rfl rfl order rfl
  have past : ∀ fetch ∈ fetchesSince (state.servedFor key), fetch.time ≤ now := placed.past
  have served := @serve_servedFor state key { endpoint, key, time := now, counted := false } rfl
  have later : PlayState.servedFor
      { state.serve { endpoint, key, time := now, counted := false } with
        calls := state.calls.set index .ended, clock := now } key =
        { endpoint, key, time := now, counted := false } :: state.servedFor key := served
  have known : ∀ {holds : ServedPlay → Prop}, (∀ fetch ∈ fetchesSince (state.servedFor key),
      fetch.counted = true → holds fetch) →
        ∀ fetch ∈ fetchesSince ({ endpoint, key, time := now, counted := false } ::
          state.servedFor key), fetch.counted = true → holds fetch := by
    intro holds all fetch member counted
    rcases mem_fetchesSince_cons member with same | before
    · rw [same] at counted
      cases counted
    · exact all fetch before counted
  refine ⟨sound.windows, ?_, ?_, ?_, ?_⟩
  · rw [later]
    cases endpoint with
    | streamSong => exact sound.playbacks.fetch rfl
    | recordPlay => exact sound.playbacks.post_live rfl sound.spaced past (timely rfl)
  · rw [later]
    exact sound.spaced.sublist (counted_fetchesSince_cons rfl _)
  · rw [later]
    intro fetch member
    rcases mem_fetchesSince_cons member with same | before
    · rw [same]
    · exact past fetch before
  · rcases placed.phase with quiet | ⟨owner, owning, busy⟩
    · refine Or.inl ⟨quiet.idle, quiet.counted, ?_⟩
      rw [later]
      exact known quiet.fetched
    · refine Or.inr ⟨owner, owning, busy.present, busy.underway, busy.others, ?_, ?_, ?_⟩
      · have before := busy.counted
        cases owning <;> exact before
      · rw [later]
        exact known busy.fetched
      · rw [later]
        intro posts fetch member
        rcases mem_fetchesSince_cons member with same | before
        · rw [same]
        · exact busy.fresh posts fetch before

theorem Sound.miss (absent : state.live key now = false)
    (alone : ∀ other ∈ state.calls, other.underway key = false)
    (timely : endpoint = .recordPlay → ∀ fetch ∈ fetchesSince (state.servedFor key),
      fetch.counted = true → now < fetch.time + PlayEndpoint.streamSong.lifetime) :
    Sound { state with
      calls := state.calls.set index (.increment endpoint key userId), clock := now } key := by
  have quiet : Quiet state key := by
    rcases sound.phase with quiet | ⟨owner, owning, busy⟩
    · exact quiet
    · have idle := alone owning (List.mem_of_getElem? busy.present)
      rw [busy.underway] at idle
      cases idle
  have expired : ∀ expiry, state.throttle key = some expiry → expiry ≤ now := by
    intro expiry found
    unfold PlayState.live at absent
    rw [found] at absent
    exact Nat.le_of_not_lt (of_decide_eq_false absent)
  have fetched : ∀ fetch ∈ fetchesSince (state.servedFor key), fetch.counted = true →
      fetch.time + PlayEndpoint.streamSong.lifetime ≤ now := by
    intro fetch member counted
    obtain ⟨expiry, found, covers⟩ := quiet.fetched fetch member counted
    exact Nat.le_trans covers (expired expiry found)
  refine ⟨sound.windows, sound.playbacks, sound.spaced,
    fun fetch member => Nat.le_trans (sound.past fetch member) order, Or.inr ⟨index,
      .increment endpoint key userId, ?_, decide_eq_true rfl, ?_, ?_, fetched, ?_⟩⟩
  · exact List.getElem?_set_self (List.getElem?_eq_some_iff.mp present).1
  · intro other found there different
    rw [List.getElem?_set_ne (Ne.symm different)] at there
    exact alone found (List.mem_of_getElem? there)
  · intro play member
    obtain ⟨expiry, found, covers⟩ := quiet.counted play member
    exact Nat.le_trans covers (expired expiry found)
  · intro posts fetch member
    cases endpoint with
    | streamSong => cases posts
    | recordPlay =>
        apply Bool.eq_false_iff.mpr
        intro counted
        have within := timely rfl fetch member counted
        have passed := fetched fetch member counted
        omega

end

theorem Busy.advance (busy : Busy state key index call) (underway : next.underway key = true)
    (clock : state.clock ≤ after.clock) (calls : after.calls = state.calls.set index next)
    (served : after.servedFor key = state.servedFor key) (counted : CountedSoFar after key next)
    (posts : next.posts = call.posts) :
    Busy after key index next where
  present := by
    rw [calls]
    exact List.getElem?_set_self (List.getElem?_eq_some_iff.mp busy.present).1
  underway := underway
  others := by
    intro other found there different
    rw [calls, List.getElem?_set_ne (Ne.symm different)] at there
    exact busy.others other found there different
  counted := counted
  fetched := by
    rw [served]
    exact fun fetch member done => Nat.le_trans (busy.fetched fetch member done) clock
  fresh := by
    rw [served, posts]
    exact busy.fresh

theorem Sound.count (sound : Sound state key)
    (present : state.calls[index]? = some (.increment endpoint key userId))
    (order : state.clock ≤ now)
    (goes : next = match endpoint with
      | .streamSong => .insertEvent key userId
      | .recordPlay => .setKey .recordPlay key) :
    Sound { state.count { endpoint, key, time := now } with
      calls := state.calls.set index next, clock := now } key := by
  have busy := sound.busy present (decide_eq_true rfl)
  have before : ∀ play ∈ state.countedFor key,
      play.time + play.endpoint.lifetime ≤ state.clock := busy.counted
  have counted : PlayState.countedFor { state.count { endpoint, key, time := now } with
      calls := state.calls.set index next, clock := now } key =
        { endpoint, key, time := now } :: state.countedFor key :=
    @count_countedFor state key { endpoint, key, time := now } rfl
  have last : CountedLast endpoint now (PlayState.countedFor
      { state.count { endpoint, key, time := now } with
        calls := state.calls.set index next, clock := now } key) :=
    ⟨_, _, counted, rfl, Nat.le_refl _⟩
  refine ⟨?_, sound.playbacks, sound.spaced,
    fun fetch member => Nat.le_trans (sound.past fetch member) order,
    Or.inr ⟨index, next, busy.advance ?_ order rfl rfl ?_ ?_⟩⟩
  · rw [counted]
    exact List.pairwise_cons.mpr
      ⟨fun play member => Nat.le_trans (before play member) order, sound.windows⟩
  · cases endpoint <;> rw [goes] <;> exact decide_eq_true rfl
  · cases endpoint <;> subst goes <;> exact last
  · cases endpoint <;> rw [goes] <;> rfl

theorem Sound.insert (sound : Sound state key) {events : List SongPlayEvent}
    (present : state.calls[index]? = some (.insertEvent key userId)) (order : state.clock ≤ now) :
    Sound { state with
      events, calls := state.calls.set index (.setKey .streamSong key), clock := now } key := by
  have busy := sound.busy present (decide_eq_true rfl)
  obtain ⟨own, others, split, endpoint, time⟩ := busy.counted
  exact ⟨sound.windows, sound.playbacks, sound.spaced,
    fun fetch member => Nat.le_trans (sound.past fetch member) order,
    Or.inr ⟨index, .setKey .streamSong key, busy.advance (decide_eq_true rfl) order rfl rfl
      ⟨own, others, split, endpoint, Nat.le_trans time order⟩ rfl⟩⟩

theorem Sound.set (sound : Sound state key)
    (present : state.calls[index]? = some (.setKey endpoint key)) (order : state.clock ≤ now) :
    Sound { (state.expire key (now + endpoint.lifetime)).serve
        { endpoint, key, time := now, counted := true } with
      calls := state.calls.set index .ended, clock := now } key := by
  have busy := sound.busy present (decide_eq_true rfl)
  have served : PlayState.servedFor { (state.expire key (now + endpoint.lifetime)).serve
        { endpoint, key, time := now, counted := true } with
      calls := state.calls.set index .ended, clock := now } key =
        { endpoint, key, time := now, counted := true } :: state.servedFor key :=
    @serve_servedFor (state.expire key (now + endpoint.lifetime)) key
      { endpoint, key, time := now, counted := true } rfl
  have expiry : (if key = key then some (now + endpoint.lifetime) else state.throttle key) =
      some (now + endpoint.lifetime) := if_pos rfl
  have fetched : ∀ fetch ∈ fetchesSince (state.servedFor key), fetch.counted = true →
      fetch.time + PlayEndpoint.streamSong.lifetime ≤ now :=
    fun fetch member counted => Nat.le_trans (busy.fetched fetch member counted) order
  refine ⟨sound.windows, ?_, ?_, ?_, Or.inl ⟨?_, ?_, ?_⟩⟩
  · rw [served]
    cases endpoint with
    | streamSong => exact sound.playbacks.fetch rfl
    | recordPlay => exact sound.playbacks.post_fresh (busy.fresh rfl)
  · rw [served, fetchesSince_cons]
    split
    · rw [List.filter_cons_of_pos rfl]
      refine List.pairwise_cons.mpr ⟨?_, sound.spaced⟩
      intro fetch member
      obtain ⟨among, counted⟩ := List.mem_filter.mp member
      exact fetched fetch among counted
    · exact List.Pairwise.nil
  · rw [served]
    intro fetch member
    rcases mem_fetchesSince_cons member with same | before
    · rw [same]
    · exact Nat.le_trans (sound.past fetch before) order
  · intro call member
    obtain ⟨other, there⟩ := List.getElem?_of_mem member
    rw [List.getElem?_set] at there
    split at there
    · split at there
      · cases there
        rfl
      · cases there
    · rename_i different
      exact busy.others other call there (Ne.symm different)
  · obtain ⟨own, others, split, ownEndpoint, time⟩ := busy.counted
    intro play member
    refine ⟨now + endpoint.lifetime, expiry, ?_⟩
    have listed : play ∈ state.countedFor key := member
    have windows := sound.windows
    rw [split] at listed
    unfold WindowsOnce at windows
    rw [split] at windows
    rcases List.mem_cons.mp listed with same | earlier
    · rw [same, ownEndpoint]
      omega
    · have apart := (List.pairwise_cons.mp windows).1 play earlier
      omega
  · rw [served]
    intro fetch member counted
    refine ⟨now + endpoint.lifetime, expiry, ?_⟩
    rw [fetchesSince_cons] at member
    split at member
    · rename_i streams
      have own : endpoint = .streamSong := streams
      rcases List.mem_cons.mp member with same | before
      · rw [same, own]
      · have passed := fetched fetch before counted
        omega
    · cases member

theorem sound_step {listenerKey : String → String} {label : PlayLabel} (sound : Sound state key)
    (timely : TimelyChecks state label) (moved : playStep listenerKey state label = some after) :
    Sound after key := by
  cases label with
  | request endpoint own userId =>
      cases moved
      exact sound.submit rfl
  | editSongs songs =>
      cases moved
      exact sound.frame rfl rfl rfl (Nat.le_refl _) id (fun _index _call found _underway => found)
        fun _index others => others
  | step index now =>
      obtain ⟨order, call, reached, next, present, answered, same⟩ := playStep_step moved
      subst same
      have guard := timely call present
      cases call with
      | findSong endpoint own userId =>
          have waits : next.underway key = false := by
            cases endpoint <;> cases answered <;> split
            · rfl
            · split <;> rfl
            · rfl
            · rfl
          cases endpoint <;> cases answered <;>
            exact sound.place present rfl waits rfl rfl rfl order rfl
      | getKey endpoint own userId =>
          obtain ⟨alone, posts⟩ := guard
          by_cases live : state.live own now = true
          · rw [performPlay, if_pos live] at answered
            cases answered
            by_cases same : own = key
            · subst same
              exact sound.hit present order posts
            · have served := @List.filter_cons_of_neg _ (fun play : ServedPlay =>
                decide (play.key = key)) { endpoint, key := own, time := now, counted := false }
                  state.served (by simpa using same)
              exact sound.place present rfl rfl rfl served rfl order rfl
          · rw [performPlay, if_neg live] at answered
            cases answered
            by_cases same : own = key
            · subst same
              have absent := Bool.eq_false_iff.mpr live
              exact sound.miss present order absent (alone absent) posts
            · have goes : (PlayCall.increment endpoint own userId).underway key = false :=
                decide_eq_false same
              exact sound.place present rfl goes rfl rfl rfl order rfl
      | increment endpoint own userId =>
          cases answered
          by_cases same : own = key
          · subst same
            exact sound.count present order (by cases endpoint <;> rfl)
          · have counted := @List.filter_cons_of_neg _ (fun play : CountedPlay =>
              decide (play.key = key)) { endpoint, key := own, time := now } state.counted
                (by simpa using same)
            refine sound.place present (decide_eq_false same) ?_ counted rfl rfl order rfl
            cases endpoint <;> exact decide_eq_false same
      | insertEvent own userId =>
          cases answered
          by_cases same : own = key
          · subst same
            exact sound.insert present order
          · have goes : (PlayCall.setKey .streamSong own).underway key = false :=
              decide_eq_false same
            exact sound.place present (decide_eq_false same) goes rfl rfl rfl order rfl
      | setKey endpoint own =>
          cases answered
          by_cases same : own = key
          · subst same
            exact sound.set present order
          · have served := @List.filter_cons_of_neg _ (fun play : ServedPlay =>
              decide (play.key = key)) { endpoint, key := own, time := now, counted := true }
                state.served (by simpa using same)
            exact sound.place present (decide_eq_false same) rfl rfl served
              (if_neg fun equal => same equal.symm) order rfl
      | ended | refused _ _ => cases answered

end Steps

/-- In every run of timely checks, for every listener and song, a fetch that counts and the play
POST after it count one play, and every window holds one. -/
theorem plays_counted_once (listenerKey : String → String) (start after : PlayState)
    (begins : (playMachine listenerKey).initial start) (labels : List PlayLabel)
    (timely : (playMachine listenerKey).Permits TimelyChecks start labels)
    (ran : (playMachine listenerKey).run start labels = some after) : CountsPlays after := by
  intro key
  have initially : Sound start key := by
    obtain ⟨calls, counted, served⟩ := begins
    have noneCounted : start.countedFor key = [] := by
      unfold PlayState.countedFor
      rw [counted]
      rfl
    have noneServed : start.servedFor key = [] := by
      unfold PlayState.servedFor
      rw [served]
      rfl
    refine ⟨?_, ?_, ?_, ?_, Or.inl ⟨?_, ?_, ?_⟩⟩
    · rw [noneCounted]
      exact List.Pairwise.nil
    · rw [noneServed]
      intro after play reloads fetch before split
      exact (List.append_ne_nil_of_right_ne_nil after (List.cons_ne_nil _ _) split.symm).elim
    · rw [noneServed]
      exact List.Pairwise.nil
    · rw [noneServed]
      exact fun fetch member => nomatch member
    · rw [calls]
      exact fun call member => nomatch member
    · rw [noneCounted]
      exact fun play member => nomatch member
    · rw [noneServed]
      exact fun fetch member => nomatch member
  have sound := Machine.run_preserves (fun state => Sound state key)
    (fun _before _label _after holds allowed moved => sound_step holds allowed moved) labels
    initially timely ran
  exact ⟨sound.windows, sound.playbacks⟩

/-! ### Three runs -/

def playableSong : Song :=
  { Song.uploaded "s" "a" "t" with status := .ready, hlsMasterUrl := some "hls/s.m3u8" }

def beforePlays : PlayState :=
  { songs := [playableSong], playCount := fun _ => 0, events := [], throttle := fun _ => none
    calls := [], clock := 0, counted := [], served := [] }

def listening : SessionKey := { ip := "203.0.113.7", songId := "s" }

def fetchThenPost (later : Nat) : List PlayLabel :=
  [.request .streamSong listening none, .step 0 0, .step 0 0, .step 0 0, .step 0 0, .step 0 0,
    .request .recordPlay listening none, .step 1 later, .step 1 later]

/-- The post finds no key and goes on. -/
def postCounted (later : Nat) : List PlayLabel := [.step 1 later, .step 1 later]

/-- Two fetches check the key before either has set it. -/
def twoFetches : List PlayLabel :=
  [.request .streamSong listening none, .request .streamSong listening none, .step 0 0, .step 1 0,
    .step 0 1, .step 1 1, .step 0 2, .step 1 2]

theorem timely_post :
    ∃ after, (playMachine id).run beforePlays (fetchThenPost 29999) = some after ∧
      CountsPlays after := by
  have timely : (playMachine id).Permits TimelyChecks beforePlays (fetchThenPost 29999) := by
    decide +kernel
  have ran : ((playMachine id).run beforePlays (fetchThenPost 29999)).isSome = true := by
    decide +kernel
  obtain ⟨after, ran⟩ := Option.isSome_iff_exists.mp ran
  exact ⟨after, ran, plays_counted_once id beforePlays after ⟨rfl, rfl, rfl⟩ _ timely ran⟩

/-- After thirty seconds of playback the post counts the play again, and simultaneous fetches
count it twice. -/
theorem plays_counted_twice :
    (∃ after, (playMachine id).run beforePlays (fetchThenPost 30000 ++ postCounted 30000) =
        some after ∧ ¬CountsPlays after) ∧
      ∃ after, (playMachine id).run beforePlays twoFetches = some after ∧ ¬CountsPlays after := by
  constructor
  · have seen : ((playMachine id).run beforePlays (fetchThenPost 30000 ++ postCounted 30000)).map
        (fun state => state.served) =
          some [⟨.recordPlay, listening, 30000, true⟩, ⟨.streamSong, listening, 0, true⟩] := by
      decide +kernel
    obtain ⟨after, ran, served⟩ := Option.map_eq_some_iff.mp seen
    refine ⟨after, ran, ?_⟩
    intro counts
    have split : after.servedFor listening = [] ++ ⟨.recordPlay, listening, 30000, true⟩ ::
        ([] ++ ⟨.streamSong, listening, 0, true⟩ :: []) := by
      unfold PlayState.servedFor
      rw [served]
      rfl
    have once := (counts listening).2 _ _ _ _ _ split rfl (fun _reload member => nomatch member) rfl
      rfl
    cases once
  · have seen : ((playMachine id).run beforePlays twoFetches).map (fun state => state.counted) =
        some [⟨.streamSong, listening, 2⟩, ⟨.streamSong, listening, 2⟩] := by
      decide +kernel
    obtain ⟨after, ran, counted⟩ := Option.map_eq_some_iff.mp seen
    refine ⟨after, ran, ?_⟩
    intro counts
    have windows := (counts listening).1
    unfold PlayState.countedFor at windows
    rw [counted] at windows
    have apart := (List.pairwise_cons.mp windows).1 ⟨.streamSong, listening, 2⟩ (by decide)
    revert apart
    decide

end AudioBlock.Streaming
