/-
Which manifest a stream answers with after a re-upload or a rollback has returned.

Neither operation removes the cached manifest: `clearSong` deletes another key.
-/
import AudioBlock.Streaming.ManifestCache

namespace AudioBlock.Streaming

open AudioBlock.Foundation AudioBlock.Songs AudioBlock.Moderation

def computing : StreamingCall → Option Nat
  | .getObject _ loadedAt => some loadedAt
  | .storeManifest manifest => some manifest.loadedAt
  | _ => none

def SettledAt (state : StreamingState) (songId : String) (savedAt : Nat) : Prop :=
  (∀ manifest ∈ state.cached songId, savedAt ≤ manifest.loadedAt) ∧
    ∀ request ∈ state.requests, request.songId = songId →
      ∀ loadedAt ∈ computing request.next, savedAt ≤ loadedAt

instance (state : StreamingState) (songId : String) (savedAt : Nat) :
    Decidable (SettledAt state songId savedAt) :=
  inferInstanceAs (Decidable (_ ∧ _))

def clearing : StreamingCall → Option Nat
  | .clearVersion savedAt => some savedAt
  | _ => none

/-- Each re-upload and rollback returns where the song's manifests are settled. -/
def ReturnsSettled (state : StreamingState) : StreamingLabel → Prop
  | .step index | .fails index =>
      ∀ request ∈ state.requests[index]?, ∀ savedAt ∈ clearing request.next,
        SettledAt state request.songId savedAt
  | _ => True

instance (state : StreamingState) (label : StreamingLabel) :
    Decidable (ReturnsSettled state label) := by
  unfold ReturnsSettled
  split <;> infer_instance

/-- A stream that began after a re-upload or a rollback had returned answers with a
manifest whose computation loaded the song after that operation had saved it. -/
def FreshAnswers (state : StreamingState) : Prop :=
  ∀ answer ∈ state.answers, ∀ savedAt ∈ answer.since, savedAt ≤ answer.manifest.loadedAt

instance (state : StreamingState) : Decidable (FreshAnswers state) :=
  inferInstanceAs (Decidable (∀ answer ∈ state.answers, _))

structure ManifestInvariant (state : StreamingState) : Prop where
  counted : ∀ request ∈ state.requests, ∀ savedAt ∈ clearing request.next,
    savedAt ≤ state.saveCount request.songId
  returned : ∀ entry ∈ state.returned,
    entry.2 ≤ state.saveCount entry.1 ∧ SettledAt state entry.1 entry.2
  since : ∀ request ∈ state.requests, ∀ savedAt ∈ request.since,
    (request.songId, savedAt) ∈ state.returned
  fresh : FreshAnswers state

/-! ### The keys -/

theorem songKey_ne_manifestKey (songId other : String) : manifestKey other ≠ songKey songId := by
  intro same
  have letters := congrArg String.toList same
  simp [manifestKey, songKey] at letters

theorem manifestKey_injective {songId other : String} (same : manifestKey songId = manifestKey other) :
    songId = other := by
  have letters := congrArg String.toList same
  simp only [manifestKey, String.toList_append] at letters
  exact String.toList_inj.mp (List.append_cancel_left letters)

section Steps

variable {state after : StreamingState} {request : StreamingRequest} {songId : String}
  {manifest : CachedManifest}

theorem clearSong_cached (state : StreamingState) (songId other : String) :
    (state.clearSong songId).cached other = state.cached other :=
  congrArg (Option.map RedisEntry.value)
    (findRow_removeRow_other state.redis (songKey_ne_manifestKey songId other))

theorem del_cached {key : String} (found : manifest ∈ (state.del key).cached songId) :
    manifest ∈ state.cached songId := by
  by_cases own : manifestKey songId = key
  · subst own
    have gone : (state.del (manifestKey songId)).cached songId = none :=
      congrArg (Option.map RedisEntry.value) (findRow_removeRow_own (manifestKey songId) state.redis)
    rw [gone] at found
    cases found
  · have kept : (state.del key).cached songId = state.cached songId :=
      congrArg (Option.map RedisEntry.value) (findRow_removeRow_other state.redis own)
    exact kept ▸ found

theorem setex_cached {other : String} {stored : CachedManifest}
    (found : manifest ∈ (state.setex (manifestKey other) stored).cached songId) :
    songId = other ∧ manifest = stored ∨ manifest ∈ state.cached songId := by
  by_cases own : songId = other
  · subst own
    let entry : RedisEntry := { key := manifestKey songId, value := stored }
    have row : findRow RedisEntry.key (manifestKey songId)
        (storeRow RedisEntry.key entry state.redis) = some entry := findRow_storeRow entry state.redis
    have now : (state.setex (manifestKey songId) stored).cached songId = some stored :=
      congrArg (Option.map RedisEntry.value) row
    rw [now] at found
    cases found
    exact Or.inl ⟨rfl, rfl⟩
  · have kept : (state.setex (manifestKey other) stored).cached songId = state.cached songId :=
      congrArg (Option.map RedisEntry.value)
        (findRow_storeRow_other state.redis fun same => own (manifestKey_injective same))
    exact Or.inr (kept ▸ found)

/-! ### The invariant -/

theorem ManifestInvariant.changed (invariant : ManifestInvariant state)
    (requests : after.requests = state.requests) (returned : after.returned = state.returned)
    (answers : after.answers = state.answers)
    (counts : ∀ songId, state.saveCount songId ≤ after.saveCount songId)
    (cached : ∀ songId, ∀ manifest ∈ after.cached songId, manifest ∈ state.cached songId ∨
      ∃ request ∈ state.requests, request.songId = songId ∧
        computing request.next = some manifest.loadedAt) :
    ManifestInvariant after := by
  constructor
  · intro request member savedAt clears
    exact (invariant.counted request (requests ▸ member) savedAt clears).trans (counts _)
  · intro entry member
    obtain ⟨count, kept, loading⟩ := invariant.returned entry (returned ▸ member)
    refine ⟨count.trans (counts _), ?_, ?_⟩
    · intro manifest found
      rcases cached entry.1 manifest found with before | ⟨request, present, own, computes⟩
      · exact kept manifest before
      · exact loading request present own manifest.loadedAt computes
    · intro request present own loadedAt computes
      exact loading request (requests ▸ present) own loadedAt computes
  · intro request member savedAt known
    exact returned ▸ invariant.since request (requests ▸ member) savedAt known
  · intro answer member
    exact invariant.fresh answer (answers ▸ member)

variable {index : Nat} {next : StreamingCall}

section

variable (invariant : ManifestInvariant state)
include invariant

theorem ManifestInvariant.moved (present : request ∈ state.requests)
    (computes : ∀ loadedAt ∈ computing next, loadedAt ∈ computing request.next ∨
      loadedAt = state.saveCount request.songId)
    (clears : ∀ savedAt ∈ clearing next, savedAt ≤ state.saveCount request.songId) :
    ManifestInvariant (state.moved index request next) := by
  constructor
  · intro other member savedAt clearing
    rcases List.mem_or_eq_of_mem_set member with before | rfl
    · exact invariant.counted other before savedAt clearing
    · exact clears savedAt clearing
  · intro entry member
    obtain ⟨count, kept, loading⟩ := invariant.returned entry member
    refine ⟨count, kept, ?_⟩
    intro other changed own loadedAt computed
    rcases List.mem_or_eq_of_mem_set changed with before | rfl
    · exact loading other before own loadedAt computed
    · rcases computes loadedAt computed with already | now
      · exact loading request present own loadedAt already
      · rw [now, own]
        exact count
  · intro other member savedAt known
    rcases List.mem_or_eq_of_mem_set member with before | rfl
    · exact invariant.since other before savedAt known
    · exact invariant.since request present savedAt known
  · exact invariant.fresh

theorem ManifestInvariant.idles (present : request ∈ state.requests)
    (computes : computing next = none) (clears : clearing next = none) :
    ManifestInvariant (state.moved index request next) := by
  apply invariant.moved present
  · intro loadedAt computed
    rw [computes] at computed
    cases computed
  · intro savedAt cleared
    rw [clears] at cleared
    cases cleared

theorem ManifestInvariant.begin (songId : String) (streams : Bool)
    (computes : computing next = none) (clears : clearing next = none) :
    ManifestInvariant (state.begin songId streams next) := by
  constructor
  · intro request member savedAt clearing
    rcases List.mem_append.mp member with before | new
    · exact invariant.counted request before savedAt clearing
    · cases List.mem_singleton.mp new
      rw [clears] at clearing
      cases clearing
  · intro entry member
    obtain ⟨count, kept, loading⟩ := invariant.returned entry member
    refine ⟨count, kept, ?_⟩
    intro request member own loadedAt computed
    rcases List.mem_append.mp member with before | new
    · exact loading request before own loadedAt computed
    · cases List.mem_singleton.mp new
      rw [computes] at computed
      cases computed
  · intro request member savedAt known
    rcases List.mem_append.mp member with before | new
    · exact invariant.since request before savedAt known
    · cases List.mem_singleton.mp new
      obtain ⟨entry, listed, rfl⟩ := List.mem_map.mp known
      obtain ⟨returned, own⟩ := List.mem_filter.mp listed
      rw [← of_decide_eq_true own]
      exact returned
  · exact invariant.fresh

theorem ManifestInvariant.answer (present : request ∈ state.requests)
    (current : ∀ savedAt, (request.songId, savedAt) ∈ state.returned → savedAt ≤ manifest.loadedAt) :
    ManifestInvariant (state.answer request manifest) := by
  refine ⟨invariant.counted, invariant.returned, invariant.since, ?_⟩
  intro answer member savedAt known
  rcases List.mem_cons.mp member with rfl | before
  · exact current savedAt (invariant.since request present savedAt known)
  · exact invariant.fresh answer before savedAt known

theorem ManifestInvariant.returns {savedAt : Nat} (counted : savedAt ≤ state.saveCount songId)
    (settled : SettledAt state songId savedAt) :
    ManifestInvariant (state.returns songId savedAt) := by
  refine ⟨invariant.counted, ?_, ?_, invariant.fresh⟩
  · intro entry member
    rcases List.mem_cons.mp member with rfl | before
    · exact ⟨counted, settled⟩
    · exact invariant.returned entry before
  · intro request member savedAt known
    exact List.mem_cons_of_mem _ (invariant.since request member savedAt known)

theorem ManifestInvariant.version (present : request ∈ state.requests) (call : VersionCall) :
    ManifestInvariant ((performVersionCall state request.songId call).1.moved index request
      (performVersionCall state request.songId call).2) := by
  have quiet (table : SongState) (answered : VersionCall) :
      ManifestInvariant (({ state with table := table } : StreamingState).moved index request
        (if answered = .ended then .ended else .version answered)) := by
    have changed : ManifestInvariant { state with table := table } :=
      invariant.changed rfl rfl rfl (fun _ => Nat.le_refl _) fun _ _ found => Or.inl found
    split
    · exact changed.idles present rfl rfl
    · exact changed.idles present rfl rfl
  unfold performVersionCall
  split
  · split
    · exact invariant.idles present rfl rfl
    · rename_i song _
      have counts (songId : String) :
          state.saveCount songId ≤ (request.songId :: state.saves).count songId :=
        List.count_le_count_cons
      have saved : ManifestInvariant
          { state.saveSong song with saves := request.songId :: state.saves } :=
        invariant.changed rfl rfl rfl counts fun _ _ found => Or.inl found
      refine saved.moved present (fun _ none => absurd none (Option.not_mem_none _)) ?_
      intro savedAt clears
      cases clears
      exact (List.count_cons_self).ge
  · exact quiet _ _

theorem ManifestInvariant.perform (present : request ∈ state.requests) (signing : ManifestSigning)
    (settled : ∀ savedAt ∈ clearing request.next, SettledAt state request.songId savedAt) :
    ManifestInvariant ((performStreaming signing state request).1.moved index request
      (performStreaming signing state request).2) := by
  have ended {after : StreamingState} (changed : ManifestInvariant after)
      (requests : after.requests = state.requests) :
      ManifestInvariant (after.moved index request .ended) :=
    changed.idles (requests ▸ present) rfl rfl
  unfold performStreaming
  cases call : request.next with
  | findStreamed =>
      dsimp only
      split
      · exact invariant.idles present rfl rfl
      · exact invariant.idles present rfl rfl
  | readCache =>
      dsimp only
      split
      · rename_i manifest found
        have cached : manifest ∈ state.cached request.songId :=
          (Option.filter_eq_some_iff.mp found).1
        refine ended (invariant.answer present ?_) rfl
        intro savedAt returned
        exact (invariant.returned _ returned).2.1 manifest cached
      · exact invariant.idles present rfl rfl
  | findSource =>
      dsimp only
      split
      · exact invariant.idles present rfl rfl
      · refine invariant.moved present ?_ fun _ none => nomatch none
        intro loadedAt loads
        cases loads
        exact Or.inr rfl
  | getObject masterKey loadedAt =>
      dsimp only
      split
      · exact invariant.idles present rfl rfl
      · refine invariant.moved present ?_ fun _ none => nomatch none
        intro computed same
        cases same
        exact Or.inl (call ▸ rfl)
  | storeManifest manifest =>
      have computes : computing request.next = some manifest.loadedAt := call ▸ rfl
      have stored : ManifestInvariant (state.setex (manifestKey request.songId) manifest) := by
        refine invariant.changed rfl rfl rfl (fun _ => Nat.le_refl _) ?_
        intro songId other found
        rcases setex_cached found with ⟨own, same⟩ | before
        · exact Or.inr ⟨request, present, own.symm, same ▸ computes⟩
        · exact Or.inl before
      dsimp only
      split
      · refine ended (stored.answer present ?_) rfl
        intro savedAt returned
        exact (invariant.returned _ returned).2.2 request present rfl _ computes
      · exact ended stored rfl
  | version versionCall => exact invariant.version present versionCall
  | clearVersion savedAt =>
      have clears : savedAt ∈ clearing request.next := call ▸ rfl
      have cleared : ManifestInvariant (state.clearSong request.songId) :=
        invariant.changed rfl rfl rfl (fun _ => Nat.le_refl _) fun songId _ found =>
          Or.inl (clearSong_cached state request.songId songId ▸ found)
      refine ended (cleared.returns (invariant.counted request present savedAt clears) ?_) rfl
      unfold SettledAt
      rw [clearSong_cached]
      exact settled savedAt clears
  | findEdited edit =>
      dsimp only
      split
      · exact invariant.idles present rfl rfl
      · split
        · exact invariant.idles present rfl rfl
        · exact invariant.idles present rfl rfl
  | saveEdited write clears =>
      have written : ManifestInvariant (state.write write) ∧
          (state.write write).requests = state.requests := by
        cases write with
        | save | remove =>
            exact ⟨invariant.changed rfl rfl rfl (fun _ => Nat.le_refl _) fun _ _ found =>
              Or.inl found, rfl⟩
      obtain ⟨kept, requests⟩ := written
      have still : request ∈ (state.write write).requests := requests ▸ present
      dsimp only
      split
      · exact kept.idles still rfl rfl
      · exact ended kept requests
  | clearEdited =>
      exact ended (invariant.changed rfl rfl rfl (fun _ => Nat.le_refl _) fun songId _ found =>
        Or.inl (clearSong_cached state request.songId songId ▸ found)) rfl
  | ended => exact invariant.idles present rfl rfl

theorem streamingStep_invariant {signing : ManifestSigning} {label : StreamingLabel}
    (permitted : ReturnsSettled state label)
    (moved : streamingStep signing state label = some after) : ManifestInvariant after := by
  cases label with
  | streamSong songId | precomputeSignedManifest songId | version songId task | edit songId edit =>
      cases moved
      exact invariant.begin songId _ rfl rfl
  | step index =>
      obtain ⟨request, found, rfl⟩ := Option.map_eq_some_iff.mp moved
      exact invariant.perform (List.mem_of_getElem? found) signing (permitted request found)
  | fails index =>
      obtain ⟨request, found, rfl⟩ := Option.map_eq_some_iff.mp moved
      have present := List.mem_of_getElem? found
      unfold failStreaming
      split
      · rename_i savedAt clears
        have cleared : savedAt ∈ clearing request.next := clears ▸ rfl
        exact (invariant.returns (invariant.counted request present savedAt cleared)
          (permitted request found savedAt cleared)).moved present
            (fun _ none => nomatch none) fun _ none => nomatch none
      · exact invariant.idles present rfl rfl
  | expire key =>
      cases moved
      exact invariant.changed rfl rfl rfl (fun _ => Nat.le_refl _) fun _ _ found =>
        Or.inl (del_cached found)
  | putObject object =>
      cases moved
      exact invariant.changed rfl rfl rfl (fun _ => Nat.le_refl _) fun _ _ found => Or.inl found

end

end Steps

/-- In every run in which each re-upload and rollback returns where no manifest of its
song from before its save is cached or still to be stored, no stream that begins after
one of them has returned answers with a manifest from before it. -/
theorem streamingMachine_answers_fresh {signing : ManifestSigning} {before after : StreamingState}
    {labels : List StreamingLabel} (initially : (streamingMachine signing).initial before)
    (permitted : (streamingMachine signing).Permits ReturnsSettled before labels)
    (ran : (streamingMachine signing).run before labels = some after) : FreshAnswers after := by
  obtain ⟨_, requests, returned, answers⟩ := initially
  have start : ManifestInvariant before := by
    constructor
    · intro request member
      rw [requests] at member
      cases member
    · intro entry member
      rw [returned] at member
      cases member
    · intro request member
      rw [requests] at member
      cases member
    · intro answer member
      rw [answers] at member
      cases member
  exact (Machine.run_preserves ManifestInvariant
    (fun _ _ _ kept allowed moved => streamingStep_invariant kept allowed moved)
    labels start permitted ran).fresh

/-! A ready song is streamed, re-uploaded, and rolled back to what was uploaded first. -/

def plainSigning : ManifestSigning where
  pathname _ := none
  getSignedUrl key := "https://signed/" ++ key

def masterOf (body : String) : StoredObject := { key := "songs/s1/hls/master.m3u8", body := body }

/-- A song that predates versions. -/
def readySong : Song :=
  { Song.uploaded "s1" "artist" "Dawn" with
    status := .ready
    hlsMasterUrl := some "https://media.s3.amazonaws.com/songs/s1/hls/master.m3u8" }

def readyStart : StreamingState :=
  { table := { songs := [readySong], versions := [] }
    objects := [masterOf "#EXTM3U\nfirst.ts"]
    redis := []
    requests := []
    saves := []
    returned := []
    answers := [] }

def steps (index count : Nat) : List StreamingLabel := List.replicate count (.step index)

def noChanges : VersionInput := ⟨none, none, none, none, none, none, none, none, none⟩

/-- A stream caches the manifest, which expires or not; the song is re-uploaded, its new
audio is stored, and a rollback to the first version makes the song ready again. -/
def reuploadAndRollback (expiry : List StreamingLabel) : List StreamingLabel :=
  [.streamSong "s1"] ++ steps 0 5 ++ expiry ++
    [.version "s1" (.reupload "artist" noChanges)] ++ steps 1 10 ++
      [.putObject (masterOf "#EXTM3U\nsecond.ts"),
        .version "s1" (.rollback (some 1) "artist" none)] ++ steps 2 10 ++
          [.streamSong "s1"] ++ steps 3 5

/-- The streams' answers, the last one first: what had returned before, and the text. -/
def answered (expiry : List StreamingLabel) : Option (List (List Nat × String)) :=
  ((streamingMachine plainSigning).run readyStart (reuploadAndRollback expiry)).map fun state =>
    state.answers.map fun answer => (answer.since, answer.manifest.text)

theorem streamingMachine_answers_fresh_expired :
    ∃ after, (streamingMachine plainSigning).run readyStart
        (reuploadAndRollback [.expire "manifest:s1"]) = some after ∧ FreshAnswers after ∧
      after.answers.map (fun answer => (answer.since, answer.manifest.text)) =
        [([2, 1], "#EXTM3U\nhttps://signed/songs/s1/hls/second.ts"),
          ([], "#EXTM3U\nhttps://signed/songs/s1/hls/first.ts")] := by
  have permitted : (streamingMachine plainSigning).Permits ReturnsSettled readyStart
      (reuploadAndRollback [.expire "manifest:s1"]) := by decide +kernel
  have seen : answered [.expire "manifest:s1"] =
      some [([2, 1], "#EXTM3U\nhttps://signed/songs/s1/hls/second.ts"),
        ([], "#EXTM3U\nhttps://signed/songs/s1/hls/first.ts")] := by decide +kernel
  obtain ⟨after, ran, listed⟩ := Option.map_eq_some_iff.mp seen
  exact ⟨after, ran, streamingMachine_answers_fresh ⟨rfl, rfl, rfl, rfl⟩ permitted ran, listed⟩

/-- Without an expiry the second stream answers with the manifest of the first. -/
theorem streamingMachine_answers_stale :
    answered [] =
        some [([2, 1], "#EXTM3U\nhttps://signed/songs/s1/hls/first.ts"),
          ([], "#EXTM3U\nhttps://signed/songs/s1/hls/first.ts")] ∧
      ∃ after, (streamingMachine plainSigning).run readyStart (reuploadAndRollback []) =
        some after ∧ ¬FreshAnswers after := by
  refine ⟨by decide +kernel, ?_⟩
  have stale : ((streamingMachine plainSigning).run readyStart (reuploadAndRollback [])).any
      (fun after => decide (¬FreshAnswers after)) = true := by decide +kernel
  obtain ⟨after, ran, unfresh⟩ := (Option.any_eq_true _ _).mp stale
  exact ⟨after, ran, of_decide_eq_true unfresh⟩

end AudioBlock.Streaming
