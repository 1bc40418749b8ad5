/-
How many versions of a song are active.

Two active versions never meet.  None is active from a demotion to the next
insert: a request that ends in between, or fails there itself, leaves the song
without an active version.
-/
import AudioBlock.Foundation.Weighing
import AudioBlock.Songs.VersionWrites

namespace AudioBlock.Songs

open AudioBlock.Foundation
open scoped List

/-! ### In every run: distinct numbers and at most one active version -/

structure VersionsSound (state : VersionState) : Prop where
  numbered : ∀ songId, Numbered state.table.versions songId
  single : ∀ songId, activeVersions state.table.versions songId ≤ 1
  requests : ∀ request ∈ state.requests, request.next.Sound state.table.versions request.songId

section Steps

variable {before after : VersionState}

theorem running_some {index : Nat} {request : VersionRequest}
    (running : before.running index = some request) :
    before.requests[index]? = some request := (Option.mem_filter_iff.mp running).1

theorem VersionsSound.outcome (sound : VersionsSound before) {label : VersionLabel}
    {outcome : VersionOutcome} (answered : before.outcome label = some outcome) :
    before.requests[outcome.index]? = some outcome.request ∧
      VersionWrite before.table.versions outcome.request.songId outcome.request.next
        outcome.answer.1.versions outcome.answer.2 := by
  cases label with
  | begin songId task => cases answered
  | step index =>
      obtain ⟨request, running, rfl⟩ := Option.map_eq_some_iff.mp answered
      have present := running_some running
      refine ⟨present, performVersion_writes (sound.numbered _) ?_⟩
      exact sound.requests request (List.mem_of_getElem? present)
  | fails index =>
      obtain ⟨request, running, rfl⟩ := Option.map_eq_some_iff.mp answered
      exact ⟨running_some running, .reads _ .ended trivial fun _ => rfl⟩

theorem VersionsSound.moved (sound : VersionsSound before) {index : Nat}
    {request : VersionRequest} {answer : SongState × VersionCall}
    (write : VersionWrite before.table.versions request.songId request.next answer.1.versions
      answer.2) :
    VersionsSound (before.moved index request.songId answer) where
  numbered songId := by
    by_cases own : request.songId = songId
    · subst own
      exact write.numbered (sound.numbered _)
    · change numbersOf answer.1.versions songId ~ List.range' 1 (countVersions answer.1.versions songId)
      rw [numbersOf, countVersions, write.elsewhere own]
      exact sound.numbered songId
  single songId := by
    by_cases own : request.songId = songId
    · subst own
      exact write.single (sound.single _)
    · change activeVersions answer.1.versions songId ≤ 1
      rw [activeVersions, write.elsewhere own]
      exact sound.single songId
  requests := by
    apply forall_mem_set
    · intro other member
      apply (sound.requests other member).mono
      by_cases own : request.songId = other.songId
      · rw [← own]
        exact write.grown
      · right
        change countVersions answer.1.versions other.songId = _ ∧
          activeVersions answer.1.versions other.songId ≤ _
        rw [countVersions, activeVersions, write.elsewhere own]
        exact ⟨rfl, Nat.le_refl _⟩
    · exact write.nextSound

theorem versionStep_sound {label : VersionLabel} (sound : VersionsSound before)
    (moved : versionStep before label = some after) : VersionsSound after := by
  cases label with
  | begin songId task =>
      cases moved
      refine ⟨sound.numbered, sound.single, ?_⟩
      intro request member
      rcases List.mem_append.mp member with old | new
      · exact sound.requests request old
      · cases List.mem_singleton.mp new
        trivial
  | step index | fails index =>
      obtain ⟨outcome, answered, rfl⟩ := Option.map_eq_some_iff.mp moved
      exact sound.moved (sound.outcome answered).2

end Steps

theorem versionMachine_sound {allowed : VersionState → VersionLabel → Prop} {state : VersionState}
    (reached : versionMachine.Reachable allowed state) : VersionsSound state := by
  apply reached.invariant VersionsSound
  · rintro first ⟨requests, settled, rows⟩
    refine ⟨fun songId => (rows songId).1, ?_, ?_⟩
    · intro songId
      by_cases empty : versionsOf first.table.versions songId = []
      · unfold activeVersions
        rw [empty]
        exact Nat.zero_le 1
      · exact Nat.le_of_eq ((rows songId).2 empty)
    · rw [requests]
      exact fun _ member => (nomatch member)
  · exact fun before label after sound _ moved => versionStep_sound sound moved

/-! ### The condition -/

def VersionRequest.Exposed (versions : List SongVersion) (request : VersionRequest) : Prop :=
  match request.next with
  | .insert _ _ demoted => demoted = countVersions versions request.songId
  | _ => False

instance (versions : List SongVersion) :
    (request : VersionRequest) → Decidable (request.Exposed versions)
  | ⟨songId, .insert _ _ demoted⟩ =>
      inferInstanceAs (Decidable (demoted = countVersions versions songId))
  | ⟨_, .findSong _⟩ | ⟨_, .count _ _ _⟩ | ⟨_, .recount _ _ _⟩ | ⟨_, .createInitial _ _ _⟩
  | ⟨_, .assertSongExists _ _ _ _⟩ | ⟨_, .findTarget _ _ _ _⟩ | ⟨_, .readLatest _⟩
  | ⟨_, .demote _ _⟩ | ⟨_, .saveSong _ _⟩ | ⟨_, .ended⟩ => instDecidableFalse

/-- A request ends only once its song has a version, and not between a demotion, its
own or another's, and the next insert. -/
def EndsServed (state : VersionState) (label : VersionLabel) : Prop :=
  ∀ outcome ∈ state.outcome label, outcome.answer.2 = .ended →
    versionsOf state.table.versions outcome.request.songId ≠ [] ∧
      ∀ other ∈ state.requests, other.songId = outcome.request.songId →
        ¬other.Exposed state.table.versions

instance (state : VersionState) (label : VersionLabel) : Decidable (EndsServed state label) :=
  inferInstanceAs (Decidable (∀ outcome ∈ state.outcome label, _))

structure Served (state : VersionState) : Prop where
  active : ∀ songId, versionsOf state.table.versions songId ≠ [] →
    activeVersions state.table.versions songId = 1 ∨
      ∃ request ∈ state.requests, request.songId = songId ∧ request.Exposed state.table.versions
  settled : ∀ songId ∈ state.settled, activeVersions state.table.versions songId = 1

section Served

variable {before : VersionState}

variable {request : VersionRequest} {index : Nat} {answer : SongState × VersionCall}

theorem VersionRequest.Exposed.isInsert {versions : List SongVersion}
    (exposed : request.Exposed versions) : request.next.isInsert = true := by
  unfold VersionRequest.Exposed at exposed
  split at exposed
  · rename_i same
    rw [same]
    rfl
  · cases exposed

theorem VersionRequest.Exposed.congr {versions later : List SongVersion}
    (exposed : request.Exposed versions)
    (same : countVersions later request.songId = countVersions versions request.songId) :
    request.Exposed later := by
  unfold VersionRequest.Exposed at exposed ⊢
  split at exposed
  · rw [exposed, same]
  · cases exposed

theorem Served.elsewhere (served : Served before)
    (present : before.requests[index]? = some request)
    (write : VersionWrite before.table.versions request.songId request.next answer.1.versions
      answer.2) {songId : String} (different : request.songId ≠ songId)
    (some : versionsOf answer.1.versions songId ≠ []) :
    activeVersions answer.1.versions songId = 1 ∨
      ∃ other ∈ (before.moved index request.songId answer).requests, other.songId = songId ∧
        other.Exposed answer.1.versions := by
  have same := write.elsewhere different
  rw [same] at some
  rcases served.active songId some with active | ⟨other, member, named, exposed⟩
  · left
    rw [activeVersions, same]
    exact active
  · right
    have foreign : other ≠ request := by
      rintro rfl
      exact different named
    refine ⟨other, mem_set_of_ne _ present member foreign, named, exposed.congr ?_⟩
    rw [countVersions, named, same]
    rfl

theorem Served.ends (served : Served before)
    (write : VersionWrite before.table.versions request.songId request.next answer.1.versions
      answer.2) (ended : answer.2 = .ended)
    (some : versionsOf before.table.versions request.songId ≠ [])
    (unexposed : ∀ other ∈ before.requests, other.songId = request.songId →
      ¬other.Exposed before.table.versions) :
    activeVersions answer.1.versions request.songId = 1 := by
  have active : activeVersions before.table.versions request.songId = 1 := by
    rcases served.active _ some with active | ⟨other, member, named, exposed⟩
    · exact active
    · exact absurd exposed (unexposed other member named)
  obtain ⟨table, next⟩ := answer
  obtain ⟨songs, versions⟩ := table
  obtain ⟨songId, call⟩ := request
  dsimp only at write ended active ⊢
  cases write with
  | reads => exact active
  | demotes => cases ended
  | inserts _ _ version own isActive unserved => rw [activeVersions_insert own isActive, unserved]

theorem Served.own (served : Served before) (present : before.requests[index]? = some request)
    (write : VersionWrite before.table.versions request.songId request.next answer.1.versions
      answer.2)
    (permitted : answer.2 = .ended →
      ∀ other ∈ before.requests, other.songId = request.songId →
        ¬other.Exposed before.table.versions)
    (some : versionsOf answer.1.versions request.songId ≠ []) :
    activeVersions answer.1.versions request.songId = 1 ∨
      ∃ other ∈ (before.moved index request.songId answer).requests,
        other.songId = request.songId ∧ other.Exposed answer.1.versions := by
  obtain ⟨table, next⟩ := answer
  obtain ⟨songs, versions⟩ := table
  obtain ⟨songId, call⟩ := request
  dsimp only at write permitted some ⊢
  cases write with
  | reads _ _ sound refused =>
      rcases served.active songId some with active | ⟨other, member, named, exposed⟩
      · exact Or.inl active
      · right
        have moves : other ≠ ⟨songId, call⟩ := by
          rintro rfl
          exact permitted (refused exposed.isInsert) _ member rfl exposed
        exact ⟨other, mem_set_of_ne _ present member moves, named, exposed⟩
  | demotes plan nextNumber =>
      right
      exact ⟨_, mem_set_new _ present, rfl, countVersions_demote.symm⟩
  | inserts _ _ version own active unserved =>
      left
      rw [activeVersions_insert own active, unserved]

theorem Served.moved (served : Served before) (present : before.requests[index]? = some request)
    (write : VersionWrite before.table.versions request.songId request.next answer.1.versions
      answer.2)
    (permitted : answer.2 = .ended →
      versionsOf before.table.versions request.songId ≠ [] ∧
        ∀ other ∈ before.requests, other.songId = request.songId →
          ¬other.Exposed before.table.versions) :
    Served (before.moved index request.songId answer) where
  active songId some := by
    by_cases own : request.songId = songId
    · subst own
      exact served.own present write (fun ends => (permitted ends).2) some
    · exact served.elsewhere present write own some
  settled songId ended := by
    obtain ⟨finished, same⟩ := Option.ite_none_right_eq_some.mp ended
    cases same
    obtain ⟨some, unexposed⟩ := permitted finished
    exact served.ends write finished some unexposed

theorem versionStep_served {after : VersionState} {label : VersionLabel}
    (sound : VersionsSound before) (served : Served before) (permitted : EndsServed before label)
    (moved : versionStep before label = some after) : Served after := by
  cases label with
  | begin songId task =>
      cases moved
      refine ⟨?_, fun _ ended => (nomatch ended)⟩
      intro other some
      rcases served.active other some with active | ⟨request, member, exposed⟩
      · exact Or.inl active
      · exact Or.inr ⟨request, List.mem_append_left _ member, exposed⟩
  | step index | fails index =>
      obtain ⟨outcome, answered, rfl⟩ := Option.map_eq_some_iff.mp moved
      obtain ⟨present, write⟩ := sound.outcome answered
      exact served.moved present write (permitted outcome answered)

end Served

/-- In every run whose requests end as the condition asks, each request that has
just ended, completed or failed, leaves its song with exactly one active version.
The numbers are distinct and contiguous from 1 throughout. -/
theorem versionMachine_one_active {state : VersionState}
    (reached : versionMachine.Reachable EndsServed state) {songId : String}
    (settled : state.settled = some songId) :
    activeVersions state.table.versions songId = 1 ∧ Numbered state.table.versions songId := by
  refine ⟨?_, (versionMachine_sound reached).numbered songId⟩
  have served : Served state := by
    apply reached.invariant_given VersionsSound Served (fun _ => versionMachine_sound)
    · rintro first ⟨requests, none, rows⟩
      refine ⟨fun songId some => Or.inl ((rows songId).2 some), ?_⟩
      rw [none]
      exact fun _ ended => (nomatch ended)
    · exact fun before label after sound served permitted moved =>
        versionStep_served sound served permitted moved
  exact served.settled songId settled

/-! A song with its first version. -/

def firstUpload : Song := Song.uploaded "s1" "artist" "First light"

def firstVersionState : VersionState :=
  { table := { songs := [firstUpload], versions := [initialVersion firstUpload "artist"] }
    requests := []
    settled := none }

def plainReupload : VersionInput :=
  { title := none
    description := none
    genre := none
    composers := none
    coverArtPath := none
    s3OriginalUrl := some "s3://bucket/second.mp3"
    ipfsCid := none
    changeNote := none
    createdBy := none }

def beginReupload : VersionLabel := .begin "s1" (.reupload "artist" plainReupload)

theorem firstVersionState_initial : versionMachine.initial firstVersionState := by
  refine ⟨rfl, rfl, ?_⟩
  intro songId
  by_cases same : "s1" = songId
  · subst same
    exact ⟨List.Perm.refl [1], fun _ => rfl⟩
  · have none : versionsOf firstVersionState.table.versions songId = [] :=
      List.filter_eq_nil_iff.mpr fun version member => by
        cases List.mem_singleton.mp member
        exact fun named => same (of_decide_eq_true named)
    refine ⟨?_, fun some => absurd none some⟩
    unfold Numbered numbersOf countVersions
    rw [none]
    exact List.Perm.refl []

/-- Two re-uploads read the same number, so the index rejects the second insert. -/
def rivalReuploads : List VersionLabel :=
  [beginReupload, beginReupload, .step 0, .step 1, .step 0, .step 1, .step 0, .step 1, .step 0,
    .step 1, .step 0, .step 1]

theorem versionMachine_one_active_rivals :
    ∃ state, versionMachine.run firstVersionState rivalReuploads = some state ∧
      activeVersions state.table.versions "s1" = 1 ∧ Numbered state.table.versions "s1" := by
  have executed : ∃ state, versionMachine.run firstVersionState rivalReuploads = some state ∧
      state.settled = some "s1" := ⟨_, rfl, rfl⟩
  obtain ⟨state, ran, settled⟩ := executed
  exact ⟨state, ran, versionMachine_one_active
    (.of_run rivalReuploads (.start firstVersionState_initial) (by decide) ran) settled⟩

/-- A re-upload fails after its demotion, and one ends while another stands there. -/
theorem versionMachine_none_active :
    (∃ state, versionMachine.run firstVersionState
        [beginReupload, .step 0, .step 0, .step 0, .step 0, .fails 0] = some state ∧
      state.settled = some "s1" ∧ activeVersions state.table.versions "s1" = 0) ∧
    ∃ state, versionMachine.run firstVersionState
        [beginReupload, beginReupload, .step 0, .step 0, .step 0, .step 0, .fails 1] =
          some state ∧
      state.settled = some "s1" ∧ activeVersions state.table.versions "s1" = 0 :=
  ⟨⟨_, rfl, rfl, rfl⟩, ⟨_, rfl, rfl, rfl⟩⟩

/-- Whichever requests interleave and fail, a song never has two active versions, and the numbers
stay distinct and contiguous from 1. -/
theorem versionMachine_never_two {allowed : VersionState → VersionLabel → Prop}
    {state : VersionState} (reached : versionMachine.Reachable allowed state) (songId : String) :
    activeVersions state.table.versions songId ≤ 1 ∧ Numbered state.table.versions songId :=
  ⟨(versionMachine_sound reached).single songId, (versionMachine_sound reached).numbered songId⟩

theorem versionMachine_never_two_failed : ∃ state, versionMachine.run firstVersionState
    [beginReupload, .step 0, .step 0, .step 0, .step 0, .fails 0] = some state ∧
      activeVersions state.table.versions "s1" ≤ 1 ∧ Numbered state.table.versions "s1" :=
  ⟨_, rfl, versionMachine_never_two (.of_run
    [beginReupload, .step 0, .step 0, .step 0, .step 0, .fails 0] (.start firstVersionState_initial)
    (Machine.permits_always _ _ _) rfl) "s1"⟩

end AudioBlock.Songs
