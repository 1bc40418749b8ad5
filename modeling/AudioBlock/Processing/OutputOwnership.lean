/-
Whose audio the outputs of a version, and those that its song serves, are computed from.

The outputs of a version are ones that the processing of its own original gives, and a song that
is ready serves outputs of its active version, until the request that stored the version has
saved the song.  A completion keeps this exactly if what it assigns fits the version that was
active when it looked, and the song serves that version's audio when it saves.
-/
import AudioBlock.Foundation.CallTable
import AudioBlock.Foundation.Weighing
import AudioBlock.Processing.CompletionCalls

namespace AudioBlock.Processing

open AudioBlock.Foundation AudioBlock.Songs

/-! ### The law -/

/-- The processing of the original can give these outputs; none are there while it runs. -/
def OutputsOf (made : Processing) (original : Option String) (status : SongStatus)
    (hlsMasterUrl : Option String) (duration : Option Int) : Prop :=
  (status = .processing ∨ ∃ file ∈ original, made.status file status = true) ∧
    (∀ url ∈ hlsMasterUrl, ∃ file ∈ original, made.manifest file url = true) ∧
      ∀ seconds ∈ duration, ∃ file ∈ original, made.duration file seconds = true

instance (made : Processing) (original : Option String) (status : SongStatus)
    (hlsMasterUrl : Option String) (duration : Option Int) :
    Decidable (OutputsOf made original status hlsMasterUrl duration) :=
  inferInstanceAs (Decidable (_ ∧ (∀ url ∈ hlsMasterUrl, _) ∧ ∀ seconds ∈ duration, _))

def OwnOutputs (made : Processing) (version : SongVersion) : Prop :=
  OutputsOf made version.s3OriginalUrl version.status version.hlsMasterUrl version.duration

instance (made : Processing) (version : SongVersion) : Decidable (OwnOutputs made version) :=
  inferInstanceAs (Decidable (OutputsOf made _ _ _ _))

def saves (request : VersionRequest) : Option String :=
  match request.next with
  | .saveSong _ _ => some request.songId
  | _ => none

def savingSongs (requests : List VersionRequest) : List String := requests.filterMap saves

def ServesOutputsOf (made : Processing) (requests : List VersionRequest) (song : Song)
    (version : SongVersion) : Prop :=
  version.songId = song.id → version.isActive = true → song.status = .ready →
    OutputsOf made version.s3OriginalUrl song.status song.hlsMasterUrl song.duration ∨
      song.id ∈ savingSongs requests

instance (made : Processing) (requests : List VersionRequest) (song : Song)
    (version : SongVersion) : Decidable (ServesOutputsOf made requests song version) :=
  inferInstanceAs (Decidable (_ → _ → _ → _ ∨ _))

structure OutputsKept (made : Processing) (state : CompletionState) : Prop where
  stored : ∀ version ∈ state.table.versions, OwnOutputs made version
  served : ∀ song ∈ state.table.songs, ∀ version ∈ state.table.versions,
    ServesOutputsOf made state.requests song version

def OutputsLawful (media : MediaStore) (made : Processing) (state : CompletionState)
    (label : CompletionLabel) : Prop :=
  ∀ after, completionStep media made state label = some after → OutputsKept made after

/-- Nothing is under way. -/
structure OutputsAtRest (made : Processing) (state : CompletionState) : Prop where
  requests : state.requests = []
  runs : state.runs = []
  completions : state.completions = []
  kept : OutputsKept made state

def completionMachine (media : MediaStore) (made : Processing) :
    Machine CompletionState CompletionLabel where
  initial := OutputsAtRest made
  step := completionStep media made

/-! ### The condition -/

def MaySave (made : Processing) (state : CompletionState) (others : List VersionRequest)
    (songId : String) (saved : Option Song) : Prop :=
  ∀ song ∈ state.table.songs, song.id = songId → ∀ version ∈ state.table.versions,
    ServesOutputsOf made others (saved.getD song) version

instance (made : Processing) (state : CompletionState) (others : List VersionRequest)
    (songId : String) (saved : Option Song) :
    Decidable (MaySave made state others songId saved) :=
  inferInstanceAs (Decidable (∀ song ∈ state.table.songs, _))

def RequestGuarded (made : Processing) (state : CompletionState) (others : List VersionRequest)
    (request : VersionRequest) : Prop :=
  match request.next with
  | .createInitial song _ _ =>
      findVersion state.table.versions song.id 1 = none →
        OwnOutputs made (initialVersion song song.artistId) ∧
          ∀ row ∈ state.table.songs,
            ServesOutputsOf made others row (initialVersion song song.artistId)
  | .saveSong plan version => MaySave made state others request.songId (plan.pointed version)
  | _ => True

instance (made : Processing) (state : CompletionState) (others : List VersionRequest) :
    DecidablePred (RequestGuarded made state others) := fun request => by
  unfold RequestGuarded
  cases request.next <;> infer_instance

def FailureGuarded (made : Processing) (state : CompletionState) (others : List VersionRequest)
    (request : VersionRequest) : Prop :=
  match request.next with
  | .saveSong _ _ => MaySave made state others request.songId none
  | _ => True

instance (made : Processing) (state : CompletionState) (others : List VersionRequest) :
    DecidablePred (FailureGuarded made state others) := fun request => by
  unfold FailureGuarded
  cases request.next <;> infer_instance

def RunGuarded (made : Processing) (state : CompletionState) (answer : WorkerAnswer) :
    WorkerCall → Prop
  | .saveLoudness copy | .saveWaveform copy =>
      match answer with
      | .done => ∀ version ∈ state.table.versions, ServesOutputsOf made state.requests copy version
      | _ => True
  | _ => True

instance (made : Processing) (state : CompletionState) (answer : WorkerAnswer) :
    DecidablePred (RunGuarded made state answer)
  | .saveLoudness _ | .saveWaveform _ =>
      match answer with
      | .done => inferInstanceAs (Decidable (∀ version ∈ state.table.versions, _))
      | .threw | .measured _ | .pinned _ => isTrue trivial
  | .findSong | .analyzeLoudness _ | .generateWaveformPeaks _ | .transcodeToHLS
  | .uploadHLSToS3 _ | .downloadCover | .pinCover | .pinMetadata | .logEntry _ | .ended =>
      isTrue trivial

def CompletionGuarded (made : Processing) (state : CompletionState) : CompletionCall → Prop
  | .saveActive loaded update =>
      OutputsOf made loaded.s3OriginalUrl (update.status.getD .processing) update.hlsMasterUrl
          update.duration ∧
        ∀ song ∈ state.table.songs, ServesOutputsOf made state.requests song loaded
  | _ => True

instance (made : Processing) (state : CompletionState) :
    DecidablePred (CompletionGuarded made state) := fun call => by
  unfold CompletionGuarded
  cases call <;> infer_instance

def OutputsGuarded (made : Processing) (state : CompletionState) : CompletionLabel → Prop
  | .request index =>
      ∀ request ∈ state.requests[index]?,
        RequestGuarded made state (state.requests.eraseIdx index) request
  | .requestFails index =>
      ∀ request ∈ state.requests[index]?,
        FailureGuarded made state (state.requests.eraseIdx index) request
  | .work index answer => ∀ run ∈ state.runs[index]?, RunGuarded made state answer run.next
  | .completion index => ∀ call ∈ state.completions[index]?, CompletionGuarded made state call
  | .beginRequest _ _ | .beginRun _ | .beginCompletion _ _ _ | .completionFails _ => True

instance (made : Processing) (state : CompletionState) :
    DecidablePred (OutputsGuarded made state)
  | .request index => inferInstanceAs (Decidable (∀ request ∈ state.requests[index]?, _))
  | .requestFails index => inferInstanceAs (Decidable (∀ request ∈ state.requests[index]?, _))
  | .work index _ => inferInstanceAs (Decidable (∀ run ∈ state.runs[index]?, _))
  | .completion index => inferInstanceAs (Decidable (∀ call ∈ state.completions[index]?, _))
  | .beginRequest _ _ | .beginRun _ | .beginCompletion _ _ _ | .completionFails _ => isTrue trivial

/-! ### What the calls carry -/

def PlanSound (made : Processing) (songId : String) : VersionPlan → Prop
  | .reupload song _ _ => song.id = songId
  | .rollback song target _ _ => song.id = songId ∧ OwnOutputs made target

def RequestSound (made : Processing) (request : VersionRequest) : Prop :=
  match request.next with
  | .count song _ _ | .recount song _ _ | .createInitial song _ _ | .assertSongExists song _ _ _
  | .findTarget song _ _ _ => song.id = request.songId
  | .readLatest plan | .demote plan _ | .insert plan _ _ | .saveSong plan _ =>
      PlanSound made request.songId plan
  | .findSong _ | .ended => True

def CompletionSound (made : Processing) : CompletionCall → Prop
  | .saveActive loaded _ => OwnOutputs made loaded
  | _ => True

structure OutputsConsistent (made : Processing) (state : CompletionState) : Prop where
  kept : OutputsKept made state
  requests : ∀ request ∈ state.requests, RequestSound made request
  completions : ∀ call ∈ state.completions, CompletionSound made call

section Carried

variable {made : Processing} {version : SongVersion}

theorem assign_own_iff (own : OwnOutputs made version) (update : VersionUpdate) :
    OwnOutputs made (update.assign version) ↔
      OutputsOf made version.s3OriginalUrl (update.status.getD .processing) update.hlsMasterUrl
        update.duration := by
  obtain ⟨ownStatus, ownManifest, ownDuration⟩ := own
  apply and_congr
  · cases given : update.status with
    | none =>
        have same : (update.assign version).status = version.status := by
          change update.status.getD _ = _
          rw [given]
          rfl
        rw [same]
        exact iff_of_true ownStatus (Or.inl rfl)
    | some status =>
        have same : (update.assign version).status = status := by
          change update.status.getD _ = _
          rw [given]
          rfl
        rw [same]
        exact Iff.rfl
  · apply and_congr
    · change (∀ url ∈ update.hlsMasterUrl.or version.hlsMasterUrl, _) ↔ _
      cases update.hlsMasterUrl with
      | none => exact iff_of_true ownManifest fun url member => absurd member (Option.not_mem_none url)
      | some given => exact Iff.rfl
    · change (∀ seconds ∈ update.duration.or version.duration, _) ↔ _
      cases update.duration with
      | none => exact iff_of_true ownDuration fun seconds member => absurd member (Option.not_mem_none seconds)
      | some given => exact Iff.rfl

theorem plan_own {songId : String} {plan : VersionPlan} (sound : PlanSound made songId plan)
    (nextNumber : Nat) : OwnOutputs made (plan.version songId nextNumber) := by
  cases plan with
  | reupload song artistId input =>
      refine ⟨Or.inl rfl, ?_, ?_⟩
      · exact fun url member => absurd member (Option.not_mem_none url)
      · exact fun seconds member => absurd member (Option.not_mem_none seconds)
  | rollback song target artistId changeNote => exact sound.2

theorem plan_version_song (plan : VersionPlan) (songId : String) (nextNumber : Nat) :
    (plan.version songId nextNumber).songId = songId := by
  cases plan with
  | reupload => rfl
  | rollback => rfl

theorem plan_pointed_id {songId : String} {plan : VersionPlan} (sound : PlanSound made songId plan)
    {stored : SongVersion} {saved : Song} (pointed : plan.pointed stored = some saved) :
    saved.id = songId := by
  cases plan with
  | reupload song artistId input =>
      cases pointed
      exact sound
  | rollback song target artistId changeNote =>
      obtain ⟨_, _, same⟩ := Option.map_eq_some_iff.mp pointed
      subst same
      exact sound.1

theorem demoted_own {versions : List SongVersion} {songId : String}
    (own : ∀ version ∈ versions, OwnOutputs made version) :
    ∀ version ∈ demoteVersions versions songId, OwnOutputs made version := by
  intro version member
  obtain ⟨before, present, same⟩ := List.mem_map.mp member
  split at same
  · subst same
    exact own before present
  · subst same
    exact own before present

end Carried

/-! ### One call of a request -/

section Requests

variable {made : Processing} {state : CompletionState} {index : Nat}
  {request next : VersionRequest}

theorem ServesOutputsOf.mono {requests more : List VersionRequest} {song : Song}
    {version : SongVersion} (serves : ServesOutputsOf made requests song version)
    (saved : ∀ id ∈ savingSongs requests, id ∈ savingSongs more) :
    ServesOutputsOf made more song version :=
  fun ofSong active ready => (serves ofSong active ready).imp_right (saved song.id)

theorem OutputsKept.requests (kept : OutputsKept made state) {requests : List VersionRequest}
    (saved : ∀ id ∈ savingSongs state.requests, id ∈ savingSongs requests) :
    OutputsKept made { state with requests := requests } :=
  ⟨kept.stored, fun song member version stored => (kept.served song member version stored).mono saved⟩

theorem saving_kept (present : state.requests[index]? = some request) (next : VersionRequest)
    (silent : saves request = none) :
    ∀ id ∈ savingSongs state.requests, id ∈ savingSongs (state.requests.set index next) := by
  intro id marked
  have other : saves request ≠ some id := fun own => nomatch silent.symm.trans own
  exact marked_kept saves present next other marked

theorem OutputsKept.fewer (kept : OutputsKept made state) {versions : List SongVersion}
    (own : ∀ version ∈ versions, OwnOutputs made version)
    (active : ∀ version ∈ versions, version.isActive = true → version ∈ state.table.versions) :
    OutputsKept made { state with table := { state.table with versions := versions } } :=
  ⟨own, fun song member version stored ofSong isActive =>
    kept.served song member version (active version stored isActive) ofSong isActive⟩

theorem appended_kept_iff (kept : OutputsKept made state) {requests : List VersionRequest}
    (saved : ∀ id ∈ savingSongs state.requests, id ∈ savingSongs requests)
    (added : SongVersion) :
    OutputsKept made
        { state with
          table := { state.table with versions := state.table.versions ++ [added] }
          requests := requests } ↔
      OwnOutputs made added ∧
        ∀ song ∈ state.table.songs, ServesOutputsOf made requests song added := by
  have last : added ∈ state.table.versions ++ [added] :=
    List.mem_append_right _ (List.mem_singleton_self added)
  constructor
  · intro after
    exact ⟨after.stored added last, fun song member => after.served song member added last⟩
  · intro both
    refine ⟨?_, ?_⟩
    · intro version member
      cases List.mem_append.mp member with
      | inl earlier => exact kept.stored version earlier
      | inr new => exact List.mem_singleton.mp new ▸ both.1
    · intro song present version member
      cases List.mem_append.mp member with
      | inl earlier => exact (kept.served song present version earlier).mono saved
      | inr new => exact List.mem_singleton.mp new ▸ both.2 song present

theorem savingSongs_placed (present : state.requests[index]? = some request)
    (silent : saves next = none) {id : String} :
    id ∈ savingSongs (state.requests.set index next) ↔
      id ∈ savingSongs (state.requests.eraseIdx index) := by
  refine Iff.trans (marked_placed saves present next) (or_iff_right ?_)
  exact fun own => nomatch silent.symm.trans own

theorem serves_placed_iff (present : state.requests[index]? = some request)
    (silent : saves next = none) {song : Song} {version : SongVersion} :
    ServesOutputsOf made (state.requests.set index next) song version ↔
      ServesOutputsOf made (state.requests.eraseIdx index) song version := by
  constructor
  · exact fun serves => serves.mono fun id => (savingSongs_placed present silent).mp
  · exact fun serves => serves.mono fun id => (savingSongs_placed present silent).mpr

theorem ended_kept_iff (kept : OutputsKept made state)
    (present : state.requests[index]? = some request) {songId : String}
    (saving : saves request = some songId) (silent : saves next = none) (saved : Option Song)
    (named : ∀ song ∈ saved, song.id = songId) :
    OutputsKept made
        { state with
          table := (saved.map state.table.saveSong).getD state.table
          requests := state.requests.set index next } ↔
      MaySave made state (state.requests.eraseIdx index) songId saved := by
  have others : ∀ id, id ≠ songId → id ∈ savingSongs state.requests →
      id ∈ savingSongs (state.requests.set index next) := by
    intro id different marked
    have notOwn : saves request ≠ some id := by
      rw [saving]
      exact fun own => different (Option.some_inj.mp own).symm
    exact marked_kept saves present next notOwn marked
  have versions : ((saved.map state.table.saveSong).getD state.table).versions =
      state.table.versions := by
    cases saved with
    | none => rfl
    | some song => rfl
  have rows : ∀ later, later ∈ ((saved.map state.table.saveSong).getD state.table).songs ↔
      ∃ song ∈ state.table.songs,
        later = if song.id = songId then saved.getD song else song := by
    intro later
    cases saved with
    | none => simp
    | some copy =>
        have copyId := named copy rfl
        change later ∈ saveRow Song.id copy state.table.songs ↔ _
        unfold saveRow
        rw [List.mem_map, copyId]
        simp only [Option.getD_some, eq_comm]
  have rowId : ∀ song : Song, song.id = songId → (saved.getD song).id = songId := by
    intro song own
    cases saved with
    | none => exact own
    | some copy => exact named copy rfl
  constructor
  · intro after song member own version stored ofSong active ready
    have listed := (rows (saved.getD song)).mpr ⟨song, member, (if_pos own).symm⟩
    have served := after.served _ listed version (versions ▸ stored) ofSong active ready
    exact served.imp_right (savingSongs_placed present silent).mp
  · intro guarded
    refine ⟨?_, ?_⟩
    · intro version stored
      exact kept.stored version (versions ▸ stored)
    · intro later member version stored ofSong active ready
      change version ∈ ((saved.map state.table.saveSong).getD state.table).versions at stored
      rw [versions] at stored
      obtain ⟨song, present', same⟩ := (rows later).mp member
      by_cases own : song.id = songId
      · rw [if_pos own] at same
        subst same
        have served := guarded song present' own version stored ofSong active ready
        exact served.imp_right (savingSongs_placed present silent).mpr
      · rw [if_neg own] at same
        subst same
        exact (kept.served later present' version stored ofSong active ready).imp_right
          (others later.id own)

def CompletionState.replied (state : CompletionState) (index : Nat)
    (answer : SongState × VersionRequest) : CompletionState :=
  { state with table := answer.1, requests := state.requests.set index answer.2 }

section

variable (consistent : OutputsConsistent made state)
  (present : state.requests[index]? = some request)
include consistent present

theorem perform_request_iff :
    (∀ answer ∈ performRequest state.table request, OutputsKept made (state.replied index answer)) ↔
      RequestGuarded made state (state.requests.eraseIdx index) request := by
  have kept := consistent.kept
  have sound := consistent.requests request (List.mem_of_getElem? present)
  obtain ⟨songId, call⟩ := request
  have reads : ∀ next, saves ⟨songId, call⟩ = none →
      OutputsKept made (state.replied index (state.table, next)) :=
    fun next silent => kept.requests (saving_kept present next silent)
  cases call with
  | ended => exact iff_of_true (fun answer none => nomatch none) trivial
  | findSong | count | recount | assertSongExists | findTarget | readLatest =>
      refine Iff.trans (only_answer _) (iff_of_true ?_ trivial)
      exact reads _ rfl
  | createInitial song artistId input =>
      have named : song.id = songId := sound
      refine Iff.trans (only_answer _) ?_
      unfold RequestGuarded performVersion insertVersion
      dsimp only
      by_cases free : findVersion state.table.versions song.id 1 = none
      · have inserts : (if findVersion state.table.versions
              (initialVersion song song.artistId).songId
              (initialVersion song song.artistId).versionNumber = none then
            some (state.table.versions ++ [initialVersion song song.artistId]) else none) =
          some (state.table.versions ++ [initialVersion song song.artistId]) := if_pos free
        rw [inserts]
        refine Iff.trans (appended_kept_iff kept (saving_kept present _ rfl) _) ?_
        refine Iff.trans (and_congr_right' ?_) ⟨fun both _ => both, fun guarded => guarded free⟩
        exact forall₂_congr fun row _ => serves_placed_iff present rfl
      · have rejected : (if findVersion state.table.versions
              (initialVersion song song.artistId).songId
              (initialVersion song song.artistId).versionNumber = none then
            some (state.table.versions ++ [initialVersion song song.artistId]) else none) = none :=
          if_neg free
        rw [rejected]
        exact iff_of_true (reads _ rfl) fun none => absurd none free
  | demote plan nextNumber =>
      refine Iff.trans (only_answer _) (iff_of_true ?_ trivial)
      have demoted := kept.fewer (demoted_own kept.stored)
        fun version member active => (@mem_demoteVersions _ songId version member active).1
      exact demoted.requests (saving_kept present _ rfl)
  | insert plan nextNumber demoted =>
      refine Iff.trans (only_answer _) (iff_of_true ?_ trivial)
      unfold performVersion insertVersion
      dsimp only
      split
      · exact reads _ rfl
      · rename_i inserted
        obtain ⟨_, same⟩ := Option.ite_none_right_eq_some.mp inserted
        cases same
        refine Iff.mpr (appended_kept_iff kept (saving_kept present _ rfl) _) ?_
        refine ⟨plan_own sound nextNumber, ?_⟩
        intro song _ ofSong _ _
        refine Or.inr ((marked_placed saves present _).mpr (Or.inl ?_))
        exact congrArg some ((plan_version_song plan songId nextNumber).symm.trans ofSong)
  | saveSong plan version =>
      refine Iff.trans (only_answer _) ?_
      refine ended_kept_iff kept present rfl rfl (plan.pointed version) ?_
      exact fun song pointed => plan_pointed_id sound pointed

theorem fail_request_iff :
    (∀ answer ∈ failRequest state.table request, OutputsKept made (state.replied index answer)) ↔
      FailureGuarded made state (state.requests.eraseIdx index) request := by
  have kept := consistent.kept
  obtain ⟨songId, call⟩ := request
  cases call with
  | ended => exact iff_of_true (fun answer none => nomatch none) trivial
  | findSong | count | recount | createInitial | assertSongExists | findTarget | readLatest
  | demote | insert =>
      refine Iff.trans (only_answer _) (iff_of_true ?_ trivial)
      exact kept.requests (saving_kept present _ rfl)
  | saveSong plan version =>
      refine Iff.trans (only_answer _) ?_
      exact ended_kept_iff kept present rfl rfl none fun _ member => nomatch member

end

end Requests

/-! ### Runs and completions -/

section Completions

variable {media : MediaStore} {made : Processing} {state : CompletionState}

def savedCopy : WorkerCall → Option Song
  | .saveLoudness copy | .saveWaveform copy => some copy
  | _ => none

theorem performRun_table {run : ProcessingRun} {answer : WorkerAnswer}
    {answered : SongState × ProcessingRun} (saves : savedCopy run.next = none)
    (performed : performRun media state.table run answer = some answered) :
    answered.1 = state.table := by
  obtain ⟨worked, work, same⟩ := Option.map_eq_some_iff.mp performed
  subst same
  have writes := performWork_writes work
  obtain ⟨payload, call⟩ := run
  change WorkWrites media (workingState state.table payload) payload call answer worked.1 at writes
  change worked.1.table = state.table
  generalize worked.1 = after at writes
  cases writes with
  | quiet => rfl
  | loudness song => cases saves
  | waveform song => cases saves
  | file name remaining => rfl

section

variable (kept : OutputsKept made state)
include kept

theorem copy_kept_iff (runs : List ProcessingRun) (copy : Song) :
    OutputsKept made
        { state with
          table := { state.table with songs := storeRow Song.id copy state.table.songs }
          runs := runs } ↔
      ∀ version ∈ state.table.versions, ServesOutputsOf made state.requests copy version := by
  constructor
  · exact fun after => after.served copy (storeRow_mem copy state.table.songs)
  · intro guarded
    refine ⟨kept.stored, ?_⟩
    intro song member
    cases mem_storeRow member with
    | inl own => exact own ▸ guarded
    | inr earlier => exact kept.served song earlier

theorem run_kept_iff (run : ProcessingRun) (answer : WorkerAnswer)
    (runs : SongState × ProcessingRun → List ProcessingRun) :
    (∀ answered ∈ performRun media state.table run answer,
        OutputsKept made { state with table := answered.1, runs := runs answered }) ↔
      RunGuarded made state answer run.next := by
  have quiet : savedCopy run.next = none → ∀ answered ∈ performRun media state.table run answer,
      OutputsKept made { state with table := answered.1, runs := runs answered } := by
    intro saves answered performed
    rw [performRun_table saves performed]
    exact ⟨kept.stored, kept.served⟩
  obtain ⟨payload, call⟩ := run
  cases call with
  | findSong | analyzeLoudness | generateWaveformPeaks | transcodeToHLS | uploadHLSToS3
  | downloadCover | pinCover | pinMetadata | logEntry | ended =>
      exact iff_of_true (quiet rfl) trivial
  | saveLoudness copy | saveWaveform copy =>
      cases answer with
      | done =>
          refine Iff.trans (only_answer _) ?_
          exact copy_kept_iff kept _ copy
      | threw =>
          refine Iff.trans (only_answer _) (iff_of_true ?_ trivial)
          exact ⟨kept.stored, kept.served⟩
      | measured | pinned => exact iff_of_true (fun answered none => nomatch none) trivial

theorem version_kept_iff (saved : SongVersion) (completions : List CompletionCall) :
    OutputsKept made
        { state with
          table := { state.table with versions := storeRow versionKey saved state.table.versions }
          completions := completions } ↔
      OwnOutputs made saved ∧
        ∀ song ∈ state.table.songs, ServesOutputsOf made state.requests song saved := by
  have listed : saved ∈ storeRow versionKey saved state.table.versions := storeRow_mem _ _
  constructor
  · intro after
    exact ⟨after.stored saved listed, fun song member => after.served song member saved listed⟩
  · intro both
    refine ⟨?_, ?_⟩
    · intro version member
      cases mem_storeRow member with
      | inl own => exact own ▸ both.1
      | inr earlier => exact kept.stored version earlier
    · intro song present version member
      cases mem_storeRow member with
      | inl own => exact own ▸ both.2 song present
      | inr earlier => exact kept.served song present version earlier

theorem completion_kept_iff {call : CompletionCall} (sound : CompletionSound made call)
    (completions : SongState × CompletionCall → List CompletionCall) :
    (∀ answer ∈ performCompletion state.table call,
        OutputsKept made { state with table := answer.1, completions := completions answer }) ↔
      CompletionGuarded made state call := by
  cases call with
  | ended => exact iff_of_true (fun answer none => nomatch none) trivial
  | getActiveVersion songId update =>
      refine Iff.trans (only_answer _) (iff_of_true ?_ trivial)
      exact ⟨kept.stored, kept.served⟩
  | saveActive loaded update =>
      refine Iff.trans (only_answer _) ?_
      refine Iff.trans (version_kept_iff kept (update.assign loaded) _) ?_
      exact and_congr_left' (assign_own_iff sound update)

end

end Completions

/-! ### The law over runs -/

section Runs

variable {media : MediaStore} {made : Processing} {state after : CompletionState}
  {label : CompletionLabel}

theorem outputsLawful_iff_guarded (consistent : OutputsConsistent made state) :
    OutputsLawful media made state label ↔ OutputsGuarded made state label := by
  have kept := consistent.kept
  cases label with
  | beginRequest songId task =>
      refine iff_of_true ?_ trivial
      intro after moved
      cases moved
      apply kept.requests
      intro id marked
      unfold savingSongs
      rw [List.filterMap_append]
      exact List.mem_append_left _ marked
  | beginRun payload =>
      refine iff_of_true ?_ trivial
      intro after moved
      cases moved
      exact ⟨kept.stored, kept.served⟩
  | beginCompletion songId original update =>
      refine iff_of_true ?_ trivial
      intro after moved
      obtain ⟨_, same⟩ := Option.ite_none_right_eq_some.mp moved
      cases same
      exact ⟨kept.stored, kept.served⟩
  | request index =>
      refine Iff.trans (lawful_call_iff _) ?_
      exact forall₂_congr fun request present => perform_request_iff consistent present
  | requestFails index =>
      refine Iff.trans (lawful_call_iff _) ?_
      exact forall₂_congr fun request present => fail_request_iff consistent present
  | work index answer =>
      refine Iff.trans (lawful_call_iff _) ?_
      exact forall₂_congr fun run _ => run_kept_iff kept run answer _
  | completion index =>
      refine Iff.trans (lawful_call_iff _) ?_
      refine forall₂_congr fun call present => ?_
      exact completion_kept_iff kept
        (consistent.completions call (List.mem_of_getElem? present)) _
  | completionFails index =>
      refine iff_of_true ?_ trivial
      refine Iff.mpr (lawful_call_iff _) ?_
      exact fun call _ next _ => ⟨kept.stored, kept.served⟩

theorem afterFindSong_sound {songs : List Song} {songId : String} (task : VersionTask) :
    RequestSound made ⟨songId, afterFindSong task (findRow Song.id songId songs)⟩ := by
  unfold afterFindSong
  split
  · trivial
  · rename_i song found
    have named := (findRow_mem found).2
    split
    · split
      · trivial
      · exact named
    · split
      · trivial
      · split
        · trivial
        · split
          · trivial
          · exact named

theorem performRequest_sound (kept : OutputsKept made state) {request : VersionRequest}
    (sound : RequestSound made request) {answer : SongState × VersionRequest}
    (performed : performRequest state.table request = some answer) :
    RequestSound made answer.2 := by
  obtain ⟨_, same⟩ := Option.ite_none_left_eq_some.mp performed
  cases same
  obtain ⟨songId, call⟩ := request
  cases call with
  | ended | saveSong => trivial
  | findSong task => exact afterFindSong_sound task
  | count song artistId input =>
      unfold performVersion
      dsimp only
      split
      · exact sound
      · exact sound
  | recount song artistId input =>
      unfold performVersion
      dsimp only
      split
      · exact sound
      · trivial
  | createInitial song artistId input =>
      unfold performVersion
      dsimp only
      split
      · trivial
      · exact sound
  | assertSongExists song versionNumber artistId changeNote =>
      unfold performVersion
      dsimp only
      split
      · trivial
      · exact sound
  | findTarget song versionNumber artistId changeNote =>
      unfold performVersion
      dsimp only
      split
      · trivial
      · rename_i target found
        have listed := (List.mem_filter.mp (List.mem_of_find?_eq_some found)).1
        exact ⟨sound, kept.stored target listed⟩
  | readLatest plan | demote plan nextNumber => exact sound
  | insert plan nextNumber demoted =>
      unfold performVersion
      dsimp only
      split
      · trivial
      · exact sound

theorem performCompletion_sound (kept : OutputsKept made state) {call : CompletionCall}
    {answer : SongState × CompletionCall}
    (performed : performCompletion state.table call = some answer) :
    CompletionSound made answer.2 := by
  cases call with
  | ended => cases performed
  | saveActive loaded update =>
      cases performed
      trivial
  | getActiveVersion songId update =>
      cases performed
      dsimp only
      split
      · trivial
      · rename_i active found
        exact kept.stored active (List.mem_of_find?_eq_some found)

theorem forall_mem_append_one {Call : Type} {holds : Call → Prop} {calls : List Call}
    (all : ∀ call ∈ calls, holds call) {last : Call} (own : holds last) :
    ∀ call ∈ calls ++ [last], holds call := by
  intro call member
  cases List.mem_append.mp member with
  | inl earlier => exact all call earlier
  | inr new => exact List.mem_singleton.mp new ▸ own

theorem OutputsConsistent.stepped (consistent : OutputsConsistent made state)
    (kept : OutputsKept made after) (moved : completionStep media made state label = some after) :
    OutputsConsistent made after := by
  cases label with
  | beginRequest songId task =>
      cases moved
      exact ⟨kept, forall_mem_append_one consistent.requests trivial, consistent.completions⟩
  | beginRun payload =>
      cases moved
      exact ⟨kept, consistent.requests, consistent.completions⟩
  | beginCompletion songId original update =>
      obtain ⟨_, same⟩ := Option.ite_none_right_eq_some.mp moved
      cases same
      exact ⟨kept, consistent.requests, forall_mem_append_one consistent.completions trivial⟩
  | request index =>
      obtain ⟨request, present, moved⟩ := Option.bind_eq_some_iff.mp moved
      obtain ⟨answer, performed, same⟩ := Option.map_eq_some_iff.mp moved
      subst same
      have sound := consistent.requests request (List.mem_of_getElem? present)
      have next := performRequest_sound consistent.kept sound performed
      exact ⟨kept, forall_mem_set _ _ _ consistent.requests next, consistent.completions⟩
  | requestFails index =>
      obtain ⟨request, present, moved⟩ := Option.bind_eq_some_iff.mp moved
      obtain ⟨answer, failed, same⟩ := Option.map_eq_some_iff.mp moved
      subst same
      obtain ⟨_, ended⟩ := Option.ite_none_left_eq_some.mp failed
      cases ended
      exact ⟨kept, forall_mem_set _ _ _ consistent.requests trivial, consistent.completions⟩
  | work index answer =>
      obtain ⟨run, _, moved⟩ := Option.bind_eq_some_iff.mp moved
      obtain ⟨answered, _, same⟩ := Option.map_eq_some_iff.mp moved
      subst same
      exact ⟨kept, consistent.requests, consistent.completions⟩
  | completion index =>
      obtain ⟨call, present, moved⟩ := Option.bind_eq_some_iff.mp moved
      obtain ⟨answer, performed, same⟩ := Option.map_eq_some_iff.mp moved
      subst same
      have next := performCompletion_sound consistent.kept performed
      exact ⟨kept, consistent.requests, forall_mem_set _ _ _ consistent.completions next⟩
  | completionFails index =>
      obtain ⟨call, present, moved⟩ := Option.bind_eq_some_iff.mp moved
      obtain ⟨next, failed, same⟩ := Option.map_eq_some_iff.mp moved
      subst same
      have ended : next = .ended := by
        cases call with
        | ended => cases failed
        | getActiveVersion | saveActive => exact (Option.some_inj.mp failed).symm
      exact ⟨kept, consistent.requests,
        forall_mem_set _ _ _ consistent.completions (ended ▸ trivial)⟩

theorem OutputsAtRest.consistent (rest : OutputsAtRest made state) :
    OutputsConsistent made state := by
  refine ⟨rest.kept, ?_, ?_⟩
  · rw [rest.requests]
    exact fun _ member => absurd member List.not_mem_nil
  · rw [rest.completions]
    exact fun _ member => absurd member List.not_mem_nil

/-- In a run the outputs stay with the version whose audio they are computed from, exactly if
each completion assigns what fits the version that it has loaded and each save of a version or
of a song leaves the song serving its active versions' audio. -/
theorem completionMachine_outputs_iff (media : MediaStore) (made : Processing)
    (state : CompletionState) (rest : OutputsAtRest made state) (labels : List CompletionLabel) :
    (completionMachine media made).Permits (OutputsLawful media made) state labels ↔
      (completionMachine media made).Permits (OutputsGuarded made) state labels := by
  apply Machine.permits_iff (OutputsConsistent made) (fun _ => True) _ _ labels rest.consistent
    fun _ _ => trivial
  · intro before label consistent _
    exact outputsLawful_iff_guarded consistent
  · intro before label after consistent _ lawful moved
    exact consistent.stepped (lawful after moved) moved

end Runs

/-! A song whose first audio file is being processed, and a second one. -/

def twoFiles : Processing where
  status _ status := decide (status = .ready)
  manifest original url := decide (url = original ++ "/master.m3u8")
  duration original seconds := decide (seconds = if original = "s3://first" then 180 else 240)

def storedMedia : MediaStore where
  location fileId := "s3://" ++ fileId
  renditions _ := ["master.m3u8"]
  bucket := "audio"

def unprocessedSong : Song :=
  { Song.uploaded "song1" "artist1" "Intro" with s3OriginalUrl := some "s3://first" }

def firstProcessing : CompletionState :=
  { table := { songs := [unprocessedSong], versions := [initialVersion unprocessedSong "artist1"] }
    requests := []
    runs := []
    completions := [] }

theorem firstProcessing_atRest : OutputsAtRest twoFiles firstProcessing := by
  refine ⟨rfl, rfl, rfl, ?_, ?_⟩
  · decide +kernel
  · decide +kernel

/-- A re-upload, with its count, its demotion, its version and its song. -/
def reuploads : List CompletionLabel :=
  .beginRequest "song1" (.reupload "artist1"
    ⟨none, none, none, none, none, some "s3://second", none, none, none⟩) ::
      List.replicate 6 (.request 0)

def completes (index : Nat) (original : String) (seconds : Int) : List CompletionLabel :=
  [.beginCompletion "song1" original
      ⟨some .ready, some (original ++ "/master.m3u8"), none, some seconds, none⟩,
    .completion index, .completion index]

def manifestsOf (state : CompletionState) : List (Option String × Option String) :=
  state.table.versions.map fun version => (version.s3OriginalUrl, version.hlsMasterUrl)

/-- Both files are processed in time, and the first version is restored. -/
def completedAndRestored : List CompletionLabel :=
  completes 0 "s3://first" 180 ++ reuploads ++ completes 1 "s3://second" 240 ++
    .beginRequest "song1" (.rollback (some 1) "artist1" none) :: List.replicate 7 (.request 1)

theorem firstProcessing_completed :
    (completionMachine storedMedia twoFiles).Permits (OutputsLawful storedMedia twoFiles)
        firstProcessing completedAndRestored ∧
      ((completionMachine storedMedia twoFiles).run firstProcessing completedAndRestored).map
          (fun state => state.table.songs.map fun song => (song.status, song.hlsMasterUrl)) =
        some [(.ready, some "s3://first/master.m3u8")] := by
  constructor
  · apply (completionMachine_outputs_iff storedMedia twoFiles firstProcessing
      firstProcessing_atRest _).mpr
    decide +kernel
  · decide +kernel

/-- The second file is uploaded before the first one's completion. -/
theorem firstProcessing_misplaced :
    OutputsAtRest twoFiles firstProcessing ∧
      ¬(completionMachine storedMedia twoFiles).Permits (OutputsLawful storedMedia twoFiles)
        firstProcessing (reuploads ++ completes 0 "s3://first" 180) := by
  refine ⟨firstProcessing_atRest, ?_⟩
  intro permitted
  have misplaced : ((completionMachine storedMedia twoFiles).run firstProcessing
      (reuploads ++ (completes 0 "s3://first" 180).take 2)).bind (fun state =>
        (completionStep storedMedia twoFiles state (.completion 0)).map manifestsOf) =
      some [(some "s3://first", none), (some "s3://second", some "s3://first/master.m3u8")] := by
    decide +kernel
  obtain ⟨state, executed, last⟩ := Option.bind_eq_some_iff.mp misplaced
  obtain ⟨after, moved, rows⟩ := Option.map_eq_some_iff.mp last
  have split : reuploads ++ completes 0 "s3://first" 180 =
      (reuploads ++ (completes 0 "s3://first" 180).take 2) ++ [.completion 0] := rfl
  rw [split] at permitted
  have kept := (Machine.Permits.later permitted executed).1 after moved
  have listed : (some "s3://second", some "s3://first/master.m3u8") ∈ manifestsOf after := by
    rw [rows]
    exact List.mem_cons_of_mem _ (List.mem_singleton_self _)
  obtain ⟨version, member, same⟩ := List.mem_map.mp listed
  have original : version.s3OriginalUrl = some "s3://second" := congrArg Prod.fst same
  have manifest : version.hlsMasterUrl = some "s3://first/master.m3u8" := congrArg Prod.snd same
  obtain ⟨file, isOriginal, given⟩ := (kept.stored version member).2.1 _ manifest
  rw [original] at isOriginal
  cases isOriginal
  exact absurd given (by decide)

end AudioBlock.Processing
