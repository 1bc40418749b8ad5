/-
What the job of a song leaves behind, over all its attempts.

A job runs alone here.  Every call of an attempt has its answer, and a failed attempt
is followed by the next one until the attempts are over.
-/
import AudioBlock.Processing.OutstandingJobs

namespace AudioBlock.Processing

open AudioBlock.Foundation AudioBlock.Songs

inductive AttemptEnd
  | processed
  | failed
  deriving DecidableEq

inductive JobEnd
  | processed
  | givenUp
  deriving DecidableEq

def attempt (media : MediaStore) (payload : SongPayload) :
    ProcessingState → WorkerCall → List WorkerAnswer → Option (ProcessingState × AttemptEnd)
  | _, _, [] => none
  | state, call, answer :: answers =>
      match performWork media state payload call answer with
      | none => none
      | some (after, .next following) => attempt media payload after following answers
      | some (after, .failed) => if answers = [] then some (after, .failed) else none
      | some (after, .processed) => if answers = [] then some (after, .processed) else none

def runJob (media : MediaStore) :
    ProcessingState → SongPayload → List (List WorkerAnswer) → Option (ProcessingState × JobEnd)
  | _, _, [] => none
  | state, payload, answers :: attempts =>
      match attempt media payload state .findSong answers with
      | none => none
      | some (after, .processed) => if attempts = [] then some (after, .processed) else none
      | some (after, .failed) =>
          match nextAttempt payload with
          | none => if attempts = [] then some (after, .givenUp) else none
          | some again => runJob media after again attempts

def pinnedCid : WorkerAnswer → Option String
  | .pinned cid => some cid
  | _ => none

def pinnedMetadata (answers : List WorkerAnswer) : Option String :=
  (answers.filterMap pinnedCid).getLast?

def StepsSucceed (attempts : List (List WorkerAnswer)) : Prop :=
  ∀ answers ∈ attempts, ∀ answer ∈ answers, answer ≠ .threw

/-- The row that a finished job leaves says how the job ended: it is ready with what the
last attempt made, or failed, so that a retry is accepted, takes the file of the upload
and succeeds whenever its steps do. -/
structure RecordsOutcome (media : MediaStore) (state : ProcessingState) (payload : SongPayload) :
    Prop where
  processed : ∀ attempts after,
    runJob media state payload attempts = some (after, .processed) →
      ∃ song, after.row payload.songId = some song ∧ song.status = .ready ∧
        song.hlsMasterUrl = some (media.masterUrl payload.songId) ∧
          song.metadataCid = attempts.getLast?.bind pinnedMetadata
  givenUp : ∀ attempts after,
    runJob media state payload attempts = some (after, .givenUp) →
      ∃ song, after.row payload.songId = some song ∧ song.status = .failed
  retryFile : ∀ attempts after song,
    runJob media state payload attempts = some (after, .givenUp) →
      after.row payload.songId = some song →
        (retryPayload song).fileId = payload.fileId ∧ payload.fileId ∈ after.merged
  retrySucceeds : ∀ attempts after song,
    runJob media state payload attempts = some (after, .givenUp) →
      after.row payload.songId = some song → song.status = .failed →
        ∀ again ended, StepsSucceed again →
          runJob media (retryFailedSong after payload.songId).1 (retryPayload song) again =
            some ended → ended.2 = .processed

def heldCopy : WorkerCall → Option Song
  | .analyzeLoudness song | .saveLoudness song | .generateWaveformPeaks song
  | .saveWaveform song => some song
  | _ => none

def HoldsStatus (state : ProcessingState) (payload : SongPayload) (call : WorkerCall) : Prop :=
  ∀ copy ∈ heldCopy call, copy.id = payload.songId ∧
    (state.row payload.songId).map Song.status = some copy.status

section Attempts

variable {media : MediaStore} {payload : SongPayload}

variable {state : ProcessingState} {call : WorkerCall} {answer : WorkerAnswer}
  {answered : ProcessingState × WorkerOutcome} {song : Song}

theorem performWork_unprocessed
    (performed : performWork media state payload call answer = some answered) :
    answered.2 ≠ .processed := by
  intro processed
  unfold performWork at performed
  split at performed
  case h_1 =>
      cases performed
      dsimp only at processed
      split at processed <;> cases processed
  case h_2 | h_6 | h_10 =>
      cases readsFile_some performed
      cases processed
  all_goals cases performed <;> cases processed

theorem performWork_copy {following : WorkerCall} {after : ProcessingState} {copy : Song}
    (performed : performWork media state payload call answer = some (after, .next following))
    (held : copy ∈ heldCopy following) :
    state.row payload.songId = some copy ∨
      ∃ before ∈ heldCopy call, copy.id = before.id ∧ copy.status = before.status := by
  unfold performWork at performed
  split at performed
  case h_1 =>
      cases found : state.row payload.songId with
      | none =>
          rw [found] at performed
          cases performed
      | some song =>
          rw [found] at performed
          cases performed
          cases held
          exact Or.inl rfl
  case h_2 | h_6 =>
      cases readsFile_some performed
      cases held
      exact Or.inr ⟨_, rfl, rfl, rfl⟩
  case h_3 | h_4 | h_5 =>
      cases performed
      cases held
      exact Or.inr ⟨_, rfl, rfl, rfl⟩
  case h_10 =>
      cases readsFile_some performed
      cases held
  all_goals
    cases performed <;> cases held

theorem storeSong_row_status {songId : String} (same : song.id = songId)
    (status : (state.row songId).map Song.status = some song.status) :
    ((state.storeSong song).row songId).map Song.status = (state.row songId).map Song.status := by
  rw [status, ← same]
  exact congrArg (Option.map Song.status) (findRow_storeRow song state.table.songs)

theorem performWork_status (holds : HoldsStatus state payload call)
    (performed : performWork media state payload call answer = some answered) :
    (answered.1.row payload.songId).map Song.status =
        (state.row payload.songId).map Song.status ∧
      answered.1.merged = state.merged ∧
      ∀ following, answered.2 = .next following →
        HoldsStatus answered.1 payload following := by
  have kept : (answered.1.row payload.songId).map Song.status =
      (state.row payload.songId).map Song.status ∧ answered.1.merged = state.merged := by
    have writes := performWork_writes performed
    generalize answered.1 = after at writes ⊢
    cases writes with
    | quiet | file => exact ⟨rfl, rfl⟩
    | loudness song | waveform song =>
        obtain ⟨same, status⟩ := holds song rfl
        exact ⟨storeSong_row_status same status, rfl⟩
  obtain ⟨status, merged⟩ := kept
  refine ⟨status, merged, ?_⟩
  intro following goesOn copy held
  obtain ⟨after, outcome⟩ := answered
  cases goesOn
  rw [status]
  rcases performWork_copy performed held with found | ⟨before, handed, same, sameStatus⟩
  · rw [found]
    exact ⟨(findRow_mem found).2, rfl⟩
  · obtain ⟨id, row⟩ := holds before handed
    exact ⟨same.trans id, row.trans (congrArg some sameStatus.symm)⟩

theorem attempt_fails {ended : ProcessingState × AttemptEnd} (answers : List WorkerAnswer)
    (holds : HoldsStatus state payload call)
    (attempted : attempt media payload state call answers = some ended) :
    ended.2 = .failed ∧
      (ended.1.row payload.songId).map Song.status =
        (state.row payload.songId).map Song.status ∧
      ended.1.merged = state.merged := by
  induction answers generalizing state call with
  | nil => cases attempted
  | cons answer answers ih =>
      unfold attempt at attempted
      split at attempted
      · cases attempted
      · rename_i after following performed
        obtain ⟨status, merged, goesOn⟩ := performWork_status holds performed
        obtain ⟨failed, later, files⟩ := ih (goesOn following rfl) attempted
        exact ⟨failed, later.trans status, files.trans merged⟩
      · rename_i after performed
        obtain ⟨status, merged, _⟩ := performWork_status holds performed
        obtain ⟨_, same⟩ := Option.ite_none_right_eq_some.mp attempted
        cases same
        exact ⟨rfl, status, merged⟩
      · rename_i after performed
        exact absurd rfl (performWork_unprocessed performed)

theorem findSong_holds (state : ProcessingState) : HoldsStatus state payload .findSong :=
  fun _ held => nomatch held

theorem runJob_givenUp {ended : ProcessingState × JobEnd} (attempts : List (List WorkerAnswer))
    (ran : runJob media state payload attempts = some ended) :
    ended.2 = .givenUp ∧
      (ended.1.row payload.songId).map Song.status =
        (state.row payload.songId).map Song.status ∧
      ended.1.merged = state.merged := by
  induction attempts generalizing state payload with
  | nil => cases ran
  | cons answers attempts ih =>
      unfold runJob at ran
      split at ran
      · cases ran
      · rename_i after attempted
        cases (attempt_fails answers (findSong_holds state) attempted).1
      · rename_i after attempted
        obtain ⟨_, status, merged⟩ := attempt_fails answers (findSong_holds state) attempted
        split at ran
        · obtain ⟨_, same⟩ := Option.ite_none_right_eq_some.mp ran
          cases same
          exact ⟨rfl, status, merged⟩
        · rename_i again following
          obtain ⟨givenUp, later, files⟩ := ih ran
          rw [nextAttempt_songId following] at later
          exact ⟨givenUp, later.trans status, files.trans merged⟩

theorem runJob_fails (media : MediaStore) (songId fileId : String) (good : ProcessingState → Prop)
    (allowed : List WorkerAnswer → Prop)
    (tried : ∀ state number, good state → ∃ answers after, allowed answers ∧
      attempt media ⟨songId, fileId, number⟩ state .findSong answers = some (after, .failed) ∧
        good after) (number : Option Nat) (holds : good state) :
    ∃ attempts after, (∀ answers ∈ attempts, allowed answers) ∧
      runJob media state ⟨songId, fileId, number⟩ attempts = some (after, .givenUp) ∧
        good after := by
  generalize remaining : maxAttempts - number.getD 1 = left
  induction left generalizing number state with
  | zero =>
      obtain ⟨answers, after, permitted, attempted, kept⟩ := tried state number holds
      have last : nextAttempt ⟨songId, fileId, number⟩ = none := if_pos (by dsimp only; omega)
      refine ⟨[answers], after, by simpa using permitted, ?_, kept⟩
      simp only [runJob, attempted, last, if_true]
  | succ left ih =>
      obtain ⟨answers, after, permitted, attempted, kept⟩ := tried state number holds
      cases following : nextAttempt ⟨songId, fileId, number⟩ with
      | none =>
          refine ⟨[answers], after, by simpa using permitted, ?_, kept⟩
          simp only [runJob, attempted, following, if_true]
      | some again =>
          obtain ⟨_, same⟩ := Option.ite_none_left_eq_some.mp following
          cases same
          obtain ⟨attempts, final, allowed, ran, still⟩ :=
            ih (some (number.getD 1 + 1)) kept (by rw [Option.getD_some]; omega)
          refine ⟨answers :: attempts, final, List.forall_mem_cons.mpr ⟨permitted, allowed⟩, ?_, still⟩
          simp only [runJob, attempted, following, ran]

theorem runJob_throws (media : MediaStore) (state : ProcessingState) (payload : SongPayload) :
    ∃ attempts, runJob media state payload attempts = some (state, .givenUp) := by
  obtain ⟨attempts, after, _, ran, same⟩ :=
    runJob_fails media payload.songId payload.fileId
      (fun other => other = state) (fun _ => True)
      (fun other _ same => ⟨[.threw], other, trivial, rfl, same⟩) payload.attempt rfl
  exact ⟨attempts, same ▸ ran⟩

def uploadSucceeds (names : List String) : List WorkerAnswer :=
  names.map (fun _ => .done) ++ [.done, .done, .pinned "cover", .pinned "metadata", .done]

def attemptSucceeds (media : MediaStore) (payload : SongPayload) : List WorkerAnswer :=
  [.done, .measured 0, .done, .done, .done, .done] ++
    uploadSucceeds (media.renditions (media.location payload.fileId))

theorem attempt_upload (media : MediaStore) (payload : SongPayload) (state : ProcessingState)
    (names : List String) :
    ∃ after, attempt media payload state (.uploadHLSToS3 names) (uploadSucceeds names) =
      some (after, .failed) := by
  induction names generalizing state with
  | nil => exact ⟨state, rfl⟩
  | cons name names ih =>
      exact ih (state.putFile
        { masterUrl := media.masterUrl payload.songId
          name := name
          original := media.location payload.fileId })

theorem attempt_next {after : ProcessingState} {following : WorkerCall}
    (answers : List WorkerAnswer)
    (performed : performWork media state payload call answer = some (after, .next following)) :
    attempt media payload state call (answer :: answers) =
      attempt media payload after following answers := by
  simp only [attempt, performed]

theorem attempt_succeeds (media : MediaStore) (payload : SongPayload)
    (found : state.row payload.songId = some song) (merged : payload.fileId ∈ state.merged) :
    ∃ after, attempt media payload state .findSong (attemptSucceeds media payload) =
      some (after, .failed) := by
  have reads (state : ProcessingState) (present : payload.fileId ∈ state.merged)
      (answer : ProcessingState × WorkerOutcome) :
      readsFile state payload answer = some answer := if_pos present
  let measured : Song := { song with loudness := some 0 }
  let once := state.storeSong measured
  let twice := once.storeSong measured
  obtain ⟨after, uploaded⟩ := attempt_upload media payload twice
    (media.renditions (media.location payload.fileId))
  refine ⟨after, ?_⟩
  calc attempt media payload state .findSong (attemptSucceeds media payload)
    _ = attempt media payload state (.analyzeLoudness song) _ :=
      attempt_next _ (by simp only [performWork, found])
    _ = attempt media payload state (.saveLoudness measured) _ :=
      attempt_next _ (reads state merged _)
    _ = attempt media payload once (.generateWaveformPeaks measured) _ := rfl
    _ = attempt media payload once (.saveWaveform measured) _ :=
      attempt_next _ (reads once merged _)
    _ = attempt media payload twice .transcodeToHLS _ := rfl
    _ = attempt media payload twice (.uploadHLSToS3 _) _ :=
      attempt_next _ (reads twice merged _)
    _ = some (after, .failed) := uploaded

theorem attemptSucceeds_unthrown (media : MediaStore) (payload : SongPayload) :
    ∀ answer ∈ attemptSucceeds media payload, answer ≠ .threw := by
  intro answer member threw
  subst threw
  simp [attemptSucceeds, uploadSucceeds] at member

theorem runJob_succeeds (found : state.row payload.songId = some song)
    (merged : payload.fileId ∈ state.merged) :
    ∃ attempts after, StepsSucceed attempts ∧
      runJob media state payload attempts = some (after, .givenUp) := by
  obtain ⟨attempts, after, succeed, ran, _⟩ :=
    runJob_fails media payload.songId payload.fileId
      (fun state => (state.row payload.songId).isSome ∧ payload.fileId ∈ state.merged)
      (fun answers => ∀ answer ∈ answers, answer ≠ .threw)
      (fun state number present => by
        obtain ⟨song, found⟩ := Option.isSome_iff_exists.mp present.1
        obtain ⟨after, attempted⟩ := attempt_succeeds media
          ⟨payload.songId, payload.fileId, number⟩ found present.2
        obtain ⟨_, status, files⟩ := attempt_fails _ (findSong_holds state) attempted
        refine ⟨_, after, attemptSucceeds_unthrown media _, attempted, ?_, files ▸ present.2⟩
        have some := congrArg Option.isSome status
        rwa [Option.isSome_map, Option.isSome_map, found] at some)
      payload.attempt ⟨Option.isSome_iff_exists.mpr ⟨song, found⟩, merged⟩
  exact ⟨attempts, after, succeed, ran⟩

theorem retryFailedSong_accepts {songId : String} (found : state.row songId = some song)
    (failed : song.status = .failed) :
    ∃ queue, (retryFailedSong state songId).1 =
      { state.storeSong (Song.retried song) with queue := queue } := by
  simp only [retryFailedSong, found, failed, ne_eq, not_true_eq_false, if_false]
  exact publish_eq _ _ _

end Attempts

/-! The attempts are runs of the machine. -/

section Runs

variable {media : MediaStore} {payload : SongPayload}

end Runs

/-- No job records its outcome: a job is always given up, and leaves the status of its
song as it was; and a retry that takes the file of the upload is given up too. -/
theorem runJob_never_records (media : MediaStore) (state : ProcessingState)
    (payload : SongPayload) :
    ¬RecordsOutcome media state payload ∧
      ∀ attempts ended, runJob media state payload attempts = some ended →
        ended.2 = .givenUp ∧
          (ended.1.row payload.songId).map Song.status =
            (state.row payload.songId).map Song.status := by
  constructor
  · intro records
    obtain ⟨attempts, ran⟩ := runJob_throws media state payload
    obtain ⟨song, found, failed⟩ := records.givenUp attempts state ran
    obtain ⟨file, merged⟩ := records.retryFile attempts state song ran found
    have own : song.id = payload.songId := (findRow_mem found).2
    obtain ⟨queue, retried⟩ := retryFailedSong_accepts found failed
    have present : (retryFailedSong state payload.songId).1.row (retryPayload song).songId =
        some (Song.retried song) := by
      rw [retried]
      exact findRow_storeRow (Song.retried song) state.table.songs
    have there : (retryPayload song).fileId ∈ (retryFailedSong state payload.songId).1.merged := by
      rw [retried, file]
      exact merged
    obtain ⟨again, after, succeed, givenUp⟩ := runJob_succeeds present there
    cases records.retrySucceeds attempts state song ran found failed again _ succeed givenUp
  · intro attempts ended ran
    obtain ⟨givenUp, status, _⟩ := runJob_givenUp attempts ran
    exact ⟨givenUp, status⟩

/-! One upload whose two attempts both get through all their steps. -/

def firstJob : SongPayload := { songId := "s1", fileId := "f1", attempt := none }

def afterFirstUpload : ProcessingState :=
  (finalizeUpload plainMedia (emptyCatalogue true)
    ⟨"f1", "Dawn", "artist", none, none, "covers/dawn.png", none⟩ "s1" .stored true).1

def retryRefusal (state : ProcessingState) (songId : String) : Option String :=
  match (retryFailedSong state songId).2 with
  | .error failure => some failure.message
  | .ok _ => none

theorem runJob_leaves_processing :
    (runJob plainMedia afterFirstUpload firstJob
        [attemptSucceeds plainMedia firstJob, attemptSucceeds plainMedia firstJob]).map
      (fun ended => (ended.2, (ended.1.row "s1").map Song.status, retryRefusal ended.1 "s1")) =
        some (.givenUp, some .processing, some "Only failed songs can be retried") ∧
      ¬RecordsOutcome plainMedia afterFirstUpload firstJob := by
  have left : (runJob plainMedia afterFirstUpload firstJob
      [attemptSucceeds plainMedia firstJob, attemptSucceeds plainMedia firstJob]).map
    (fun ended => (ended.2, (ended.1.row "s1").map Song.status, retryRefusal ended.1 "s1")) =
      some (.givenUp, some .processing, some "Only failed songs can be retried") := by
    decide +kernel
  refine ⟨left, ?_⟩
  intro records
  obtain ⟨⟨after, ended⟩, ran, seen⟩ := Option.map_eq_some_iff.mp left
  simp only [Prod.mk.injEq] at seen
  obtain ⟨rfl, status, _⟩ := seen
  obtain ⟨song, found, failed⟩ := records.givenUp _ after ran
  change (after.row firstJob.songId).map Song.status = _ at status
  rw [found, Option.map_some, failed] at status
  cases status

end AudioBlock.Processing
