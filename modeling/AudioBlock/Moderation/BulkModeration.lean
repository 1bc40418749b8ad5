/-
Bulk moderation (src/services/Song/SongModerationService.ts) with its writes and its results.

Each song takes up to three writes: its row, its cache key and an entry of the audit log.  An
error of the cache is caught in the cache service; the others fail the song's result.
-/
import AudioBlock.Moderation.ReportService
import AudioBlock.Songs.SongService

namespace AudioBlock.Moderation

open AudioBlock.Foundation AudioBlock.Songs

/-- What a rejected write throws. -/
inductive Thrown
  | error (message : String)
  | other
  deriving DecidableEq

def Thrown.reason : Thrown → String
  | .error message => message
  | .other => "Moderation failed"

structure TransactionLog where
  userId : String
  txHash : String
  action : String
  description : String
  deriving DecidableEq

/-- How the writes for one song go. -/
structure ModerationWrites where
  now : Nat
  saveFails : Option Thrown
  redisFails : Bool
  logFails : Option Thrown

/-- `cached` has the songs whose manifest is cached. -/
structure ModerationDesk where
  songs : List Song
  primary : (songs.map Song.id).Nodup
  logs : List TransactionLog
  cached : List String

structure BulkModerationResult where
  songId : String
  success : Bool
  status : Option SongStatus
  flagged : Option Bool
  reason : Option String
  deriving DecidableEq

structure BulkModerationResponse where
  action : BulkModerationAction
  requested : Nat
  succeeded : Nat
  failed : Nat
  results : List BulkModerationResult

def BulkModerationAction.text : BulkModerationAction → String
  | .approve => "approve"
  | .reject => "reject"
  | .flagForReview => "flag_for_review"

namespace ModerationDesk

def saveSong (desk : ModerationDesk) (song : Song) : ModerationDesk :=
  { desk with
    songs := saveRow Song.id song desk.songs
    primary := by
      rw [saveRow_keys]
      exact desk.primary }

def clearSong (desk : ModerationDesk) (songId : String) (redisFails : Bool) : ModerationDesk :=
  if redisFails then desk
  else { desk with cached := desk.cached.filter fun cached => decide (cached ≠ songId) }

def createLogEntry (desk : ModerationDesk) (entry : TransactionLog) : ModerationDesk :=
  { desk with logs := desk.logs ++ [entry] }

end ModerationDesk

namespace SongModerationService

def bulkModerationMaxBatch : Nat := 50

def validActions : List BulkModerationAction := [.approve, .reject, .flagForReview]

/-- `raw` is what `String` makes of the action of the body. -/
def parseAction (raw : String) : Except AppError BulkModerationAction :=
  match validActions.find? fun action => decide (action.text = normalized raw) with
  | some action => .ok action
  | none =>
      .error (.validation
        ("action must be one of: " ++ ", ".intercalate (validActions.map (·.text)))
        "INVALID_MODERATION_ACTION")

/-- An entry that is no string is `none`, a body without an array an empty one. -/
def parseSongIds (raw : List (Option String)) : Except AppError (List String) :=
  if raw = [] then .error (.validation "songIds must be a non-empty array" "INVALID_SONG_IDS")
  else
    match raw.mapM trimmedId with
    | none =>
        .error (.validation "songIds must contain only non-empty strings" "INVALID_SONG_IDS")
    | some trimmed =>
        let ids := trimmed.eraseDups
        if bulkModerationMaxBatch < ids.length then
          .error (.validation
            ("Batch size exceeds the maximum of " ++ toString bulkModerationMaxBatch ++
              " songs per request") "BATCH_TOO_LARGE")
        else .ok ids

def auditEntry (adminId : String) (action : BulkModerationAction) (songId : String) :
    TransactionLog :=
  { userId := adminId
    txHash := ""
    action := "BULK_MODERATION_" ++ action.text.toUpper
    description := "Admin " ++ adminId ++ " applied " ++ action.text ++ " to song " ++ songId }

/-- The loaded song as it is after the call, or what the call throws. -/
def applyAction (desk : ModerationDesk) (song : Song) (action : BulkModerationAction)
    (adminId : String) (writes : ModerationWrites) : ModerationDesk × Except Thrown Song :=
  match Moderation.applyAction song adminId writes.now action with
  | .error error => (desk, .error (.error error.message))
  | .ok changed =>
      match writes.saveFails with
      | some thrown => (desk, .error thrown)
      | none =>
          let saved := (desk.saveSong changed).clearSong changed.id writes.redisFails
          match writes.logFails with
          | some thrown => (saved, .error thrown)
          | none => (saved.createLogEntry (auditEntry adminId action changed.id), .ok changed)

def failure (songId reason : String) : BulkModerationResult :=
  { songId, success := false, status := none, flagged := none, reason := some reason }

def success (songId : String) (song : Song) : BulkModerationResult :=
  { songId, success := true, status := some song.status, flagged := some song.flagged
    reason := none }

/-- The loop over the ids; `songs` are the rows as they were loaded. -/
def moderateEach (songs : List Song) (action : BulkModerationAction) (adminId : String)
    (writes : String → ModerationWrites) :
    List String → ModerationDesk → ModerationDesk × List BulkModerationResult
  | [], desk => (desk, [])
  | songId :: rest, desk =>
      match findRow Song.id songId songs with
      | none =>
          let later := moderateEach songs action adminId writes rest desk
          (later.1, failure songId "Song not found" :: later.2)
      | some song =>
          let applied := applyAction desk song action adminId (writes songId)
          let later := moderateEach songs action adminId writes rest applied.1
          (later.1,
            (match applied.2 with
              | .ok changed => success songId changed
              | .error thrown => failure songId thrown.reason) :: later.2)

def bulkModerate (desk : ModerationDesk) (songIds : List (Option String)) (rawAction : String)
    (adminId : String) (writes : String → ModerationWrites) :
    ModerationDesk × Except AppError BulkModerationResponse :=
  match parseAction rawAction with
  | .error error => (desk, .error error)
  | .ok action =>
      match parseSongIds songIds with
      | .error error => (desk, .error error)
      | .ok ids =>
          let moderated := moderateEach desk.songs action adminId writes ids desk
          let succeeded := moderated.2.countP fun result => result.success
          (moderated.1,
            .ok
              { action
                requested := ids.length
                succeeded
                failed := ids.length - succeeded
                results := moderated.2 })

/-! ### What becomes of one song -/

structure Outcome where
  result : BulkModerationResult
  row : Option Song
  entry : Option TransactionLog

section Songs

variable (songs : List Song) (action : BulkModerationAction) (adminId : String)
  (writes : String → ModerationWrites)

def outcome (songId : String) : Outcome :=
  match findRow Song.id songId songs with
  | none => ⟨failure songId "Song not found", none, none⟩
  | some song =>
      match Moderation.applyAction song adminId (writes songId).now action with
      | .error error => ⟨failure songId error.message, none, none⟩
      | .ok changed =>
          match (writes songId).saveFails, (writes songId).logFails with
          | some thrown, _ => ⟨failure songId thrown.reason, none, none⟩
          | none, some thrown => ⟨failure songId thrown.reason, some changed, none⟩
          | none, none =>
              ⟨success songId changed, some changed, some (auditEntry adminId action songId)⟩

variable {changed : Song} {songId : String} {otherWrites : String → ModerationWrites}

theorem applyAction_id {song : Song} {now : Nat}
    (applied : Moderation.applyAction song adminId now action = .ok changed) :
    changed.id = song.id := by
  cases action with
  | approve =>
      by_cases processing : song.status = .processing
      · rw [Moderation.applyAction, if_pos processing] at applied
        cases applied
      · rw [Moderation.applyAction, if_neg processing] at applied
        cases applied
        rfl
  | reject | flagForReview =>
      cases applied
      rfl

variable {songs action adminId writes}

@[simp] theorem clearSong_songs (desk : ModerationDesk) (songId : String) (redisFails : Bool) :
    (desk.clearSong songId redisFails).songs = desk.songs := by
  unfold ModerationDesk.clearSong
  split <;> rfl

@[simp] theorem clearSong_logs (desk : ModerationDesk) (songId : String) (redisFails : Bool) :
    (desk.clearSong songId redisFails).logs = desk.logs := by
  unfold ModerationDesk.clearSong
  split <;> rfl

theorem moderateEach_outcomes (ids : List String) (desk : ModerationDesk) :
    (moderateEach songs action adminId writes ids desk).2 =
        ids.map (fun songId => (outcome songs action adminId writes songId).result) ∧
      (moderateEach songs action adminId writes ids desk).1.songs =
        (ids.filterMap fun songId => (outcome songs action adminId writes songId).row).foldl
          (fun table row => saveRow Song.id row table) desk.songs ∧
      (moderateEach songs action adminId writes ids desk).1.logs =
        desk.logs ++ ids.filterMap fun songId =>
          (outcome songs action adminId writes songId).entry := by
  induction ids generalizing desk with
  | nil => exact ⟨rfl, rfl, (List.append_nil _).symm⟩
  | cons songId rest ih =>
      unfold moderateEach outcome applyAction
      cases found : findRow Song.id songId songs with
      | none =>
          obtain ⟨results, rows, entries⟩ := ih desk
          simp only [found, List.map_cons, List.filterMap_cons]
          exact ⟨congrArg _ results, rows, entries⟩
      | some song =>
          have named := (findRow_mem found).2
          cases applied : Moderation.applyAction song adminId (writes songId).now action with
          | error error =>
              obtain ⟨results, rows, entries⟩ := ih desk
              simp only [found, applied, List.map_cons, List.filterMap_cons]
              exact ⟨congrArg _ results, rows, entries⟩
          | ok changed =>
              have own : changed.id = songId := (applyAction_id action adminId applied).trans named
              cases saves : (writes songId).saveFails with
              | some thrown =>
                  obtain ⟨results, rows, entries⟩ := ih desk
                  simp only [found, applied, saves, List.map_cons, List.filterMap_cons]
                  exact ⟨congrArg _ results, rows, entries⟩
              | none =>
                  cases logs : (writes songId).logFails with
                  | some thrown =>
                      obtain ⟨results, rows, entries⟩ := ih
                        ((desk.saveSong changed).clearSong changed.id (writes songId).redisFails)
                      simp only [found, applied, saves, logs, List.map_cons, List.filterMap_cons]
                      refine ⟨congrArg _ results, rows.trans ?_, entries.trans ?_⟩
                      · rw [clearSong_songs]
                        rfl
                      · rw [clearSong_logs]
                        rfl
                  | none =>
                      obtain ⟨results, rows, entries⟩ := ih
                        (((desk.saveSong changed).clearSong changed.id
                          (writes songId).redisFails).createLogEntry
                            (auditEntry adminId action changed.id))
                      simp only [found, applied, saves, logs, List.map_cons, List.filterMap_cons]
                      refine ⟨congrArg _ results, rows.trans ?_, entries.trans ?_⟩
                      · rw [ModerationDesk.createLogEntry, clearSong_songs]
                        rfl
                      · rw [ModerationDesk.createLogEntry, clearSong_logs, own, List.append_assoc]
                        rfl

theorem outcome_songId (songId : String) :
    (outcome songs action adminId writes songId).result.songId = songId := by
  unfold outcome
  split
  · rfl
  · split
    · rfl
    · split <;> rfl

theorem outcome_row (written : (outcome songs action adminId writes songId).row = some changed) :
    ∃ song, findRow Song.id songId songs = some song ∧
      Moderation.applyAction song adminId (writes songId).now action = .ok changed ∧
        (writes songId).saveFails = none ∧ changed.id = songId := by
  unfold outcome at written
  cases found : findRow Song.id songId songs with
  | none => simp only [found, reduceCtorEq] at written
  | some song =>
      have named := (findRow_mem found).2
      cases applied : Moderation.applyAction song adminId (writes songId).now action with
      | error error => simp only [found, applied, reduceCtorEq] at written
      | ok result =>
          have own : result.id = songId := (applyAction_id action adminId applied).trans named
          cases saves : (writes songId).saveFails with
          | some thrown => simp only [found, applied, saves, reduceCtorEq] at written
          | none =>
              cases logs : (writes songId).logFails with
              | some thrown | none =>
                  simp only [found, applied, saves, logs, Option.some.injEq] at written
                  exact ⟨song, rfl, written ▸ applied, rfl, written ▸ own⟩

theorem outcome_row_written {song : Song} (found : findRow Song.id songId songs = some song)
    (applied : Moderation.applyAction song adminId (writes songId).now action = .ok changed)
    (saves : (writes songId).saveFails = none) :
    (outcome songs action adminId writes songId).row = some changed := by
  unfold outcome
  cases logs : (writes songId).logFails with
  | some thrown | none => simp only [found, applied, saves]

theorem moderateEach_row (ids : List String) (songId : String) (desk : ModerationDesk) :
    findRow Song.id songId (moderateEach desk.songs action adminId writes ids desk).1.songs =
      if songId ∈ ids then
        (outcome desk.songs action adminId writes songId).row.or
          (findRow Song.id songId desk.songs)
      else findRow Song.id songId desk.songs := by
  rw [(moderateEach_outcomes ids desk).2.1]
  rcases findRow_foldl_saveRow Song.id
      (ids.filterMap fun id => (outcome desk.songs action adminId writes id).row)
      desk.songs songId with ⟨others, unchanged⟩ | ⟨row, member, named, last⟩
  · rw [unchanged]
    by_cases among : songId ∈ ids
    · rw [if_pos among]
      cases written : (outcome desk.songs action adminId writes songId).row with
      | none => rfl
      | some changed =>
          obtain ⟨_song, _found, _applied, _saved, own⟩ := outcome_row written
          exact absurd own (others changed (List.mem_filterMap.mpr ⟨songId, among, written⟩))
    · rw [if_neg among]
  · obtain ⟨other, present, written⟩ := List.mem_filterMap.mp member
    obtain ⟨song, found, _applied, _saved, own⟩ := outcome_row written
    have same : other = songId := own.symm.trans named
    subst same
    rw [last, if_pos present, written, found]
    rfl

theorem outcome_success
    (done : (outcome songs action adminId writes songId).result.success = true) :
    ∃ song changed, findRow Song.id songId songs = some song ∧
      Moderation.applyAction song adminId (writes songId).now action = .ok changed ∧
        (outcome songs action adminId writes songId).row = some changed ∧
          (outcome songs action adminId writes songId).entry =
            some (auditEntry adminId action songId) := by
  unfold outcome at done ⊢
  cases found : findRow Song.id songId songs with
  | none =>
      simp only [found] at done
      cases done
  | some song =>
      cases applied : Moderation.applyAction song adminId (writes songId).now action with
      | error error =>
          simp only [found, applied] at done
          cases done
      | ok changed =>
          cases saves : (writes songId).saveFails with
          | some thrown =>
              simp only [found, applied, saves] at done
              cases done
          | none =>
              cases logs : (writes songId).logFails with
              | some thrown =>
                  simp only [found, applied, saves, logs] at done
                  cases done
              | none =>
                  refine ⟨song, changed, rfl, applied, ?_, ?_⟩
                  · simp only [applied]
                  · simp only [applied]

theorem outcome_success_of_logged
    (written : (outcome songs action adminId writes songId).row = some changed) :
    (outcome songs action adminId writes songId).result.success = true ↔
      (writes songId).logFails = none := by
  obtain ⟨song, found, applied, saves, _own⟩ := outcome_row written
  unfold outcome
  cases logs : (writes songId).logFails with
  | some thrown =>
      simp only [found, applied, saves]
      exact iff_of_false Bool.false_ne_true (by simp)
  | none =>
      simp only [found, applied, saves]
      exact iff_of_true rfl trivial

theorem outcome_congr (same : otherWrites songId = writes songId) :
    outcome songs action adminId otherWrites songId =
      outcome songs action adminId writes songId := by
  unfold outcome
  rw [same]

theorem outcome_entry {entry : TransactionLog}
    (written : (outcome songs action adminId writes songId).entry = some entry) :
    entry = auditEntry adminId action songId := by
  unfold outcome at written
  split at written
  · cases written
  · split at written
    · cases written
    · split at written
      · cases written
      · cases written
      · exact (Option.some.inj written).symm

theorem auditEntry_inj {one other : String}
    (same : auditEntry adminId action one = auditEntry adminId action other) : one = other :=
  (String.append_right_inj _).mp (congrArg TransactionLog.description same)

theorem count_entries (same : otherWrites songId = writes songId) (ids : List String) :
    (ids.filterMap fun id => (outcome songs action adminId writes id).entry).count
        (auditEntry adminId action songId) =
      (ids.filterMap fun id => (outcome songs action adminId otherWrites id).entry).count
        (auditEntry adminId action songId) := by
  have others : ∀ given : String → ModerationWrites, ∀ id, id ≠ songId →
      ((outcome songs action adminId given id).entry.toList).count
        (auditEntry adminId action songId) = 0 := by
    intro given id different
    apply List.count_eq_zero_of_not_mem
    intro member
    have written := outcome_entry (Option.mem_toList.mp member)
    exact different (auditEntry_inj written).symm
  induction ids with
  | nil => rfl
  | cons id rest ih =>
      have apart : ∀ given : String → ModerationWrites,
          ((id :: rest).filterMap fun id => (outcome songs action adminId given id).entry) =
            (outcome songs action adminId given id).entry.toList ++
              rest.filterMap fun id => (outcome songs action adminId given id).entry := by
        intro given
        rw [List.filterMap_cons]
        cases (outcome songs action adminId given id).entry <;> rfl
      rw [apart, apart, List.count_append, List.count_append, ih]
      by_cases own : id = songId
      · rw [own, outcome_congr same]
      · rw [others _ id own, others _ id own]

end Songs

/-! ### Whether the results say what has been stored -/

/-- A batch that has been answered, with the desk before and after. -/
structure BulkFaithful (desk after : ModerationDesk) (songIds : List (Option String))
    (adminId : String) (writes : String → ModerationWrites) (response : BulkModerationResponse) :
    Prop where
  distinct : (response.results.map (·.songId)).Nodup
  everyId : ∀ songId, songId ∈ response.results.map (·.songId) ↔
    ∃ raw ∈ songIds, trimmedId raw = some songId
  failed : ∀ result ∈ response.results, result.success = false →
    findRow Song.id result.songId after.songs = findRow Song.id result.songId desk.songs
  succeeded : ∀ result ∈ response.results, result.success = true →
    ∃ song changed, findRow Song.id result.songId desk.songs = some song ∧
      Moderation.applyAction song adminId (writes result.songId).now response.action =
        .ok changed ∧
      findRow Song.id result.songId after.songs = some changed ∧
      ∃ added, after.logs = desk.logs ++ added ∧
        auditEntry adminId response.action result.songId ∈ added
  counts : response.requested = response.results.length ∧
    response.succeeded = response.results.countP (fun result => result.success) ∧
    response.failed = response.results.countP fun result => !result.success

structure SameOutcome (adminId songId : String)
    (one other : ModerationDesk × BulkModerationResponse) : Prop where
  result : ∀ result : BulkModerationResult, result.songId = songId →
    (result ∈ one.2.results ↔ result ∈ other.2.results)
  row : findRow Song.id songId one.1.songs = findRow Song.id songId other.1.songs
  entries : one.1.logs.count (auditEntry adminId one.2.action songId) =
    other.1.logs.count (auditEntry adminId one.2.action songId)

/-- Every answer to the request is faithful, and its songs are on their own. -/
def Faithful (desk : ModerationDesk) (songIds : List (Option String)) (rawAction adminId : String)
    (writes : String → ModerationWrites) : Prop :=
  ∀ after response, bulkModerate desk songIds rawAction adminId writes = (after, .ok response) →
    BulkFaithful desk after songIds adminId writes response ∧
      ∀ otherWrites otherAfter otherResponse,
        bulkModerate desk songIds rawAction adminId otherWrites = (otherAfter, .ok otherResponse) →
          ∀ songId, otherWrites songId = writes songId →
            SameOutcome adminId songId (after, response) (otherAfter, otherResponse)

/-- No audit entry is refused after its song has been changed. -/
def LogsFollowSaves (desk : ModerationDesk) (songIds : List (Option String))
    (rawAction adminId : String) (writes : String → ModerationWrites) : Prop :=
  ∀ action ids, parseAction rawAction = .ok action → parseSongIds songIds = .ok ids →
    ∀ songId ∈ ids, ∀ song changed, findRow Song.id songId desk.songs = some song →
      Moderation.applyAction song adminId (writes songId).now action = .ok changed →
        (writes songId).saveFails = none → (writes songId).logFails ≠ none → changed = song

/-! ### The ids of a batch -/

theorem eraseDups_nodup {α : Type} [DecidableEq α] (items : List α) : items.eraseDups.Nodup := by
  induction size : items.length using Nat.strongRecOn generalizing items with
  | ind length ih =>
      cases items with
      | nil => exact List.nodup_nil
      | cons head rest =>
          rw [List.eraseDups_cons, List.nodup_cons]
          constructor
          · intro again
            have kept := (List.mem_filter.mp (List.mem_eraseDups.mp again)).2
            simp only [beq_self_eq_true, Bool.not_true, Bool.false_eq_true] at kept
          · refine ih _ ?_ _ rfl
            rw [← size]
            exact Nat.lt_succ_of_le (List.length_filter_le _ _)

theorem mem_of_mapM {α β : Type} {parse : α → Option β} {raw : List α} {parsed : List β}
    (all : raw.mapM parse = some parsed) (value : β) :
    value ∈ parsed ↔ ∃ text ∈ raw, parse text = some value := by
  induction raw generalizing parsed with
  | nil =>
      cases all
      simp
  | cons first rest ih =>
      rw [List.mapM_cons] at all
      obtain ⟨head, headParsed, more⟩ := Option.bind_eq_some_iff.mp all
      obtain ⟨tail, tailParsed, whole⟩ := Option.bind_eq_some_iff.mp more
      cases whole
      rw [List.mem_cons, ih tailParsed, @eq_comm _ value head]
      simp only [List.mem_cons, exists_eq_or_imp, headParsed, Option.some.injEq]

variable {songIds : List (Option String)} {ids : List String} {desk after : ModerationDesk}
  {rawAction adminId : String} {writes : String → ModerationWrites}
  {response : BulkModerationResponse}

theorem parseSongIds_ok (parsed : parseSongIds songIds = .ok ids) :
    ids.Nodup ∧ ∀ songId, songId ∈ ids ↔ ∃ raw ∈ songIds, trimmedId raw = some songId := by
  unfold parseSongIds at parsed
  split at parsed
  · cases parsed
  · cases all : songIds.mapM trimmedId with
    | none => simp only [all, reduceCtorEq] at parsed
    | some trimmed =>
        simp only [all] at parsed
        split at parsed
        · cases parsed
        · cases parsed
          refine ⟨eraseDups_nodup trimmed, ?_⟩
          intro songId
          rw [List.mem_eraseDups, mem_of_mapM all]

theorem bulkModerate_ok
    (answered : bulkModerate desk songIds rawAction adminId writes = (after, .ok response)) :
    ∃ action ids, parseAction rawAction = .ok action ∧ parseSongIds songIds = .ok ids ∧
      after = (moderateEach desk.songs action adminId writes ids desk).1 ∧
        response.action = action ∧ response.requested = ids.length ∧
          response.results = (moderateEach desk.songs action adminId writes ids desk).2 ∧
            response.succeeded = response.results.countP (fun result => result.success) ∧
              response.failed = ids.length - response.succeeded := by
  unfold bulkModerate at answered
  cases parsedAction : parseAction rawAction with
  | error error =>
      simp only [parsedAction] at answered
      cases answered
  | ok action =>
      cases parsedIds : parseSongIds songIds with
      | error error =>
          simp only [parsedAction, parsedIds] at answered
          cases answered
      | ok ids =>
          simp only [parsedAction, parsedIds] at answered
          cases answered
          exact ⟨action, ids, rfl, rfl, rfl, rfl, rfl, rfl, rfl, rfl⟩

theorem bulkModerate_answers (desk : ModerationDesk) {action : BulkModerationAction}
    (parsedAction : parseAction rawAction = .ok action)
    (parsedIds : parseSongIds songIds = .ok ids) (adminId : String)
    (writes : String → ModerationWrites) :
    ∃ response, bulkModerate desk songIds rawAction adminId writes =
        ((moderateEach desk.songs action adminId writes ids desk).1, .ok response) ∧
      response.results = (moderateEach desk.songs action adminId writes ids desk).2 := by
  unfold bulkModerate
  simp only [parsedAction, parsedIds]
  exact ⟨_, rfl, rfl⟩

/-! ### Where the results are faithful -/

theorem results_outcomes {action : BulkModerationAction} {result : BulkModerationResult} :
    result ∈ (moderateEach desk.songs action adminId writes ids desk).2 ↔
      result.songId ∈ ids ∧
        (outcome desk.songs action adminId writes result.songId).result = result := by
  rw [(moderateEach_outcomes ids desk).1, List.mem_map]
  constructor
  · rintro ⟨songId, among, same⟩
    have own : result.songId = songId := by
      rw [← same]
      exact outcome_songId songId
    rw [own]
    exact ⟨among, same⟩
  · rintro ⟨among, same⟩
    exact ⟨result.songId, among, same⟩

section

variable (answered : bulkModerate desk songIds rawAction adminId writes = (after, .ok response))
include answered

theorem bulkModerate_alone {otherAfter : ModerationDesk} {otherWrites : String → ModerationWrites}
    {otherResponse : BulkModerationResponse}
    (otherAnswered : bulkModerate desk songIds rawAction adminId otherWrites =
      (otherAfter, .ok otherResponse)) {songId : String}
    (same : otherWrites songId = writes songId) :
    SameOutcome adminId songId (after, response) (otherAfter, otherResponse) := by
  obtain ⟨action, ids, parsedAction, parsedIds, stored, actions, _requested, results, _counted⟩ :=
    bulkModerate_ok answered
  obtain ⟨action', ids', parsedAction', parsedIds', stored', _actions', _requested', results',
    _counted'⟩ := bulkModerate_ok otherAnswered
  cases Except.ok.inj (parsedAction.symm.trans parsedAction')
  cases Except.ok.inj (parsedIds.symm.trans parsedIds')
  refine ⟨?_, ?_, ?_⟩
  · intro result named
    subst named
    rw [results, results', results_outcomes, results_outcomes, outcome_congr same]
  · rw [stored, stored', moderateEach_row, moderateEach_row, outcome_congr same]
  · simp only [stored, stored', actions]
    rw [(moderateEach_outcomes ids desk).2.2, (moderateEach_outcomes ids desk).2.2,
      List.count_append, List.count_append, count_entries same]

theorem bulkModerate_counts :
    response.requested = response.results.length ∧
      response.succeeded = response.results.countP (fun result => result.success) ∧
        response.failed = response.results.countP fun result => !result.success := by
  obtain ⟨_action, ids, _parsedAction, _parsedIds, _stored, _actions, requested, results,
    succeeded, failed⟩ := bulkModerate_ok answered
  have all : response.results.length = ids.length := by
    rw [results, (moderateEach_outcomes ids _).1, List.length_map]
  have split := List.length_eq_countP_add_countP (fun result : BulkModerationResult =>
    result.success) (l := response.results)
  have failures : response.results.countP (fun result => decide ¬result.success = true) =
      response.results.countP fun result => !result.success := by
    congr 1
    funext result
    cases result.success <;> rfl
  refine ⟨requested.trans all.symm, succeeded, ?_⟩
  rw [failures] at split
  omega

end

/-- A batch is faithful exactly if no entry of the audit log is refused after its song has
been changed. -/
theorem bulkModerate_faithful_iff (desk : ModerationDesk) (songIds : List (Option String))
    (rawAction adminId : String) (writes : String → ModerationWrites) :
    Faithful desk songIds rawAction adminId writes ↔
      LogsFollowSaves desk songIds rawAction adminId writes := by
  constructor
  · intro faithful action ids parsedAction parsedIds songId among song changed found applied saves
      refused
    obtain ⟨response, answered, results⟩ := bulkModerate_answers desk parsedAction parsedIds adminId
      writes
    have row := outcome_row_written found applied saves
    have unsuccessful :
        (outcome desk.songs action adminId writes songId).result.success = false := by
      apply Bool.eq_false_iff.mpr
      intro done
      exact refused ((outcome_success_of_logged row).mp done)
    have member : (outcome desk.songs action adminId writes songId).result ∈ response.results := by
      rw [results, results_outcomes, outcome_songId]
      exact ⟨among, rfl⟩
    have kept := (faithful _ _ answered).1.failed _ member unsuccessful
    rw [outcome_songId, moderateEach_row, if_pos among, row, found] at kept
    exact Option.some.inj kept
  · intro logged after response answered
    refine ⟨?_, fun _otherWrites _otherAfter _otherResponse otherAnswered _songId same =>
      bulkModerate_alone answered otherAnswered same⟩
    obtain ⟨action, ids, parsedAction, parsedIds, stored, actions, _requested, results, _counted⟩ :=
      bulkModerate_ok answered
    obtain ⟨distinct, everyId⟩ := parseSongIds_ok parsedIds
    have named : response.results.map (·.songId) = ids := by
      rw [results, (moderateEach_outcomes ids desk).1, List.map_map]
      exact (List.map_congr_left fun songId _ => outcome_songId songId).trans (List.map_id ids)
    refine ⟨?_, ?_, ?_, ?_, bulkModerate_counts answered⟩
    · rw [named]
      exact distinct
    · rw [named]
      exact everyId
    · intro result member failed
      rw [results, results_outcomes] at member
      obtain ⟨among, own⟩ := member
      rw [stored, moderateEach_row, if_pos among]
      cases written : (outcome desk.songs action adminId writes result.songId).row with
      | none => rfl
      | some changed =>
          obtain ⟨song, found, applied, saves, _same⟩ := outcome_row written
          have refused : (writes result.songId).logFails ≠ none := by
            intro none
            have done := (outcome_success_of_logged written).mpr none
            rw [own, failed] at done
            cases done
          rw [found, logged action ids parsedAction parsedIds _ among song changed found applied
            saves refused]
          rfl
    · intro result member done
      rw [results, results_outcomes] at member
      obtain ⟨among, own⟩ := member
      rw [← own] at done
      obtain ⟨song, changed, found, applied, row, entry⟩ := outcome_success done
      refine ⟨song, changed, found, ?_, ?_,
        ids.filterMap (fun songId => (outcome desk.songs action adminId writes songId).entry),
        ?_, ?_⟩
      · rw [actions]
        exact applied
      · rw [stored, moderateEach_row, if_pos among, row]
        rfl
      · exact stored ▸ (moderateEach_outcomes ids desk).2.2
      · rw [actions]
        exact List.mem_filterMap.mpr ⟨result.songId, among, entry⟩

def oneSongDesk : ModerationDesk where
  songs := [Song.uploaded "s1" "a1" "Title"]
  primary := by decide
  logs := []
  cached := []

/-- The audit entry is refused, everything else goes through. -/
def entryRefused (_songId : String) : ModerationWrites :=
  { now := 5, saveFails := none, redisFails := false, logFails := some .other }

/-- The rejection is reported as failed, but the song has been flagged. -/
theorem rejected_without_entry :
    ¬Faithful oneSongDesk [some "s1"] "reject" "m" entryRefused := by
  intro faithful
  have parsedAction : parseAction "reject" = .ok .reject := by decide +kernel
  have parsedIds : parseSongIds [some "s1"] = .ok ["s1"] := by decide +kernel
  obtain ⟨response, answered, results⟩ :=
    bulkModerate_answers oneSongDesk parsedAction parsedIds "m" entryRefused
  have reported : failure "s1" "Moderation failed" ∈ response.results := by
    rw [results]
    exact List.mem_singleton_self _
  have kept := (faithful _ _ answered).1.failed _ reported rfl
  have flagged := congrArg (Option.map Song.flagged) kept
  revert flagged
  decide +kernel

end SongModerationService

end AudioBlock.Moderation
