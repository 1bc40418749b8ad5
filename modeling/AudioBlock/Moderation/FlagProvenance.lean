/-
Whether dismissing the last pending report of a song lifts its flag exactly when the
threshold alone has demanded it.

The code reads this off the author of the flag: `null` stands for the threshold.
-/
import AudioBlock.Moderation.FlagSources

namespace AudioBlock.Moderation

open AudioBlock.Foundation AudioBlock.Songs

def DismissalsFaithful (state : FlagState) : Prop :=
  ∀ dismissal ∈ state.dismissals, dismissal.lifted = dismissal.byThreshold

instance (state : FlagState) : Decidable (DismissalsFaithful state) :=
  inferInstanceAs (Decidable (∀ dismissal ∈ state.dismissals, _))

def DuplicatesAttributed (state : FlagState) : FlagLabel → Prop
  | .processSongFingerprint songId result =>
      result.isNearDuplicate = true → ∀ song ∈ state.row songId, song.flaggedBy ≠ none
  | _ => True

instance (state : FlagState) (label : FlagLabel) : Decidable (DuplicatesAttributed state label) := by
  unfold DuplicatesAttributed
  split <;> infer_instance

/-! ### What an operation does to a row -/

def sourcesOf (demands : List (String × FlagSource)) (songId : String) : List FlagSource :=
  (demands.filter fun demand => decide (demand.1 = songId)).map Prod.snd

variable {demands : List (String × FlagSource)} {songId : String} {old new : List FlagSource}
  {song : Song} {songs : List Song} {id : String}

theorem mem_sourcesOf {source : FlagSource} :
    source ∈ sourcesOf demands songId ↔ (songId, source) ∈ demands := by
  simp [sourcesOf]

inductive FlagChange (sources : List FlagSource) : Option Song → Option Song → Prop
  | gone (before : Option Song) : FlagChange sources before none
  | kept (before after : Song) (flagged : after.flagged = before.flagged)
      (author : after.flaggedBy = before.flaggedBy) (silent : sources = []) :
      FlagChange sources (some before) (some after)
  | lifted (before : Option Song) (after : Song) (flagged : after.flagged = false)
      (author : after.flaggedBy = none) : FlagChange sources before (some after)
  | attributed (before : Option Song) (after : Song) (flagged : after.flagged = true)
      (author : after.flaggedBy ≠ none)
      (demanding : ∃ source ∈ sources, source ≠ .reportThreshold) :
      FlagChange sources before (some after)
  | threshold (before after : Song) (unflagged : before.flagged = false)
      (flagged : after.flagged = true) (author : after.flaggedBy = none)
      (demanding : sources = [.reportThreshold]) : FlagChange sources (some before) (some after)

/-- The author of a flag is `null` exactly if the threshold alone has demanded it. -/
inductive AuthorTells (sources : List FlagSource) : Option Song → Prop
  | absent (silent : sources = []) : AuthorTells sources none
  | unflagged (song : Song) (flagged : song.flagged = false) (author : song.flaggedBy = none)
      (silent : sources = []) : AuthorTells sources (some song)
  | flagged (song : Song) (flagged : song.flagged = true) (demanded : sources ≠ [])
      (author : song.flaggedBy = none ↔ ∀ source ∈ sources, source = .reportThreshold) :
      AuthorTells sources (some song)

/-- The demands of a flag that is still in force go on with the new ones. -/
def continued (old new : List FlagSource) (after : Option Song) : List FlagSource :=
  if after.any Song.flagged then old ++ new else []

theorem continued_flagged (flagged : song.flagged = true) :
    continued old new (some song) = old ++ new := if_pos flagged

theorem continued_unflagged (flagged : song.flagged = false) : continued old new (some song) = [] :=
  if_neg (ne_true_of_eq_false flagged)

theorem AuthorTells.change {before after : Option Song} (tells : AuthorTells old before)
    (changed : FlagChange new before after) :
    AuthorTells (continued old new after) after := by
  cases changed with
  | gone => exact .absent rfl
  | kept before after flagged author silent =>
      subst silent
      cases tells with
      | unflagged _ down unwritten _ =>
          exact .unflagged after (flagged.trans down) (author.trans unwritten)
            (continued_unflagged (flagged.trans down))
      | flagged _ up demanded written =>
          have same : continued old [] (some after) = old :=
            (continued_flagged (flagged.trans up)).trans (List.append_nil old)
          rw [same]
          exact .flagged after (flagged.trans up) demanded (author ▸ written)
  | lifted before after flagged author =>
      exact .unflagged after flagged author (continued_unflagged flagged)
  | attributed before after flagged author demanding =>
      obtain ⟨source, member, other⟩ := demanding
      have added : source ∈ continued old new (some after) := by
        rw [continued_flagged flagged]
        exact List.mem_append_right old member
      exact .flagged after flagged (List.ne_nil_of_mem added)
        (iff_of_false author fun only => other (only source added))
  | threshold before after unflagged flagged author demanding =>
      cases tells with
      | flagged _ up => exact absurd up (ne_true_of_eq_false unflagged)
      | unflagged _ _ _ silent =>
          have now : continued old new (some after) = [.reportThreshold] := by
            rw [continued_flagged flagged, silent, demanding]
            rfl
          rw [now]
          refine .flagged after flagged (List.cons_ne_nil _ _) (iff_of_true author ?_)
          exact fun source member => List.mem_singleton.mp member

theorem thresholdOnly_iff :
    thresholdOnly demands songId = true ↔ sourcesOf demands songId ≠ [] ∧
      ∀ source ∈ sourcesOf demands songId, source = .reportThreshold := by
  constructor
  · intro only
    obtain ⟨some, all⟩ := (Bool.and_eq_true _ _).mp only
    obtain ⟨⟨id, source⟩, member, own⟩ := List.any_eq_true.mp some
    cases of_decide_eq_true own
    refine ⟨List.ne_nil_of_mem (mem_sourcesOf.mpr member), ?_⟩
    intro other listed
    exact of_decide_eq_true (List.all_eq_true.mp all _ (mem_sourcesOf.mp listed)) rfl
  · rintro ⟨demanded, only⟩
    obtain ⟨source, listed⟩ := List.exists_mem_of_ne_nil _ demanded
    refine (Bool.and_eq_true _ _).mpr ⟨?_, ?_⟩
    · exact List.any_eq_true.mpr ⟨_, mem_sourcesOf.mp listed, decide_eq_true rfl⟩
    · refine List.all_eq_true.mpr ?_
      rintro ⟨id, other⟩ member
      refine decide_eq_true ?_
      rintro rfl
      exact only other (mem_sourcesOf.mpr member)

theorem AuthorTells.thresholdOnly {row : Option Song}
    (tells : AuthorTells (sourcesOf demands songId) row) :
    thresholdOnly demands songId =
      row.any fun song => song.flagged && decide (song.flaggedBy = none) := by
  rw [Bool.eq_iff_iff, thresholdOnly_iff]
  cases tells with
  | absent silent => exact iff_of_false (fun only => only.1 silent) Bool.false_ne_true
  | unflagged song flagged _ silent =>
      refine iff_of_false (fun only => only.1 silent) ?_
      rw [Option.any_some, flagged]
      exact Bool.false_ne_true
  | flagged song flagged demanded author =>
      rw [Option.any_some, flagged, Bool.true_and, decide_eq_true_eq, author]
      exact and_iff_right demanded

theorem FlagChange.refl (row : Option Song) : FlagChange [] row row := by
  cases row with
  | none => exact .gone none
  | some song => exact .kept song song rfl rfl rfl

theorem saveRow_change {saved : Song} {sources : List FlagSource}
    (found : findRow Song.id id songs = some song)
    (own : FlagChange sources (some song) (some saved)) (named : saved.id = id) (songId : String) :
    FlagChange (if songId = id then sources else []) (findRow Song.id songId songs)
      (findRow Song.id songId (saveRow Song.id saved songs)) := by
  by_cases same : songId = id
  · subst same
    rw [if_pos rfl, findRow_saveRow_found found, if_pos named.symm, found]
    exact own
  · rw [if_neg same, findRow_saveRow_other songs (named ▸ same)]
    exact .refl _

theorem sourcesOf_one (id songId : String) (source : FlagSource) :
    sourcesOf [(id, source)] songId = if songId = id then [source] else [] := by
  by_cases same : songId = id
  · simp [sourcesOf, same]
  · simp [sourcesOf, Ne.symm same, same]

theorem sourcesOf_none (songId : String) : sourcesOf [] songId = [] := rfl

theorem flaggedSong_change (source : FlagSource) (other : source ≠ .reportThreshold)
    (found : findRow Song.id id songs = some song) (adminId : String) (now : Nat)
    (reason : Option String) (songId : String) :
    FlagChange (sourcesOf [(id, source)] songId) (findRow Song.id songId songs)
      (findRow Song.id songId (saveRow Song.id (flaggedSong song adminId now reason) songs)) := by
  rw [sourcesOf_one]
  have own : FlagChange [source] (some song) (some (flaggedSong song adminId now reason)) :=
    .attributed _ _ rfl (Option.some_ne_none adminId) ⟨source, List.mem_singleton_self source, other⟩
  exact saveRow_change found own (findRow_mem found).2 songId

theorem silent_change {saved : Song} (found : findRow Song.id id songs = some song)
    (own : FlagChange [] (some song) (some saved)) (named : saved.id = id) (songId : String) :
    FlagChange [] (findRow Song.id songId songs)
      (findRow Song.id songId (saveRow Song.id saved songs)) := by
  have changed := saveRow_change found own named songId
  rwa [ite_self] at changed

section Operations

variable {threshold : Nat} {state after : FlagState}

variable {reporting : ReportState} {songId : String} {now : Nat} {tables saved : ModerationState}
  {adminId : String} {label : FlagLabel}

theorem submitReport_change {saved : ReportState} {drawn reporterId : String}
    {input : SubmitReportInput} {tripped : Bool}
    (submitted : submitReport threshold reporting drawn songId reporterId input now =
      .ok (saved, tripped)) (other : String) :
    FlagChange (sourcesOf (if tripped then [(songId, .reportThreshold)] else []) other)
      (findRow Song.id other reporting.songs) (findRow Song.id other saved.songs) := by
  unfold submitReport at submitted
  obtain ⟨reason, _, submitted⟩ := ok_of_bind submitted
  split at submitted
  · cases submitted
  rename_i song found
  split at submitted
  · cases submitted
  unfold applyThreshold at submitted
  dsimp only at submitted
  split at submitted
  · cases submitted
    exact .refl _
  · rename_i reached
    cases submitted
    have unflagged : song.flagged = false := Bool.eq_false_iff.mpr fun up => reached (Or.inl up)
    have own (pending : Nat) : FlagChange [.reportThreshold] (some song)
        (some (autoFlaggedSong song pending now)) := .threshold _ _ unflagged rfl rfl rfl
    rw [if_pos rfl, sourcesOf_one]
    exact saveRow_change found (own _) (findRow_mem found).2 other

theorem applyResolutionToSong_change (reporting : ReportState) (songId moderatorId : String)
    (action : ReportAction) (now : Nat) (other : String) :
    FlagChange (sourcesOf (if setsFlag action then [(songId, .resolution)] else []) other)
      (findRow Song.id other reporting.songs)
      (findRow Song.id other
        (applyResolutionToSong reporting songId moderatorId action now).songs) := by
  unfold applyResolutionToSong
  cases found : findRow Song.id songId reporting.songs with
  | none =>
      dsimp only
      by_cases same : other = songId
      · rw [same, found]
        exact .gone none
      · split
        · rw [sourcesOf_one, if_neg same]
          exact .refl _
        · exact .refl _
  | some song =>
      have named := (findRow_mem found).2
      by_cases sets : action = .songFlagged ∨ action = .songRemoved
      · have demands : setsFlag action = true := decide_eq_true sets
        rw [demands, if_pos rfl]
        dsimp only
        rw [if_pos sets]
        exact flaggedSong_change .resolution (by decide) found moderatorId now _ other
      · have silent : setsFlag action = false := decide_eq_false sets
        rw [silent, if_neg Bool.false_ne_true, sourcesOf_none]
        dsimp only
        rw [if_neg sets]
        split
        · rename_i lifts
          exact silent_change found (.lifted _ (liftedSong song) rfl lifts.2.2) named other
        · exact .refl _

theorem resolveReport_change {saved : ReportState} {reportId moderatorId : String}
    {input : ResolveReportInput} {report : ContentReport}
    (resolved : resolveReport reporting reportId moderatorId input now = .ok (saved, report))
    (other : String) :
    FlagChange
      (sourcesOf (if report.actionTaken.any setsFlag then [(report.songId, .resolution)] else [])
        other)
      (findRow Song.id other reporting.songs) (findRow Song.id other saved.songs) := by
  unfold resolveReport at resolved
  obtain ⟨action, _, resolved⟩ := ok_of_bind resolved
  split at resolved
  · cases resolved
  rename_i settling _
  split at resolved
  · cases resolved
  cases resolved
  exact applyResolutionToSong_change
    { reporting with
      reports := saveRow ContentReport.id
        (settling.settled moderatorId action input.resolutionNote now) reporting.reports }
    settling.songId moderatorId action now other

theorem reviewRequest_change {takedownId : String} {action : ReviewAction}
    {reviewNotes : Option String}
    (reviewed : reviewRequest tables takedownId adminId action reviewNotes now = .ok saved)
    (other : String) :
    FlagChange
      (sourcesOf (moderationDemands tables
        (.reviewRequest takedownId adminId action reviewNotes now)) other)
      (findRow Song.id other tables.songs) (findRow Song.id other saved.songs) := by
  have accepted := reviewed
  unfold reviewRequest at reviewed
  split at reviewed
  · cases reviewed
  rename_i takedown found
  split at reviewed
  · cases reviewed
  rename_i song loaded
  have named := (findRow_mem loaded).2
  unfold reviewTakedown at reviewed
  split at reviewed
  · split at reviewed
    · cases reviewed
    cases reviewed
    have demands : moderationDemands tables
        (.reviewRequest takedownId adminId .approve reviewNotes now) =
          [(takedown.songId, .takedown)] := by
      simp only [moderationDemands, accepted, found, Option.map_some, Option.toList_some]
    rw [demands]
    exact flaggedSong_change .takedown (by decide) loaded adminId now _ other
  · split at reviewed
    · cases reviewed
    cases reviewed
    exact .refl _
  · split at reviewed
    · cases reviewed
    cases reviewed
    have own : FlagChange [] (some song) (some (takedown.restored song)) := by
      unfold TakedownRequest.restored
      split
      · split
        · exact .kept _ _ rfl rfl rfl
        · exact .kept _ _ rfl rfl rfl
      · exact .lifted _ _ rfl rfl
    exact silent_change loaded own ((restored_id takedown song).trans named) other

theorem flagSong_change {reason : Option String}
    (flagged : flagSong tables songId adminId reason now = .ok saved) (other : String) :
    FlagChange
      (sourcesOf (moderationDemands tables (.flagSong songId adminId reason now)) other)
      (findRow Song.id other tables.songs) (findRow Song.id other saved.songs) := by
  have demands : moderationDemands tables (.flagSong songId adminId reason now) =
      [(songId, .moderator)] := by
    simp only [moderationDemands, flagged]
  rw [demands]
  unfold flagSong at flagged
  split at flagged
  · cases flagged
  rename_i song found
  split at flagged
  · cases flagged
  cases flagged
  exact flaggedSong_change .moderator (by decide) found adminId now _ other

theorem unflagSong_change (unflagged : unflagSong tables songId = .ok saved) (other : String) :
    FlagChange [] (findRow Song.id other tables.songs) (findRow Song.id other saved.songs) := by
  unfold unflagSong at unflagged
  split at unflagged
  · cases unflagged
  rename_i song found
  split at unflagged
  · cases unflagged
    exact silent_change found (.lifted _ (unflaggedSong song) rfl rfl) (findRow_mem found).2 other
  · cases unflagged

theorem foldl_saveSong_songs (rows : List Song) (tables : ModerationState) :
    (rows.foldl ModerationState.saveSong tables).songs =
      rows.foldl (fun songs row => saveRow Song.id row songs) tables.songs :=
  (List.foldl_hom ModerationState.songs fun _ _ => rfl).symm

theorem bulkRow_flag {songs : List Song} {action : BulkModerationAction} {row : Song}
    (saves : bulkRow songs action adminId now songId = some row) :
    (action = .approve ∧ row.flagged = false ∧ row.flaggedBy = none) ∨
      (action ≠ .approve ∧ row.flagged = true ∧ row.flaggedBy = some adminId) := by
  obtain ⟨song, found, applied⟩ := Option.bind_eq_some_iff.mp saves
  cases action with
  | approve =>
      by_cases processing : song.status = .processing
      · rw [applyAction, if_pos processing] at applied
        cases applied
      · rw [applyAction, if_neg processing] at applied
        cases applied
        exact Or.inl ⟨rfl, rfl, rfl⟩
  | reject | flagForReview =>
      cases applied
      exact Or.inr ⟨by decide, rfl, rfl⟩

theorem bulkModerate_change (tables : ModerationState) (songIds : List String)
    (action : BulkModerationAction) (adminId : String) (now : Nat) (other : String) :
    FlagChange
      (sourcesOf (moderationDemands tables (.bulkModerate songIds action adminId now)) other)
      (findRow Song.id other tables.songs)
      (findRow Song.id other (bulkModerate tables songIds action adminId now).songs) := by
  unfold bulkModerate
  rw [foldl_saveSong_songs]
  rcases findRow_foldl_saveRow Song.id _ tables.songs other with
    ⟨none, same⟩ | ⟨row, member, named, saved⟩
  · have silent : sourcesOf
        (moderationDemands tables (.bulkModerate songIds action adminId now)) other = [] := by
      refine List.eq_nil_iff_forall_not_mem.mpr ?_
      intro source demanding
      have listed := mem_sourcesOf.mp demanding
      unfold moderationDemands at listed
      dsimp only at listed
      split at listed
      · cases listed
      · obtain ⟨row, member, same⟩ := List.mem_map.mp listed
        exact none row member (congrArg Prod.fst same)
    rw [same, silent]
    exact .refl _
  · obtain ⟨songId, _, saves⟩ := List.mem_filterMap.mp member
    rw [saved]
    cases findRow Song.id other tables.songs with
    | none => exact .gone none
    | some song =>
        rcases bulkRow_flag saves with ⟨_, flagged, author⟩ | ⟨sets, flagged, author⟩
        · exact .lifted _ _ flagged author
        · have listed : (other, .bulkModeration) ∈
              moderationDemands tables (.bulkModerate songIds action adminId now) := by
            unfold moderationDemands
            dsimp only
            rw [if_neg sets]
            exact List.mem_map.mpr ⟨row, member, congrArg (·, FlagSource.bulkModeration) named⟩
          exact .attributed _ _ flagged (author ▸ Option.some_ne_none adminId)
            ⟨_, mem_sourcesOf.mpr listed, by decide⟩

theorem moderationStep_change {label : ModerationLabel}
    (moved : moderationStep tables label = some saved) (other : String) :
    FlagChange (sourcesOf (moderationDemands tables label) other)
      (findRow Song.id other tables.songs) (findRow Song.id other saved.songs) := by
  cases label with
  | createRequest drawn requestedBy songId reason description evidenceUrl =>
      obtain ⟨_, same⟩ := Option.ite_none_left_eq_some.mp moved
      cases same
      refine commit_keeps (fun (saved : ModerationState) => FlagChange _ _ (findRow Song.id other saved.songs))
        (.refl _) ?_
      intro saved created
      unfold createRequest at created
      split at created
      · cases created
      · cases created
        exact .refl _
  | reviewRequest takedownId adminId action reviewNotes now =>
      cases moved
      cases reviewed : reviewRequest tables takedownId adminId action reviewNotes now with
      | ok saved => exact reviewRequest_change reviewed other
      | error failure =>
          have silent : moderationDemands tables
              (.reviewRequest takedownId adminId action reviewNotes now) = [] := by
            cases action with
            | approve => simp only [moderationDemands, reviewed]
            | reject | reverse => rfl
          rw [silent]
          exact .refl _
  | flagSong songId adminId reason now =>
      cases moved
      cases flagged : flagSong tables songId adminId reason now with
      | ok saved => exact flagSong_change flagged other
      | error failure =>
          have silent : moderationDemands tables (.flagSong songId adminId reason now) = [] := by
            simp only [moderationDemands, flagged]
          rw [silent]
          exact .refl _
  | unflagSong songId =>
      cases moved
      exact commit_keeps (fun (saved : ModerationState) => FlagChange _ _ (findRow Song.id other saved.songs))
        (.refl _) fun saved unflagged => unflagSong_change unflagged other
  | bulkModerate songIds action adminId now =>
      cases moved
      exact bulkModerate_change tables songIds action adminId now other

theorem deleteSongRow_change {songs saved : List Song} {id : String} {requester : SongRequester}
    (deleted : deleteSongRow songs id requester now = .ok saved) (other : String) :
    FlagChange (sourcesOf [(id, .owner)] other) (findRow Song.id other songs)
      (findRow Song.id other saved) := by
  unfold deleteSongRow at deleted
  cases removed : Songs.deleteSong ⟨⟨songs, []⟩, [], [], []⟩ id requester now with
  | error failure =>
      rw [removed] at deleted
      cases deleted
  | ok state =>
      rw [removed] at deleted
      cases deleted
      unfold Songs.deleteSong at removed
      obtain ⟨song, got, removed⟩ := ok_of_bind removed
      obtain ⟨_, _, removed⟩ := ok_of_bind removed
      have found := getSong_found got
      split at removed
      · cases removed
        exact flaggedSong_change .owner (by decide) found requester.id now _ other
      · cases removed
        change FlagChange _ _ (findRow Song.id other (removeRow Song.id id songs))
        by_cases same : other = id
        · rw [same, findRow_removeRow_own]
          exact .gone _
        · rw [sourcesOf_one, if_neg same, findRow_removeRow_other songs same]
          exact .refl _

theorem processSongFingerprint_change {result : DuplicateCheckResult}
    (permitted : result.isNearDuplicate = true →
      ∀ song ∈ findRow Song.id songId tables.songs, song.flaggedBy ≠ none)
    (processed : processSongFingerprint tables songId result = .ok saved) (other : String) :
    FlagChange (sourcesOf (if result.isNearDuplicate then [(songId, .nearDuplicate)] else []) other)
      (findRow Song.id other tables.songs) (findRow Song.id other saved.songs) := by
  unfold processSongFingerprint at processed
  split at processed
  · cases processed
  rename_i song found
  cases processed
  have named := (findRow_mem found).2
  by_cases duplicate : result.isNearDuplicate = true
  · rw [if_pos duplicate, sourcesOf_one]
    have own : FlagChange [.nearDuplicate] (some song) (some (fingerprintedSong song result)) := by
      unfold fingerprintedSong
      rw [if_pos duplicate]
      exact .attributed _ _ rfl (permitted duplicate song found)
        ⟨_, List.mem_singleton_self _, by decide⟩
    have same : (fingerprintedSong song result).id = songId := by
      unfold fingerprintedSong
      rw [if_pos duplicate]
      exact named
    exact saveRow_change found own same other
  · rw [if_neg duplicate]
    have same : fingerprintedSong song result = song := if_neg duplicate
    rw [same]
    exact silent_change found (.kept song song rfl rfl rfl) named other

theorem operate_change (permitted : DuplicatesAttributed state label)
    (operated : operate threshold state label = some after) (songId : String) :
    FlagChange (sourcesOf (demanded threshold state label) songId) (state.row songId)
      (after.row songId) := by
  cases label with
  | submitReport drawn reportedId reporterId input now =>
      obtain ⟨_, same⟩ := Option.ite_none_left_eq_some.mp operated
      cases submitted : submitReport threshold state.reporting drawn reportedId reporterId input now with
      | error failure =>
          rw [submitted] at same
          cases same
          simp only [demanded, submitted]
          exact .refl _
      | ok answer =>
          obtain ⟨saved, tripped⟩ := answer
          rw [submitted] at same
          cases same
          have changed := submitReport_change submitted songId
          cases tripped with
          | true | false =>
              simp only [demanded, submitted]
              exact changed
  | resolveReport reportId moderatorId input now =>
      cases operated
      cases resolved : resolveReport state.reporting reportId moderatorId input now with
      | error failure =>
          simp only [demanded, resolved]
          exact .refl _
      | ok answer =>
          simp only [demanded, resolved]
          exact resolveReport_change resolved songId
  | moderate label =>
      obtain ⟨tables, moved, rfl⟩ := Option.map_eq_some_iff.mp operated
      exact moderationStep_change moved songId
  | deleteSong id requester now =>
      cases operated
      cases deleted : deleteSongRow state.tables.songs id requester now with
      | error failure =>
          simp only [demanded, deleted]
          exact .refl _
      | ok songs =>
          simp only [demanded, deleted]
          exact deleteSongRow_change deleted songId
  | processSongFingerprint checkedId result =>
      cases operated
      cases processed : processSongFingerprint state.tables checkedId result with
      | error failure =>
          unfold processSongFingerprint at processed
          split at processed
          · rename_i missing
            by_cases same : songId = checkedId
            · have gone : state.row songId = none := same ▸ missing
              change FlagChange _ _ (state.row songId)
              rw [gone]
              exact .gone none
            · simp only [demanded]
              split
              · rw [sourcesOf_one, if_neg same]
                exact .refl _
              · exact .refl _
          · cases processed
      | ok tables => exact processSongFingerprint_change permitted processed songId

/-! ### The runs -/

structure FlagInvariant (state : FlagState) : Prop where
  tells : ∀ songId, AuthorTells (sourcesOf state.demands songId) (state.row songId)
  faithful : DismissalsFaithful state

theorem sourcesOf_filter (demands : List (String × FlagSource)) (state : FlagState)
    (songId : String) :
    sourcesOf (demands.filter fun demand => flaggedRow state demand.1) songId =
      if flaggedRow state songId then sourcesOf demands songId else [] := by
  unfold sourcesOf
  rw [List.filter_filter]
  by_cases flagged : flaggedRow state songId = true
  · rw [if_pos flagged]
    refine congrArg (List.map Prod.snd) (List.filter_congr ?_)
    intro demand _
    by_cases own : demand.1 = songId
    · rw [own, flagged, Bool.and_true]
    · rw [decide_eq_false own, Bool.false_and]
  · rw [if_neg flagged]
    refine List.map_eq_nil_iff.mpr (List.filter_eq_nil_iff.mpr ?_)
    intro demand _ both
    obtain ⟨own, inForce⟩ := (Bool.and_eq_true _ _).mp both
    exact flagged (of_decide_eq_true own ▸ inForce)

theorem sourcesOf_append (one other : List (String × FlagSource)) (songId : String) :
    sourcesOf (one ++ other) songId = sourcesOf one songId ++ sourcesOf other songId := by
  unfold sourcesOf
  rw [List.filter_append, List.map_append]

theorem applyResolutionToSong_reports (reporting : ReportState) (songId moderatorId : String)
    (action : ReportAction) (now : Nat) :
    (applyResolutionToSong reporting songId moderatorId action now).reports = reporting.reports := by
  unfold applyResolutionToSong
  split
  · rfl
  · split
    · rfl
    · split
      · rfl
      · rfl

theorem applyResolutionToSong_lifts {action : ReportAction} (moderatorId : String) (now : Nat)
    (leaves : setsFlag action = false) (last : countPendingForSong reporting.reports songId = 0) :
    findRow Song.id songId (applyResolutionToSong reporting songId moderatorId action now).songs =
      (findRow Song.id songId reporting.songs).map fun song =>
        if song.flagged = true ∧ song.flaggedBy = none then liftedSong song else song := by
  have keeps : ¬(action = .songFlagged ∨ action = .songRemoved) := of_decide_eq_false leaves
  unfold applyResolutionToSong
  cases found : findRow Song.id songId reporting.songs with
  | none => exact found
  | some song =>
      dsimp only
      rw [if_neg keeps, Option.map_some]
      by_cases lifts : song.flagged = true ∧ song.flaggedBy = none
      · have named : songId = (liftedSong song).id := (findRow_mem found).2.symm
        have saved := findRow_saveRow_found found (liftedSong song)
        rw [if_pos ⟨last, lifts⟩, if_pos lifts]
        rw [if_pos named] at saved
        exact saved
      · rw [if_neg fun all => lifts all.2, if_neg lifts]
        exact found

theorem dismissedSong_lifts (dismissed : dismissedSong state label = some songId)
    (operated : operate threshold state label = some after) :
    (flaggedRow state songId && !flaggedRow after songId) =
      (state.row songId).any fun song => song.flagged && decide (song.flaggedBy = none) := by
  cases label with
  | submitReport | moderate | deleteSong | processSongFingerprint => cases dismissed
  | resolveReport reportId moderatorId input now =>
      cases operated
      cases resolved : resolveReport state.reporting reportId moderatorId input now with
      | error failure =>
          simp only [dismissedSong, resolved] at dismissed
          cases dismissed
      | ok answer =>
          obtain ⟨saved, report⟩ := answer
          simp only [dismissedSong, resolved] at dismissed
          obtain ⟨⟨leaves, last⟩, same⟩ := Option.ite_none_right_eq_some.mp dismissed
          cases same
          have row : (state.reported saved).row report.songId =
              (state.row report.songId).map fun song =>
                if song.flagged = true ∧ song.flaggedBy = none then liftedSong song else song := by
            unfold resolveReport at resolved
            obtain ⟨action, _, resolved⟩ := ok_of_bind resolved
            split at resolved
            · cases resolved
            split at resolved
            · cases resolved
            cases resolved
            rw [applyResolutionToSong_reports] at last
            exact applyResolutionToSong_lifts moderatorId now leaves last
          change (flaggedRow state report.songId && !((state.reported saved).row report.songId).any
            Song.flagged) = _
          rw [row]
          unfold flaggedRow
          cases state.row report.songId with
          | none => rfl
          | some song =>
              cases flagged : song.flagged with
              | true =>
                  by_cases author : song.flaggedBy = none
                  · simp [flagged, author, liftedSong]
                  · simp [flagged, author]
              | false => simp [flagged]

theorem flagStep_invariant (invariant : FlagInvariant state)
    (permitted : DuplicatesAttributed state label)
    (moved : flagStep threshold state label = some after) : FlagInvariant after := by
  obtain ⟨left, operated, rfl⟩ := Option.map_eq_some_iff.mp moved
  constructor
  · intro songId
    have changed := (invariant.tells songId).change (operate_change permitted operated songId)
    unfold continued at changed
    rw [← sourcesOf_append] at changed
    exact (sourcesOf_filter _ left songId).symm ▸ changed
  · intro dismissal member
    rcases List.mem_append.mp member with before | new
    · exact invariant.faithful dismissal before
    · obtain ⟨songId, dismissed, rfl⟩ := Option.map_eq_some_iff.mp (Option.mem_toList.mp new)
      exact (dismissedSong_lifts dismissed operated).trans (invariant.tells songId).thresholdOnly.symm

end Operations

/-- In every run in which a near-duplicate is only found of songs whose flag has an author,
a dismissal of the last pending report lifts the flag exactly when the threshold alone has
demanded it. -/
theorem flagMachine_dismissals_faithful {threshold : Nat} {before after : FlagState}
    {labels : List FlagLabel} (initially : (flagMachine threshold).initial before)
    (permitted : (flagMachine threshold).Permits DuplicatesAttributed before labels)
    (ran : (flagMachine threshold).run before labels = some after) : DismissalsFaithful after := by
  obtain ⟨unflagged, demands, dismissals⟩ := initially
  have start : FlagInvariant before := by
    constructor
    · intro songId
      rw [demands, sourcesOf_none]
      cases found : before.row songId with
      | none => exact .absent rfl
      | some song =>
          obtain ⟨flagged, author⟩ := unflagged song (findRow_mem found).1
          exact .unflagged song flagged author rfl
    · intro dismissal member
      rw [dismissals] at member
      cases member
  exact (Machine.run_preserves FlagInvariant
    (fun _ _ _ invariant allowed moved => flagStep_invariant invariant allowed moved)
    labels start permitted ran).faithful

/-! One song that two listeners report. -/

def unreported : FlagState :=
  { tables := publishedState, reports := [], demands := [], dismissals := [] }

def reportedBy (drawn reporterId : String) : FlagLabel :=
  .submitReport drawn "s1" reporterId { reason := "spam", description := none, aiConsent := false } 10

def resolved (reportId actionTaken : String) : FlagLabel :=
  .resolveReport reportId "moderator" { actionTaken := actionTaken, resolutionNote := none } 20

def nearDuplicate : FlagLabel :=
  .processSongFingerprint "s1" { isNearDuplicate := true, matchedSongId := some "s2", percent := 97 }

def attributedRun : List FlagLabel :=
  [reportedBy "r1" "u1", resolved "r1" "dismissed",
    .moderate (.flagSong "s1" "admin" none 30), nearDuplicate,
    reportedBy "r2" "u2", resolved "r2" "dismissed"]

def dismissalsOf (threshold : Nat) (labels : List FlagLabel) : Option (List Dismissal) :=
  ((flagMachine threshold).run unreported labels).map FlagState.dismissals

theorem unreported_initial (threshold : Nat) : (flagMachine threshold).initial unreported := by
  refine ⟨?_, rfl, rfl⟩
  intro song member
  cases List.mem_singleton.mp member
  exact ⟨rfl, rfl⟩

theorem flagMachine_dismissals_faithful_attributed :
    ∃ after, (flagMachine 1).run unreported attributedRun = some after ∧
      DismissalsFaithful after ∧ after.dismissals = [⟨true, true⟩, ⟨false, false⟩] := by
  have permitted : (flagMachine 1).Permits DuplicatesAttributed unreported attributedRun := by
    decide +kernel
  have seen : dismissalsOf 1 attributedRun = some [⟨true, true⟩, ⟨false, false⟩] := by
    decide +kernel
  obtain ⟨after, ran, listed⟩ := Option.map_eq_some_iff.mp seen
  exact ⟨after, ran, flagMachine_dismissals_faithful (unreported_initial 1) permitted ran, listed⟩

def duplicateRun : List FlagLabel :=
  [reportedBy "r1" "u1", nearDuplicate, resolved "r1" "dismissed"]

/-- With a threshold of one, the check demands the flag of the threshold as well. -/
theorem flagMachine_dismissals_unfaithful :
    (dismissalsOf 3 duplicateRun = some [⟨true, false⟩] ∧
      dismissalsOf 1 duplicateRun = some [⟨true, false⟩]) ∧
      ∃ after, (flagMachine 3).run unreported duplicateRun = some after ∧
        ¬DismissalsFaithful after := by
  refine ⟨by decide +kernel, ?_⟩
  have lifted : ((flagMachine 3).run unreported duplicateRun).any
      (fun after => decide (¬DismissalsFaithful after)) = true := by decide +kernel
  obtain ⟨after, ran, unfaithful⟩ := (Option.any_eq_true _ _).mp lifted
  exact ⟨after, ran, of_decide_eq_true unfaithful⟩

end AudioBlock.Moderation
