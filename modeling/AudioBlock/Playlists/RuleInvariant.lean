/-
The rules of playlists: `create`, `update` and `assertValidRule` of
src/services/PlaylistService.ts, one request after another.

A field of a request that has the wrong JavaScript type is `none`, and so is one that is
missing; a rule is missing, `null` or given.  Collaborators change between requests.
-/
import AudioBlock.Foundation.Text
import AudioBlock.Playlists.PlaylistService

namespace AudioBlock.Playlists

open AudioBlock.Foundation AudioBlock.Songs

structure PlaylistRule where
  tags : Option (List String)
  genres : Option (List String)
  savedWithinDays : Option Rat
  deriving DecidableEq

structure StoredPlaylist extends Playlist where
  name : String
  description : Option String
  isPublic : Bool
  coverImageUrl : Option String
  rule : Option PlaylistRule
  deriving DecidableEq

structure CreatePlaylistInput where
  name : Option String
  description : Option String
  isPublic : Option Bool
  coverImageUrl : Option String
  isRuleBased : Option Bool
  rule : Option (Option PlaylistRule)
  deriving DecidableEq

structure UpdatePlaylistInput where
  name : Option String
  description : Option String
  isPublic : Option Bool
  coverImageUrl : Option String
  isRuleBased : Option Bool
  rule : Option (Option PlaylistRule)
  deriving DecidableEq

structure PlaylistStore where
  playlists : List StoredPlaylist
  collaborators : List PlaylistCollaborator
  deriving DecidableEq

def trimmed (text : String) : String := String.ofList (trim text.toList)

/-- `text || undefined`. -/
def filled (text : Option String) : Option String := text.filter fun text => decide (text ≠ "")

def PlaylistRule.hasCriteria (rule : PlaylistRule) : Bool :=
  rule.tags.any (fun tags => decide (0 < tags.length)) ||
    rule.genres.any (fun genres => decide (0 < genres.length)) ||
    rule.savedWithinDays.any fun days => decide (0 < days)

def noRule : PlaylistRule := { tags := none, genres := none, savedWithinDays := none }

def assertValidRule (isRuleBased : Bool) (rule : Option (Option PlaylistRule)) :
    Except AppError Unit :=
  if isRuleBased then
    let given := rule.join.getD noRule
    if !given.hasCriteria then
      .error (.validation
        "A rule-based playlist requires at least one criterion (tags, genres, or savedWithinDays)"
        "PLAYLIST_RULE_EMPTY")
    else if given.savedWithinDays.any fun days => decide (days.den ≠ 1 ∨ days ≤ 0) then
      .error (.validation "savedWithinDays must be a positive integer" "PLAYLIST_RULE_INVALID")
    else .ok ()
  else .ok ()

namespace PlaylistStore

variable (store : PlaylistStore)

def isEditorCollaborator (playlistId userId : String) : Bool :=
  store.collaborators.any fun collaborator =>
    decide (collaborator.playlistId = playlistId ∧ collaborator.userId = userId ∧
      collaborator.role = .editor)

def getEditablePlaylist (playlistId userId : String) : Except AppError StoredPlaylist :=
  match findRow (fun row : StoredPlaylist => row.id) playlistId store.playlists with
  | none => .error (.notFound "Playlist not found" "PLAYLIST_NOT_FOUND")
  | some playlist =>
      if playlist.userId = userId ∨ store.isEditorCollaborator playlistId userId = true then
        .ok playlist
      else
        .error (.authorization "You do not have edit access to this playlist" "NOT_PLAYLIST_EDITOR")

def create (drawn userId : String) (input : CreatePlaylistInput) : Except AppError StoredPlaylist :=
  match (input.name.map trimmed).filter fun name => decide (name ≠ "") with
  | none => .error (.validation "Playlist name is required" "PLAYLIST_NAME_REQUIRED")
  | some name =>
      let isRuleBased := decide (input.isRuleBased = some true)
      match assertValidRule isRuleBased input.rule with
      | .error thrown => .error thrown
      | .ok () =>
          .ok
            { id := drawn
              userId
              name
              description := filled (input.description.map trimmed)
              isPublic := input.isPublic.getD true
              coverImageUrl := filled input.coverImageUrl
              isRuleBased
              rule := if isRuleBased then input.rule.join else none }

/-- `if (input.isRuleBased !== undefined) … else if (input.rule !== undefined) …`. -/
def updateRule (playlist : StoredPlaylist) (input : UpdatePlaylistInput) :
    Except AppError StoredPlaylist :=
  match input.isRuleBased with
  | some isRuleBased =>
      match assertValidRule isRuleBased input.rule with
      | .error thrown => .error thrown
      | .ok () =>
          .ok
            { playlist with
              isRuleBased
              rule := if isRuleBased then input.rule.getD playlist.rule else none }
  | none =>
      match input.rule with
      | none => .ok playlist
      | some rule =>
          match assertValidRule playlist.isRuleBased (some rule) with
          | .error thrown => .error thrown
          | .ok () => .ok { playlist with rule }

def update (playlistId userId : String) (input : UpdatePlaylistInput) :
    Except AppError StoredPlaylist :=
  match store.getEditablePlaylist playlistId userId with
  | .error thrown => .error thrown
  | .ok playlist =>
      if input.name.any fun name => decide (trimmed name = "") then
        .error (.validation "Playlist name cannot be empty" "PLAYLIST_NAME_REQUIRED")
      else
        updateRule
          { playlist with
            name := (input.name.map trimmed).getD playlist.name
            description := (input.description.map trimmed).or playlist.description
            isPublic := input.isPublic.getD playlist.isPublic
            coverImageUrl := input.coverImageUrl.or playlist.coverImageUrl } input

end PlaylistStore

/-! ### The system -/

inductive PlaylistRequest
  | create (drawn userId : String) (input : CreatePlaylistInput)
  | update (playlistId userId : String) (input : UpdatePlaylistInput)
  | share (collaborators : List PlaylistCollaborator)
  deriving DecidableEq

/-- A request with whether the database carries out its save. -/
structure PlaylistAttempt where
  request : PlaylistRequest
  saves : Bool
  deriving DecidableEq

/-- What a request is to save, and nothing where it throws. -/
def savedRow (store : PlaylistStore) : PlaylistRequest → Option StoredPlaylist
  | .create drawn userId input => (PlaylistStore.create drawn userId input).toOption
  | .update playlistId userId input => (store.update playlistId userId input).toOption
  | .share _ => none

def attemptStep (store : PlaylistStore) (attempt : PlaylistAttempt) : Option PlaylistStore :=
  match attempt.request with
  | .share collaborators => some { store with collaborators }
  | request =>
      match savedRow store request with
      | some row =>
          if attempt.saves then
            some { store with
              playlists := storeRow (fun row : StoredPlaylist => row.id) row store.playlists }
          else some store
      | none => some store

def ruleMachine : Machine PlaylistStore PlaylistAttempt where
  initial store := store.playlists = []
  step := attemptStep

/-!
### Requests that keep the rules

Which requests keep every rule-based playlist with a valid rule and every manual one without.

A request that names the kind of the playlist settles the rule with it.  One that names only
a rule leaves the kind as it is and checks the rule against it, but a manual playlist has
nothing to check and takes the rule all the same.
-/

structure PlaylistRule.Valid (rule : PlaylistRule) : Prop where
  criterion : (∃ tags ∈ rule.tags, tags ≠ []) ∨ (∃ genres ∈ rule.genres, genres ≠ []) ∨
    ∃ days ∈ rule.savedWithinDays, 0 < days
  days : ∀ days ∈ rule.savedWithinDays, days.den = 1 ∧ 0 < days

structure RuleKept (playlist : StoredPlaylist) : Prop where
  ruled : playlist.isRuleBased = true → ∃ rule ∈ playlist.rule, rule.Valid
  manual : playlist.isRuleBased = false → playlist.rule = none

theorem hasCriteria_iff (rule : PlaylistRule) :
    rule.hasCriteria = true ↔ (∃ tags ∈ rule.tags, tags ≠ []) ∨ (∃ genres ∈ rule.genres, genres ≠ []) ∨
      ∃ days ∈ rule.savedWithinDays, 0 < days := by
  simp [PlaylistRule.hasCriteria, Option.any_eq_true, List.length_pos_iff, or_assoc]

theorem assertValidRule_ok {rule : Option (Option PlaylistRule)}
    (passes : assertValidRule true rule = .ok ()) :
    ∃ given, rule = some (some given) ∧ given.Valid := by
  unfold assertValidRule at passes
  rw [if_pos rfl] at passes
  match rule with
  | none => cases passes
  | some none => cases passes
  | some (some given) =>
      simp only [Option.join_some, Option.getD_some] at passes
      split at passes
      · cases passes
      · rename_i criteria
        split at passes
        · cases passes
        · rename_i days
          refine ⟨given, rfl, (hasCriteria_iff given).mp (by simpa using criteria), ?_⟩
          intro amount named
          rw [Option.mem_def.mp named] at days
          simpa [not_or, Rat.not_le] using days

variable {userId : String} {row playlist : StoredPlaylist} {input : UpdatePlaylistInput}
  {store : PlaylistStore} {playlistId : String}

theorem create_ruleKept {drawn : String} {input : CreatePlaylistInput}
    (created : PlaylistStore.create drawn userId input = .ok row) : RuleKept row := by
  unfold PlaylistStore.create at created
  split at created
  · cases created
  · simp only at created
    split at created
    · cases created
    · rename_i passes
      cases created
      constructor
      · intro ruled
        simp only at ruled passes ⊢
        rw [ruled] at passes
        obtain ⟨given, named, valid⟩ := assertValidRule_ok passes
        exact ⟨given, by simp [ruled, named], valid⟩
      · intro manual
        simp only at manual ⊢
        rw [manual]
        rfl

def UpdatePlaylistInput.RulesManual (input : UpdatePlaylistInput) (playlist : Playlist) : Prop :=
  input.isRuleBased = none ∧ input.rule.join ≠ none ∧ playlist.isRuleBased = false

instance (input : UpdatePlaylistInput) (playlist : Playlist) :
    Decidable (input.RulesManual playlist) := inferInstanceAs (Decidable (_ ∧ _ ∧ _))

theorem updateRule_ruleKept_iff (kept : RuleKept playlist)
    (updated : PlaylistStore.updateRule playlist input = .ok row) :
    RuleKept row ↔ ¬ input.RulesManual playlist.toPlaylist := by
  unfold PlaylistStore.updateRule at updated
  unfold UpdatePlaylistInput.RulesManual
  cases kind : input.isRuleBased with
  | some isRuleBased =>
      rw [kind] at updated
      simp only at updated
      refine iff_of_true ?_ (by simp)
      cases isRuleBased with
      | true =>
          split at updated
          · cases updated
          · rename_i passes
            cases updated
            obtain ⟨given, named, valid⟩ := assertValidRule_ok passes
            refine ⟨fun _ruled => ⟨given, ?_, valid⟩, fun manual => by cases manual⟩
            simp [named]
      | false =>
          cases updated
          exact ⟨fun ruled => (by cases ruled), fun _manual => rfl⟩
  | none =>
      rw [kind] at updated
      simp only at updated
      cases given : input.rule with
      | none =>
          rw [given] at updated
          cases updated
          exact iff_of_true kept (by simp)
      | some rule =>
          rw [given] at updated
          simp only at updated
          cases ruled : playlist.isRuleBased with
          | true =>
              refine iff_of_true ?_ (by simp)
              rw [ruled] at updated
              split at updated
              · cases updated
              · rename_i passes
                cases updated
                obtain ⟨valid, named, holds⟩ := assertValidRule_ok passes
                cases Option.some.inj named
                exact ⟨fun _ruled => ⟨valid, rfl, holds⟩, fun manual => by
                  rw [ruled] at manual
                  cases manual⟩
          | false =>
              rw [ruled] at updated
              cases updated
              constructor
              · intro after stores
                exact stores.2.1 (after.manual ruled)
              · intro leaves
                refine ⟨fun rules => ?_, fun _manual => ?_⟩
                · rw [ruled] at rules
                  cases rules
                · by_contra filled
                  exact leaves ⟨rfl, filled, rfl⟩

theorem RuleKept.congr {one other : StoredPlaylist} (kept : RuleKept one)
    (kinds : other.isRuleBased = one.isRuleBased) (rules : other.rule = one.rule) :
    RuleKept other := by
  constructor
  · rw [kinds, rules]
    exact kept.ruled
  · rw [kinds, rules]
    exact kept.manual

theorem update_ruleKept_iff
    (editable : store.getEditablePlaylist playlistId userId = .ok playlist)
    (kept : RuleKept playlist) (updated : store.update playlistId userId input = .ok row) :
    RuleKept row ↔ ¬ input.RulesManual playlist.toPlaylist := by
  unfold PlaylistStore.update at updated
  rw [editable] at updated
  simp only at updated
  split at updated
  · cases updated
  · have rules := fun before => updateRule_ruleKept_iff before updated
    exact rules (kept.congr rfl rfl)

/-! ### Runs -/

def AllKept (store : PlaylistStore) : Prop := ∀ row ∈ store.playlists, RuleKept row

def KeepsRules (store : PlaylistStore) (attempt : PlaylistAttempt) : Prop :=
  ∀ after, ruleMachine.step store attempt = some after → AllKept after

def LeavesManual (store : PlaylistStore) (attempt : PlaylistAttempt) : Prop :=
  match attempt.request with
  | .update playlistId userId input =>
      attempt.saves = true → (∀ name ∈ input.name, trimmed name ≠ "") →
        ∀ playlist, store.getEditablePlaylist playlistId userId = .ok playlist →
          ¬ input.RulesManual playlist.toPlaylist
  | .create _ _ _ | .share _ => True

theorem getEditablePlaylist_found
    (editable : store.getEditablePlaylist playlistId userId = .ok playlist) :
    findRow (fun row : StoredPlaylist => row.id) playlistId store.playlists = some playlist := by
  unfold PlaylistStore.getEditablePlaylist at editable
  split at editable
  · cases editable
  · rename_i row found
    split at editable
    · cases editable
      exact found
    · cases editable

theorem storeRow_allKept_iff (kept : AllKept store) (row : StoredPlaylist) :
    AllKept { store with
        playlists := storeRow (fun row : StoredPlaylist => row.id) row store.playlists } ↔
      RuleKept row := by
  constructor
  · intro all
    exact all row (storeRow_mem row store.playlists)
  · intro rules other member
    rcases mem_storeRow member with same | earlier
    · exact same ▸ rules
    · exact kept other earlier

theorem update_ok (updated : store.update playlistId userId input = .ok row) :
    (∃ playlist, store.getEditablePlaylist playlistId userId = .ok playlist) ∧
      ∀ name ∈ input.name, trimmed name ≠ "" := by
  unfold PlaylistStore.update at updated
  split at updated
  · cases updated
  · rename_i playlist editable
    split at updated
    · cases updated
    · rename_i named
      refine ⟨⟨playlist, editable⟩, fun name given blank => named ?_⟩
      rw [Option.mem_def.mp given]
      exact decide_eq_true blank

theorem update_rulesManual (editable : store.getEditablePlaylist playlistId userId = .ok playlist)
    (named : ∀ name ∈ input.name, trimmed name ≠ "")
    (stores : input.RulesManual playlist.toPlaylist) :
    ∃ row, store.update playlistId userId input = .ok row := by
  obtain ⟨kind, given, manual⟩ := stores
  have passes : (input.name.any fun name => decide (trimmed name = "")) = false := by
    cases present : input.name with
    | none => rfl
    | some name => exact decide_eq_false (named name present)
  unfold PlaylistStore.update
  rw [editable]
  simp only [passes, Bool.false_eq_true, if_false]
  unfold PlaylistStore.updateRule
  rw [kind]
  cases present : input.rule with
  | none =>
      rw [present] at given
      exact absurd rfl given
  | some rule => exact ⟨_, by simp only [manual]; rfl⟩

theorem keepsRules_iff (kept : AllKept store) (attempt : PlaylistAttempt) :
    KeepsRules store attempt ↔ LeavesManual store attempt := by
  rcases attempt with ⟨request, saves⟩
  unfold KeepsRules LeavesManual
  simp only [ruleMachine, attemptStep]
  cases request with
  | share collaborators =>
      refine iff_of_true ?_ trivial
      intro after moved
      cases moved
      exact kept
  | create drawn userId input =>
      refine iff_of_true ?_ trivial
      intro after moved
      simp only [savedRow] at moved
      cases created : PlaylistStore.create drawn userId input with
      | error thrown =>
          rw [created] at moved
          cases moved
          exact kept
      | ok row =>
          rw [created] at moved
          simp only [Except.toOption] at moved
          split at moved
          · cases moved
            exact (storeRow_allKept_iff kept row).mpr (create_ruleKept created)
          · cases moved
            exact kept
  | update playlistId userId input =>
      simp only [savedRow]
      cases updated : store.update playlistId userId input with
      | error thrown =>
          simp only [Except.toOption]
          refine iff_of_true ?_ ?_
          · intro after moved
            cases moved
            exact kept
          · intro _saves named playlist editable stores
            obtain ⟨row, done⟩ := update_rulesManual editable named stores
            cases updated.symm.trans done
      | ok row =>
          obtain ⟨⟨playlist, editable⟩, named⟩ := update_ok updated
          have before := kept playlist (findRow_mem (getEditablePlaylist_found editable)).1
          have rules := update_ruleKept_iff editable before updated
          simp only [Except.toOption]
          cases saves with
          | false =>
              refine iff_of_true ?_ (fun impossible => by cases impossible)
              intro after moved
              cases moved
              exact kept
          | true =>
              constructor
              · intro keeps _saves _named other same
                cases Except.ok.inj (editable.symm.trans same)
                exact rules.mp ((storeRow_allKept_iff kept row).mp (keeps _ rfl))
              · intro leaves after moved
                cases moved
                exact (storeRow_allKept_iff kept row).mpr
                  (rules.mpr (leaves rfl named playlist editable))

/-- In every run the rules are kept at each step exactly if no update of it stores a rule with
a manual playlist. -/
theorem ruleMachine_keeps_iff (start : PlaylistStore) (initial : ruleMachine.initial start)
    (attempts : List PlaylistAttempt) :
    ruleMachine.Permits KeepsRules start attempts ↔
      ruleMachine.Permits LeavesManual start attempts := by
  have nothing : AllKept start := by
    intro row member
    rw [show start.playlists = [] from initial] at member
    cases member
  exact Machine.permits_iff AllKept (fun _ => True)
    (fun _state label kept _any => keepsRules_iff kept label)
    (fun _before _label after _kept _any keeps moved => keeps after moved)
    attempts nothing (fun _ _ => trivial)

def noPlaylists : PlaylistStore := { playlists := [], collaborators := [] }

def tagRule : PlaylistRule := { tags := some ["calm"], genres := none, savedWithinDays := none }

def createPlaylist (isRuleBased : Bool) : PlaylistAttempt :=
  { request := .create "p" "owner"
      { name := some "Calm", description := none, isPublic := none, coverImageUrl := none
        isRuleBased := some isRuleBased, rule := some (some tagRule) }
    saves := true }

def sendRule : PlaylistAttempt :=
  { request := .update "p" "owner"
      { name := none, description := none, isPublic := none, coverImageUrl := none
        isRuleBased := none, rule := some (some tagRule) }
    saves := true }

theorem ruleBased_keeps :
    ruleMachine.Permits KeepsRules noPlaylists [createPlaylist true, sendRule] := by
  apply (ruleMachine_keeps_iff noPlaylists rfl _).mpr
  refine ⟨trivial, ?_, trivial⟩
  intro _saves _named playlist editable stores
  cases editable
  exact absurd stores.2.2 (by decide)

/-- A manual playlist takes the rule that it is sent alone. -/
theorem manual_takes_rule :
    ¬ ruleMachine.Permits KeepsRules noPlaylists [createPlaylist false, sendRule] := by
  rintro ⟨_created, keeps, _end⟩
  have all := keeps _ rfl
  have rules := (all _ List.mem_cons_self).manual rfl
  cases rules

end AudioBlock.Playlists
