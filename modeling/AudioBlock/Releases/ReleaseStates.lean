/-
The status of a release and its two timestamps, over every order of the operations.

A creation and the scheduler write the three together.  An update takes the status from the
request and the timestamps from the release, or both from a new date, so what it leaves depends
on where the release stands.
-/
import AudioBlock.Foundation.Machine
import AudioBlock.Releases.ReleaseService

namespace AudioBlock.Releases

open AudioBlock.Foundation AudioBlock.Songs

/-! ### Runs -/

structure ReleaseState where
  now : Int
  tables : ReleaseTables

inductive ReleaseStep
  | elapse (milliseconds : Nat)
  | create (drawn : String) (input : CreateReleaseInput)
  | update (releaseId requesterId : String) (updates : UpdateReleaseInput)
  | publish (releaseId requesterId : String)
  | publishScheduled (asOf : Int)

namespace ReleaseState

def step (toDate : String → Option Int) (state : ReleaseState) :
    ReleaseStep → Option ReleaseState
  | .elapse milliseconds => some { state with now := state.now + milliseconds }
  | .create drawn input =>
      if drawn ∈ state.tables.releases.map Release.id then none
      else some { state with tables := (Releases.create toDate state.tables state.now drawn input).1 }
  | .update releaseId requesterId updates =>
      some { state with
        tables := (Releases.update toDate state.tables state.now releaseId requesterId updates).1 }
  | .publish releaseId requesterId =>
      some { state with
        tables := (Releases.publish state.tables state.now releaseId requesterId).1 }
  | .publishScheduled asOf =>
      some { state with tables := (publishScheduledReleases state.tables asOf).1 }

end ReleaseState

/-! ### The rules of the status -/

structure Consistent (release : Release) : Prop where
  scheduled : release.status = .scheduled ↔ release.scheduledAt ≠ none ∧ release.publishedAt = none
  published : release.status = .published ↔ release.publishedAt ≠ none

/-- What a saved release owes to the one it replaces. -/
structure Succeeds (before after : Release) : Prop where
  consistent : Consistent after
  published : before.status = .published → after.status = .published
  once : ∀ moment, before.publishedAt = some moment → after.publishedAt = some moment

structure ReleaseRules (before after : List Release) : Prop where
  consistent : ∀ release ∈ after, Consistent release
  published : ∀ release ∈ before, release.status = .published →
    ∃ later ∈ after, later.id = release.id ∧ later.status = .published
  once : ∀ release ∈ before, ∀ moment, release.publishedAt = some moment →
    ∃ later ∈ after, later.id = release.id ∧ later.publishedAt = some moment

structure SoundReleases (releases : List Release) : Prop where
  distinct : (releases.map Release.id).Nodup
  consistent : ∀ release ∈ releases, Consistent release

def releaseMachine (toDate : String → Option Int) : Machine ReleaseState ReleaseStep where
  initial state := SoundReleases state.tables.releases
  step := ReleaseState.step toDate

def Lawful (toDate : String → Option Int) (state : ReleaseState) (label : ReleaseStep) : Prop :=
  ∀ after, state.step toDate label = some after →
    ReleaseRules state.tables.releases after.tables.releases

def requestedStatus (updates : UpdateReleaseInput) (release : Release) : Option ReleaseStatus :=
  (initialStatus updates release).bind ReleaseStatus.ofText

def LeavesStatus (toDate : String → Option Int) (now : Int) (requesterId : String)
    (updates : UpdateReleaseInput) (release : Release) : Prop :=
  updateRefusal requesterId updates release = none → updates.title ≠ .value none →
  updates.type ≠ .value none → (updatedDate toDate updates release).isSome = true →
    match updates.scheduledAt with
    | .undefined => ∀ status, requestedStatus updates release = some status →
        (status = .scheduled → release.scheduledAt ≠ none) → status = release.status
    | .value none => ∀ status, requestedStatus updates release = some status →
        status ≠ .scheduled → (status = .published ↔ release.publishedAt ≠ none)
    | .value (some written) => ∀ date, toDate written = some date →
        release.publishedAt = none ∨ date ≤ now ∧ release.publishedAt = some now

def Considerate (toDate : String → Option Int) (state : ReleaseState) : ReleaseStep → Prop
  | .update releaseId requesterId updates => ∀ release,
      state.tables.findRelease releaseId = some release →
        LeavesStatus toDate state.now requesterId updates release
  | _ => True

/-! ### What the operations write -/

section Writes

variable {toDate : String → Option Int} {tables : ReleaseTables} {now : Int}

theorem fulfillForRelease_releases (tables : ReleaseTables) (now : Int) (releaseId : String) :
    (fulfillForRelease tables now releaseId).1.releases = tables.releases := by
  unfold fulfillForRelease
  dsimp only
  split
  · rfl
  · split
    · rfl
    · rfl

theorem update_releases {releaseId requesterId : String} {updates : UpdateReleaseInput}
    {release : Release} (found : tables.findRelease releaseId = some release) :
    (update toDate tables now releaseId requesterId updates).1.releases =
      match updatedRelease toDate now requesterId updates release with
      | .error _ => tables.releases
      | .ok saved => saveRow Release.id saved tables.releases := by
  unfold update
  rw [found]
  dsimp only
  cases updatedRelease toDate now requesterId updates release with
  | error refusal => rfl
  | ok saved =>
      dsimp only
      split
      · have kept := fulfillForRelease_releases (saveRelease tables saved) now saved.id
        split
        · rename_i fulfilled failure answered
          rw [answered] at kept
          exact kept
        · rename_i fulfilled result answered
          rw [answered] at kept
          exact kept
      · rfl

theorem writeRelease_exists {id artistId : String} {values : ReleaseValues}
    {status : ReleaseStatus} (known : values.status.bind ReleaseStatus.ofText = some status)
    (allowed : status = .scheduled → values.scheduledAt ≠ none) (titled : values.title ≠ none)
    (typed : values.type ≠ none) (dated : values.releaseDate.isSome = true) :
    ∃ saved, writeRelease id artistId values = .ok saved := by
  obtain ⟨title, hasTitle⟩ := Option.ne_none_iff_exists'.mp titled
  obtain ⟨type, hasType⟩ := Option.ne_none_iff_exists'.mp typed
  obtain ⟨releaseDate, hasDate⟩ := Option.isSome_iff_exists.mp dated
  obtain ⟨text, hasStatus, named⟩ := Option.bind_eq_some_iff.mp known
  have accepted : ¬(status = .scheduled ∧ values.scheduledAt = none) :=
    fun refused => allowed refused.1 refused.2
  unfold writeRelease
  rw [hasDate, hasTitle, hasType, hasStatus]
  dsimp only
  rw [named]
  dsimp only
  rw [if_neg accepted]
  exact ⟨_, rfl⟩

variable {requesterId : String} {updates : UpdateReleaseInput} {release saved : Release}

theorem column_none {Value : Type} {given : Property (Option Value)} {stored : Value} :
    given.column (some stored) ≠ none ↔ given ≠ .value none := by
  cases given with
  | undefined =>
      simp only [Property.column_undefined, ne_eq, reduceCtorEq, not_false_eq_true]
  | value written =>
      simp only [Property.column_value, ne_eq, Property.value.injEq]

theorem updatedRelease_exists {schedule : ReleaseSchedule} {status : ReleaseStatus}
    (admitted : updateRefusal requesterId updates release = none)
    (titled : updates.title ≠ .value none) (typed : updates.type ≠ .value none)
    (dated : (updatedDate toDate updates release).isSome = true)
    (resolved : resolveScheduleOnUpdate toDate now updates release = .ok schedule)
    (known : schedule.status.bind ReleaseStatus.ofText = some status)
    (allowed : status = .scheduled → schedule.scheduledAt ≠ none) :
    ∃ saved, updatedRelease toDate now requesterId updates release = .ok saved ∧
      saved.status = status ∧ saved.scheduledAt = schedule.scheduledAt ∧
      saved.publishedAt = schedule.publishedAt := by
  obtain ⟨saved, written⟩ := @writeRelease_exists release.id release.artistId
    (updatedValues toDate updates release schedule) _ known allowed
    (column_none.mpr titled) (column_none.mpr typed) dated
  have stored := writeRelease_stored written
  refine ⟨saved, ?_, ?_, stored.scheduledAt, stored.publishedAt⟩
  · unfold updatedRelease
    rw [admitted]
    dsimp only
    rw [resolved]
    exact written
  · exact Option.some_inj.mp (stored.status.symm.trans known)

/-! ### When an update leaves a consistent release -/

theorem consistent_of_same {one other : Release} (consistent : Consistent one)
    (status : other.status = one.status) (scheduledAt : other.scheduledAt = one.scheduledAt)
    (publishedAt : other.publishedAt = one.publishedAt) : Consistent other := by
  constructor
  · rw [status, scheduledAt, publishedAt]
    exact consistent.scheduled
  · rw [status, publishedAt]
    exact consistent.published

theorem status_of_same {one other : Release} (consistent : Consistent one)
    (otherConsistent : Consistent other) (scheduledAt : other.scheduledAt = one.scheduledAt)
    (publishedAt : other.publishedAt = one.publishedAt) : other.status = one.status := by
  have scheduled := otherConsistent.scheduled
  have published := otherConsistent.published
  rw [scheduledAt, publishedAt, ← consistent.scheduled] at scheduled
  rw [publishedAt, ← consistent.published] at published
  cases status : one.status with
  | scheduled => exact scheduled.mpr status
  | published => exact published.mpr status
  | draft =>
      rw [status] at scheduled published
      cases otherStatus : other.status with
      | draft => rfl
      | scheduled => exact absurd (scheduled.mp otherStatus) ReleaseStatus.noConfusion
      | published => exact absurd (published.mp otherStatus) ReleaseStatus.noConfusion

theorem published_none (consistent : Consistent release) (missing : release.publishedAt = none) :
    release.status ≠ .published :=
  fun published => consistent.published.mp published missing

theorem leavesStatus_undefined (consistent : Consistent release)
    (unscheduled : updates.scheduledAt = .undefined) :
    LeavesStatus toDate now requesterId updates release ↔
      ∀ saved, updatedRelease toDate now requesterId updates release = .ok saved →
        Succeeds release saved := by
  have resolved : resolveScheduleOnUpdate toDate now updates release =
      .ok ⟨initialStatus updates release, release.scheduledAt, release.publishedAt⟩ := by
    unfold resolveScheduleOnUpdate
    rw [unscheduled]
  unfold LeavesStatus
  rw [unscheduled]
  constructor
  · intro leaves saved updated
    obtain ⟨admitted, schedule, same, stored⟩ := updatedRelease_stored updated
    cases resolved.symm.trans same
    obtain ⟨titled, typed, dated⟩ := stored.present
    have status := leaves admitted (column_none.mp titled) (column_none.mp typed) dated
      saved.status stored.status stored.scheduled
    refine ⟨consistent_of_same consistent status stored.scheduledAt stored.publishedAt, ?_, ?_⟩
    · exact fun published => status.trans published
    · exact fun moment was => stored.publishedAt.trans was
  · intro succeeds admitted titled typed dated status requested allowed
    obtain ⟨saved, updated, same, scheduledAt, publishedAt⟩ :=
      updatedRelease_exists admitted titled typed dated resolved requested allowed
    rw [← same]
    exact status_of_same consistent (succeeds saved updated).consistent scheduledAt publishedAt

theorem leavesStatus_null (consistent : Consistent release)
    (cleared : updates.scheduledAt = .value none) :
    LeavesStatus toDate now requesterId updates release ↔
      ∀ saved, updatedRelease toDate now requesterId updates release = .ok saved →
        Succeeds release saved := by
  have resolved : resolveScheduleOnUpdate toDate now updates release =
      .ok ⟨initialStatus updates release, none, release.publishedAt⟩ := by
    unfold resolveScheduleOnUpdate
    rw [cleared]
  unfold LeavesStatus
  rw [cleared]
  constructor
  · intro leaves saved updated
    obtain ⟨admitted, schedule, same, stored⟩ := updatedRelease_stored updated
    cases resolved.symm.trans same
    obtain ⟨titled, typed, dated⟩ := stored.present
    have notScheduled : saved.status ≠ .scheduled := fun scheduled => stored.scheduled scheduled rfl
    have published := leaves admitted (column_none.mp titled) (column_none.mp typed) dated
      saved.status stored.status notScheduled
    refine ⟨⟨?_, ?_⟩, ?_, ?_⟩
    · rw [stored.scheduledAt]
      exact ⟨fun scheduled => absurd scheduled notScheduled, fun both => absurd rfl both.1⟩
    · rw [stored.publishedAt]
      exact published
    · exact fun was => published.mpr (consistent.published.mp was)
    · exact fun moment was => stored.publishedAt.trans was
  · intro succeeds admitted titled typed dated status requested notScheduled
    obtain ⟨saved, updated, same, _, publishedAt⟩ :=
      updatedRelease_exists admitted titled typed dated resolved requested
        fun scheduled => absurd scheduled notScheduled
    have published := (succeeds saved updated).consistent.published
    rw [same, publishedAt] at published
    exact published

variable {written : String}

theorem resolve_written (given : updates.scheduledAt = .value (some written)) :
    resolveScheduleOnUpdate toDate now updates release = scheduleFor toDate now written := by
  unfold resolveScheduleOnUpdate
  rw [given]

theorem scheduleFor_ok {schedule : ReleaseSchedule}
    (made : scheduleFor toDate now written = .ok schedule) :
    ∃ date, toDate written = some date ∧ (now < date ∧ schedule = futureSchedule date ∨
      date ≤ now ∧ schedule = immediateSchedule now) := by
  unfold scheduleFor at made
  cases read : toDate written with
  | none =>
      rw [read] at made
      cases made
  | some date =>
      rw [read] at made
      dsimp only at made
      refine ⟨date, rfl, ?_⟩
      split at made
      · rename_i later
        cases made
        exact Or.inl ⟨later, rfl⟩
      · rename_i notLater
        cases made
        exact Or.inr ⟨Int.not_lt.mp notLater, rfl⟩

section StoredStatus

variable {id : String} {values : ReleaseValues} (stored : Stored id values saved)

include stored

theorem Stored.status_eq {status : ReleaseStatus} (written : values.status = some status.value) :
    saved.status = status := by
  have known := stored.status
  rw [written, Option.bind_some, ReleaseStatus.ofText_value] at known
  exact (Option.some_inj.mp known).symm

theorem Stored.future {date : Int} (written : values.status = some ReleaseStatus.scheduled.value)
    (scheduledAt : values.scheduledAt = some date) (publishedAt : values.publishedAt = none) :
    Consistent saved := by
  constructor
  · rw [stored.status_eq written, stored.scheduledAt, scheduledAt, stored.publishedAt, publishedAt]
    exact ⟨fun _ => ⟨Option.some_ne_none date, rfl⟩, fun _ => rfl⟩
  · rw [stored.status_eq written, stored.publishedAt, publishedAt]
    exact ⟨ReleaseStatus.noConfusion, fun set => absurd rfl set⟩

theorem Stored.immediate (written : values.status = some ReleaseStatus.published.value)
    (publishedAt : values.publishedAt = some now) : Consistent saved := by
  constructor
  · rw [stored.status_eq written, stored.publishedAt, publishedAt]
    exact ⟨ReleaseStatus.noConfusion, fun both => absurd both.2 (Option.some_ne_none now)⟩
  · rw [stored.status_eq written, stored.publishedAt, publishedAt]
    exact ⟨fun _ => Option.some_ne_none now, fun _ => rfl⟩

theorem Stored.unscheduled (written : values.status = some ReleaseStatus.draft.value)
    (scheduledAt : values.scheduledAt = none) (publishedAt : values.publishedAt = none) :
    Consistent saved := by
  constructor
  · rw [stored.status_eq written, stored.scheduledAt, scheduledAt]
    exact ⟨ReleaseStatus.noConfusion, fun both => absurd rfl both.1⟩
  · rw [stored.status_eq written, stored.publishedAt, publishedAt]
    exact ⟨ReleaseStatus.noConfusion, fun set => absurd rfl set⟩

end StoredStatus

theorem futureSchedule_succeeds {date : Int}
    (stored : Stored release.id (updatedValues toDate updates release (futureSchedule date)) saved)
    (consistent : Consistent release) (missing : release.publishedAt = none) :
    Succeeds release saved := by
  refine ⟨stored.future rfl rfl rfl, ?_, ?_⟩
  · exact fun published => absurd published (published_none consistent missing)
  · intro moment was
    cases missing.symm.trans was

theorem immediateSchedule_succeeds
    (stored : Stored release.id (updatedValues toDate updates release (immediateSchedule now)) saved)
    (unchanged : release.publishedAt = none ∨ release.publishedAt = some now) :
    Succeeds release saved := by
  refine ⟨stored.immediate rfl rfl, fun _ => stored.status_eq rfl, ?_⟩
  intro moment was
  rw [stored.publishedAt]
  cases unchanged with
  | inl missing => cases missing.symm.trans was
  | inr same => exact same.symm.trans was

theorem leavesStatus_written (consistent : Consistent release)
    (given : updates.scheduledAt = .value (some written)) :
    LeavesStatus toDate now requesterId updates release ↔
      ∀ saved, updatedRelease toDate now requesterId updates release = .ok saved →
        Succeeds release saved := by
  unfold LeavesStatus
  rw [given]
  constructor
  · intro leaves saved updated
    obtain ⟨admitted, schedule, same, stored⟩ := updatedRelease_stored updated
    rw [resolve_written given] at same
    obtain ⟨titled, typed, dated⟩ := stored.present
    have allowed := leaves admitted (column_none.mp titled) (column_none.mp typed) dated
    obtain ⟨date, read, ⟨later, future⟩ | ⟨_, immediate⟩⟩ := scheduleFor_ok same
    · subst future
      apply futureSchedule_succeeds stored consistent
      exact (allowed date read).resolve_right fun past => absurd past.1 (Int.not_le.mpr later)
    · subst immediate
      exact immediateSchedule_succeeds stored ((allowed date read).imp_right And.right)
  · intro succeeds admitted titled typed dated date read
    have made : scheduleFor toDate now written =
        if now < date then .ok (futureSchedule date) else .ok (immediateSchedule now) := by
      unfold scheduleFor
      rw [read]
    have resolved := (@resolve_written _ _ _ release _ given).trans made
    by_cases later : now < date
    · rw [if_pos later] at resolved
      obtain ⟨saved, updated, _, _, publishedAt⟩ := updatedRelease_exists admitted titled typed
        dated resolved (ReleaseStatus.ofText_value .scheduled)
        fun _ => Option.some_ne_none date
      left
      cases was : release.publishedAt with
      | none => rfl
      | some moment => cases publishedAt.symm.trans ((succeeds saved updated).once moment was)
    · rw [if_neg later] at resolved
      obtain ⟨saved, updated, _, _, publishedAt⟩ := updatedRelease_exists admitted titled typed
        dated resolved (ReleaseStatus.ofText_value .published) ReleaseStatus.noConfusion
      cases was : release.publishedAt with
      | none => exact Or.inl rfl
      | some moment =>
          have kept := publishedAt.symm.trans ((succeeds saved updated).once moment was)
          exact Or.inr ⟨Int.not_lt.mp later, kept.symm⟩

theorem leavesStatus_iff (consistent : Consistent release) :
    LeavesStatus toDate now requesterId updates release ↔
      ∀ saved, updatedRelease toDate now requesterId updates release = .ok saved →
        Succeeds release saved := by
  cases given : updates.scheduledAt with
  | undefined => exact leavesStatus_undefined consistent given
  | value written =>
      cases written with
      | none => exact leavesStatus_null consistent given
      | some text => exact leavesStatus_written consistent given

end Writes

/-! ### What the steps do to the releases -/

section Steps

variable {toDate : String → Option Int} {releases : List Release} {release saved : Release}

theorem rules_same (sound : SoundReleases releases) : ReleaseRules releases releases :=
  ⟨sound.consistent, fun row member published => ⟨row, member, rfl, published⟩,
    fun row member _ was => ⟨row, member, rfl, was⟩⟩

theorem sound_of_rules {after : List Release} (rules : ReleaseRules releases after)
    (distinct : (after.map Release.id).Nodup) : SoundReleases after :=
  ⟨distinct, rules.consistent⟩

theorem rules_saveRow (sound : SoundReleases releases) (member : release ∈ releases)
    (same : saved.id = release.id) :
    ReleaseRules releases (saveRow Release.id saved releases) ↔ Succeeds release saved := by
  have stored : saved ∈ saveRow Release.id saved releases :=
    saveRow_mem (same ▸ List.mem_map_of_mem member)
  have distinct : ((saveRow Release.id saved releases).map Release.id).Nodup := by
    rw [saveRow_keys]
    exact sound.distinct
  constructor
  · intro rules
    have only : ∀ later ∈ saveRow Release.id saved releases, later.id = release.id →
        later = saved := fun later present named =>
      List.inj_on_of_nodup_map distinct present stored (named.trans same.symm)
    refine ⟨rules.consistent saved stored, ?_, ?_⟩
    · intro published
      obtain ⟨later, present, named, still⟩ := rules.published release member published
      exact only later present named ▸ still
    · intro moment was
      obtain ⟨later, present, named, still⟩ := rules.once release member moment was
      exact only later present named ▸ still
  · intro succeeds
    have kept : ∀ row ∈ releases, row = release ∨ row ∈ saveRow Release.id saved releases := by
      intro row present
      by_cases named : row.id = release.id
      · exact Or.inl (List.inj_on_of_nodup_map sound.distinct present member named)
      · exact Or.inr (saveRow_mem_other present fun equal => named (equal.trans same))
    refine ⟨?_, ?_, ?_⟩
    · intro row present
      cases mem_saveRow present with
      | inl new => exact new ▸ succeeds.consistent
      | inr old => exact sound.consistent row old.1
    · intro row present published
      cases kept row present with
      | inl own =>
          subst own
          exact ⟨saved, stored, same, succeeds.published published⟩
      | inr other => exact ⟨row, other, rfl, published⟩
    · intro row present moment was
      cases kept row present with
      | inl own =>
          subst own
          exact ⟨saved, stored, same, succeeds.once moment was⟩
      | inr other => exact ⟨row, other, rfl, was⟩

theorem rules_map {change : Release → Release}
    (keeps : ∀ row, (change row).id = row.id)
    (succeeds : ∀ row ∈ releases, Succeeds row (change row)) :
    ReleaseRules releases (releases.map change) := by
  refine ⟨?_, ?_, ?_⟩
  · intro row member
    obtain ⟨earlier, present, same⟩ := List.mem_map.mp member
    exact same ▸ (succeeds earlier present).consistent
  · intro row member published
    exact ⟨_, List.mem_map_of_mem member, keeps row, (succeeds row member).published published⟩
  · intro row member moment was
    exact ⟨_, List.mem_map_of_mem member, keeps row, (succeeds row member).once moment was⟩

theorem rules_append (sound : SoundReleases releases) (consistent : Consistent saved) :
    ReleaseRules releases (releases ++ [saved]) := by
  refine ⟨?_, ?_, ?_⟩
  · intro row member
    cases List.mem_append.mp member with
    | inl old => exact sound.consistent row old
    | inr new => exact List.mem_singleton.mp new ▸ consistent
  · exact fun row member published => ⟨row, List.mem_append_left _ member, rfl, published⟩
  · exact fun row member _ was => ⟨row, List.mem_append_left _ member, rfl, was⟩

theorem succeeds_same {before after : Release} (consistent : Consistent before)
    (status : after.status = before.status) (scheduledAt : after.scheduledAt = before.scheduledAt)
    (publishedAt : after.publishedAt = before.publishedAt) : Succeeds before after :=
  ⟨consistent_of_same consistent status scheduledAt publishedAt,
    fun published => status.trans published, fun _ was => publishedAt.trans was⟩

theorem publishScheduled_succeeds (consistent : Consistent release) {asOf : Int}
    (due : isScheduledBy asOf release = true) : Succeeds release (publishScheduled asOf release) := by
  unfold isScheduledBy at due
  rw [Bool.and_eq_true, decide_eq_true_eq] at due
  obtain ⟨scheduledAt, missing⟩ := consistent.scheduled.mp due.1
  have published : (publishScheduled asOf release).publishedAt ≠ none := by
    unfold publishScheduled
    dsimp only
    cases release.scheduledAt with
    | none => exact Option.some_ne_none asOf
    | some moment => exact Option.some_ne_none moment
  refine ⟨⟨?_, ?_⟩, fun _ => rfl, ?_⟩
  · exact ⟨ReleaseStatus.noConfusion, fun both => absurd both.2 published⟩
  · exact ⟨fun _ => published, fun _ => rfl⟩
  · intro moment was
    cases missing.symm.trans was

variable {now : Int} {tables : ReleaseTables}

theorem createdRelease_consistent {drawn : String} {input : CreateReleaseInput}
    (created : createdRelease toDate now drawn input = .ok saved) :
    saved.id = drawn ∧ Consistent saved := by
  unfold createdRelease at created
  cases resolved : resolveScheduleOnCreate toDate now input with
  | error refusal =>
      rw [resolved] at created
      cases created
  | ok schedule =>
      rw [resolved] at created
      have stored := writeRelease_stored created
      refine ⟨stored.id, ?_⟩
      unfold resolveScheduleOnCreate at resolved
      split at resolved
      · obtain ⟨date, _, ⟨_, future⟩ | ⟨_, immediate⟩⟩ := scheduleFor_ok resolved
        · subst future
          exact stored.future rfl rfl rfl
        · subst immediate
          exact stored.immediate rfl rfl
      · split at resolved
        · cases resolved
          exact stored.unscheduled rfl rfl rfl
        · cases resolved
          exact stored.immediate rfl rfl

theorem create_rules {drawn : String} {input : CreateReleaseInput}
    (sound : SoundReleases tables.releases) (fresh : drawn ∉ tables.releases.map Release.id) :
    ReleaseRules tables.releases (create toDate tables now drawn input).1.releases ∧
      ((create toDate tables now drawn input).1.releases.map Release.id).Nodup := by
  unfold create
  cases createRefusal tables input with
  | some refusal => exact ⟨rules_same sound, sound.distinct⟩
  | none =>
      dsimp only
      cases created : createdRelease toDate now drawn input with
      | error refusal => exact ⟨rules_same sound, sound.distinct⟩
      | ok release =>
          obtain ⟨named, consistent⟩ := createdRelease_consistent created
          refine ⟨rules_append sound consistent, ?_⟩
          dsimp only
          rw [List.map_append]
          apply sound.distinct.append (List.nodup_singleton _)
          intro id member single
          exact fresh (named ▸ List.mem_singleton.mp single ▸ member)

theorem update_rules_iff {releaseId requesterId : String} {updates : UpdateReleaseInput}
    (sound : SoundReleases tables.releases) :
    ReleaseRules tables.releases
        (update toDate tables now releaseId requesterId updates).1.releases ↔
      ∀ release, tables.findRelease releaseId = some release →
        LeavesStatus toDate now requesterId updates release := by
  cases found : tables.findRelease releaseId with
  | none =>
      have same : (update toDate tables now releaseId requesterId updates).1 = tables := by
        unfold update
        rw [found]
      rw [same]
      refine ⟨fun _ release some => ?_, fun _ => rules_same sound⟩
      cases some
  | some release =>
      obtain ⟨member, _⟩ := findRow_mem found
      have leaves := @leavesStatus_iff toDate now requesterId updates _ (sound.consistent release member)
      have only : (∀ row, some release = some row →
          LeavesStatus toDate now requesterId updates row) ↔
            LeavesStatus toDate now requesterId updates release := by
        simp only [Option.some_inj, forall_eq']
      rw [update_releases found, only, leaves]
      cases updated : updatedRelease toDate now requesterId updates release with
      | error refusal =>
          refine ⟨fun _ saved written => ?_, fun _ => rules_same sound⟩
          cases written
      | ok saved =>
          obtain ⟨_, _, _, stored⟩ := updatedRelease_stored updated
          dsimp only
          rw [rules_saveRow sound member stored.id]
          constructor
          · intro succeeds other same
            cases same
            exact succeeds
          · exact fun all => all saved rfl

theorem publish_releases (tables : ReleaseTables) (now : Int) (releaseId requesterId : String) :
    (publish tables now releaseId requesterId).1.releases = tables.releases ∨
      ∃ release, tables.findRelease releaseId = some release ∧
        (publish tables now releaseId requesterId).1.releases =
          saveRow Release.id { release with releaseDate := now } tables.releases := by
  unfold publish
  cases found : tables.findRelease releaseId with
  | none => exact Or.inl rfl
  | some release =>
      dsimp only
      cases publishRefusal requesterId release with
      | some refusal => exact Or.inl rfl
      | none =>
          have kept := fulfillForRelease_releases (moveDate tables now release) now release.id
          have moved : (moveDate tables now release).releases = tables.releases ∨
              (moveDate tables now release).releases =
                saveRow Release.id { release with releaseDate := now } tables.releases := by
            unfold moveDate
            split
            · exact Or.inl rfl
            · exact Or.inr rfl
          dsimp only
          split
          · rename_i after failure answered
            rw [answered] at kept
            rw [← kept] at moved
            exact moved.imp_right fun same => ⟨release, rfl, same⟩
          · rename_i after result answered
            rw [answered] at kept
            rw [← kept] at moved
            exact moved.imp_right fun same => ⟨release, rfl, same⟩

theorem publish_rules (now : Int) (releaseId requesterId : String)
    (sound : SoundReleases tables.releases) :
    ReleaseRules tables.releases (publish tables now releaseId requesterId).1.releases ∧
      ((publish tables now releaseId requesterId).1.releases.map Release.id).Nodup := by
  rcases publish_releases tables now releaseId requesterId with same | ⟨release, found, saved⟩
  · rw [same]
    exact ⟨rules_same sound, sound.distinct⟩
  · obtain ⟨member, _⟩ := findRow_mem found
    rw [saved, saveRow_keys]
    have named : ({ release with releaseDate := now } : Release).id = release.id := rfl
    refine ⟨(rules_saveRow sound member named).mpr ?_, sound.distinct⟩
    exact succeeds_same (sound.consistent release member) rfl rfl rfl

theorem publishScheduledReleases_rules (asOf : Int) (sound : SoundReleases tables.releases) :
    ReleaseRules tables.releases (publishScheduledReleases tables asOf).1.releases ∧
      ((publishScheduledReleases tables asOf).1.releases.map Release.id).Nodup := by
  have mapped : (publishScheduledReleases tables asOf).1.releases =
      tables.releases.map fun release =>
        if isScheduledBy asOf release then publishScheduled asOf release else release :=
    foldl_saveRow_filter (publishScheduled asOf) (fun _ => rfl) (isScheduledBy asOf) _
      sound.distinct
  have keeps : ∀ release : Release, (if isScheduledBy asOf release then
      publishScheduled asOf release else release).id = release.id := by
    intro release
    split
    · rfl
    · rfl
  rw [mapped]
  constructor
  · apply rules_map keeps
    intro release member
    split
    · rename_i due
      exact publishScheduled_succeeds (sound.consistent release member) due
    · exact succeeds_same (sound.consistent release member) rfl rfl rfl
  · rw [List.map_map]
    have ids : tables.releases.map (Release.id ∘ fun release =>
        if isScheduledBy asOf release then publishScheduled asOf release else release) =
          tables.releases.map Release.id :=
      List.map_congr_left fun release _ => keeps release
    rw [ids]
    exact sound.distinct

/-! ### Whole runs -/

theorem update_distinct {releaseId requesterId : String} {updates : UpdateReleaseInput}
    (sound : SoundReleases tables.releases) :
    ((update toDate tables now releaseId requesterId updates).1.releases.map
      Release.id).Nodup := by
  cases found : tables.findRelease releaseId with
  | none =>
      have same : (update toDate tables now releaseId requesterId updates).1 = tables := by
        unfold update
        rw [found]
      rw [same]
      exact sound.distinct
  | some release =>
      rw [update_releases found]
      split
      · exact sound.distinct
      · rw [saveRow_keys]
        exact sound.distinct

theorem lawful_iff {state : ReleaseState} (sound : SoundReleases state.tables.releases)
    (label : ReleaseStep) : Lawful toDate state label ↔ Considerate toDate state label := by
  unfold Lawful
  cases label with
  | elapse milliseconds =>
      refine ⟨fun _ => trivial, fun _ after moved => ?_⟩
      cases moved
      exact rules_same sound
  | create drawn input =>
      refine ⟨fun _ => trivial, fun _ after moved => ?_⟩
      unfold ReleaseState.step at moved
      dsimp only at moved
      split at moved
      · cases moved
      · rename_i fresh
        cases moved
        exact (create_rules sound fresh).1
  | update releaseId requesterId updates =>
      constructor
      · exact fun lawful => (update_rules_iff sound).mp (lawful _ rfl)
      · intro considerate after moved
        cases moved
        exact (update_rules_iff sound).mpr considerate
  | publish releaseId requesterId =>
      refine ⟨fun _ => trivial, fun _ after moved => ?_⟩
      cases moved
      exact (publish_rules state.now releaseId requesterId sound).1
  | publishScheduled asOf =>
      refine ⟨fun _ => trivial, fun _ after moved => ?_⟩
      cases moved
      exact (publishScheduledReleases_rules asOf sound).1

theorem step_sound {before after : ReleaseState} {label : ReleaseStep}
    (sound : SoundReleases before.tables.releases) (lawful : Lawful toDate before label)
    (moved : before.step toDate label = some after) : SoundReleases after.tables.releases := by
  apply sound_of_rules (lawful after moved)
  cases label with
  | elapse milliseconds =>
      cases moved
      exact sound.distinct
  | create drawn input =>
      unfold ReleaseState.step at moved
      dsimp only at moved
      split at moved
      · cases moved
      · rename_i fresh
        cases moved
        exact (create_rules sound fresh).2
  | update releaseId requesterId updates =>
      cases moved
      exact update_distinct sound
  | publish releaseId requesterId =>
      cases moved
      exact (publish_rules before.now releaseId requesterId sound).2
  | publishScheduled asOf =>
      cases moved
      exact (publishScheduledReleases_rules asOf sound).2

/-- From consistent releases, the rules hold along a run exactly if every update leaves the status
as the timestamps have it. -/
theorem releaseMachine_lawful_iff (toDate : String → Option Int) (state : ReleaseState)
    (sound : SoundReleases state.tables.releases) (labels : List ReleaseStep) :
    (releaseMachine toDate).Permits (Lawful toDate) state labels ↔
      (releaseMachine toDate).Permits (Considerate toDate) state labels := by
  apply Machine.permits_iff (fun state => SoundReleases state.tables.releases) (fun _ => True)
    _ _ labels sound fun _ _ => trivial
  · exact fun before label holds _ => lawful_iff holds label
  · exact fun before label after holds _ lawful moved => step_sound holds lawful moved

end Steps

/-! An artist publishes a draft through its status. -/

def draftRelease : Release where
  id := "r1"
  title := "First"
  artistId := "a1"
  releaseDate := 0
  type := "single"
  status := .draft
  scheduledAt := none
  publishedAt := none
  coverArt := none

def oneDraft : ReleaseState := ⟨5, ⟨[draftRelease], [], [], [], []⟩⟩

theorem oneDraft_sound : SoundReleases oneDraft.tables.releases := by
  refine ⟨List.nodup_singleton _, ?_⟩
  intro release member
  cases List.mem_singleton.mp member
  constructor
  · exact ⟨ReleaseStatus.noConfusion, fun both => absurd rfl both.1⟩
  · exact ⟨ReleaseStatus.noConfusion, fun set => absurd rfl set⟩

def noUpdates : UpdateReleaseInput :=
  ⟨.undefined, .undefined, .undefined, .undefined, .undefined, .undefined⟩

/-- An update that asks for nothing. -/
theorem oneDraft_kept :
    (releaseMachine fun _ => none).Permits (Lawful fun _ => none) oneDraft
      [.update "r1" "a1" noUpdates] := by
  apply (releaseMachine_lawful_iff (fun _ => none) oneDraft oneDraft_sound _).mpr
  refine ⟨?_, trivial⟩
  intro release found _ _ _ _ status requested _
  cases List.mem_singleton.mp (findRow_mem found).1
  cases requested
  rfl

theorem oneDraft_published_without_time :
    SoundReleases oneDraft.tables.releases ∧
      ¬(releaseMachine fun _ => none).Permits (Lawful fun _ => none) oneDraft
        [.update "r1" "a1" { noUpdates with status := .value (some "published") }] := by
  refine ⟨oneDraft_sound, ?_⟩
  rintro ⟨lawful, _⟩
  have rules := lawful _ rfl
  have saved : ({ draftRelease with status := .published } : Release) ∈
      (update (fun _ => none) oneDraft.tables 5 "r1" "a1"
        { noUpdates with status := .value (some "published") }).1.releases := by decide
  exact (rules.consistent _ saved).published.mp rfl rfl

end AudioBlock.Releases
