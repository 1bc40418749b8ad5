/-
Releases, the pre-saves of fans, and the libraries that a fulfilment copies them into.

Identifiers are UUIDs.  A save of several rows is one transaction: a row that is still stored is
updated, another one is inserted again, and a unique column refuses all of them.
-/
import AudioBlock.Foundation.EntityColumns
import AudioBlock.Foundation.Rows
import AudioBlock.Songs.Song

namespace AudioBlock.Releases

open AudioBlock.Foundation AudioBlock.Songs

/-! ### The rows -/

inductive ReleaseStatus
  | draft
  | scheduled
  | published
  deriving DecidableEq

namespace ReleaseStatus

def value : ReleaseStatus → String
  | draft => "draft"
  | scheduled => "scheduled"
  | published => "published"

def values : List ReleaseStatus := [draft, scheduled, published]

def ofText (text : String) : Option ReleaseStatus :=
  values.find? fun status => decide (status.value = text)

theorem ofText_value (status : ReleaseStatus) : ofText status.value = some status := by
  cases status <;> decide

end ReleaseStatus

structure Release where
  id : String
  title : String
  artistId : String
  releaseDate : Int
  type : String
  status : ReleaseStatus
  scheduledAt : Option Int
  publishedAt : Option Int
  coverArt : Option String
  deriving DecidableEq

structure ReleaseTrack where
  releaseId : String
  songId : String
  trackNumber : Nat
  deriving DecidableEq

structure ReleasePreSave where
  id : String
  userId : String
  releaseId : String
  fulfilledAt : Option Int
  deriving DecidableEq

/-- A song in the default collection of a library. -/
structure UserSave where
  userId : String
  songId : String
  deriving DecidableEq

structure ReleaseTables where
  releases : List Release
  tracks : List ReleaseTrack
  songs : List String
  preSaves : List ReleasePreSave
  saves : List UserSave

def ReleaseTables.findRelease (tables : ReleaseTables) (releaseId : String) : Option Release :=
  findRow Release.id releaseId tables.releases

/-- The error of a statement that the server refuses. -/
def queryFailed (message : String) : AppError := .plain message

def businessLogic (message : String) : AppError :=
  ⟨message, some 400, some "BUSINESS_LOGIC_ERROR"⟩

def isReleasePublished (now releaseDate : Int) : Bool := decide (releaseDate ≤ now)

/-! ### Pre-saves -/

structure PreSaveResult where
  preSave : ReleasePreSave
  alreadyPreSaved : Bool
  deriving DecidableEq

def findPreSave (rows : List ReleasePreSave) (userId releaseId : String) : Option ReleasePreSave :=
  rows.find? fun row => decide (row.userId = userId) && decide (row.releaseId = releaseId)

def preSaveRefusal (tables : ReleaseTables) (now : Int) (releaseId : String) : Option AppError :=
  match tables.findRelease releaseId with
  | none => some (.notFound "Release not found")
  | some release =>
      if isReleasePublished now release.releaseDate then
        some (businessLogic "Release is already published; pre-save is no longer available")
      else none

/-- The insert, which the unique pair of fan and release guards. -/
def insertPreSave (rows : List ReleasePreSave) (drawn userId releaseId : String) :
    List ReleasePreSave × PreSaveResult :=
  match findPreSave rows userId releaseId with
  | some raced => (rows, ⟨raced, true⟩)
  | none =>
      let saved : ReleasePreSave := ⟨drawn, userId, releaseId, none⟩
      (rows ++ [saved], ⟨saved, false⟩)

/-! ### Fulfilment -/

structure FulfilmentResult where
  fulfilled : Nat
  savesCreated : Nat
  deriving DecidableEq

def pendingPreSaves (rows : List ReleasePreSave) (releaseId : String) : List ReleasePreSave :=
  rows.filter fun row => decide (row.releaseId = releaseId) && row.fulfilledAt.isNone

def releaseSongIds (tracks : List ReleaseTrack) (releaseId : String) : List String :=
  ((tracks.filter fun track => decide (track.releaseId = releaseId)).map
    ReleaseTrack.songId).eraseDups

/-- The pairs that the two loops go through. -/
def fulfilmentSaves (pending : List ReleasePreSave) (songIds : List String) : List UserSave :=
  pending.flatMap fun preSave => songIds.map fun songId => ⟨preSave.userId, songId⟩

/-- A song is saved unless the library has it; the unique triple refuses a second one. -/
def saveSong (saves : List UserSave) (save : UserSave) : List UserSave :=
  if save ∈ saves then saves else saves ++ [save]

/-- One row of the last save: an update, or an insert that the unique pair may refuse. -/
def storePreSave (rows : List ReleasePreSave) (stored : ReleasePreSave) :
    Option (List ReleasePreSave) :=
  if stored.id ∈ rows.map ReleasePreSave.id then some (saveRow ReleasePreSave.id stored rows)
  else if (findPreSave rows stored.userId stored.releaseId).isSome then none
  else some (rows ++ [stored])

def ReleasePreSave.fulfil (now : Int) (preSave : ReleasePreSave) : ReleasePreSave :=
  { preSave with fulfilledAt := some now }

def markFulfilled (now : Int) (rows : List ReleasePreSave) :
    List ReleasePreSave → Option (List ReleasePreSave)
  | [] => some rows
  | preSave :: rest =>
      match storePreSave rows (preSave.fulfil now) with
      | none => none
      | some stored => markFulfilled now stored rest

def fulfillForRelease (tables : ReleaseTables) (now : Int) (releaseId : String) :
    ReleaseTables × Except AppError FulfilmentResult :=
  let pending := pendingPreSaves tables.preSaves releaseId
  if pending = [] then (tables, .ok ⟨0, 0⟩)
  else
    let wanted := fulfilmentSaves pending (releaseSongIds tables.tracks releaseId)
    let saves := wanted.foldl saveSong tables.saves
    match markFulfilled now tables.preSaves pending with
    | none =>
        ({ tables with saves },
          .error (queryFailed ("duplicate key value violates unique constraint " ++
            "\"UQ_release_pre_save_user_release\"")))
    | some preSaves =>
        ({ tables with saves, preSaves },
          .ok ⟨pending.length, saves.length - tables.saves.length⟩)

/-!
### Creating, changing and publishing

A date is read from the value of a request, which may not be one.  The class has two methods
`publish`; the later one is the one that exists.  Left out: the pages of the catalogue, and
the rows that a query joins.
-/

/-! ### Requests -/

def releaseTypes : List String := ["album", "ep", "single"]

structure CreateReleaseInput where
  title : String
  artistId : String
  releaseDate : String
  type : String
  coverArt : Option String
  songIds : Option (List String)
  scheduledAt : Option String
  status : Option String

structure UpdateReleaseInput where
  title : Property (Option String)
  releaseDate : Property String
  type : Property (Option String)
  coverArt : Property (Option String)
  scheduledAt : Property (Option String)
  status : Property (Option String)

/-- The values that a save writes, some of which no column takes. -/
structure ReleaseValues where
  title : Option String
  releaseDate : Option Int
  type : Option String
  status : Option String
  scheduledAt : Option Int
  publishedAt : Option Int
  coverArt : Option String

def notNull (column : String) : AppError :=
  queryFailed ("null value in column \"" ++ column ++
    "\" of relation \"releases\" violates not-null constraint")

def checkFailed (constraint : String) : AppError :=
  queryFailed ("new row for relation \"releases\" violates check constraint \"" ++ constraint ++
    "\"")

/-- A row with the values, unless its table refuses them. -/
def writeRelease (id artistId : String) (values : ReleaseValues) : Except AppError Release :=
  match values.releaseDate with
  | none => .error (queryFailed "invalid input syntax for type timestamp")
  | some releaseDate =>
      match values.title, values.type, values.status with
      | none, _, _ => .error (notNull "title")
      | _, none, _ => .error (notNull "type")
      | _, _, none => .error (notNull "status")
      | some title, some type, some text =>
          match ReleaseStatus.ofText text with
          | none => .error (checkFailed "CHK_releases_status_valid")
          | some status =>
              if status = .scheduled ∧ values.scheduledAt = none then
                .error (checkFailed "CHK_releases_scheduled_has_date")
              else
                .ok
                  { id, title, artistId, releaseDate, type, status
                    scheduledAt := values.scheduledAt
                    publishedAt := values.publishedAt
                    coverArt := values.coverArt }

/-! ### Schedules -/

section Service

variable (toDate : String → Option Int)

structure ReleaseSchedule where
  status : Option String
  scheduledAt : Option Int
  publishedAt : Option Int
  deriving DecidableEq

def futureSchedule (scheduledDate : Int) : ReleaseSchedule :=
  ⟨some ReleaseStatus.scheduled.value, some scheduledDate, none⟩

def immediateSchedule (now : Int) : ReleaseSchedule :=
  ⟨some ReleaseStatus.published.value, none, some now⟩

def invalidSchedule : AppError := .validation "Invalid scheduledAt date format"

def scheduleFor (now : Int) (written : String) : Except AppError ReleaseSchedule :=
  match toDate written with
  | none => .error invalidSchedule
  | some scheduledDate =>
      if now < scheduledDate then .ok (futureSchedule scheduledDate)
      else .ok (immediateSchedule now)

def resolveScheduleOnCreate (now : Int) (input : CreateReleaseInput) :
    Except AppError ReleaseSchedule :=
  match truthy input.scheduledAt with
  | some written => scheduleFor toDate now written
  | none =>
      if input.status = some ReleaseStatus.draft.value then
        .ok ⟨some ReleaseStatus.draft.value, none, none⟩
      else .ok (immediateSchedule now)

def initialStatus (updates : UpdateReleaseInput) (release : Release) : Option String :=
  updates.status.column (some release.status.value)

def resolveScheduleOnUpdate (now : Int) (updates : UpdateReleaseInput) (release : Release) :
    Except AppError ReleaseSchedule :=
  match updates.scheduledAt with
  | .undefined =>
      .ok ⟨initialStatus updates release, release.scheduledAt, release.publishedAt⟩
  | .value none => .ok ⟨initialStatus updates release, none, release.publishedAt⟩
  | .value (some written) => scheduleFor toDate now written

/-! ### Releases -/

structure ReleaseWithTracks where
  release : Release
  tracks : List (Nat × String)

def getById (tables : ReleaseTables) (releaseId : String) : Except AppError ReleaseWithTracks :=
  match tables.findRelease releaseId with
  | none => .error (.notFound "Release not found")
  | some release =>
      let tracks := tables.tracks.filter fun track => decide (track.releaseId = releaseId)
      .ok ⟨release, ((tracks.mergeSort fun one other =>
        decide (one.trackNumber ≤ other.trackNumber)).map fun track =>
          (track.trackNumber, track.songId)).filter fun entry => decide (entry.2 ∈ tables.songs)⟩

def createRefusal (tables : ReleaseTables) (input : CreateReleaseInput) : Option AppError :=
  if input.type ∉ releaseTypes then
    some (.validation ("type must be one of: " ++ ", ".intercalate releaseTypes))
  else
    match input.songIds with
    | none | some [] => some (.validation "songIds must be a non-empty array")
    | some songIds =>
        if (tables.songs.filter fun song => decide (song ∈ songIds)).length ≠ songIds.length then
          some (.notFound "One or more songIds do not exist")
        else none

def createdTracks (releaseId : String) (songIds : List String) : List ReleaseTrack :=
  (songIds.zipIdx 1).map fun entry => ⟨releaseId, entry.1, entry.2⟩

/-- The row that a creation saves. -/
def createdRelease (now : Int) (drawn : String) (input : CreateReleaseInput) :
    Except AppError Release :=
  match resolveScheduleOnCreate toDate now input with
  | .error refusal => .error refusal
  | .ok schedule =>
      writeRelease drawn input.artistId
        { title := some input.title
          releaseDate := toDate input.releaseDate
          type := some input.type
          status := schedule.status
          scheduledAt := schedule.scheduledAt
          publishedAt := schedule.publishedAt
          coverArt := input.coverArt }

def create (tables : ReleaseTables) (now : Int) (drawn : String) (input : CreateReleaseInput) :
    ReleaseTables × Except AppError ReleaseWithTracks :=
  match createRefusal tables input with
  | some refusal => (tables, .error refusal)
  | none =>
      match createdRelease toDate now drawn input with
      | .error refusal => (tables, .error refusal)
      | .ok release =>
          let created :=
            { tables with
              releases := tables.releases ++ [release]
              tracks := tables.tracks ++ createdTracks drawn (input.songIds.getD []) }
          (created, getById created drawn)

def unlisted (given : Property (Option String)) (values : List String) : Bool :=
  match truthy (given.column none) with
  | none => false
  | some text => decide (text ∉ values)

def statusValues : List String := ReleaseStatus.values.map ReleaseStatus.value

def updateRefusal (requesterId : String) (updates : UpdateReleaseInput) (release : Release) :
    Option AppError :=
  if release.artistId ≠ requesterId then
    some (.authorization "Only the release owner can update this release")
  else if unlisted updates.type releaseTypes then
    some (.validation ("type must be one of: " ++ ", ".intercalate releaseTypes))
  else if unlisted updates.status statusValues then
    some (.validation ("status must be one of: " ++ ", ".intercalate statusValues))
  else none

def updatedDate (updates : UpdateReleaseInput) (release : Release) : Option Int :=
  match updates.releaseDate with
  | .undefined => some release.releaseDate
  | .value written => toDate written

/-- The row that an update saves. -/
def updatedRelease (now : Int) (requesterId : String) (updates : UpdateReleaseInput)
    (release : Release) : Except AppError Release :=
  match updateRefusal requesterId updates release with
  | some refusal => .error refusal
  | none =>
      match resolveScheduleOnUpdate toDate now updates release with
      | .error refusal => .error refusal
      | .ok schedule =>
          writeRelease release.id release.artistId
            { title := updates.title.column (some release.title)
              releaseDate := updatedDate toDate updates release
              type := updates.type.column (some release.type)
              status := schedule.status
              scheduledAt := schedule.scheduledAt
              publishedAt := schedule.publishedAt
              coverArt := updates.coverArt.column release.coverArt }

def saveRelease (tables : ReleaseTables) (release : Release) : ReleaseTables :=
  { tables with releases := saveRow Release.id release tables.releases }

def update (tables : ReleaseTables) (now : Int) (releaseId requesterId : String)
    (updates : UpdateReleaseInput) : ReleaseTables × Except AppError Release :=
  match tables.findRelease releaseId with
  | none => (tables, .error (.notFound "Release not found"))
  | some release =>
      match updatedRelease toDate now requesterId updates release with
      | .error refusal => (tables, .error refusal)
      | .ok saved =>
          let stored := saveRelease tables saved
          if !isReleasePublished now release.releaseDate &&
              isReleasePublished now saved.releaseDate then
            match fulfillForRelease stored now saved.id with
            | (fulfilled, .error failure) => (fulfilled, .error failure)
            | (fulfilled, .ok _) => (fulfilled, .ok saved)
          else (stored, .ok saved)

/-! ### Publication -/

structure PublishResult where
  release : ReleaseWithTracks
  fulfilled : Nat
  savesCreated : Nat

def publishRefusal (requesterId : String) (release : Release) : Option AppError :=
  if release.artistId ≠ requesterId then
    some (.authorization "Only the release owner can publish this release")
  else none

def moveDate (tables : ReleaseTables) (now : Int) (release : Release) : ReleaseTables :=
  if isReleasePublished now release.releaseDate then tables
  else saveRelease tables { release with releaseDate := now }

def publish (tables : ReleaseTables) (now : Int) (releaseId requesterId : String) :
    ReleaseTables × Except AppError PublishResult :=
  match tables.findRelease releaseId with
  | none => (tables, .error (.notFound "Release not found"))
  | some release =>
      match publishRefusal requesterId release with
      | some refusal => (tables, .error refusal)
      | none =>
          match fulfillForRelease (moveDate tables now release) now release.id with
          | (after, .error failure) => (after, .error failure)
          | (after, .ok result) =>
              (after, (getById after release.id).map fun found =>
                ⟨found, result.fulfilled, result.savesCreated⟩)

def isScheduledBy (asOf : Int) (release : Release) : Bool :=
  decide (release.status = .scheduled) && release.scheduledAt.any fun moment => decide (moment ≤ asOf)

def publishScheduled (asOf : Int) (release : Release) : Release :=
  { release with status := .published, publishedAt := release.scheduledAt.or (some asOf) }

def publishScheduledReleases (tables : ReleaseTables) (asOf : Int) :
    ReleaseTables × List Release :=
  let dueReleases := tables.releases.filter (isScheduledBy asOf)
  ({ tables with
      releases := dueReleases.foldl
        (fun rows release => saveRow Release.id (publishScheduled asOf release) rows)
        tables.releases },
    dueReleases.map (publishScheduled asOf))

end Service

/-! ### What is stored -/

section Stores

variable {toDate : String → Option Int} {now : Int} {requesterId : String}
  {updates : UpdateReleaseInput} {release saved : Release}

/-- The parts of a row that is stored. -/
structure Stored (id : String) (values : ReleaseValues) (saved : Release) : Prop where
  id : saved.id = id
  status : values.status.bind ReleaseStatus.ofText = some saved.status
  scheduledAt : saved.scheduledAt = values.scheduledAt
  publishedAt : saved.publishedAt = values.publishedAt
  scheduled : saved.status = .scheduled → values.scheduledAt ≠ none
  present : values.title ≠ none ∧ values.type ≠ none ∧ values.releaseDate.isSome = true

theorem writeRelease_stored {id artistId : String} {values : ReleaseValues}
    (written : writeRelease id artistId values = .ok saved) : Stored id values saved := by
  unfold writeRelease at written
  split at written
  · cases written
  · rename_i releaseDate dated
    split at written
    · cases written
    · cases written
    · cases written
    · rename_i title type text titled typed stated
      split at written
      · cases written
      · rename_i status known
        split at written
        · cases written
        · rename_i allowed
          cases written
          refine ⟨rfl, ?_, rfl, rfl, ?_, ?_, ?_, ?_⟩
          · rw [stated]
            exact known
          · exact fun scheduled missing => allowed ⟨scheduled, missing⟩
          · rw [titled]
            exact Option.some_ne_none title
          · rw [typed]
            exact Option.some_ne_none type
          · rw [dated]
            rfl

def updatedValues (toDate : String → Option Int) (updates : UpdateReleaseInput)
    (release : Release) (schedule : ReleaseSchedule) : ReleaseValues where
  title := updates.title.column (some release.title)
  releaseDate := updatedDate toDate updates release
  type := updates.type.column (some release.type)
  status := schedule.status
  scheduledAt := schedule.scheduledAt
  publishedAt := schedule.publishedAt
  coverArt := updates.coverArt.column release.coverArt

theorem updatedRelease_stored
    (updated : updatedRelease toDate now requesterId updates release = .ok saved) :
    updateRefusal requesterId updates release = none ∧
      ∃ schedule, resolveScheduleOnUpdate toDate now updates release = .ok schedule ∧
        Stored release.id (updatedValues toDate updates release schedule) saved := by
  unfold updatedRelease at updated
  cases refused : updateRefusal requesterId updates release with
  | some refusal =>
      rw [refused] at updated
      cases updated
  | none =>
      rw [refused] at updated
      dsimp only at updated
      cases resolved : resolveScheduleOnUpdate toDate now updates release with
      | error refusal =>
          rw [resolved] at updated
          cases updated
      | ok schedule =>
          rw [resolved] at updated
          exact ⟨rfl, schedule, rfl, writeRelease_stored updated⟩

end Stores

end AudioBlock.Releases
