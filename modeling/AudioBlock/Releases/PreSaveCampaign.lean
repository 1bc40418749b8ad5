/-
Pre-saves of one release, its publications and the fulfilment runs, all under way at once.

Every call stops at each statement and goes on later with what it has read.  A save of the
release writes the copy that was read.  A library save is one statement here, since nothing
takes a song out of a library and the unique triple guards the insert; the last save of a run
is one transaction.
-/
import AudioBlock.Foundation.Machine
import AudioBlock.Releases.ReleaseService

namespace AudioBlock.Releases

open AudioBlock.Foundation AudioBlock.Songs

/-! ### Calls under way -/

inductive ReleaseCall
  | preSaving (userId : String)
  | inserting (userId : String)
  | cancelling (preSaveId : String)
  /-- With the row to be written; whether the release was upcoming, so that a date that has
  arrived is followed by a fulfilment. -/
  | savingRelease (copy : Release) (upcoming : Bool)
  | loading
  | loaded (pending : List ReleasePreSave)
  | saving (pending : List ReleasePreSave) (remaining : List UserSave)
  /-- A run that is to be started again. -/
  | crashed
  deriving DecidableEq

/-- Beside the tables: the identifiers drawn so far, one entry for each mark of a pre-save, the
cancelled pre-saves, those that were fulfilled nevertheless, and whether a save has turned the
status to published. -/
structure Campaign where
  now : Int
  tables : ReleaseTables
  calls : List (Nat × ReleaseCall)
  drawn : List String
  marks : List String
  cancelled : List String
  wronged : List String
  announced : Bool

inductive CampaignStep
  | elapse (milliseconds : Nat)
  | beginPreSave (call : Nat) (userId : String)
  | lookUp (call : Nat)
  | insert (call : Nat) (drawn : String)
  | beginCancel (call : Nat) (userId : String)
  | remove (call : Nat)
  | beginPublish (call : Nat) (requesterId : String)
  | beginUpdate (call : Nat) (requesterId : String) (updates : UpdateReleaseInput)
  | beginScheduled (call : Nat) (asOf : Int)
  | saveRelease (call : Nat)
  | load (call : Nat)
  | loadTracks (call : Nat)
  | saveNext (call : Nat)
  | mark (call : Nat)
  | crash (call : Nat)
  | restart (call : Nat)

namespace Campaign

def call (state : Campaign) (number : Nat) : Option ReleaseCall :=
  (findRow Prod.fst number state.calls).map Prod.snd

def leave (state : Campaign) (number : Nat) : Campaign :=
  { state with calls := removeRow Prod.fst number state.calls }

def enter (state : Campaign) (number : Nat) (entered : ReleaseCall) : Campaign :=
  { state with calls := (number, entered) :: removeRow Prod.fst number state.calls }

def begin (state : Campaign) (number : Nat) (entered : Option ReleaseCall) : Option Campaign :=
  match state.call number with
  | some _ => none
  | none =>
      match entered with
      | none => some state
      | some first => some (state.enter number first)

def findRelease (state : Campaign) (releaseId : String) : Option Release :=
  state.tables.findRelease releaseId

theorem findRelease_id {state : Campaign} {releaseId : String} {release : Release}
    (found : state.findRelease releaseId = some release) : release.id = releaseId :=
  (findRow_mem found).2

/-- The first statements of the two calls of an artist, and of the scheduler. -/
def publishCall (state : Campaign) (releaseId requesterId : String) : Option ReleaseCall :=
  match state.findRelease releaseId with
  | none => none
  | some release =>
      if (publishRefusal requesterId release).isSome then none
      else if isReleasePublished state.now release.releaseDate then some .loading
      else some (.savingRelease { release with releaseDate := state.now } true)

def updateCall (toDate : String → Option Int) (state : Campaign) (releaseId requesterId : String)
    (updates : UpdateReleaseInput) : Option ReleaseCall :=
  match state.findRelease releaseId with
  | none => none
  | some release =>
      match updatedRelease toDate state.now requesterId updates release with
      | .error _ => none
      | .ok copy =>
          some (.savingRelease copy !(isReleasePublished state.now release.releaseDate))

def scheduledCall (state : Campaign) (releaseId : String) (asOf : Int) : Option ReleaseCall :=
  match state.findRelease releaseId with
  | none => none
  | some release =>
      if isScheduledBy asOf release then
        some (.savingRelease (publishScheduled asOf release) false)
      else none

def announces (state : Campaign) (releaseId : String) (copy : Release) : Bool :=
  decide (copy.status = .published) &&
    (state.findRelease releaseId).any fun release => decide (release.status ≠ .published)

/-- After its save a call goes on to fulfil if the release was upcoming and is so no more. -/
def goesOn (now : Int) (copy : Release) (upcoming : Bool) : Bool :=
  upcoming && isReleasePublished now copy.releaseDate

def saveCopy (state : Campaign) (releaseId : String) (number : Nat) (copy : Release)
    (upcoming : Bool) : Campaign :=
  let saved :=
    { state with
      tables := Releases.saveRelease state.tables copy
      announced := state.announced || state.announces releaseId copy }
  if goesOn state.now copy upcoming then saved.enter number .loading else saved.leave number

def insertRow (state : Campaign) (releaseId : String) (number : Nat) (drawn userId : String) :
    Campaign :=
  { state with
    tables :=
      { state.tables with
        preSaves := (insertPreSave state.tables.preSaves drawn userId releaseId).1 }
    drawn := drawn :: state.drawn }.leave number

def removePreSave (state : Campaign) (number : Nat) (preSaveId : String) : Campaign :=
  { state with
    tables :=
      { state.tables with
        preSaves := removeRow ReleasePreSave.id preSaveId state.tables.preSaves }
    cancelled := preSaveId :: state.cancelled }.leave number

def loadPending (state : Campaign) (releaseId : String) (number : Nat) : Campaign :=
  let pending := pendingPreSaves state.tables.preSaves releaseId
  if pending = [] then state.leave number else state.enter number (.loaded pending)

/-- The pre-saves of the fan that have been cancelled meanwhile. -/
def cancelledOf (state : Campaign) (pending : List ReleasePreSave) : List String :=
  (pending.map ReleasePreSave.id).filter fun id => decide (id ∈ state.cancelled)

def saveOne (state : Campaign) (number : Nat) (pending : List ReleasePreSave) (save : UserSave)
    (rest : List UserSave) : Campaign :=
  { state with
    tables := { state.tables with saves := saveSong state.tables.saves save }
    wronged := state.cancelledOf (pending.filter fun row => decide (row.userId = save.userId)) ++
      state.wronged }.enter number (.saving pending rest)

/-- The last save of a run; the server may refuse all of it. -/
def markAll (state : Campaign) (number : Nat) (pending : List ReleasePreSave) : Campaign :=
  match markFulfilled state.now state.tables.preSaves pending with
  | none => state.leave number
  | some preSaves =>
      { state with
        tables := { state.tables with preSaves }
        marks := pending.map ReleasePreSave.id ++ state.marks
        wronged := state.cancelledOf pending ++ state.wronged }.leave number

/-- A call that is lost; a fulfilment run is owed its restart. -/
def lose (state : Campaign) (number : Nat) (lost : ReleaseCall) : Campaign :=
  match lost with
  | .loading | .loaded _ | .saving _ _ => state.enter number .crashed
  | _ => state.leave number

def step (toDate : String → Option Int) (releaseId : String) (state : Campaign) :
    CampaignStep → Option Campaign
  | .elapse milliseconds => some { state with now := state.now + milliseconds }
  | .beginPreSave number userId =>
      state.begin number
        (if (preSaveRefusal state.tables state.now releaseId).isSome then none
        else some (.preSaving userId))
  | .lookUp number =>
      match state.call number with
      | some (.preSaving userId) =>
          if (findPreSave state.tables.preSaves userId releaseId).isSome then
            some (state.leave number)
          else some (state.enter number (.inserting userId))
      | _ => none
  | .insert number drawn =>
      match state.call number with
      | some (.inserting userId) =>
          if drawn ∈ state.drawn then none
          else some (state.insertRow releaseId number drawn userId)
      | _ => none
  | .beginCancel number userId =>
      state.begin number
        ((findPreSave state.tables.preSaves userId releaseId).map fun existing =>
          .cancelling existing.id)
  | .remove number =>
      match state.call number with
      | some (.cancelling preSaveId) => some (state.removePreSave number preSaveId)
      | _ => none
  | .beginPublish number requesterId =>
      state.begin number (state.publishCall releaseId requesterId)
  | .beginUpdate number requesterId updates =>
      state.begin number (state.updateCall toDate releaseId requesterId updates)
  | .beginScheduled number asOf => state.begin number (state.scheduledCall releaseId asOf)
  | .saveRelease number =>
      match state.call number with
      | some (.savingRelease copy upcoming) => some (state.saveCopy releaseId number copy upcoming)
      | _ => none
  | .load number =>
      match state.call number with
      | some .loading => some (state.loadPending releaseId number)
      | _ => none
  | .loadTracks number =>
      match state.call number with
      | some (.loaded pending) =>
          some (state.enter number (.saving pending
            (fulfilmentSaves pending (releaseSongIds state.tables.tracks releaseId))))
      | _ => none
  | .saveNext number =>
      match state.call number with
      | some (.saving pending (save :: rest)) => some (state.saveOne number pending save rest)
      | _ => none
  | .mark number =>
      match state.call number with
      | some (.saving pending []) => some (state.markAll number pending)
      | _ => none
  | .crash number =>
      match state.call number with
      | none | some .crashed => none
      | some lost => some (state.lose number lost)
  | .restart number =>
      match state.call number with
      | some .crashed => some (state.enter number .loading)
      | _ => none

end Campaign

/-! ### What a publication promises -/

def Published (releaseId : String) (state : Campaign) : Prop :=
  state.announced = true ∨
    ∃ release, state.findRelease releaseId = some release ∧ release.releaseDate ≤ state.now

def Fulfilled (releaseId : String) (tables : ReleaseTables) (row : ReleasePreSave) : Prop :=
  row.fulfilledAt ≠ none ∧ ∀ songId ∈ releaseSongIds tables.tracks releaseId,
    (⟨row.userId, songId⟩ : UserSave) ∈ tables.saves

structure FulfilmentRules (releaseId : String) (state : Campaign) : Prop where
  complete : Published releaseId state → state.calls = [] → ∀ row ∈ state.tables.preSaves,
    row.releaseId = releaseId → Fulfilled releaseId state.tables row
  once : state.marks.Nodup
  single : state.tables.saves.Nodup
  honest : state.wronged = []

structure NewRelease (releaseId : String) (state : Campaign) : Prop where
  idle : state.calls = [] ∧ state.marks = [] ∧ state.cancelled = [] ∧ state.wronged = []
  distinct : (state.tables.preSaves.map ReleasePreSave.id).Nodup
  drawn : ∀ row ∈ state.tables.preSaves, row.id ∈ state.drawn
  unfulfilled : ∀ row ∈ state.tables.preSaves, row.releaseId = releaseId → row.fulfilledAt = none
  unsaved : Published releaseId state → ∀ row ∈ state.tables.preSaves, row.releaseId ≠ releaseId
  single : state.tables.saves.Nodup

def campaignMachine (toDate : String → Option Int) (releaseId : String) :
    Machine Campaign CampaignStep where
  initial := NewRelease releaseId
  step := Campaign.step toDate releaseId

/-! ### The condition on the steps -/

def pendingRows : ReleaseCall → List ReleasePreSave
  | .loaded pending | .saving pending _ => pending
  | _ => []

def pendingIds (call : ReleaseCall) : List String := (pendingRows call).map ReleasePreSave.id

def willLoad (now : Int) : ReleaseCall → Bool
  | .loading | .crashed => true
  | .savingRelease copy upcoming => Campaign.goesOn now copy upcoming
  | _ => false

def covers (now : Int) (call : ReleaseCall) (preSaveId : String) : Bool :=
  willLoad now call || decide (preSaveId ∈ pendingIds call)

/-- A run under way reads the pre-save, or has read it. -/
def Awaited (state : Campaign) (preSaveId : String) : Prop :=
  ∃ entry ∈ state.calls, covers state.now entry.2 preSaveId = true

def AllAwaited (releaseId : String) (state : Campaign) : Prop :=
  ∀ row ∈ state.tables.preSaves, row.releaseId = releaseId → row.fulfilledAt = none →
    Awaited state row.id

/-- What keeps the promise: where the release is published without a fulfilment of its own, where
a pre-save is inserted afterwards or a publication is lost before its save, other runs await what
is not fulfilled; no pre-save is removed that a run has read, and none is marked that has been
marked meanwhile. -/
def KeepsAwaited (releaseId : String) (state : Campaign) : CampaignStep → Prop
  | .elapse milliseconds =>
      Published releaseId { state with now := state.now + milliseconds } →
        ¬Published releaseId state → AllAwaited releaseId state
  | .saveRelease number => ∀ copy upcoming,
      state.call number = some (.savingRelease copy upcoming) →
        Campaign.goesOn state.now copy upcoming = false →
        state.announces releaseId copy = true ∨ copy.releaseDate ≤ state.now →
        AllAwaited releaseId state
  | .insert number _ => ∀ userId, state.call number = some (.inserting userId) →
      findPreSave state.tables.preSaves userId releaseId = none → Published releaseId state →
      ∃ entry ∈ state.calls, willLoad state.now entry.2 = true
  | .remove number => ∀ preSaveId, state.call number = some (.cancelling preSaveId) →
      ∀ entry ∈ state.calls, preSaveId ∉ pendingIds entry.2
  | .mark number => ∀ pending, state.call number = some (.saving pending []) →
      ∀ row ∈ state.tables.preSaves, row.id ∈ pending.map ReleasePreSave.id →
        row.fulfilledAt = none
  | .crash number => ∀ copy upcoming, state.call number = some (.savingRelease copy upcoming) →
      Published releaseId state → AllAwaited releaseId (state.leave number)
  | _ => True

end AudioBlock.Releases
