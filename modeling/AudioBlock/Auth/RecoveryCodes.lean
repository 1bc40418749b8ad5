/-
Recovery codes where operations on one account interleave.

A login with a recovery code loads the row, compares the code with the hashes of its copy, and
saves the copy without the hash that matched; the step in which it saves accepts the code.  Any
other operation loads a row and saves its columns later.  A save writes every property of the
object, so an object that still has the hashes it was loaded with writes these back; a property
that is undefined leaves its column.  Hashes are salted, so new ones differ from all before.
-/
import AudioBlock.Auth.SecondFactor
import AudioBlock.Foundation.Machine
import AudioBlock.Foundation.Rows

namespace AudioBlock.Auth

open AudioBlock.Foundation

structure PendingLogin where
  copy : User
  recoveryCode : String
  deriving DecidableEq

inductive SavedCodes
  | loaded
  | left
  | assigned (hashes : Option (List String))
  deriving DecidableEq

def SavedCodes.written (copy stored : User) : SavedCodes → Option (List String)
  | loaded => copy.twoFactorRecoveryCodeHashes
  | left => stored.twoFactorRecoveryCodeHashes
  | assigned hashes => hashes

/-- `accepted` records which hash of which user was accepted by a login. -/
structure CodesRun where
  rows : List User
  logins : List PendingLogin
  copies : List User
  accepted : List (String × String)
  deriving DecidableEq

inductive CodesLabel
  | loginWithEmail (dto : LoginWithEmailDTO)
  | consume (index : Nat)
  | load (id : String)
  | save (index : Nat) (columns : User) (codes : SavedCodes)

namespace CodesRun

def start (rows : List User) : CodesRun :=
  { rows, logins := [], copies := [], accepted := [] }

def presents (platform : Platform) (run : CodesRun) (dto : LoginWithEmailDTO) : Option User :=
  (run.rows.find? fun user => decide (user.profile.email = some dto.email)).filter fun user =>
    decide (user.passwordHash.getD "" ≠ "") &&
      platform.bcryptCompare dto.password (user.passwordHash.getD "") &&
      user.twoFactorEnabled && decide (dto.twoFactorCode = "") && decide (dto.recoveryCode ≠ "")

/-- `verifyAndConsumeRecoveryCode` on the copy. -/
def consume (platform : Platform) (run : CodesRun) (login : PendingLogin) : CodesRun :=
  match matchRecoveryCode platform login.copy login.recoveryCode with
  | none => run
  | some hash =>
      { run with
        rows := saveRow User.id (login.copy.withoutRecoveryCode hash) run.rows
        accepted := run.accepted ++ [(login.copy.id, hash)] }

def save (run : CodesRun) (copy columns : User) (codes : SavedCodes) : CodesRun :=
  { run with
    rows := run.rows.map fun row =>
      if row.id = copy.id then
        { columns with id := copy.id, twoFactorRecoveryCodeHashes := codes.written copy row }
      else row }

def Fresh (run : CodesRun) (copy : User) : SavedCodes → Prop
  | .assigned hashes => ∀ hash ∈ hashes.getD [], (copy.id, hash) ∉ run.accepted
  | _ => True

instance (run : CodesRun) (copy : User) : (codes : SavedCodes) → Decidable (run.Fresh copy codes)
  | .loaded | .left => isTrue trivial
  | .assigned hashes => inferInstanceAs (Decidable (∀ hash ∈ hashes.getD [], _))

end CodesRun

def codesStep (platform : Platform) (run : CodesRun) : CodesLabel → Option CodesRun
  | .loginWithEmail dto =>
      match run.presents platform dto with
      | none => some run
      | some copy =>
          some { run with logins := run.logins ++ [{ copy, recoveryCode := dto.recoveryCode }] }
  | .consume index =>
      run.logins[index]?.map fun login =>
        { run with logins := run.logins.eraseIdx index }.consume platform login
  | .load id => some { run with copies := run.copies ++ (findRow User.id id run.rows).toList }
  | .save index columns codes =>
      run.copies[index]?.bind fun copy =>
        if run.Fresh copy codes then
          some ({ run with copies := run.copies.eraseIdx index }.save copy columns codes)
        else none

def codesMachine (platform : Platform) : Machine CodesRun CodesLabel where
  initial run := ∃ rows, run = .start rows
  step := codesStep platform

namespace CodesRun

structure SingleUse (run : CodesRun) : Prop where
  once : run.accepted.Nodup
  absent : ∀ row ∈ run.rows, ∀ hash ∈ row.recoveryCodeHashes, (row.id, hash) ∉ run.accepted

def StepsSingleUse (platform : Platform) (run : CodesRun) (label : CodesLabel) : Prop :=
  ∀ after, codesStep platform run label = some after → after.SingleUse

def writer (platform : Platform) (run : CodesRun) : CodesLabel → Option User
  | .consume index =>
      (run.logins[index]?.filter fun login =>
        (matchRecoveryCode platform login.copy login.recoveryCode).isSome).map PendingLogin.copy
  | .save index _ .loaded => run.copies[index]?
  | _ => none

def CopyCurrent (platform : Platform) (run : CodesRun) (label : CodesLabel) : Prop :=
  ∀ copy ∈ run.writer platform label, ∀ hash ∈ copy.recoveryCodeHashes,
    (copy.id, hash) ∉ run.accepted

structure Loaded (run : CodesRun) : Prop where
  logins : ∀ login ∈ run.logins, login.copy.id ∈ run.rows.map User.id
  copies : ∀ copy ∈ run.copies, copy.id ∈ run.rows.map User.id

variable {platform : Platform} {run after : CodesRun} {label : CodesLabel}

theorem start_singleUse (rows : List User) : (start rows).SingleUse where
  once := List.nodup_nil
  absent _ _ _ _ := List.not_mem_nil

theorem start_loaded (rows : List User) : (start rows).Loaded where
  logins _ member := absurd member List.not_mem_nil
  copies _ member := absurd member List.not_mem_nil

theorem save_ids (run : CodesRun) (copy columns : User) (codes : SavedCodes) :
    (run.save copy columns codes).rows.map User.id = run.rows.map User.id := by
  unfold save
  rw [List.map_map]
  refine List.map_congr_left fun row _ => ?_
  by_cases same : row.id = copy.id
  · simp [same]
  · simp [same]

theorem consume_ids (platform : Platform) (run : CodesRun) (login : PendingLogin) :
    (run.consume platform login).rows.map User.id = run.rows.map User.id := by
  unfold consume
  split
  · rfl
  · exact saveRow_keys _ _

theorem consume_flight (platform : Platform) (run : CodesRun) (login : PendingLogin) :
    (run.consume platform login).logins = run.logins ∧
      (run.consume platform login).copies = run.copies := by
  unfold consume
  split <;> exact ⟨rfl, rfl⟩

theorem codesStep_loaded (loaded : run.Loaded)
    (moved : codesStep platform run label = some after) : after.Loaded := by
  obtain ⟨logins, copies⟩ := loaded
  cases label with
  | loginWithEmail dto =>
      simp only [codesStep] at moved
      split at moved
      · cases moved
        exact ⟨logins, copies⟩
      · rename_i copy presented
        cases moved
        refine ⟨fun login member => ?_, copies⟩
        rcases List.mem_append.mp member with earlier | new
        · exact logins login earlier
        · rw [List.mem_singleton.mp new]
          have found := (Option.filter_eq_some_iff.mp presented).1
          exact List.mem_map_of_mem (List.mem_of_find?_eq_some found)
  | consume index =>
      obtain ⟨login, _, rfl⟩ := Option.map_eq_some_iff.mp moved
      obtain ⟨sameLogins, sameCopies⟩ :=
        consume_flight platform { run with logins := run.logins.eraseIdx index } login
      refine ⟨?_, ?_⟩
      · rw [sameLogins, consume_ids]
        exact fun other member => logins other (List.mem_of_mem_eraseIdx member)
      · rw [sameCopies, consume_ids]
        exact copies
  | load id =>
      cases moved
      refine ⟨logins, fun copy member => ?_⟩
      rcases List.mem_append.mp member with earlier | new
      · exact copies copy earlier
      · have found := Option.mem_toList.mp new
        exact List.mem_map_of_mem (List.mem_of_find?_eq_some found)
  | save index columns codes =>
      obtain ⟨copy, _, saved⟩ := Option.bind_eq_some_iff.mp moved
      obtain ⟨_, same⟩ := Option.ite_none_right_eq_some.mp saved
      cases same
      refine ⟨?_, ?_⟩
      · rw [save_ids]
        exact logins
      · rw [save_ids]
        exact fun other member => copies other (List.mem_of_mem_eraseIdx member)

theorem mem_recoveryCodeHashes_without {user : User} {hash stored : String} :
    stored ∈ (user.withoutRecoveryCode hash).recoveryCodeHashes ↔
      stored ∈ user.recoveryCodeHashes ∧ stored ≠ hash := by
  unfold User.withoutRecoveryCode
  change stored ∈ user.recoveryCodeHashes.filter (fun other => other != hash) ↔ _
  rw [List.mem_filter, bne_iff_ne]

theorem consume_singleUse_iff {login : PendingLogin} {hash : String} (singleUse : run.SingleUse)
    (present : login.copy.id ∈ run.rows.map User.id)
    (matched : matchRecoveryCode platform login.copy login.recoveryCode = some hash) :
    (run.consume platform login).SingleUse ↔
      ∀ stored ∈ login.copy.recoveryCodeHashes, (login.copy.id, stored) ∉ run.accepted := by
  have consumed : run.consume platform login =
      { run with
        rows := saveRow User.id (login.copy.withoutRecoveryCode hash) run.rows
        accepted := run.accepted ++ [(login.copy.id, hash)] } := by
    unfold consume
    rw [matched]
  have listed := (matchRecoveryCode_some matched).1
  rw [consumed]
  constructor
  · rintro ⟨once, absent⟩ stored member
    by_cases used : stored = hash
    · subst used
      exact fun accepted => (List.nodup_append.mp once).2.2 _ accepted _
        (List.mem_singleton_self _) rfl
    · have kept := absent (login.copy.withoutRecoveryCode hash) (saveRow_mem present)
        stored (mem_recoveryCodeHashes_without.mpr ⟨member, used⟩)
      exact fun accepted => kept (List.mem_append_left _ accepted)
  · intro current
    refine ⟨?_, fun row member stored has accepted => ?_⟩
    · refine List.nodup_append.mpr ⟨singleUse.once, List.nodup_singleton _, ?_⟩
      intro one earlier other new same
      rw [List.mem_singleton.mp new] at same
      exact current hash listed (same ▸ earlier)
    · rcases mem_saveRow member with rfl | ⟨before, different⟩
      · obtain ⟨loaded, unused⟩ := mem_recoveryCodeHashes_without.mp has
        rcases List.mem_append.mp accepted with earlier | new
        · exact current stored loaded earlier
        · exact unused (Prod.mk.inj (List.mem_singleton.mp new)).2
      · rcases List.mem_append.mp accepted with earlier | new
        · exact singleUse.absent row before stored has earlier
        · exact different (Prod.mk.inj (List.mem_singleton.mp new)).1

theorem save_singleUse_iff {copy : User} (columns : User) {codes : SavedCodes}
    (singleUse : run.SingleUse)
    (present : copy.id ∈ run.rows.map User.id) (fresh : run.Fresh copy codes) :
    (run.save copy columns codes).SingleUse ↔
      (codes = .loaded → ∀ stored ∈ copy.recoveryCodeHashes, (copy.id, stored) ∉ run.accepted) := by
  constructor
  · rintro ⟨_, absent⟩ rfl stored member
    obtain ⟨row, before, same⟩ := List.mem_map.mp present
    exact absent _ (List.mem_map.mpr ⟨row, before, if_pos same⟩) stored member
  · intro current
    refine ⟨singleUse.once, fun row member stored has => ?_⟩
    obtain ⟨before, earlier, same⟩ := List.mem_map.mp member
    split at same
    · rename_i sameId
      subst same
      cases codes with
      | loaded => exact current rfl stored has
      | left =>
          have absent := singleUse.absent before earlier stored has
          rw [sameId] at absent
          exact absent
      | assigned hashes => exact fresh stored has
    · subst same
      exact singleUse.absent before earlier stored has

section

variable (loaded : run.Loaded) (singleUse : run.SingleUse)
include loaded singleUse

theorem stepsSingleUse_consume (index : Nat) :
    run.StepsSingleUse platform (.consume index) ↔ run.CopyCurrent platform (.consume index) := by
  simp only [StepsSingleUse, CopyCurrent, codesStep, writer]
  cases pending : run.logins[index]? with
  | none =>
      refine iff_of_true ?_ ?_
      · rintro after ⟨⟩
      · rintro copy ⟨⟩
  | some login =>
      let idle : CodesRun := { run with logins := run.logins.eraseIdx index }
      have unused : idle.SingleUse := ⟨singleUse.once, singleUse.absent⟩
      cases matched : matchRecoveryCode platform login.copy login.recoveryCode with
      | none =>
          refine iff_of_true ?_ ?_
          · rintro after ⟨⟩
            simpa [consume, matched] using unused
          · simp [matched]
      | some hash =>
          have consumed := consume_singleUse_iff unused
            (loaded.logins login (List.mem_of_getElem? pending)) matched
          simpa [matched] using consumed

theorem stepsSingleUse_save (index : Nat) (columns : User) (codes : SavedCodes) :
    run.StepsSingleUse platform (.save index columns codes) ↔
      run.CopyCurrent platform (.save index columns codes) := by
  simp only [StepsSingleUse, CopyCurrent, codesStep]
  cases pending : run.copies[index]? with
  | none =>
      refine iff_of_true ?_ ?_
      · rintro after ⟨⟩
      · cases codes <;> simp [writer, pending]
  | some copy =>
      let idle : CodesRun := { run with copies := run.copies.eraseIdx index }
      have unused : idle.SingleUse := ⟨singleUse.once, singleUse.absent⟩
      by_cases fresh : run.Fresh copy codes
      · have saved := save_singleUse_iff columns unused
          (loaded.copies copy (List.mem_of_getElem? pending)) fresh
        cases codes <;> simpa [writer, pending, fresh] using saved
      · refine iff_of_true ?_ ?_
        · simp [fresh]
        · cases codes with
          | assigned hashes => simp [writer]
          | loaded | left => exact absurd trivial fresh

theorem stepsSingleUse_iff :
    run.StepsSingleUse platform label ↔ run.CopyCurrent platform label := by
  cases label with
  | loginWithEmail dto =>
      refine iff_of_true ?_ fun copy member => absurd member (Option.not_mem_none copy)
      intro after moved
      simp only [codesStep] at moved
      split at moved
      · cases moved
        exact singleUse
      · cases moved
        exact ⟨singleUse.once, singleUse.absent⟩
  | load id =>
      refine iff_of_true ?_ fun copy member => absurd member (Option.not_mem_none copy)
      rintro after ⟨⟩
      exact ⟨singleUse.once, singleUse.absent⟩
  | consume index => exact stepsSingleUse_consume loaded singleUse index
  | save index columns codes => exact stepsSingleUse_save loaded singleUse index columns codes

end

end CodesRun

/-- Over every run the codes are single use exactly where no step writes back, or accepts, one
that was accepted after it was loaded. -/
theorem codesMachine_singleUse_iff (platform : Platform) (rows : List User)
    (labels : List CodesLabel) :
    (codesMachine platform).Permits (CodesRun.StepsSingleUse platform) (.start rows) labels ↔
      (codesMachine platform).Permits (CodesRun.CopyCurrent platform) (.start rows) labels := by
  let holds (run : CodesRun) : Prop := run.Loaded ∧ run.SingleUse
  refine Machine.permits_iff holds (fun _ => True) ?_ ?_ labels
    ⟨CodesRun.start_loaded rows, CodesRun.start_singleUse rows⟩ (fun _ _ => trivial)
  · exact fun run label known _ => CodesRun.stepsSingleUse_iff known.1 known.2
  · exact fun run label after known _ singleUse moved =>
      ⟨CodesRun.codesStep_loaded known.1 moved, singleUse after moved⟩

/-! An account with two recovery codes. -/

def codesOwner : User :=
  { twoFactorUser with twoFactorRecoveryCodeHashes := some ["A1", "B2"] }

/-- Two logins present the same code before either of them saves. -/
def sameCode : List CodesLabel :=
  [.loginWithEmail { passwordOnly with recoveryCode := "A1" },
    .loginWithEmail { passwordOnly with recoveryCode := "A1" }, .consume 0, .consume 0]

/-- Another operation has loaded the row before the login saves, and saves after it. -/
def restoredCode : List CodesLabel :=
  [.load "u1", .loginWithEmail { passwordOnly with recoveryCode := "A1" }, .consume 0,
    .save 0 codesOwner .loaded]

/-- The code is accepted twice in the first run, and stored again in the second one. -/
theorem codesMachine_accepts_twice :
    ¬(codesMachine plainPlatform).Permits (CodesRun.StepsSingleUse plainPlatform)
        (.start [codesOwner]) sameCode ∧
      ((codesMachine plainPlatform).run (.start [codesOwner]) sameCode).map CodesRun.accepted =
        some [("u1", "A1"), ("u1", "A1")] ∧
      ((codesMachine plainPlatform).run (.start [codesOwner]) restoredCode).map
          (fun run => (run.accepted, run.rows.map User.recoveryCodeHashes)) =
        some ([("u1", "A1")], [["A1", "B2"]]) := by
  have executed : ((codesMachine plainPlatform).run (.start [codesOwner]) sameCode).map
      CodesRun.accepted = some [("u1", "A1"), ("u1", "A1")] := by decide +kernel
  refine ⟨fun permitted => ?_, executed, by decide +kernel⟩
  obtain ⟨run, ran, accepted⟩ := Option.map_eq_some_iff.mp executed
  have singleUse : run.SingleUse :=
    Machine.run_preserves CodesRun.SingleUse (fun _ _ after _ steps moved => steps after moved)
      sameCode (CodesRun.start_singleUse [codesOwner]) permitted ran
  have once := singleUse.once
  rw [accepted] at once
  exact absurd once (by decide)

end AudioBlock.Auth
