/-
What one call of a re-upload or a rollback writes into the versions.

A call reads, demotes the active versions of its song, or stores a version.  The
numbers of a song stay contiguous: a version gets the number after the latest one
that its request has read, so it is stored only if no other was stored since.
-/
import Mathlib.Data.List.Perm.Basic
import AudioBlock.Songs.VersionRequests

namespace AudioBlock.Songs

open AudioBlock.Foundation
open scoped List

/-! ### Inserting and demoting rows -/

section Rows

variable {versions : List SongVersion} {songId other : String} {version : SongVersion}

theorem versionsOf_append_own (own : version.songId = songId) :
    versionsOf (versions ++ [version]) songId = versionsOf versions songId ++ [version] := by
  unfold versionsOf
  rw [List.filter_append, List.filter_cons_of_pos (by simpa using own), List.filter_nil]

theorem versionsOf_append_other (different : version.songId ≠ songId) :
    versionsOf (versions ++ [version]) songId = versionsOf versions songId := by
  unfold versionsOf
  rw [List.filter_append, List.filter_cons_of_neg (by simpa using different), List.filter_nil,
    List.append_nil]

theorem versionsOf_demote (versions : List SongVersion) (songId other : String) :
    versionsOf (demoteVersions versions other) songId =
      demoteVersions (versionsOf versions songId) other := by
  unfold versionsOf demoteVersions
  rw [List.filter_map]
  have same : (fun version : SongVersion => decide (version.songId = songId)) ∘
      (fun version => if version.songId = other then { version with isActive := false } else version) =
      fun version => decide (version.songId = songId) := by
    funext version
    by_cases named : version.songId = other
    · simp only [Function.comp_apply, if_pos named]
    · simp only [Function.comp_apply, if_neg named]
  rw [same]

theorem versionsOf_demote_other (different : other ≠ songId) :
    versionsOf (demoteVersions versions other) songId = versionsOf versions songId := by
  rw [versionsOf_demote]
  refine (List.map_congr_left ?_).trans (List.map_id _)
  intro version member
  have named := of_decide_eq_true (List.mem_filter.mp member).2
  exact if_neg fun same => different (same.symm.trans named)

theorem numbersOf_demote : numbersOf (demoteVersions versions other) songId =
    numbersOf versions songId := by
  unfold numbersOf
  rw [versionsOf_demote, demoteVersions, List.map_map]
  apply List.map_congr_left
  intro version _
  by_cases named : version.songId = other
  · simp only [Function.comp_apply, if_pos named]
  · simp only [Function.comp_apply, if_neg named]

theorem countVersions_demote : countVersions (demoteVersions versions other) songId =
    countVersions versions songId := by
  unfold countVersions
  rw [versionsOf_demote, demoteVersions, List.length_map]

theorem activeVersions_demote : activeVersions (demoteVersions versions songId) songId = 0 := by
  unfold activeVersions
  rw [versionsOf_demote, List.countP_eq_zero]
  intro version member
  obtain ⟨before, present, rfl⟩ := List.mem_map.mp member
  rw [if_pos (of_decide_eq_true (List.mem_filter.mp present).2)]
  exact Bool.false_ne_true

theorem insertVersion_some {after : List SongVersion}
    (inserted : insertVersion versions version = some after) :
    after = versions ++ [version] ∧
      version.versionNumber ∉ numbersOf versions version.songId := by
  unfold insertVersion at inserted
  obtain ⟨absent, same⟩ := Option.ite_none_right_eq_some.mp inserted
  cases same
  refine ⟨rfl, ?_⟩
  intro member
  obtain ⟨holder, present, same⟩ := List.mem_map.mp member
  exact List.find?_eq_none.mp absent holder present (decide_eq_true same)

theorem foldl_max_range (count : Nat) : (List.range' 1 count).foldl max 0 = count := by
  induction count with
  | zero => rfl
  | succ count ih =>
      rw [List.range'_concat, List.foldl_append, ih]
      simp only [List.foldl_cons, List.foldl_nil]
      omega

theorem Numbered.latest (numbered : Numbered versions songId) :
    getLatestVersionNumber versions songId = countVersions versions songId := by
  have read : getLatestVersionNumber versions songId = (numbersOf versions songId).foldl max 0 :=
    List.foldl_map.symm
  rw [read, numbered.foldl_eq]
  exact foldl_max_range _

theorem Numbered.next (numbered : Numbered versions songId) {number : Nat} (positive : 1 ≤ number)
    (free : number ∉ numbersOf versions songId)
    (within : number ≤ countVersions versions songId + 1) :
    number = countVersions versions songId + 1 := by
  have outside : number ∉ List.range' 1 (countVersions versions songId) :=
    fun member => free (numbered.mem_iff.mpr member)
  rw [List.mem_range'_1] at outside
  omega

theorem Numbered.snoc (numbered : Numbered versions songId) (own : version.songId = songId)
    (next : version.versionNumber = countVersions versions songId + 1) :
    Numbered (versions ++ [version]) songId := by
  unfold Numbered numbersOf countVersions
  rw [versionsOf_append_own own, List.map_append, List.length_append, List.map_cons, List.map_nil,
    List.length_singleton, List.range'_concat, Nat.one_mul, next, Nat.add_comm _ 1]
  exact numbered.append_right _

end Rows

/-! ### What a call can write -/

def VersionCall.Sound (versions : List SongVersion) (songId : String) : VersionCall → Prop
  | .count song _ _ | .recount song _ _ | .createInitial song _ _ => song.id = songId
  | .demote _ nextNumber => 1 ≤ nextNumber ∧ nextNumber ≤ countVersions versions songId + 1
  | .insert _ nextNumber demoted =>
      1 ≤ nextNumber ∧ nextNumber ≤ demoted + 1 ∧ demoted ≤ countVersions versions songId ∧
        (demoted = countVersions versions songId → activeVersions versions songId = 0)
  | _ => True

def VersionCall.isInsert : VersionCall → Bool
  | .insert _ _ _ => true
  | _ => false

/-- The three effects on the versions. -/
inductive VersionWrite (versions : List SongVersion) (songId : String) :
    VersionCall → List SongVersion → VersionCall → Prop
  | reads (call next : VersionCall) (sound : next.Sound versions songId)
      (refused : call.isInsert = true → next = .ended) :
      VersionWrite versions songId call versions next
  | demotes (plan : VersionPlan) (nextNumber : Nat) (positive : 1 ≤ nextNumber)
      (within : nextNumber ≤ countVersions versions songId + 1) :
      VersionWrite versions songId (.demote plan nextNumber) (demoteVersions versions songId)
        (.insert plan nextNumber (countVersions versions songId))
  | inserts (call next : VersionCall) (version : SongVersion) (own : version.songId = songId)
      (active : version.isActive = true) (unserved : activeVersions versions songId = 0)
      (number : version.versionNumber = countVersions versions songId + 1)
      (sound : ∀ later, next.Sound later songId) (running : next ≠ .ended) :
      VersionWrite versions songId call (versions ++ [version]) next

theorem VersionCall.not_refused {call next : VersionCall} (other : call.isInsert = false) :
    call.isInsert = true → next = .ended :=
  fun insert => absurd (other.symm.trans insert) Bool.false_ne_true

section Writes

variable {versions : List SongVersion} {songId : String}

theorem activeVersions_le_count : activeVersions versions songId ≤ countVersions versions songId :=
  List.countP_le_length

theorem afterFindSong_sound (task : VersionTask) {found : Option Song}
    (named : ∀ song ∈ found, song.id = songId) :
    (afterFindSong task found).Sound versions songId := by
  unfold afterFindSong
  split
  · trivial
  · rename_i song
    split
    · split
      · trivial
      · exact named song rfl
    · split
      · trivial
      · split
        · trivial
        · split
          · trivial
          · trivial

theorem performVersion_writes {table : SongState} (numbered : Numbered table.versions songId)
    {call : VersionCall} (sound : call.Sound table.versions songId) :
    VersionWrite table.versions songId call (performVersion table songId call).1.versions
      (performVersion table songId call).2 := by
  cases call with
  | findSong task =>
      apply VersionWrite.reads
      · exact afterFindSong_sound task fun song found => (findRow_mem found).2
      · exact VersionCall.not_refused rfl
  | count song artistId input =>
      apply VersionWrite.reads
      · dsimp only [performVersion]
        split
        · exact sound
        · trivial
      · exact VersionCall.not_refused rfl
  | recount song artistId input =>
      apply VersionWrite.reads
      · dsimp only [performVersion]
        split
        · exact sound
        · trivial
      · exact VersionCall.not_refused rfl
  | createInitial song artistId input =>
      cases inserted : insertVersion table.versions (initialVersion song song.artistId) with
      | none =>
          simp only [performVersion, inserted]
          exact .reads _ .ended trivial fun _ => rfl
      | some versions =>
          simp only [performVersion, inserted]
          obtain ⟨rfl, free⟩ := insertVersion_some inserted
          have own : song.id = songId := sound
          have first : 1 = countVersions table.versions songId + 1 :=
            numbered.next (Nat.le_refl 1) (own ▸ free) (by omega)
          have unserved : activeVersions table.versions songId = 0 := by
            have bound := @activeVersions_le_count table.versions songId
            omega
          exact .inserts _ (.readLatest _) (initialVersion song song.artistId) own rfl unserved first
            (fun _ => trivial) VersionCall.noConfusion
  | assertSongExists song versionNumber artistId changeNote =>
      apply VersionWrite.reads
      · dsimp only [performVersion]
        split
        · trivial
        · trivial
      · exact VersionCall.not_refused rfl
  | findTarget song versionNumber artistId changeNote =>
      apply VersionWrite.reads
      · dsimp only [performVersion]
        split
        · trivial
        · trivial
      · exact VersionCall.not_refused rfl
  | readLatest plan =>
      apply VersionWrite.reads
      · change 1 ≤ getLatestVersionNumber table.versions songId + 1 ∧ _
        rw [numbered.latest]
        exact ⟨Nat.le_add_left 1 _, Nat.le_refl _⟩
      · exact VersionCall.not_refused rfl
  | demote plan nextNumber => exact .demotes plan nextNumber sound.1 sound.2
  | insert plan nextNumber demoted =>
      obtain ⟨positive, within, before, unserved⟩ := sound
      cases inserted : insertVersion table.versions (plan.version songId nextNumber) with
      | none =>
          simp only [performVersion, inserted]
          exact .reads _ .ended trivial fun _ => rfl
      | some versions =>
          simp only [performVersion, inserted]
          obtain ⟨rfl, free⟩ := insertVersion_some inserted
          have shape : (plan.version songId nextNumber).songId = songId ∧
              (plan.version songId nextNumber).isActive = true ∧
                (plan.version songId nextNumber).versionNumber = nextNumber := by
            cases plan with
            | reupload song artistId input => exact ⟨rfl, rfl, rfl⟩
            | rollback song target artistId changeNote => exact ⟨rfl, rfl, rfl⟩
          obtain ⟨own, active, number⟩ := shape
          rw [own, number] at free
          have next := numbered.next positive free (by omega)
          exact .inserts _ (.saveSong plan _) _ own active (unserved (by omega))
            (number.trans next) (fun _ => trivial) VersionCall.noConfusion
  | saveSong plan version =>
      have kept : (performVersion table songId (.saveSong plan version)).1.versions =
          table.versions := by
        simp only [performVersion]
        cases plan.pointed version with
        | none => rfl
        | some song => rfl
      rw [kept]
      exact .reads _ .ended trivial fun _ => rfl
  | ended => exact .reads _ .ended trivial fun _ => rfl

/-! ### What a write leaves -/

variable {call next : VersionCall} {later : List SongVersion}

theorem VersionWrite.elsewhere {other : String}
    (write : VersionWrite versions other call later next) (different : other ≠ songId) : versionsOf later songId = versionsOf versions songId := by
  cases write with
  | reads => rfl
  | demotes => exact versionsOf_demote_other different
  | inserts _ _ version own => exact versionsOf_append_other fun same => different (own.symm.trans same)

theorem VersionWrite.numbered (write : VersionWrite versions songId call later next)
    (numbered : Numbered versions songId) : Numbered later songId := by
  cases write with
  | reads => exact numbered
  | demotes =>
      unfold Numbered
      rw [numbersOf_demote, countVersions_demote]
      exact numbered
  | inserts _ _ version own _ _ number => exact numbered.snoc own number

theorem activeVersions_insert {version : SongVersion} (own : version.songId = songId)
    (active : version.isActive = true) :
    activeVersions (versions ++ [version]) songId = activeVersions versions songId + 1 := by
  unfold activeVersions
  rw [versionsOf_append_own own, List.countP_append, List.countP_singleton, if_pos active]

theorem VersionWrite.single (write : VersionWrite versions songId call later next)
    (single : activeVersions versions songId ≤ 1) : activeVersions later songId ≤ 1 := by
  cases write with
  | reads => exact single
  | demotes =>
      rw [activeVersions_demote]
      exact Nat.zero_le 1
  | inserts _ _ version own active unserved =>
      exact Nat.le_of_eq (by rw [activeVersions_insert own active, unserved])

theorem VersionWrite.grown (write : VersionWrite versions songId call later next) :
    countVersions versions songId < countVersions later songId ∨
      countVersions later songId = countVersions versions songId ∧
        activeVersions later songId ≤ activeVersions versions songId := by
  cases write with
  | reads => exact Or.inr ⟨rfl, Nat.le_refl _⟩
  | demotes =>
      rw [activeVersions_demote, countVersions_demote]
      exact Or.inr ⟨rfl, Nat.zero_le _⟩
  | inserts _ _ version own =>
      left
      unfold countVersions
      rw [versionsOf_append_own own, List.length_append]
      exact Nat.lt_add_one _

theorem VersionCall.Sound.mono (sound : call.Sound versions songId)
    (grown : countVersions versions songId < countVersions later songId ∨
      countVersions later songId = countVersions versions songId ∧
        activeVersions later songId ≤ activeVersions versions songId) :
    call.Sound later songId := by
  cases call with
  | demote plan nextNumber =>
      obtain ⟨positive, within⟩ := sound
      exact ⟨positive, by omega⟩
  | insert plan nextNumber demoted =>
      obtain ⟨positive, within, before, unserved⟩ := sound
      refine ⟨positive, within, by omega, ?_⟩
      intro same
      omega
  | findSong _ | count _ _ _ | recount _ _ _ | createInitial _ _ _ | assertSongExists _ _ _ _
  | findTarget _ _ _ _ | readLatest _ | saveSong _ _ | ended => exact sound

theorem VersionWrite.nextSound (write : VersionWrite versions songId call later next) :
    next.Sound later songId := by
  cases write with
  | reads _ _ sound => exact sound
  | demotes plan nextNumber positive within =>
      exact ⟨positive, within, Nat.le_of_eq countVersions_demote.symm,
        fun _ => activeVersions_demote⟩
  | inserts _ _ _ _ _ _ _ sound _ => exact sound _

end Writes

end AudioBlock.Songs
