/-
The merge of the chunks of an upload into one file, and what it leaves.

All chunks are handed to the stream in one turn, each deleted after it, so that a stream
which does not open or write fails when they are gone.
-/
import AudioBlock.Foundation.Binary64
import AudioBlock.Foundation.Rows

namespace AudioBlock.Songs.ChunkMerge

open AudioBlock.Foundation

/-- A file of the directory of an upload. -/
structure ChunkFile where
  name : String
  bytes : List UInt8
  deriving DecidableEq

def chunkName (index : Nat) : String := "chunk_" ++ toString index

/-- What the file system refuses. -/
structure Refusals where
  prepare : Bool
  read : Nat → Bool
  delete : Nat → Bool
  stream : Bool
  removeDirectory : Bool

inductive MergeFailure
  | unprepared
  | wrongCount (found : Nat)
  | missing (index : Nat)
  | unread (index : Nat)
  | undeleted (index : Nat)
  | unwritten
  | unremoved
  deriving DecidableEq

def mergeChunks (refused : Refusals) :
    (remaining index : Nat) → List ChunkFile → List UInt8 →
      List ChunkFile × Except MergeFailure (List UInt8)
  | 0, _, files, merged => (files, .ok merged)
  | remaining + 1, index, files, merged =>
      match findRow ChunkFile.name (chunkName index) files with
      | none => (files, .error (.missing index))
      | some chunk =>
          if refused.read index then (files, .error (.unread index))
          else if refused.delete index then (files, .error (.undeleted index))
          else
            mergeChunks refused remaining (index + 1)
              (removeRow ChunkFile.name (chunkName index) files) (merged ++ chunk.bytes)

structure MergeResult where
  files : List ChunkFile
  removed : Bool
  answer : Except MergeFailure (List UInt8)

def finishMerge (refused : Refusals) :
    List ChunkFile × Except MergeFailure (List UInt8) → MergeResult
  | (left, .error failure) => ⟨left, false, .error failure⟩
  | (left, .ok merged) =>
      if refused.stream then ⟨left, false, .error .unwritten⟩
      else if refused.removeDirectory ∨ left ≠ [] then ⟨left, false, .error .unremoved⟩
      else ⟨left, true, .ok merged⟩

def mergeScanAndUpload (refused : Refusals) (files : List ChunkFile) (totalChunks : Float) :
    MergeResult :=
  if refused.prepare then ⟨files, false, .error .unprepared⟩
  else if exactValue totalChunks ≠ some (files.length : ℚ) then
    ⟨files, false, .error (.wrongCount files.length)⟩
  else finishMerge refused (mergeChunks refused files.length 0 files [])

/-! ### All or nothing -/

def contents (files : List ChunkFile) (index : Nat) : List UInt8 :=
  ((findRow ChunkFile.name (chunkName index) files).map ChunkFile.bytes).getD []

/-- All chunks are there, the merged file is their concatenation, and the directory is gone. -/
structure Merged (files : List ChunkFile) (count : Nat) (result : MergeResult) : Prop where
  complete : ∀ index < count, findRow ChunkFile.name (chunkName index) files ≠ none
  answer : result.answer = .ok ((List.range count).flatMap (contents files))
  removed : result.removed = true

def AllOrNothing (files : List ChunkFile) (totalChunks : Float) (result : MergeResult) : Prop :=
  (∃ count : Nat, exactValue totalChunks = some (count : ℚ) ∧ Merged files count result) ∨
    (∃ failure, result.answer = .error failure) ∧ ∀ file ∈ files, file ∈ result.files

/-- The merge does not get past the chunk. -/
def Stalls (refused : Refusals) (files : List ChunkFile) (index : Nat) : Prop :=
  findRow ChunkFile.name (chunkName index) files = none ∨ refused.read index = true ∨
    refused.delete index = true

/-- The merge does not begin, it stalls at the very first chunk, or nothing fails. -/
def MergesOrKeeps (refused : Refusals) (files : List ChunkFile) (totalChunks : Float) : Prop :=
  refused.prepare = true ∨ exactValue totalChunks ≠ some (files.length : ℚ) ∨ files = [] ∨
    Stalls refused files 0 ∨
      (∀ index < files.length, ¬Stalls refused files index) ∧ refused.stream = false ∧
        refused.removeDirectory = false

section Chunks

variable {refused : Refusals} {files : List ChunkFile} {index : Nat}

theorem chunkName_injective {one other : Nat} (same : chunkName one = chunkName other) :
    one = other := by
  have digits : toString one = toString other := String.append_right_inj _ |>.mp same
  exact Nat.repr_injective digits

theorem mergeChunks_stalled (stalls : Stalls refused files index) (remaining : Nat)
    (merged : List UInt8) :
    ∃ failure, mergeChunks refused (remaining + 1) index files merged = (files, .error failure) := by
  unfold mergeChunks
  cases found : findRow ChunkFile.name (chunkName index) files with
  | none => exact ⟨_, rfl⟩
  | some chunk =>
      dsimp only
      by_cases unread : refused.read index = true
      · exact ⟨_, if_pos unread⟩
      · have undeleted : refused.delete index = true := by
          rcases stalls with missing | failing
          · cases found.symm.trans missing
          · exact failing.resolve_left unread
        rw [if_neg unread]
        exact ⟨_, if_pos undeleted⟩

theorem mergeChunks_goes (goes : ¬Stalls refused files index) (remaining : Nat)
    (merged : List UInt8) :
    mergeChunks refused (remaining + 1) index files merged =
      mergeChunks refused remaining (index + 1)
        (removeRow ChunkFile.name (chunkName index) files) (merged ++ contents files index) := by
  unfold Stalls at goes
  rw [not_or, not_or] at goes
  obtain ⟨present, readable, deletable⟩ := goes
  conv_lhs => unfold mergeChunks
  unfold contents
  cases found : findRow ChunkFile.name (chunkName index) files with
  | none => exact absurd found present
  | some chunk =>
      dsimp only
      rw [if_neg readable, if_neg deletable]
      rfl

variable {later remaining : Nat} {merged : List UInt8}

theorem findRow_later (different : later ≠ index) :
    findRow ChunkFile.name (chunkName later)
        (removeRow ChunkFile.name (chunkName index) files) =
      findRow ChunkFile.name (chunkName later) files :=
  findRow_removeRow_other files fun same => different (chunkName_injective same)

theorem stalls_later (different : later ≠ index) :
    Stalls refused (removeRow ChunkFile.name (chunkName index) files) later ↔
      Stalls refused files later := by
  unfold Stalls
  rw [findRow_later different]

theorem contents_later (different : later ≠ index) :
    contents (removeRow ChunkFile.name (chunkName index) files) later = contents files later := by
  unfold contents
  rw [findRow_later different]

theorem mergeChunks_left :
    ∀ file ∈ (mergeChunks refused remaining index files merged).1, file ∈ files := by
  induction remaining generalizing index files merged with
  | zero => exact fun _ member => member
  | succ remaining ih =>
      by_cases stalls : Stalls refused files index
      · obtain ⟨failure, same⟩ := mergeChunks_stalled stalls remaining merged
        rw [same]
        exact fun _ member => member
      · rw [mergeChunks_goes stalls]
        exact fun file member => (List.mem_filter.mp (ih file member)).1

theorem mergeChunks_fails {stuck : Nat} (from_ : index ≤ stuck)
    (within : stuck < index + remaining) (stalls : Stalls refused files stuck) :
    ∃ failure, (mergeChunks refused remaining index files merged).2 = .error failure := by
  induction remaining generalizing index files merged with
  | zero => omega
  | succ remaining ih =>
      by_cases here : Stalls refused files index
      · obtain ⟨failure, same⟩ := mergeChunks_stalled here remaining merged
        rw [same]
        exact ⟨failure, rfl⟩
      · have different : stuck ≠ index := fun same => here (same ▸ stalls)
        rw [mergeChunks_goes here]
        exact ih (by omega) (by omega) ((stalls_later different).mpr stalls)

theorem removeRow_length (distinct : (files.map ChunkFile.name).Nodup)
    (present : findRow ChunkFile.name (chunkName index) files ≠ none) :
    (removeRow ChunkFile.name (chunkName index) files).length + 1 = files.length := by
  obtain ⟨chunk, found⟩ := Option.ne_none_iff_exists'.mp present
  obtain ⟨member, named⟩ := findRow_mem found
  have listed : chunkName index ∈ files.map ChunkFile.name := named ▸ List.mem_map_of_mem member
  have names : (removeRow ChunkFile.name (chunkName index) files).map ChunkFile.name =
      (files.map ChunkFile.name).erase (chunkName index) := by
    rw [distinct.erase_eq_filter, List.filter_map]
    apply congrArg (List.map ChunkFile.name)
    apply List.filter_congr
    intro file _
    rw [Function.comp_apply, bne, beq_eq_decide, decide_not]
  have fewer := List.length_erase_of_mem listed
  have some := List.length_pos_of_mem listed
  rw [← names, List.length_map, List.length_map] at fewer
  rw [List.length_map] at some
  omega

theorem mergeChunks_merges (distinct : (files.map ChunkFile.name).Nodup)
    (goes : ∀ later, index ≤ later → later < index + remaining → ¬Stalls refused files later) :
    (mergeChunks refused remaining index files merged).2 =
        .ok (merged ++ (List.range' index remaining).flatMap (contents files)) ∧
      (mergeChunks refused remaining index files merged).1.length + remaining = files.length := by
  induction remaining generalizing index files merged with
  | zero => exact ⟨congrArg Except.ok (List.append_nil _).symm, rfl⟩
  | succ remaining ih =>
      have here := goes index (Nat.le_refl _) (by omega)
      have kept : ((removeRow ChunkFile.name (chunkName index) files).map ChunkFile.name).Nodup :=
        distinct.sublist (List.filter_sublist.map _)
      have further : ∀ later, index + 1 ≤ later → later < index + 1 + remaining →
          ¬Stalls refused (removeRow ChunkFile.name (chunkName index) files) later := by
        intro later from_ within
        rw [stalls_later (by omega)]
        exact goes later (by omega) (by omega)
      have same : ∀ later ∈ List.range' (index + 1) remaining,
          contents (removeRow ChunkFile.name (chunkName index) files) later =
            contents files later := by
        intro later member
        have bounds := List.mem_range'_1.mp member
        exact contents_later (by omega)
      have fewer := removeRow_length distinct fun missing => here (.inl missing)
      obtain ⟨answer, left⟩ := @ih _ (index + 1) (merged ++ contents files index) kept further
      rw [mergeChunks_goes here]
      refine ⟨?_, by omega⟩
      rw [answer, List.range'_succ, List.flatMap_cons, List.append_assoc,
        List.flatMap_congr same]

end Chunks

section Merge

variable {refused : Refusals} {files : List ChunkFile} {totalChunks : Float}

theorem kept_whole (removed : Bool) (failure : MergeFailure) :
    AllOrNothing files totalChunks ⟨files, removed, .error failure⟩ :=
  .inr ⟨⟨failure, rfl⟩, fun _ member => member⟩

theorem not_allOrNothing {result : MergeResult} (failed : ∃ failure, result.answer = .error failure)
    (lost : ∃ file ∈ files, file ∉ result.files) : ¬AllOrNothing files totalChunks result := by
  rintro (⟨_, _, merged⟩ | ⟨_, kept⟩)
  · obtain ⟨failure, failed⟩ := failed
    cases failed.symm.trans merged.answer
  · obtain ⟨file, member, gone⟩ := lost
    exact gone (kept file member)

theorem first_lost (goes : ¬Stalls refused files 0) :
    ∃ file ∈ files, file ∉ (mergeChunks refused files.length 0 files []).1 := by
  obtain ⟨chunk, found⟩ := Option.ne_none_iff_exists'.mp fun missing => goes (.inl missing)
  obtain ⟨member, named⟩ := findRow_mem found
  refine ⟨chunk, member, ?_⟩
  obtain ⟨remaining, length⟩ := Nat.exists_eq_succ_of_ne_zero
    (Nat.ne_of_gt (List.length_pos_of_mem member))
  rw [length, mergeChunks_goes goes]
  intro left
  have stays := (List.mem_filter.mp (mergeChunks_left chunk left)).2
  exact of_decide_eq_true stays named

theorem finishMerge_files
    (merge : List ChunkFile × Except MergeFailure (List UInt8)) :
    (finishMerge refused merge).files = merge.1 := by
  obtain ⟨left, answer⟩ := merge
  cases answer with
  | error failure => rfl
  | ok merged =>
      unfold finishMerge
      dsimp only
      split
      · rfl
      · split
        · rfl
        · rfl

theorem finishMerge_ok {merge : List ChunkFile × Except MergeFailure (List UInt8)}
    {merged : List UInt8} (answered : (finishMerge refused merge).answer = .ok merged) :
    merge.2 = .ok merged ∧ refused.stream = false ∧ refused.removeDirectory = false := by
  obtain ⟨left, answer⟩ := merge
  cases answer with
  | error failure => cases answered
  | ok whole =>
      unfold finishMerge at answered
      dsimp only at answered
      by_cases unwritten : refused.stream = true
      · rw [if_pos unwritten] at answered
        cases answered
      rw [if_neg unwritten] at answered
      by_cases unremoved : refused.removeDirectory = true ∨ left ≠ []
      · rw [if_pos unremoved] at answered
        cases answered
      rw [if_neg unremoved] at answered
      cases answered
      exact ⟨rfl, Bool.eq_false_iff.mpr unwritten,
        Bool.eq_false_iff.mpr fun refusal => unremoved (.inl refusal)⟩

theorem finishMerge_failed (first : ¬Stalls refused files 0)
    (failed : ¬((∀ index < files.length, ¬Stalls refused files index) ∧ refused.stream = false ∧
      refused.removeDirectory = false)) :
    ¬AllOrNothing files totalChunks
      (finishMerge refused (mergeChunks refused files.length 0 files [])) := by
  apply not_allOrNothing
  · cases answered : (finishMerge refused (mergeChunks refused files.length 0 files [])).answer with
    | error failure => exact ⟨failure, rfl⟩
    | ok merged =>
        obtain ⟨whole, written, removed⟩ := finishMerge_ok answered
        refine absurd ⟨?_, written, removed⟩ failed
        intro index within stalls
        obtain ⟨failure, stopped⟩ := mergeChunks_fails (Nat.zero_le index)
          (by rwa [Nat.zero_add]) stalls
        cases stopped.symm.trans whole
  · rw [finishMerge_files]
    exact first_lost first

theorem finishMerge_merged (distinct : (files.map ChunkFile.name).Nodup)
    (counted : exactValue totalChunks = some (files.length : ℚ))
    (goes : ∀ index < files.length, ¬Stalls refused files index) (written : refused.stream = false)
    (removed : refused.removeDirectory = false) :
    AllOrNothing files totalChunks
      (finishMerge refused (mergeChunks refused files.length 0 files [])) := by
  obtain ⟨answer, left⟩ := @mergeChunks_merges refused files 0 files.length [] distinct
    fun later _ within => goes later (by rwa [Nat.zero_add] at within)
  have none : (mergeChunks refused files.length 0 files []).1 = [] :=
    List.eq_nil_of_length_eq_zero (by omega)
  have whole : mergeChunks refused files.length 0 files [] =
      ([], .ok ((List.range files.length).flatMap (contents files))) := by
    rw [List.range_eq_range']
    exact Prod.ext none answer
  rw [whole]
  unfold finishMerge
  dsimp only
  rw [if_neg (by rw [written]; exact Bool.false_ne_true), if_neg]
  · exact .inl ⟨files.length, counted, fun index within missing => goes index within (.inl missing),
      rfl, rfl⟩
  · rintro (refusal | some)
    · rw [removed] at refusal
      cases refusal
    · exact some rfl

theorem finishMerge_empty (counted : exactValue totalChunks = some 0) :
    AllOrNothing [] totalChunks (finishMerge refused ([], .ok [])) := by
  cases answered : (finishMerge refused ([], .ok [])).answer with
  | error failure =>
      exact .inr ⟨⟨failure, answered⟩, fun _ member => nomatch member⟩
  | ok merged =>
      obtain ⟨whole, written, removed⟩ := finishMerge_ok answered
      refine @finishMerge_merged refused [] totalChunks List.nodup_nil counted ?_ written removed
      exact fun _ within => absurd within (Nat.not_lt_zero _)

/-- Up to the scan, the upload is merged whole or left whole exactly if the merge does not begin,
stalls at the first chunk, or does not fail. -/
theorem mergeScanAndUpload_allOrNothing_iff (distinct : (files.map ChunkFile.name).Nodup) :
    AllOrNothing files totalChunks (mergeScanAndUpload refused files totalChunks) ↔
      MergesOrKeeps refused files totalChunks := by
  unfold mergeScanAndUpload MergesOrKeeps
  by_cases unprepared : refused.prepare = true
  · rw [if_pos unprepared]
    exact iff_of_true (kept_whole _ _) (.inl unprepared)
  rw [if_neg unprepared, or_iff_right unprepared]
  by_cases wrong : exactValue totalChunks ≠ some (files.length : ℚ)
  · rw [if_pos wrong]
    exact iff_of_true (kept_whole _ _) (.inl wrong)
  rw [if_neg wrong, or_iff_right wrong]
  have counted := not_not.mp wrong
  by_cases first : Stalls refused files 0
  · refine iff_of_true ?_ (.inr (.inl first))
    cases length : files.length with
    | zero =>
        obtain rfl := List.eq_nil_of_length_eq_zero length
        exact finishMerge_empty counted
    | succ remaining =>
        obtain ⟨failure, same⟩ := mergeChunks_stalled first remaining []
        rw [same]
        exact kept_whole _ _
  · by_cases goes : (∀ index < files.length, ¬Stalls refused files index) ∧
        refused.stream = false ∧ refused.removeDirectory = false
    · exact iff_of_true (finishMerge_merged distinct counted goes.1 goes.2.1 goes.2.2)
        (.inr (.inr goes))
    · refine iff_of_false (finishMerge_failed first goes) ?_
      rintro (rfl | stalls | all)
      · exact first (.inl rfl)
      · exact first stalls
      · exact goes all

instance (refused : Refusals) (files : List ChunkFile) (index : Nat) :
    Decidable (Stalls refused files index) := inferInstanceAs (Decidable (_ ∨ _ ∨ _))

/-- The file system refuses nothing. -/
def granted : Refusals := ⟨false, fun _ => false, fun _ => false, false, false⟩

def twoChunks : List ChunkFile := [⟨"chunk_1", [3]⟩, ⟨"chunk_0", [1, 2]⟩]

theorem twoChunks_merged :
    AllOrNothing twoChunks 2 (mergeScanAndUpload granted twoChunks 2) := by
  apply (mergeScanAndUpload_allOrNothing_iff (by decide)).2
  refine .inr (.inr (.inr (.inr ⟨?_, rfl, rfl⟩)))
  decide +kernel

/-- One chunk of three has not arrived, and two are declared. -/
def gappedChunks : List ChunkFile := [⟨"chunk_0", [1, 2]⟩, ⟨"chunk_2", [4]⟩]

/-- The count is right, but chunk 1 is missing when chunk 0 is gone. -/
theorem gappedChunks_lost :
    ¬AllOrNothing gappedChunks 2 (mergeScanAndUpload granted gappedChunks 2) := by
  have counted : exactValue 2 = some (gappedChunks.length : ℚ) := by decide +kernel
  unfold mergeScanAndUpload
  rw [if_neg (by decide), if_neg (not_not_intro counted)]
  apply finishMerge_failed
  · decide +kernel
  · rintro ⟨goes, _⟩
    exact absurd goes (by decide +kernel)

end Merge

end AudioBlock.Songs.ChunkMerge
