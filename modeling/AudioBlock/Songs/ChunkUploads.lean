/-
Chunked uploads: the files that `saveChunk` and `mergeScanAndUpload` ask for.

Texts are lists of characters.  A call appends every file that it asks for, with the
path it gives, to what it has asked for so far; the file system's answers may depend on
all of that.  An upload is confined where its chunks lie below a directory of its own in
`uploads/temp` and its merged file in `uploads/merged`.
-/
import AudioBlock.Foundation.Paths

namespace AudioBlock.Songs.ChunkUploads

open AudioBlock.Foundation.Paths

inductive FileAccess
  | makeDirectory (path : List Char)
  | list (path : List Char)
  | read (path : List Char)
  | write (path : List Char)
  | delete (path : List Char)
  | removeDirectory (path : List Char)
  | upload (key : List Char)
  deriving DecidableEq

/-- What the file system answers after what has been asked for. -/
structure Disk where
  present : List FileAccess → List Char → Bool
  succeeds : List FileAccess → FileAccess → Bool
  entries : List FileAccess → List Char → Nat

/-- What a call has asked for when it goes on, or when it throws. -/
abbrev Attempt := Except (List FileAccess) (List FileAccess)

def Attempt.asked : Attempt → List FileAccess
  | .error asked => asked
  | .ok asked => asked

def ask (disk : Disk) (access : FileAccess) (asked : List FileAccess) : Attempt :=
  if disk.succeeds asked access then .ok (asked ++ [access]) else .error (asked ++ [access])

def ensureDirectory (disk : Disk) (path : List Char) (asked : List FileAccess) : Attempt :=
  if disk.present asked path then .ok asked else ask disk (.makeDirectory path) asked

/-- The text of a number that passes `@IsNumber` and `@Min(0)`. -/
structure IndexText where
  text : List Char
  numeric : ∀ char ∈ text, char.isDigit ∨ char ∈ ['.', 'e', '+', '-']

def IndexText.ofNat (index : Nat) : IndexText where
  text := Nat.toDigits 10 index
  numeric _ member := Or.inl (Nat.isDigit_of_mem_toDigits (by decide) (by decide) member)

def chunkName (index : IndexText) : List Char := "chunk_".toList ++ index.text

def uploadDir (fileId : List Char) : List Char := join ["uploads".toList, "temp".toList, fileId]

def saveChunk (disk : Disk) (fileId : List Char) (index : IndexText) (chunkPath : List Char) :
    Attempt := do
  let destination := join [uploadDir fileId, chunkName index]
  let asked ← ensureDirectory disk (uploadDir fileId) []
  let asked ← ask disk (.read chunkPath) asked
  let asked ← ask disk (.write destination) asked
  ask disk (.delete chunkPath) asked

def mergedDir : List Char := "uploads/merged".toList

def tempDir (fileId : List Char) : List Char := join ["uploads/temp".toList, fileId]

def finalPath (fileId : List Char) : List Char := join [mergedDir, fileId ++ ".mp3".toList]

def s3Key (fileId : List Char) : List Char := "uploads/".toList ++ fileId ++ ".mp3".toList

inductive ScanVerdict
  | clean
  | infected
  | unavailable

def mergeChunks (disk : Disk) (directory : List Char) :
    (remaining index : Nat) → List FileAccess → Attempt
  | 0, _, asked => .ok asked
  | remaining + 1, index, asked => do
      let chunk := join [directory, chunkName (.ofNat index)]
      let asked ← ask disk (.read chunk) asked
      let asked ← ask disk (.delete chunk) asked
      mergeChunks disk directory remaining (index + 1) asked

def scanAndUpload (disk : Disk) (verdict : ScanVerdict) (fileId : List Char)
    (asked : List FileAccess) : Attempt := do
  let asked ← ask disk (.read (finalPath fileId)) asked
  match verdict with
  | .unavailable => .error asked
  | .infected => .error (asked ++ [.delete (finalPath fileId)])
  | .clean =>
      let asked ← ask disk (.read (finalPath fileId)) asked
      ask disk (.upload (s3Key fileId)) asked

def mergeScanAndUpload (disk : Disk) (verdict : ScanVerdict) (fileId : List Char)
    (totalChunks : Nat) : Attempt := do
  let asked ← ensureDirectory disk mergedDir []
  let asked ← ensureDirectory disk (tempDir fileId) asked
  if disk.present asked (tempDir fileId) = false then throw asked
  let asked ← ask disk (.list (tempDir fileId)) asked
  if disk.entries asked (tempDir fileId) ≠ totalChunks then throw asked
  let opened := disk.succeeds asked (.write (finalPath fileId))
  let asked ← mergeChunks disk (tempDir fileId) totalChunks 0 (asked ++ [.write (finalPath fileId)])
  if opened = false then throw asked
  let asked ← ask disk (.removeDirectory (tempDir fileId)) asked
  scanAndUpload disk verdict fileId asked

/-- `@IsNotEmpty()`, all that the DTOs ask of a file id's text. -/
def isNotEmpty (fileId : List Char) : Bool := fileId != []

/-! ### Confinement -/

def FileAccess.Within (directory file : Segment) : FileAccess → Prop
  | .makeDirectory path =>
      locate path = ["uploads".toList, "temp".toList, directory] ∨
        locate path = ["uploads".toList, "merged".toList]
  | .list path | .removeDirectory path =>
      locate path = ["uploads".toList, "temp".toList, directory]
  | .read path | .write path | .delete path =>
      (∃ name, locate path = ["uploads".toList, "temp".toList, directory, name]) ∨
        locate path = ["uploads".toList, "merged".toList, file]
  | .upload _ => True

/-- `chunkPath` is the file that the route has received and handed over. -/
structure Confined (fileId : List Char) (directory file : Segment) : Prop where
  saves : ∀ disk index chunkPath, ∀ access ∈ (saveChunk disk fileId index chunkPath).asked,
    access = .read chunkPath ∨ access = .delete chunkPath ∨ access.Within directory file
  merges : ∀ disk verdict totalChunks,
    ∀ access ∈ (mergeScanAndUpload disk verdict fileId totalChunks).asked,
      access.Within directory file
  merged : locate (finalPath fileId) = ["uploads".toList, "merged".toList, file]

structure UploadsIsolated (one other : List Char) : Prop where
  first : ∃ directory file, Confined one directory file
  second : ∃ directory file, Confined other directory file
  apart : one ≠ other → locate (uploadDir one) ≠ locate (uploadDir other) ∧
    locate (finalPath one) ≠ locate (finalPath other) ∧ s3Key one ≠ s3Key other

def Lands (fileId : List Char) : Prop :=
  walk (leading fileId) [] = some [] ∧ Plain (lastSegment fileId)

instance (fileId : List Char) : Decidable (Lands fileId) := inferInstanceAs (Decidable (_ ∧ _))

/-! ### What is asked for -/

section Asked

variable {Holds : FileAccess → Prop} {disk : Disk}

def Attempt.All (Holds : FileAccess → Prop) (attempt : Attempt) : Prop :=
  ∀ access ∈ attempt.asked, Holds access

variable {asked : List FileAccess}

theorem all_concat {access : FileAccess} (before : ∀ other ∈ asked, Holds other)
    (now : Holds access) :
    ∀ other ∈ asked ++ [access], Holds other := by
  intro other member
  rcases List.mem_append.mp member with earlier | last
  · exact before other earlier
  · exact List.mem_singleton.mp last ▸ now

theorem Attempt.All.bind {first : Attempt} {next : List FileAccess → Attempt}
    (all : first.All Holds)
    (later : ∀ asked, (∀ access ∈ asked, Holds access) → (next asked).All Holds) :
    Attempt.All Holds (first >>= next) := by
  cases first with
  | error asked => exact all
  | ok asked => exact later asked all

theorem ask_all {access : FileAccess} (before : ∀ other ∈ asked, Holds other) (now : Holds access) :
    (ask disk access asked).All Holds := by
  unfold ask
  split
  · exact all_concat before now
  · exact all_concat before now

theorem ensureDirectory_all {path : List Char} (before : ∀ other ∈ asked, Holds other)
    (now : Holds (.makeDirectory path)) :
    (ensureDirectory disk path asked).All Holds := by
  unfold ensureDirectory
  split
  · exact before
  · exact ask_all before now

theorem mergeChunks_all {directory : List Char} (remaining index : Nat)
    (before : ∀ other ∈ asked, Holds other)
    (chunks : ∀ number, Holds (.read (join [directory, chunkName (.ofNat number)])) ∧
      Holds (.delete (join [directory, chunkName (.ofNat number)]))) :
    (mergeChunks disk directory remaining index asked).All Holds := by
  induction remaining generalizing index asked with
  | zero => exact before
  | succ remaining ih =>
      apply (ask_all before (chunks index).1).bind
      intro afterRead whileRead
      apply (ask_all whileRead (chunks index).2).bind
      intro afterDelete whileDeleted
      exact ih (index + 1) whileDeleted

variable {fileId : List Char} {verdict : ScanVerdict}

theorem scanAndUpload_all (before : ∀ other ∈ asked, Holds other)
    (read : Holds (.read (finalPath fileId))) (delete : Holds (.delete (finalPath fileId)))
    (upload : Holds (.upload (s3Key fileId))) :
    (scanAndUpload disk verdict fileId asked).All Holds := by
  apply (ask_all before read).bind
  intro scanned whileScanned
  cases verdict with
  | unavailable => exact whileScanned
  | infected => exact all_concat whileScanned delete
  | clean =>
      apply (ask_all whileScanned read).bind
      intro streamed whileStreamed
      exact ask_all whileStreamed upload

theorem saveChunk_all {index : IndexText} {chunkPath : List Char}
    (make : Holds (.makeDirectory (uploadDir fileId))) (read : Holds (.read chunkPath))
    (write : Holds (.write (join [uploadDir fileId, chunkName index])))
    (delete : Holds (.delete chunkPath)) :
    (saveChunk disk fileId index chunkPath).All Holds := by
  apply (ensureDirectory_all (fun _ member => absurd member List.not_mem_nil) make).bind
  intro made whileMade
  apply (ask_all whileMade read).bind
  intro wasRead whileRead
  apply (ask_all whileRead write).bind
  intro written whileWritten
  exact ask_all whileWritten delete

theorem mergeScanAndUpload_all {totalChunks : Nat} (makeMerged : Holds (.makeDirectory mergedDir))
    (make : Holds (.makeDirectory (tempDir fileId))) (list : Holds (.list (tempDir fileId)))
    (chunks : ∀ number, Holds (.read (join [tempDir fileId, chunkName (.ofNat number)])) ∧
      Holds (.delete (join [tempDir fileId, chunkName (.ofNat number)])))
    (remove : Holds (.removeDirectory (tempDir fileId)))
    (write : Holds (.write (finalPath fileId))) (read : Holds (.read (finalPath fileId)))
    (delete : Holds (.delete (finalPath fileId))) (upload : Holds (.upload (s3Key fileId))) :
    (mergeScanAndUpload disk verdict fileId totalChunks).All Holds := by
  unfold mergeScanAndUpload
  apply (ensureDirectory_all (fun _ member => absurd member List.not_mem_nil) makeMerged).bind
  intro first whileFirst
  apply (ensureDirectory_all whileFirst make).bind
  intro second whileSecond
  split
  · exact whileSecond
  apply (ask_all whileSecond list).bind
  intro listed whileListed
  split
  · exact whileListed
  apply (mergeChunks_all totalChunks 0 (all_concat whileListed write) chunks).bind
  intro merged whileMerged
  split
  · exact whileMerged
  apply (ask_all whileMerged remove).bind
  intro removed whileRemoved
  exact scanAndUpload_all whileRemoved read delete upload

end Asked

/-! ### Where the files of an upload lie -/

section Located

variable {fileId : List Char}

def uploadsTemp : List Segment := ["uploads".toList, "temp".toList]

def uploadsMerged : List Segment := ["uploads".toList, "merged".toList]

theorem locate_uploadDir (fileId : List Char) :
    locate (uploadDir fileId) = (segments fileId).foldl push uploadsTemp := by
  have base : (["uploads".toList, "temp".toList].flatMap segments).foldl push [] = uploadsTemp := by
    decide +kernel
  unfold uploadDir
  rw [locate_join, ← base, ← List.foldl_append]
  simp only [List.flatMap_cons, List.flatMap_nil, List.append_nil, List.append_assoc]

theorem locate_tempDir (fileId : List Char) : locate (tempDir fileId) = locate (uploadDir fileId) := by
  have base : locate "uploads/temp".toList = uploadsTemp := by decide +kernel
  rw [locate_uploadDir]
  unfold tempDir
  rw [locate_join_pair, base]

theorem mp3_plain (name : Segment) (noSlash : '/' ∉ name) : Plain (name ++ ".mp3".toList) := by
  have long : 4 ≤ (name ++ ".mp3".toList).length := by
    rw [List.length_append]
    exact Nat.le_add_left 4 _
  refine ⟨?_, ?_, ?_, ?_⟩
  · intro empty
    rw [empty] at long
    exact absurd long (by decide)
  · intro isDot
    rw [isDot] at long
    exact absurd long (by decide)
  · intro isDots
    rw [isDots] at long
    exact absurd long (by decide)
  · intro slash
    rcases List.mem_append.mp slash with inName | inSuffix
    · exact noSlash inName
    · exact absurd inSuffix (by decide +kernel)

theorem chunkName_plain (index : IndexText) : Plain (chunkName index) := by
  refine ⟨List.cons_ne_nil _ _, ?_, ?_, ?_⟩
  · intro isDot
    cases (List.cons.inj isDot).1
  · intro isDots
    cases (List.cons.inj isDots).1
  · intro slash
    rcases List.mem_append.mp slash with inPrefix | inText
    · exact absurd inPrefix (by decide +kernel)
    · exact absurd (index.numeric '/' inText) (by decide)

theorem locate_finalPath (fileId : List Char) :
    locate (finalPath fileId) =
      (leading fileId).foldl push uploadsMerged ++ [lastSegment fileId ++ ".mp3".toList] := by
  have base : locate mergedDir = uploadsMerged := by decide +kernel
  have plain := mp3_plain (lastSegment fileId) (lastSegment_no_slash fileId)
  unfold finalPath
  rw [locate_join_pair, base, segments_append (by decide +kernel), foldl_push_concat, plain.push]

theorem locate_uploadDir_last (fileId : List Char) :
    locate (uploadDir fileId) =
      push ((leading fileId).foldl push uploadsTemp) (lastSegment fileId) := by
  rw [locate_uploadDir, leading_lastSegment, foldl_push_concat]

theorem Lands.locate_uploadDir (lands : Lands fileId) :
    locate (uploadDir fileId) = ["uploads".toList, "temp".toList, lastSegment fileId] := by
  have walked := walk_some noDots_nil lands.1 uploadsTemp
  rw [List.append_nil] at walked
  rw [locate_uploadDir_last, walked, lands.2.push]
  rfl

theorem Lands.locate_finalPath (lands : Lands fileId) :
    locate (finalPath fileId) =
      ["uploads".toList, "merged".toList, lastSegment fileId ++ ".mp3".toList] := by
  have walked := walk_some noDots_nil lands.1 uploadsMerged
  rw [List.append_nil] at walked
  rw [ChunkUploads.locate_finalPath, walked]
  rfl

theorem temp_ne_dots : "temp".toList ≠ dots := by decide

theorem merged_ne_dots : "merged".toList ≠ dots := by decide

theorem lands_of_located {directory file : Segment}
    (inTemp : locate (uploadDir fileId) = ["uploads".toList, "temp".toList, directory])
    (inMerged : locate (finalPath fileId) = ["uploads".toList, "merged".toList, file]) :
    Lands fileId := by
  have merged : (leading fileId).foldl push uploadsMerged = uploadsMerged := by
    have whole : (leading fileId).foldl push uploadsMerged ++
        [lastSegment fileId ++ ".mp3".toList] = uploadsMerged ++ [file] :=
      (locate_finalPath fileId).symm.trans inMerged
    exact (List.append_inj' whole rfl).1
  rw [locate_uploadDir_last] at inTemp
  cases walked : walk (leading fileId) [] with
  | none =>
      have same : (leading fileId).foldl push uploadsTemp = uploadsMerged :=
        (walk_none noDots_nil walked ["uploads".toList] temp_ne_dots merged_ne_dots).trans merged
      rw [same] at inTemp
      have parents := (push_eq_longer ["uploads".toList] merged_ne_dots inTemp).1
      exact absurd parents (by decide)
  | some own =>
      have below := walk_some noDots_nil walked uploadsMerged
      rw [List.append_nil, merged] at below
      have empty : own = [] := List.self_eq_append_right.mp below
      subst empty
      have above := walk_some noDots_nil walked uploadsTemp
      rw [List.append_nil] at above
      rw [above] at inTemp
      obtain ⟨_, _, filled, notDot, notDots⟩ :=
        push_eq_longer ["uploads".toList] temp_ne_dots inTemp
      exact ⟨walked, filled, notDot, notDots, lastSegment_no_slash fileId⟩

theorem Lands.chunk (lands : Lands fileId) {directory : List Char}
    (same : locate directory = locate (uploadDir fileId)) (index : IndexText) :
    locate (join [directory, chunkName index]) =
      ["uploads".toList, "temp".toList, lastSegment fileId, chunkName index] := by
  rw [locate_join_plain _ (chunkName_plain index), same, lands.locate_uploadDir]
  rfl

theorem Lands.confined (lands : Lands fileId) :
    Confined fileId (lastSegment fileId) (lastSegment fileId ++ ".mp3".toList) := by
  have directory := lands.locate_uploadDir
  have temp : locate (tempDir fileId) = ["uploads".toList, "temp".toList, lastSegment fileId] :=
    (locate_tempDir fileId).trans directory
  have mergedHere : locate mergedDir = ["uploads".toList, "merged".toList] := by decide +kernel
  have final := lands.locate_finalPath
  constructor
  · intro disk index chunkPath
    apply saveChunk_all
    · exact Or.inr (Or.inr (Or.inl directory))
    · exact Or.inl rfl
    · exact Or.inr (Or.inr (Or.inl ⟨_, lands.chunk rfl index⟩))
    · exact Or.inr (Or.inl rfl)
  · intro disk verdict totalChunks
    apply mergeScanAndUpload_all
    · exact Or.inr mergedHere
    · exact Or.inl temp
    · exact temp
    · intro number
      have chunk := lands.chunk (locate_tempDir fileId) (.ofNat number)
      exact ⟨Or.inl ⟨_, chunk⟩, Or.inl ⟨_, chunk⟩⟩
    · exact temp
    · exact Or.inr final
    · exact Or.inr final
    · exact Or.inr final
    · trivial
  · exact final

/-- A file system where every directory is there, and empty. -/
def emptyDisk : Disk := ⟨fun _ _ => true, fun _ _ => true, fun _ _ => 0⟩

theorem Confined.lands {directory file : Segment} (confined : Confined fileId directory file) :
    Lands fileId := by
  have listed : FileAccess.list (tempDir fileId) ∈
      (mergeScanAndUpload emptyDisk .clean fileId 0).asked := List.mem_cons_self
  have inTemp := confined.merges emptyDisk .clean 0 _ listed
  exact lands_of_located ((locate_tempDir fileId).symm.trans inTemp) confined.merged

theorem s3Key_injective : Function.Injective s3Key := by
  intro one other same
  exact List.append_cancel_left (List.append_cancel_right same)

/-- Uploads keep apart exactly if both file ids land, and different ones end in different
names. -/
theorem uploadsIsolated_iff (one other : List Char) :
    UploadsIsolated one other ↔
      Lands one ∧ Lands other ∧ (one ≠ other → lastSegment one ≠ lastSegment other) := by
  constructor
  · intro isolated
    obtain ⟨_, _, first⟩ := isolated.first
    obtain ⟨_, _, second⟩ := isolated.second
    refine ⟨first.lands, second.lands, ?_⟩
    intro different same
    apply (isolated.apart different).1
    rw [first.lands.locate_uploadDir, second.lands.locate_uploadDir, same]
  · rintro ⟨first, second, names⟩
    refine ⟨⟨_, _, first.confined⟩, ⟨_, _, second.confined⟩, ?_⟩
    intro different
    refine ⟨?_, ?_, fun same => different (s3Key_injective same)⟩
    · rw [first.locate_uploadDir, second.locate_uploadDir]
      intro same
      exact names different (List.cons.inj (List.cons.inj (List.cons.inj same).2).2).1
    · rw [first.locate_finalPath, second.locate_finalPath]
      intro same
      have files := (List.cons.inj (List.cons.inj (List.cons.inj same).2).2).1
      exact names different (List.append_cancel_right files)

end Located

/-! A file id that climbs out of `uploads`, and one that names another's directory. -/

def climbingId : List Char := "../../config".toList

def dottedId : List Char := "./5f0c".toList

theorem uploads_not_isolated :
    (isNotEmpty climbingId = true ∧
      .write "config/chunk_0".toList ∈
        (saveChunk emptyDisk climbingId (.ofNat 0) "uploads/temp/1-a".toList).asked ∧
      ¬UploadsIsolated climbingId climbingId) ∧
    (isNotEmpty dottedId = true ∧ isNotEmpty "5f0c".toList = true ∧ dottedId ≠ "5f0c".toList ∧
      uploadDir dottedId = uploadDir "5f0c".toList ∧ finalPath dottedId = finalPath "5f0c".toList ∧
      ¬UploadsIsolated dottedId "5f0c".toList) := by
  refine ⟨⟨by decide +kernel, by decide +kernel, ?_⟩,
    ⟨by decide +kernel, by decide +kernel, by decide +kernel, by decide +kernel,
      by decide +kernel, ?_⟩⟩
  · intro isolated
    obtain ⟨_, _, confined⟩ := isolated.first
    exact absurd confined.lands (by decide +kernel)
  · intro isolated
    have same : uploadDir dottedId = uploadDir "5f0c".toList := by decide +kernel
    exact (isolated.apart (by decide +kernel)).1 (congrArg locate same)

end AudioBlock.Songs.ChunkUploads
