/-
`moveSong` against removing a song from a list and inserting it again.
-/
import AudioBlock.Playlists.PlaylistRows
import Mathlib.Data.List.InsertIdx

namespace AudioBlock.Playlists

open AudioBlock.Foundation AudioBlock.Songs PlaylistTables

/-- The list without the song, and with it at the index again, or last. -/
def movedSongs (songs : List String) (songId : String) (newPosition : Nat) : List String :=
  (songs.erase songId).insertIdx (min newPosition (songs.length - 1)) songId

def MovesLawful (tables : PlaylistTables) : PlaylistOperation → Prop
  | .moveSong playlistId userId songId newPosition entries =>
      OrderedRead PlaylistSong.position (tables.entries playlistId) entries →
        ∀ after, tables.moveSong playlistId userId songId newPosition entries = .ok after →
          ∀ read, OrderedRead PlaylistSong.position (after.entries playlistId) read →
            read.map PlaylistSong.songId =
                movedSongs (entries.map PlaylistSong.songId) songId newPosition.num.toNat ∧
              read.map PlaylistSong.position = List.range entries.length
  | .addSong _ _ _ _ | .removeSong _ _ _ | .reorder _ _ _ => True

/-- The index that is asked for is not the stored position of the song, or the stored positions
are the indices already. -/
def MovesGuarded (tables : PlaylistTables) : PlaylistOperation → Prop
  | .moveSong playlistId userId songId newPosition entries =>
      OrderedRead PlaylistSong.position (tables.entries playlistId) entries →
        (tables.moveSong playlistId userId songId newPosition entries).toOption.isSome = true →
          (∀ entry ∈ entries, entry.songId = songId →
              min newPosition.num.toNat (entries.length - 1) ≠ entry.position) ∨
            entries.map PlaylistSong.position = List.range entries.length
  | .addSong _ _ _ _ | .removeSong _ _ _ | .reorder _ _ _ => True

instance (tables : PlaylistTables) : DecidablePred (MovesGuarded tables)
  | .moveSong _ _ _ _ entries =>
      inferInstanceAs (Decidable (OrderedRead _ _ entries → _ = true →
        (∀ entry ∈ entries, _ → _) ∨ _ = _))
  | .addSong _ _ _ _ | .removeSong _ _ _ | .reorder _ _ _ => isTrue trivial

theorem splice_eq_insertIdx {Item : Type} (items : List Item) (item : Item) {index : Nat}
    (bound : index ≤ items.length) :
    items.take index ++ item :: items.drop index = items.insertIdx index item := by
  induction index generalizing items with
  | zero => rfl
  | succ index ih =>
      cases items with
      | nil => exact absurd bound (Nat.not_succ_le_zero index)
      | cons first rest =>
          rw [List.take_succ_cons, List.drop_succ_cons, List.cons_append, List.insertIdx_succ_cons,
            ih rest (Nat.le_of_succ_le_succ bound)]

theorem moved_songs {entries : List PlaylistSong} {entry : PlaylistSong} (member : entry ∈ entries)
    (distinct : (entries.map PlaylistSong.songId).Nodup) {target : Nat}
    (bound : target ≤ entries.length - 1) :
    (moved entries entry target).map PlaylistSong.songId =
      ((entries.map PlaylistSong.songId).erase entry.songId).insertIdx target entry.songId := by
  have others : (entries.filter fun other => decide (other.songId ≠ entry.songId)).map
      PlaylistSong.songId = (entries.map PlaylistSong.songId).erase entry.songId := by
    rw [distinct.erase_eq_filter, List.filter_map]
    congr 1
    apply List.filter_congr
    intro other _
    by_cases same : other.songId = entry.songId
    · simp [same]
    · simp [same]
  have length : (entries.filter fun other => decide (other.songId ≠ entry.songId)).length =
      entries.length - 1 := by
    have count := congrArg List.length others
    rw [List.length_map, List.length_erase_of_mem (List.mem_map_of_mem member), List.length_map] at count
    exact count
  unfold moved
  rw [splice_eq_insertIdx _ _ (length ▸ bound), List.map_insertIdx, others]

theorem movedSongs_own {songs : List String} {songId : String} {newPosition : Nat} (member : songId ∈ songs)
    (index : min newPosition (songs.length - 1) = songs.idxOf songId) :
    movedSongs songs songId newPosition = songs := by
  have bound := List.idxOf_lt_length_iff.2 member
  have placed := List.insertIdx_eraseIdx_getElem bound
  rw [List.getElem_idxOf] at placed
  unfold movedSongs
  rw [index, List.erase_eq_eraseIdx_of_idxOf rfl, placed]

theorem position_eq_idxOf {entries : List PlaylistSong} {entry : PlaylistSong}
    (member : entry ∈ entries) (distinct : (entries.map PlaylistSong.songId).Nodup)
    (positions : entries.map PlaylistSong.position = List.range entries.length) :
    entry.position = (entries.map PlaylistSong.songId).idxOf entry.songId := by
  obtain ⟨index, bound, rfl⟩ := List.getElem_of_mem member
  have inSongs : index < (entries.map PlaylistSong.songId).length := by
    rw [List.length_map]
    exact bound
  have atIndex := distinct.idxOf_getElem index inSongs
  rw [List.getElem_map] at atIndex
  have stored : (entries.map PlaylistSong.position)[index]? = some index := by
    rw [positions]
    exact List.getElem?_range bound
  rw [List.getElem?_map, List.getElem?_eq_getElem bound] at stored
  exact (Option.some.inj stored).trans atIndex.symm

variable {tables after : PlaylistTables} {playlistId userId songId : String} {newPosition : Rat}
  {entries : List PlaylistSong}

section

variable (keyed : Keyed tables)
  (asked : OrderedRead PlaylistSong.position (tables.entries playlistId) entries)
include keyed asked

theorem written_read {entry : PlaylistSong} (member : entry ∈ entries) (target : Nat)
    {read : List PlaylistSong}
    (askedAfter : OrderedRead PlaylistSong.position
      ((tables.saveEntries (numbered PlaylistSong.place (moved entries entry target))).entries
        playlistId) read) :
    read = numbered PlaylistSong.place (moved entries entry target) := by
  have distinct : (entries.map PlaylistSong.songId).Nodup :=
    (asked.1.map _).nodup_iff.2 (keyed.songs playlistId)
  have spliced : (moved entries entry target).Perm (tables.entries playlistId) :=
    (moved_perm member distinct target).trans asked.1
  exact numbered_read (fun _ _ => rfl) askedAfter (entries_numbered keyed spliced).1

theorem moveSong_lawful_iff
    (accepted : tables.moveSong playlistId userId songId newPosition entries = .ok after) :
    (∀ read, OrderedRead PlaylistSong.position (after.entries playlistId) read →
        read.map PlaylistSong.songId =
            movedSongs (entries.map PlaylistSong.songId) songId newPosition.num.toNat ∧
          read.map PlaylistSong.position = List.range entries.length) ↔
      ((∀ entry ∈ entries, entry.songId = songId →
          min newPosition.num.toNat (entries.length - 1) ≠ entry.position) ∨
        entries.map PlaylistSong.position = List.range entries.length) := by
  have distinct : (entries.map PlaylistSong.songId).Nodup :=
    (asked.1.map _).nodup_iff.2 (keyed.songs playlistId)
  have length : (entries.map PlaylistSong.songId).length = entries.length := List.length_map _
  obtain ⟨entry, member, rfl, ⟨same, rfl⟩ | ⟨different, rfl⟩⟩ := moveSong_cases accepted
  · constructor
    · intro lawful
      exact .inr (lawful entries asked).2
    · rintro (differs | positions) read askedAfter
      · exact absurd same (differs entry member rfl)
      · have positionsDistinct : (entries.map PlaylistSong.position).Nodup :=
          positions ▸ List.nodup_range
        have again : read = entries :=
          askedAfter.unique ((asked.1.map _).nodup_iff.1 positionsDistinct) asked
        have index := same.trans (position_eq_idxOf member distinct positions)
        rw [again, movedSongs_own (List.mem_map_of_mem member) (length.symm ▸ index)]
        exact ⟨rfl, positions⟩
  · refine iff_of_true (fun read askedAfter => ?_) (.inl fun other inEntries named => ?_)
    · have spliced := written_read keyed asked member _ askedAfter
      have kept : ∀ (entry : PlaylistSong) (index : Nat), (entry.place index).songId = entry.songId :=
        fun _ _ => rfl
      have placed : ∀ (entry : PlaylistSong) (index : Nat), (entry.place index).position = index :=
        fun _ _ => rfl
      have size := (moved_perm member distinct
        (min newPosition.num.toNat (entries.length - 1))).length_eq
      rw [spliced, numbered_view kept, numbered_positions placed, size,
        moved_songs member distinct (Nat.min_le_right _ _), movedSongs, length]
      exact ⟨rfl, rfl⟩
    · have itself := List.inj_on_of_nodup_map distinct inEntries member named
      exact itself ▸ different

end

theorem movesLawful_iff (keyed : Keyed tables) (operation : PlaylistOperation) :
    MovesLawful tables operation ↔ MovesGuarded tables operation := by
  cases operation with
  | addSong drawn playlistId userId songId => exact Iff.rfl
  | removeSong playlistId userId songId => exact Iff.rfl
  | reorder playlistId userId songIds => exact Iff.rfl
  | moveSong playlistId userId songId newPosition entries =>
      unfold MovesLawful MovesGuarded
      cases outcome : tables.moveSong playlistId userId songId newPosition entries with
      | error thrown =>
          refine iff_of_true (fun _ after accepted => ?_) (fun _ accepted => ?_)
          · rw [outcome] at accepted
            exact nomatch accepted
          · rw [outcome] at accepted
            exact nomatch accepted
      | ok after =>
          constructor
          · intro lawful asked _
            exact (moveSong_lawful_iff keyed asked outcome).1 (lawful asked after outcome)
          · intro guarded asked result accepted
            exact (moveSong_lawful_iff keyed asked accepted).2
              (guarded asked (outcome ▸ rfl))

/-- Every accepted move is the removal and insertion in the list, exactly on the runs whose
moves ask for an index other than the song's stored position, or find the indices stored. -/
theorem playlistMachine_moves_iff {tables : PlaylistTables}
    (begins : playlistMachine.initial tables) (operations : List PlaylistOperation) :
    playlistMachine.Permits MovesLawful tables operations ↔
      playlistMachine.Permits MovesGuarded tables operations :=
  Machine.permits_iff Keyed (fun _ => True)
    (fun _ operation keyed _ => movesLawful_iff keyed operation)
    (fun _ _ _ keyed _ _ stepped => playlistStep_keyed keyed stepped) operations begins
    fun _ _ => trivial

def threeEntries : List PlaylistSong :=
  [⟨"e1", "mix", "one", 0⟩, ⟨"e2", "mix", "two", 1⟩, ⟨"e3", "mix", "three", 2⟩]

def threeEntriesTables : PlaylistTables :=
  { playlists := [⟨"mix", "ana", false⟩]
    collaborators := []
    songs := ["one", "two", "three"]
    playlistSongs := threeEntries }

theorem threeEntries_keyed : Keyed threeEntriesTables := by
  refine ⟨by decide, fun playlistId => ?_⟩
  have songs : (threeEntries.map PlaylistSong.songId).Nodup := by decide
  exact songs.sublist (List.filter_sublist.map _)

theorem threeEntries_moved :
    playlistMachine.Permits MovesLawful threeEntriesTables
      [.removeSong "mix" "ana" "one",
        .moveSong "mix" "ana" "three" 0 [⟨"e2", "mix", "two", 1⟩, ⟨"e3", "mix", "three", 2⟩]] :=
  (playlistMachine_moves_iff threeEntries_keyed _).2 (by decide +kernel)

def gappedTables : PlaylistTables :=
  { threeEntriesTables with
    playlistSongs := [⟨"e2", "mix", "two", 1⟩, ⟨"e3", "mix", "three", 2⟩] }

/-- With the first song removed, the next one is asked to the index that is its stored position,
and stays first. -/
theorem threeEntries_unmoved :
    ¬playlistMachine.Permits MovesLawful threeEntriesTables
      [.removeSong "mix" "ana" "one",
        .moveSong "mix" "ana" "two" 1 [⟨"e2", "mix", "two", 1⟩, ⟨"e3", "mix", "three", 2⟩]] := by
  intro lawful
  have removed : playlistStep threeEntriesTables (.removeSong "mix" "ana" "one") =
      some gappedTables := by
    decide +kernel
  have executed : playlistMachine.run threeEntriesTables [.removeSong "mix" "ana" "one"] =
      some gappedTables := by
    decide +kernel
  have later : playlistMachine.Permits MovesLawful gappedTables
      [.moveSong "mix" "ana" "two" 1 [⟨"e2", "mix", "two", 1⟩, ⟨"e3", "mix", "three", 2⟩]] :=
    Machine.Permits.later lawful executed
  have guarded := (movesLawful_iff (playlistStep_keyed threeEntries_keyed removed) _).1 later.1
  exact absurd guarded (by decide +kernel)

end AudioBlock.Playlists
