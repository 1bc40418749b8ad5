/-
What each operation on a playlist does to the rows.
-/
import AudioBlock.Playlists.PlaylistService

namespace AudioBlock.Playlists

open AudioBlock.Foundation AudioBlock.Songs

/-- What a row keeps when it is placed anew. -/
def PlaylistSong.identity (entry : PlaylistSong) : String × String × String :=
  (entry.id, entry.playlistId, entry.songId)

namespace PlaylistTables

variable {tables after : PlaylistTables} {playlistId userId songId : String}

theorem mem_entries {entry : PlaylistSong} :
    entry ∈ tables.entries playlistId ↔
      entry ∈ tables.playlistSongs ∧ entry.playlistId = playlistId := by
  unfold entries
  rw [List.mem_filter, decide_eq_true_eq]

theorem addSong_cases {drawn : String} (added : tables.addSong drawn playlistId userId songId = .ok after) :
    after = tables ∨
      songId ∉ (tables.entries playlistId).map PlaylistSong.songId ∧
        after = { tables with
          playlistSongs := tables.playlistSongs ++
            [⟨drawn, playlistId, songId, tables.nextPosition playlistId⟩] } := by
  unfold addSong at added
  split at added
  · cases added
  · by_cases absent : songId ∉ tables.songs
    · rw [if_pos absent] at added
      cases added
    · rw [if_neg absent] at added
      by_cases present : songId ∈ (tables.entries playlistId).map PlaylistSong.songId
      · rw [if_pos present] at added
        exact .inl (Except.ok.inj added).symm
      · rw [if_neg present] at added
        exact .inr ⟨present, (Except.ok.inj added).symm⟩

theorem removeSong_cases (removed : tables.removeSong playlistId userId songId = .ok after) :
    after = { tables with
      playlistSongs := tables.playlistSongs.filter fun entry =>
        !decide (entry.playlistId = playlistId ∧ entry.songId = songId) } := by
  unfold removeSong at removed
  split at removed
  · cases removed
  · by_cases present : songId ∈ (tables.entries playlistId).map PlaylistSong.songId
    · rw [if_pos present] at removed
      exact (Except.ok.inj removed).symm
    · rw [if_neg present] at removed
      cases removed

variable {songIds : List String} {change : PlaylistSong → PlaylistSong}

theorem reorder_cases (accepted : tables.reorder playlistId userId songIds = .ok after) :
    (songIds ≠ [] ∧
        ∀ songId ∈ songIds, songId ∈ (tables.entries playlistId).map PlaylistSong.songId) ∧
      after = tables.saveEntries (reordered (tables.entries playlistId) songIds) := by
  unfold reorder at accepted
  split at accepted
  · cases accepted
  · by_cases empty : songIds = []
    · rw [if_pos empty] at accepted
      cases accepted
    · rw [if_neg empty] at accepted
      dsimp only at accepted
      split at accepted
      · cases accepted
      · rename_i complete
        refine ⟨⟨empty, fun songId named => ?_⟩, (Except.ok.inj accepted).symm⟩
        have none := List.filter_eq_nil_iff.1 (not_not.1 complete) songId named
        exact not_not.1 fun absent => none (decide_eq_true absent)

theorem moveSong_cases {newPosition : Rat} {read : List PlaylistSong}
    (accepted : tables.moveSong playlistId userId songId newPosition read = .ok after) :
    ∃ entry ∈ read, entry.songId = songId ∧
      (min newPosition.num.toNat (read.length - 1) = entry.position ∧ after = tables ∨
        min newPosition.num.toNat (read.length - 1) ≠ entry.position ∧
          after = tables.saveEntries (numbered PlaylistSong.place
            (moved read entry (min newPosition.num.toNat (read.length - 1))))) := by
  unfold moveSong at accepted
  split at accepted
  · cases accepted
  · split at accepted
    · cases accepted
    · split at accepted
      · cases accepted
      · rename_i entry found
        have named : decide (entry.songId = songId) = true :=
          @List.find?_some _ (fun other => decide (other.songId = songId)) entry read found
        refine ⟨entry, List.mem_of_find?_eq_some found, of_decide_eq_true named, ?_⟩
        dsimp only at accepted
        by_cases same : min newPosition.num.toNat (read.length - 1) = entry.position
        · rw [if_pos same] at accepted
          exact .inl ⟨same, (Except.ok.inj accepted).symm⟩
        · rw [if_neg same] at accepted
          exact .inr ⟨same, (Except.ok.inj accepted).symm⟩

/-! ### Rows that are placed anew -/

theorem saveEntries_identities (distinct : (tables.playlistSongs.map PlaylistSong.id).Nodup)
    {saved : List PlaylistSong}
    (own : ∀ entry ∈ saved, entry.identity ∈ tables.playlistSongs.map PlaylistSong.identity) :
    (tables.saveEntries saved).playlistSongs.map PlaylistSong.identity =
      tables.playlistSongs.map PlaylistSong.identity := by
  unfold saveEntries
  dsimp only
  generalize tables.playlistSongs = rows at distinct own
  induction saved generalizing rows with
  | nil => rfl
  | cons entry rest ih =>
      have kept : (saveRow PlaylistSong.id entry rows).map PlaylistSong.identity =
          rows.map PlaylistSong.identity := by
        unfold saveRow
        rw [List.map_map]
        apply List.map_congr_left
        intro row member
        change PlaylistSong.identity (if row.id = entry.id then entry else row) = row.identity
        by_cases same : row.id = entry.id
        · rw [if_pos same]
          obtain ⟨other, present, identical⟩ := List.mem_map.1 (own entry List.mem_cons_self)
          have itself : other = row := List.inj_on_of_nodup_map distinct present member
            ((congrArg Prod.fst identical).trans same.symm)
          rw [← identical, itself]
        · rw [if_neg same]
      have keys : ((saveRow PlaylistSong.id entry rows).map PlaylistSong.id).Nodup := by
        rw [saveRow_keys]
        exact distinct
      rw [List.foldl_cons, ih _ keys fun other member =>
        kept ▸ own other (List.mem_cons_of_mem _ member), kept]

theorem songs_of_identities :
    (tables.entries playlistId).map PlaylistSong.songId =
      ((tables.playlistSongs.map PlaylistSong.identity).filter fun identity =>
        decide (identity.2.1 = playlistId)).map fun identity => identity.2.2 := by
  rw [List.filter_map, List.map_map]
  rfl

theorem mem_reordered {entries : List PlaylistSong} {saved : PlaylistSong}
    (member : saved ∈ reordered entries songIds) :
    ∃ entry ∈ entries, entry.songId ∈ songIds ∧
      saved = entry.place (lastIndex songIds entry.songId) := by
  obtain ⟨entry, chosen, rfl⟩ := List.mem_map.1 member
  obtain ⟨songId, named, found⟩ := List.mem_filterMap.1 chosen
  obtain ⟨present, rfl⟩ := findRow_mem found
  exact ⟨entry, List.mem_reverse.1 present, named, rfl⟩

theorem moved_perm {read : List PlaylistSong} {entry : PlaylistSong} (member : entry ∈ read)
    (distinct : (read.map PlaylistSong.songId).Nodup) (target : Nat) :
    (moved read entry target).Perm read := by
  have alone : read.filter (fun other => decide (other.songId ≠ entry.songId)) = read.erase entry := by
    rw [(List.Nodup.of_map _ distinct).erase_eq_filter]
    apply List.filter_congr
    intro other present
    by_cases same : other = entry
    · simp [same]
    · have differs : other.songId ≠ entry.songId := fun named =>
        same (List.inj_on_of_nodup_map distinct present member named)
      rw [decide_eq_true differs, bne_iff_ne.2 same]
  unfold moved
  rw [alone]
  exact List.perm_middle.trans
    (((List.take_append_drop _ _).symm ▸ List.Perm.refl _ :
      (entry :: (List.take target (read.erase entry) ++ List.drop target (read.erase entry))).Perm
        (entry :: read.erase entry)).trans (List.perm_cons_erase member).symm)

theorem mem_numbered {rows : List PlaylistSong} {saved : PlaylistSong}
    (member : saved ∈ numbered PlaylistSong.place rows) :
    ∃ entry ∈ rows, ∃ index, saved = entry.place index := by
  obtain ⟨⟨entry, index⟩, indexed, rfl⟩ := List.mem_map.1 member
  exact ⟨entry, List.fst_mem_of_mem_zipIdx indexed, index, rfl⟩

theorem entries_append (entry : PlaylistSong) :
    ({ tables with playlistSongs := tables.playlistSongs ++ [entry] } : PlaylistTables).entries
        playlistId =
      tables.entries playlistId ++ if entry.playlistId = playlistId then [entry] else [] := by
  unfold entries
  dsimp only
  rw [List.filter_append, List.filter_singleton]
  by_cases own : entry.playlistId = playlistId
  · rw [if_pos own, decide_eq_true own]
    rfl
  · rw [if_neg own, decide_eq_false own]
    rfl

theorem entries_filter (keep : PlaylistSong → Bool) :
    (({ tables with playlistSongs := tables.playlistSongs.filter keep } : PlaylistTables).entries
        playlistId).Sublist (tables.entries playlistId) :=
  List.filter_sublist.filter _

theorem entries_map (kept : ∀ entry, (change entry).playlistId = entry.playlistId) :
    ({ tables with playlistSongs := tables.playlistSongs.map change } : PlaylistTables).entries
        playlistId = (tables.entries playlistId).map change := by
  unfold entries
  dsimp only
  rw [List.filter_map]
  congr 1
  apply List.filter_congr
  intro entry _
  rw [Function.comp_apply, kept]

theorem entries_map_other {other : String}
    (kept : ∀ entry, entry.playlistId = other → change entry = entry) :
    (tables.entries other).map change = tables.entries other := by
  conv_rhs => rw [← List.map_id (tables.entries other)]
  exact List.map_congr_left fun entry member => kept entry (mem_entries.1 member).2

theorem lastIndex_eq_idxOf (distinct : songIds.Nodup) (member : songId ∈ songIds) :
    lastIndex songIds songId = songIds.idxOf songId := by
  have bound := List.idxOf_lt_length_iff.2 member
  have inReverse : songIds.length - 1 - songIds.idxOf songId < songIds.reverse.length := by
    rw [List.length_reverse]
    omega
  have index := (List.nodup_reverse.2 distinct).idxOf_getElem _ inReverse
  rw [List.getElem_reverse] at index
  have back : songIds.length - 1 - (songIds.length - 1 - songIds.idxOf songId) =
      songIds.idxOf songId := by omega
  simp only [back, List.getElem_idxOf] at index
  unfold lastIndex
  rw [index]
  exact back

/-- The position that a reorder without repetitions gives. -/
def rearranged (playlistId : String) (songIds : List String) (entry : PlaylistSong) :
    PlaylistSong :=
  if entry.playlistId = playlistId ∧ entry.songId ∈ songIds then
    entry.place (songIds.idxOf entry.songId)
  else entry

theorem rearranged_playlistId (songIds : List String) (entry : PlaylistSong) :
    (rearranged playlistId songIds entry).playlistId = entry.playlistId := by
  unfold rearranged
  split
  · rfl
  · rfl

end PlaylistTables

/-! ### The keys -/

open PlaylistTables

variable {tables after : PlaylistTables}

theorem Keyed.of_identities (keyed : Keyed tables)
    (same : after.playlistSongs.map PlaylistSong.identity =
      tables.playlistSongs.map PlaylistSong.identity) : Keyed after := by
  constructor
  · have ids := congrArg (List.map Prod.fst) same
    rw [List.map_map, List.map_map] at ids
    exact Eq.mpr (congrArg List.Nodup ids) keyed.ids
  · intro playlistId
    rw [songs_of_identities, same, ← songs_of_identities]
    exact keyed.songs playlistId

variable {playlistId : String} {songIds : List String}

theorem Keyed.added (keyed : Keyed tables) {drawn songId : String} {position : Nat}
    (fresh : drawn ∉ tables.playlistSongs.map PlaylistSong.id)
    (absent : songId ∉ (tables.entries playlistId).map PlaylistSong.songId) :
    Keyed { tables with
      playlistSongs := tables.playlistSongs ++ [⟨drawn, playlistId, songId, position⟩] } := by
  constructor
  · rw [List.map_append]
    exact nodup_append_one keyed.ids fresh
  · intro other
    rw [entries_append, List.map_append]
    by_cases own : playlistId = other
    · rw [if_pos own]
      exact nodup_append_one (keyed.songs other) (own ▸ absent)
    · rw [if_neg own, List.map_nil, List.append_nil]
      exact keyed.songs other

theorem Keyed.filtered (keyed : Keyed tables) (keep : PlaylistSong → Bool) :
    Keyed { tables with playlistSongs := tables.playlistSongs.filter keep } :=
  ⟨keyed.ids.sublist (List.filter_sublist.map _),
    fun playlistId => (keyed.songs playlistId).sublist ((entries_filter keep).map _)⟩

/-! ### The entries after a reorder and a move -/

theorem mem_listedEntries (keyed : Keyed tables) {entry : PlaylistSong} :
    entry ∈ listedEntries (tables.entries playlistId) songIds ↔
      entry ∈ tables.entries playlistId ∧ entry.songId ∈ songIds := by
  have songs : ((tables.entries playlistId).reverse.map PlaylistSong.songId).Nodup := by
    rw [List.map_reverse]
    exact List.nodup_reverse.2 (keyed.songs playlistId)
  unfold listedEntries
  rw [List.mem_filterMap]
  constructor
  · rintro ⟨songId, named, found⟩
    obtain ⟨present, rfl⟩ := findRow_mem found
    exact ⟨List.mem_reverse.1 present, named⟩
  · rintro ⟨present, named⟩
    exact ⟨entry.songId, named, findRow_of_mem songs (List.mem_reverse.2 present)⟩

theorem listedEntries_ids (keyed : Keyed tables)
    (known : ∀ songId ∈ songIds, songId ∈ (tables.entries playlistId).map PlaylistSong.songId)
    (distinct : songIds.Nodup) :
    ((listedEntries (tables.entries playlistId) songIds).map PlaylistSong.id).Nodup := by
  have each : (listedEntries (tables.entries playlistId) songIds).map PlaylistSong.songId =
      songIds := by
    apply findRow_each
    intro songId named
    rw [List.map_reverse]
    exact List.mem_reverse.2 (known songId named)
  refine (List.Nodup.of_map _ (each.symm ▸ distinct)).map_on fun one inOne two inTwo same => ?_
  exact List.inj_on_of_nodup_map keyed.ids
    (mem_entries.1 ((mem_listedEntries keyed).1 inOne).1).1
    (mem_entries.1 ((mem_listedEntries keyed).1 inTwo).1).1 same

theorem entries_reordered (keyed : Keyed tables)
    (known : ∀ songId ∈ songIds, songId ∈ (tables.entries playlistId).map PlaylistSong.songId)
    (distinct : songIds.Nodup) (other : String) :
    (tables.saveEntries (reordered (tables.entries playlistId) songIds)).entries other =
      (tables.entries other).map (rearranged playlistId songIds) := by
  have saved : (reordered (tables.entries playlistId) songIds).foldl
      (fun rows entry => saveRow PlaylistSong.id entry rows) tables.playlistSongs =
        tables.playlistSongs.map (rearranged playlistId songIds) := by
    unfold reordered
    rw [List.foldl_map, foldl_saveRow_mem (fun entry => entry.place (lastIndex songIds entry.songId))
      (fun _ => rfl) _ tables.playlistSongs keyed.ids (listedEntries_ids keyed known distinct)
      fun entry member => (mem_entries.1 ((mem_listedEntries keyed).1 member).1).1]
    apply List.map_congr_left
    intro entry member
    unfold rearranged
    by_cases own : entry.playlistId = playlistId ∧ entry.songId ∈ songIds
    · have listed := (mem_listedEntries keyed).2 ⟨mem_entries.2 ⟨member, own.1⟩, own.2⟩
      rw [if_pos own, if_pos listed, lastIndex_eq_idxOf distinct own.2]
    · have unlisted : entry ∉ listedEntries (tables.entries playlistId) songIds := fun listed =>
        own ⟨(mem_entries.1 ((mem_listedEntries keyed).1 listed).1).2,
          ((mem_listedEntries keyed).1 listed).2⟩
      rw [if_neg own, if_neg unlisted]
  unfold saveEntries
  rw [saved]
  exact entries_map (rearranged_playlistId songIds)

theorem entries_numbered (keyed : Keyed tables) {rows : List PlaylistSong}
    (same : rows.Perm (tables.entries playlistId)) :
    ((tables.saveEntries (numbered PlaylistSong.place rows)).entries playlistId).Perm
        (numbered PlaylistSong.place rows) ∧
      ∀ other, other ≠ playlistId →
        (tables.saveEntries (numbered PlaylistSong.place rows)).entries other =
          tables.entries other := by
  have keeps : ∀ (entry : PlaylistSong) (index : Nat), (entry.place index).id = entry.id :=
    fun _ _ => rfl
  have saved := foldl_saveRow_numbered PlaylistSong.id keeps keyed.ids same
  have kept : ∀ entry : PlaylistSong,
      (if decide (entry.playlistId = playlistId) = true then entry.place (rows.idxOf entry)
        else entry).playlistId = entry.playlistId := by
    intro entry
    split
    · rfl
    · rfl
  unfold saveEntries
  rw [saved]
  constructor
  · rw [entries_map kept, numbered_eq_map (List.Nodup.of_map _
      ((same.map PlaylistSong.songId).nodup_iff.2 (keyed.songs playlistId)))]
    refine (List.Perm.of_eq (List.map_congr_left fun entry member => ?_)).trans (same.symm.map _)
    exact if_pos (decide_eq_true (mem_entries.1 member).2)
  · intro other different
    rw [entries_map kept]
    refine entries_map_other fun entry own => if_neg ?_
    simpa [own] using different

theorem playlistStep_keyed {tables after : PlaylistTables} {operation : PlaylistOperation}
    (keyed : Keyed tables) (stepped : playlistStep tables operation = some after) : Keyed after := by
  unfold playlistStep at stepped
  by_cases answers : Answers tables operation
  · rw [if_pos answers] at stepped
    cases performed : perform tables operation with
    | error thrown =>
        rw [performed] at stepped
        exact Option.some.inj stepped ▸ keyed
    | ok result =>
        rw [performed] at stepped
        obtain rfl := Option.some.inj stepped
        cases operation with
        | addSong drawn playlistId userId songId =>
            rcases addSong_cases performed with rfl | ⟨absent, rfl⟩
            · exact keyed
            · exact keyed.added answers absent
        | removeSong playlistId userId songId =>
            rw [removeSong_cases performed]
            exact keyed.filtered _
        | reorder playlistId userId songIds =>
            rw [(reorder_cases performed).2]
            refine keyed.of_identities (saveEntries_identities keyed.ids fun saved member => ?_)
            obtain ⟨entry, present, _, rfl⟩ := mem_reordered member
            exact List.mem_map.2 ⟨entry, (mem_entries.1 present).1, rfl⟩
        | moveSong playlistId userId songId newPosition read =>
            obtain ⟨entry, member, _, ⟨_, rfl⟩ | ⟨_, rfl⟩⟩ := moveSong_cases performed
            · exact keyed
            · have distinct : (read.map PlaylistSong.songId).Nodup :=
                (answers.1.map _).nodup_iff.2 (keyed.songs playlistId)
              refine keyed.of_identities (saveEntries_identities keyed.ids fun saved placed => ?_)
              obtain ⟨other, present, _, rfl⟩ := mem_numbered placed
              have inTable := answers.1.subset ((moved_perm member distinct _).subset present)
              exact List.mem_map.2 ⟨other, (mem_entries.1 inTable).1, rfl⟩
  · rw [if_neg answers] at stepped
    cases stepped

end AudioBlock.Playlists
