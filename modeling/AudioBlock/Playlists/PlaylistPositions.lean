/-
The stored positions over runs of the operations on playlists: distinct, and after a reorder
in the order that was asked for.
-/
import AudioBlock.Playlists.PlaylistRows

namespace AudioBlock.Playlists

open AudioBlock.Foundation AudioBlock.Songs PlaylistTables

structure Orderly (tables : PlaylistTables) : Prop where
  songs : ∀ playlistId, ((tables.entries playlistId).map PlaylistSong.songId).Nodup
  positions : ∀ playlistId, ((tables.entries playlistId).map PlaylistSong.position).Nodup

structure Arranged (tables : PlaylistTables) (playlistId : String) (songIds : List String) :
    Prop where
  listed : songIds.Pairwise fun earlier later =>
    ∀ one ∈ tables.entries playlistId, ∀ other ∈ tables.entries playlistId,
      one.songId = earlier → other.songId = later → one.position < other.position
  unlisted : ∀ one ∈ tables.entries playlistId, ∀ other ∈ tables.entries playlistId,
    one.songId ∈ songIds → other.songId ∉ songIds → one.position < other.position

def PositionsLawful (tables : PlaylistTables) (operation : PlaylistOperation) : Prop :=
  ∀ after ∈ playlistStep tables operation, Orderly after ∧
    ∀ playlistId userId songIds, operation = .reorder playlistId userId songIds →
      (tables.reorder playlistId userId songIds).toOption.isSome = true →
        Arranged after playlistId songIds

/-- An accepted reorder lists no song twice, and a song that it does not list already has a
position past the ones that it assigns. -/
def PositionsGuarded (tables : PlaylistTables) : PlaylistOperation → Prop
  | .reorder playlistId userId songIds =>
      (tables.reorder playlistId userId songIds).toOption.isSome = true →
        songIds.Nodup ∧ ∀ entry ∈ tables.entries playlistId,
          entry.songId ∉ songIds → songIds.length ≤ entry.position
  | .addSong _ _ _ _ | .removeSong _ _ _ | .moveSong _ _ _ _ _ => True

instance (tables : PlaylistTables) : DecidablePred (PositionsGuarded tables)
  | .reorder _ _ _ => inferInstanceAs (Decidable (_ = true → _ ∧ ∀ entry ∈ _, _))
  | .addSong _ _ _ _ | .removeSong _ _ _ | .moveSong _ _ _ _ _ => isTrue trivial

variable {tables after : PlaylistTables} {playlistId userId : String} {songIds : List String}

/-! ### Adding, removing and moving -/

theorem nextPosition_fresh :
    tables.nextPosition playlistId ∉ (tables.entries playlistId).map PlaylistSong.position := by
  intro member
  unfold nextPosition at member
  cases largest : ((tables.entries playlistId).map PlaylistSong.position).max? with
  | none =>
      rw [List.max?_eq_none_iff.1 largest] at member
      exact absurd member List.not_mem_nil
  | some maxPosition =>
      rw [largest] at member
      have bound := (List.max?_le_iff largest).1 (Nat.le_refl _) _ member
      exact absurd bound (Nat.not_succ_le_self _)

theorem Orderly.added (orderly : Orderly tables) {drawn songId : String}
    (absent : songId ∉ (tables.entries playlistId).map PlaylistSong.songId) :
    Orderly { tables with
      playlistSongs := tables.playlistSongs ++
        [⟨drawn, playlistId, songId, tables.nextPosition playlistId⟩] } := by
  constructor
  · intro other
    rw [entries_append, List.map_append]
    by_cases own : playlistId = other
    · rw [if_pos own]
      exact nodup_append_one (orderly.songs other) (own ▸ absent)
    · rw [if_neg own, List.map_nil, List.append_nil]
      exact orderly.songs other
  · intro other
    rw [entries_append, List.map_append]
    by_cases own : playlistId = other
    · rw [if_pos own]
      exact nodup_append_one (orderly.positions other) (own ▸ nextPosition_fresh)
    · rw [if_neg own, List.map_nil, List.append_nil]
      exact orderly.positions other

theorem Orderly.filtered (orderly : Orderly tables) (keep : PlaylistSong → Bool) :
    Orderly { tables with playlistSongs := tables.playlistSongs.filter keep } :=
  ⟨fun playlistId => (orderly.songs playlistId).sublist ((entries_filter keep).map _),
    fun playlistId => (orderly.positions playlistId).sublist ((entries_filter keep).map _)⟩

theorem Orderly.numbered (orderly : Orderly tables) (keyed : Keyed tables) {rows : List PlaylistSong}
    (same : rows.Perm (tables.entries playlistId))
    (keyedAfter : Keyed (tables.saveEntries (numbered PlaylistSong.place rows))) :
    Orderly (tables.saveEntries (numbered PlaylistSong.place rows)) := by
  obtain ⟨own, others⟩ := entries_numbered keyed same
  refine ⟨keyedAfter.songs, fun other => ?_⟩
  by_cases moved : other = playlistId
  · have positions : ((Foundation.numbered PlaylistSong.place rows).map PlaylistSong.position).Nodup := by
      rw [numbered_positions (fun _ _ => rfl)]
      exact List.nodup_range
    rw [moved]
    exact (own.map _).nodup_iff.2 positions
  · rw [others other moved]
    exact orderly.positions other

/-! ### Reordering -/

theorem rearranged_listed {entry : PlaylistSong} (own : entry.playlistId = playlistId)
    (listed : entry.songId ∈ songIds) :
    (rearranged playlistId songIds entry).position = songIds.idxOf entry.songId := by
  unfold rearranged
  rw [if_pos ⟨own, listed⟩]
  rfl

theorem rearranged_unlisted {entry : PlaylistSong} (unlisted : entry.songId ∉ songIds) :
    rearranged playlistId songIds entry = entry := by
  unfold rearranged
  exact if_neg fun both => unlisted both.2

theorem rearranged_songId (entry : PlaylistSong) :
    (rearranged playlistId songIds entry).songId = entry.songId := by
  unfold rearranged
  split
  · rfl
  · rfl

theorem rearranged_before {one other : PlaylistSong} (own : one.playlistId = playlistId)
    (listed : one.songId ∈ songIds) (unlisted : other.songId ∉ songIds)
    (past : songIds.length ≤ other.position) :
    (rearranged playlistId songIds one).position <
      (rearranged playlistId songIds other).position := by
  rw [rearranged_listed own listed, rearranged_unlisted unlisted]
  exact Nat.lt_of_lt_of_le (List.idxOf_lt_length_iff.2 listed) past

section Accepted

variable (keyed : Keyed tables)
  (known : ∀ songId ∈ songIds, songId ∈ (tables.entries playlistId).map PlaylistSong.songId)
include keyed known

theorem rearranged_orderly (orderly : Orderly tables) (distinct : songIds.Nodup)
    (past : ∀ entry ∈ tables.entries playlistId,
      entry.songId ∉ songIds → songIds.length ≤ entry.position) :
    Orderly (tables.saveEntries (reordered (tables.entries playlistId) songIds)) := by
  constructor
  · intro other
    have songs : (PlaylistSong.songId ∘ rearranged playlistId songIds) = PlaylistSong.songId :=
      funext rearranged_songId
    rw [entries_reordered keyed known distinct, List.map_map, songs]
    exact orderly.songs other
  · intro other
    rw [entries_reordered keyed known distinct]
    by_cases moved : other = playlistId
    · rw [List.map_map, moved]
      refine (List.Nodup.of_map _ (orderly.songs playlistId)).map_on fun one inOne two inTwo same => ?_
      have ownOne := (mem_entries.1 inOne).2
      have ownTwo := (mem_entries.1 inTwo).2
      rw [Function.comp_apply, Function.comp_apply] at same
      by_cases listedOne : one.songId ∈ songIds <;> by_cases listedTwo : two.songId ∈ songIds
      · rw [rearranged_listed ownOne listedOne, rearranged_listed ownTwo listedTwo] at same
        exact List.inj_on_of_nodup_map (orderly.songs playlistId) inOne inTwo
          ((List.idxOf_inj listedOne).1 same)
      · exact absurd same
          (Nat.ne_of_lt (rearranged_before ownOne listedOne listedTwo (past two inTwo listedTwo)))
      · exact absurd same.symm
          (Nat.ne_of_lt (rearranged_before ownTwo listedTwo listedOne (past one inOne listedOne)))
      · rw [rearranged_unlisted listedOne, rearranged_unlisted listedTwo] at same
        exact List.inj_on_of_nodup_map (orderly.positions playlistId) inOne inTwo same
    · rw [entries_map_other fun entry own => ?_]
      · exact orderly.positions other
      · unfold rearranged
        exact if_neg fun both => moved (own.symm.trans both.1)

theorem rearranged_arranged (distinct : songIds.Nodup)
    (past : ∀ entry ∈ tables.entries playlistId,
      entry.songId ∉ songIds → songIds.length ≤ entry.position) :
    Arranged (tables.saveEntries (reordered (tables.entries playlistId) songIds)) playlistId
      songIds := by
  constructor
  · rw [List.pairwise_iff_getElem]
    intro first second inFirst inSecond before one inOne other inOther isFirst isSecond
    rw [entries_reordered keyed known distinct] at inOne inOther
    obtain ⟨earlier, inEarlier, rfl⟩ := List.mem_map.1 inOne
    obtain ⟨later, inLater, rfl⟩ := List.mem_map.1 inOther
    rw [rearranged_songId] at isFirst isSecond
    rw [rearranged_listed (mem_entries.1 inEarlier).2 (isFirst ▸ List.getElem_mem inFirst),
      rearranged_listed (mem_entries.1 inLater).2 (isSecond ▸ List.getElem_mem inSecond),
      isFirst, isSecond, distinct.idxOf_getElem, distinct.idxOf_getElem]
    exact before
  · intro one inOne other inOther listed unlisted
    rw [entries_reordered keyed known distinct] at inOne inOther
    obtain ⟨earlier, inEarlier, rfl⟩ := List.mem_map.1 inOne
    obtain ⟨later, inLater, rfl⟩ := List.mem_map.1 inOther
    rw [rearranged_songId] at listed unlisted
    exact rearranged_before (mem_entries.1 inEarlier).2 listed unlisted
      (past later inLater unlisted)

theorem arranged_past (nonempty : songIds ≠ []) (distinct : songIds.Nodup)
    (arranged : Arranged (tables.saveEntries (reordered (tables.entries playlistId) songIds))
      playlistId songIds) :
    ∀ entry ∈ tables.entries playlistId,
      entry.songId ∉ songIds → songIds.length ≤ entry.position := by
  intro entry member unlisted
  have lastListed := List.getLast_mem nonempty
  obtain ⟨last, inLast, isLast⟩ := List.mem_map.1 (known _ lastListed)
  have own := (mem_entries.1 inLast).2
  have before := arranged.unlisted (rearranged playlistId songIds last)
    (by rw [entries_reordered keyed known distinct]; exact List.mem_map_of_mem inLast)
    (rearranged playlistId songIds entry)
    (by rw [entries_reordered keyed known distinct]; exact List.mem_map_of_mem member)
    (by rw [rearranged_songId, isLast]; exact lastListed)
    (by rw [rearranged_songId]; exact unlisted)
  rw [rearranged_listed own (isLast ▸ lastListed), rearranged_unlisted unlisted, isLast,
    List.getLast_eq_getElem, distinct.idxOf_getElem] at before
  omega

end Accepted

theorem arranged_distinct
    (known : ∀ songId ∈ songIds, songId ∈ (tables.entries playlistId).map PlaylistSong.songId)
    (arranged : Arranged tables playlistId songIds) : songIds.Nodup := by
  refine arranged.listed.imp_of_mem fun {earlier later} inEarlier _ before same => ?_
  obtain ⟨entry, member, named⟩ := List.mem_map.1 (known earlier inEarlier)
  exact Nat.lt_irrefl _ (before entry member entry member named (named.trans same))

theorem reordered_songs (keyed : Keyed tables) (other : String) :
    ((tables.saveEntries (reordered (tables.entries playlistId) songIds)).entries other).map
        PlaylistSong.songId = (tables.entries other).map PlaylistSong.songId := by
  rw [songs_of_identities, saveEntries_identities keyed.ids, ← songs_of_identities]
  intro saved member
  obtain ⟨entry, present, _, rfl⟩ := mem_reordered member
  exact List.mem_map.2 ⟨entry, (mem_entries.1 present).1, rfl⟩

theorem reorder_lawful_iff (keyed : Keyed tables) (orderly : Orderly tables)
    (accepted : tables.reorder playlistId userId songIds = .ok after) :
    (Orderly after ∧ Arranged after playlistId songIds) ↔
      songIds.Nodup ∧ ∀ entry ∈ tables.entries playlistId,
        entry.songId ∉ songIds → songIds.length ≤ entry.position := by
  obtain ⟨⟨nonempty, known⟩, rfl⟩ := reorder_cases accepted
  constructor
  · rintro ⟨_, arranged⟩
    have distinct := arranged_distinct
      (fun songId named => (reordered_songs keyed playlistId).symm ▸ known songId named) arranged
    exact ⟨distinct, arranged_past keyed known nonempty distinct arranged⟩
  · rintro ⟨distinct, past⟩
    exact ⟨rearranged_orderly keyed known orderly distinct past,
      rearranged_arranged keyed known distinct past⟩

/-! ### Runs -/

variable {operation : PlaylistOperation}

theorem playlistStep_ok (answers : Answers tables operation)
    (performed : perform tables operation = .ok after) :
    playlistStep tables operation = some after := by
  unfold playlistStep
  rw [if_pos answers, performed]

theorem playlistStep_error (answers : Answers tables operation) {thrown : AppError}
    (performed : perform tables operation = .error thrown) :
    playlistStep tables operation = some tables := by
  unfold playlistStep
  rw [if_pos answers, performed]

theorem playlistStep_cases (stepped : playlistStep tables operation = some after) :
    Answers tables operation ∧
      (after = tables ∧ (perform tables operation).toOption.isSome = false ∨
        perform tables operation = .ok after) := by
  unfold playlistStep at stepped
  by_cases answers : Answers tables operation
  · rw [if_pos answers] at stepped
    cases performed : perform tables operation with
    | error thrown =>
        rw [performed] at stepped
        exact ⟨answers, .inl ⟨(Option.some.inj stepped).symm, rfl⟩⟩
    | ok result =>
        rw [performed] at stepped
        exact ⟨answers, .inr (congrArg Except.ok (Option.some.inj stepped))⟩
  · rw [if_neg answers] at stepped
    cases stepped

theorem playlistStep_orderly (keyed : Keyed tables) (orderly : Orderly tables)
    (stepped : playlistStep tables operation = some after)
    (other : ∀ playlistId userId songIds, operation ≠ .reorder playlistId userId songIds) :
    Orderly after := by
  have keyedAfter := playlistStep_keyed keyed stepped
  obtain ⟨answers, ⟨rfl, _⟩ | performed⟩ := playlistStep_cases stepped
  · exact orderly
  · cases operation with
    | addSong drawn playlistId userId songId =>
        rcases addSong_cases performed with rfl | ⟨absent, rfl⟩
        · exact orderly
        · exact orderly.added absent
    | removeSong playlistId userId songId =>
        rw [removeSong_cases performed]
        exact orderly.filtered _
    | reorder playlistId userId songIds => exact absurd rfl (other playlistId userId songIds)
    | moveSong playlistId userId songId newPosition read =>
        obtain ⟨entry, member, _, ⟨_, rfl⟩ | ⟨_, rfl⟩⟩ := moveSong_cases performed
        · exact orderly
        · have distinct : (read.map PlaylistSong.songId).Nodup :=
            (answers.1.map _).nodup_iff.2 (keyed.songs playlistId)
          exact orderly.numbered keyed ((moved_perm member distinct _).trans answers.1) keyedAfter

theorem positionsLawful_iff (keyed : Keyed tables) (orderly : Orderly tables)
    (operation : PlaylistOperation) :
    PositionsLawful tables operation ↔ PositionsGuarded tables operation := by
  cases operation with
  | addSong drawn playlistId userId songId =>
      exact iff_of_true (fun after stepped => ⟨playlistStep_orderly keyed orderly stepped
        (fun _ _ _ same => nomatch same), fun _ _ _ same => nomatch same⟩) trivial
  | removeSong playlistId userId songId =>
      exact iff_of_true (fun after stepped => ⟨playlistStep_orderly keyed orderly stepped
        (fun _ _ _ same => nomatch same), fun _ _ _ same => nomatch same⟩) trivial
  | moveSong playlistId userId songId newPosition read =>
      exact iff_of_true (fun after stepped => ⟨playlistStep_orderly keyed orderly stepped
        (fun _ _ _ same => nomatch same), fun _ _ _ same => nomatch same⟩) trivial
  | reorder playlistId userId songIds =>
      unfold PositionsLawful PositionsGuarded
      have answers : Answers tables (.reorder playlistId userId songIds) := trivial
      cases outcome : tables.reorder playlistId userId songIds with
      | error thrown =>
          rw [playlistStep_error answers outcome]
          constructor
          · intro _ accepted
            rw [outcome] at accepted
            exact nomatch accepted
          · intro _ after stays
            obtain rfl := Option.some.inj stays
            refine ⟨orderly, fun _ _ _ same accepted => ?_⟩
            cases same
            rw [outcome] at accepted
            exact nomatch accepted
      | ok after =>
          have exact_iff := reorder_lawful_iff keyed orderly outcome
          rw [playlistStep_ok answers outcome]
          constructor
          · intro lawful _
            obtain ⟨orderlyAfter, arranged⟩ := lawful after rfl
            exact exact_iff.1 ⟨orderlyAfter,
              arranged playlistId userId songIds rfl (outcome ▸ rfl)⟩
          · intro guarded result stepped
            obtain rfl := Option.some.inj stepped
            obtain ⟨orderlyAfter, arranged⟩ := exact_iff.2 (guarded (outcome ▸ rfl))
            refine ⟨orderlyAfter, fun _ _ _ same _ => ?_⟩
            cases same
            exact arranged

/-- The positions stay distinct and every accepted reorder arranges its playlist, exactly on the
runs whose accepted reorders list no song twice and leave out only songs with positions past
the list. -/
theorem playlistMachine_positions_iff {tables : PlaylistTables}
    (begins : playlistMachine.initial tables) (orderly : Orderly tables)
    (operations : List PlaylistOperation) :
    playlistMachine.Permits PositionsLawful tables operations ↔
      playlistMachine.Permits PositionsGuarded tables operations := by
  refine Machine.permits_iff (fun state => Keyed state ∧ Orderly state) (fun _ => True)
    (fun state operation holds _ => positionsLawful_iff holds.1 holds.2 operation) ?_ operations
    ⟨begins, orderly⟩ fun _ _ => trivial
  rintro before operation after ⟨keyed, _⟩ _ lawful stepped
  exact ⟨playlistStep_keyed keyed stepped, (lawful after stepped).1⟩

/-! ### A playlist of three songs -/

def threeSongs : PlaylistTables :=
  { playlists := [⟨"mix", "ana", false⟩]
    collaborators := []
    songs := ["s1", "s2", "s3"]
    playlistSongs := [⟨"r1", "mix", "s1", 0⟩, ⟨"r2", "mix", "s2", 1⟩, ⟨"r3", "mix", "s3", 2⟩] }

theorem threeSongs_keyed : Keyed threeSongs := by
  refine ⟨by decide, fun playlistId => ?_⟩
  have songs : (threeSongs.playlistSongs.map PlaylistSong.songId).Nodup := by decide
  exact songs.sublist (List.filter_sublist.map _)

theorem threeSongs_orderly : Orderly threeSongs := by
  refine ⟨threeSongs_keyed.songs, fun playlistId => ?_⟩
  have positions : (threeSongs.playlistSongs.map PlaylistSong.position).Nodup := by decide
  exact positions.sublist (List.filter_sublist.map _)

theorem threeSongs_rearranged :
    playlistMachine.Permits PositionsLawful threeSongs
      [.removeSong "mix" "ana" "s2", .reorder "mix" "ana" ["s3", "s1"],
        .reorder "mix" "ana" ["s3"], .addSong "r4" "mix" "ana" "s2"] :=
  (playlistMachine_positions_iff threeSongs_keyed threeSongs_orderly _).2 (by decide +kernel)

/-- The last of three songs is listed alone, and comes to the position of the first. -/
theorem threeSongs_partly_reordered :
    ¬playlistMachine.Permits PositionsLawful threeSongs [.reorder "mix" "ana" ["s3"]] := by
  rintro ⟨lawful, _⟩
  have guarded := (positionsLawful_iff threeSongs_keyed threeSongs_orderly _).1 lawful
  exact absurd guarded (by decide +kernel)

end AudioBlock.Playlists
