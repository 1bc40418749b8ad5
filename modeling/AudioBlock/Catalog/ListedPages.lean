/-
A listing of songs that a client reads page by page, for as long as `hasMore` says so.
-/
import AudioBlock.Catalog.Visibility

namespace AudioBlock.Catalog

open AudioBlock.Foundation AudioBlock.Songs

structure PaginatedResponse (α : Type) where
  data : List α
  page : Nat
  limit : Nat
  total : Nat
  totalPages : Nat
  hasMore : Bool

def paginatedResponse {α : Type} (items : List α) (total page limit : Nat) : PaginatedResponse α :=
  let totalPages := max 1 ((total + limit - 1) / limit)
  { data := items, page, limit, total, totalPages, hasMore := decide (page < totalPages) }

def songsListed (world : ReadWorld) (db : SongDatabase) (query : ListSongsQuery)
    (viewerId : Option String) : List Song :=
  db.songs.filter fun song => statusListed query viewerId song && listed world db query song

/-- `listSongs`, with what `getManyAndCount` counts. -/
def listSongsPage (world : ReadWorld) (db : SongDatabase) (query : ListSongsQuery)
    (viewerId : Option String) (limit page : Nat) : Except AppError (PaginatedResponse Song) :=
  (listSongs world db query viewerId page limit).map fun songs =>
    paginatedResponse songs (songsListed world db query viewerId).length page limit

/-- A client that asks for the next page while there is more, at most so many times. -/
def readPages {α : Type} (fetch : Nat → Except AppError (PaginatedResponse α)) :
    Nat → Nat → Except AppError (Option (List α))
  | 0, _ => .ok none
  | requests + 1, page =>
      match fetch page with
      | .error error => .error error
      | .ok response =>
          if response.hasMore then
            (readPages fetch requests (page + 1)).map (Option.map (response.data ++ ·))
          else .ok (some response.data)

/-- The pages from one on make up the rows from its first on. -/
theorem readPages_rows {α : Type} {fetch : Nat → Except AppError (PaginatedResponse α)}
    {rows : List α} {limit : Nat} (positive : 0 < limit)
    (pages : ∀ page, fetch (page + 1) =
      .ok (paginatedResponse ((rows.drop (page * limit)).take limit) rows.length (page + 1) limit))
    (requests page : Nat) (enough : max 1 ((rows.length + limit - 1) / limit) ≤ page + requests)
    (inside : page < max 1 ((rows.length + limit - 1) / limit)) :
    readPages fetch requests (page + 1) = .ok (some (rows.drop (page * limit))) := by
  induction requests generalizing page with
  | zero => omega
  | succ requests ih =>
      have next : (page + 1) * limit = page * limit + limit := Nat.succ_mul page limit
      simp only [readPages, pages, paginatedResponse, decide_eq_true_eq]
      split
      · rename_i more
        rw [ih (page + 1) (by omega) more, next, ← List.drop_drop]
        exact congrArg (fun all => Except.ok (some all)) (List.take_append_drop limit _)
      · rename_i last
        have ceiling := Nat.lt_div_mul_add (a := rows.length + limit - 1) positive
        have few := Nat.mul_le_mul_right limit
          (show (rows.length + limit - 1) / limit ≤ page + 1 by omega)
        rw [List.take_of_length_le (by rw [List.length_drop]; omega)]

/-- Every page is refused alike, or the client reads each listed song once and comes to an end. -/
theorem listSongs_readPages (world : ReadWorld) (db : SongDatabase) (query : ListSongsQuery)
    (viewerId : Option String) (limit : Nat) :
    (∃ error, ∀ page, 1 ≤ page →
      listSongsPage world db query viewerId limit page = .error error) ∨
      ∃ requests songs,
        readPages (listSongsPage world db query viewerId limit) requests 1 = .ok (some songs) ∧
          songs.Nodup ∧ songs.Perm (songsListed world db query viewerId) := by
  let rows := world.arrange (.listSongs query) (songsListed world db query viewerId)
  have same : rows.Perm (songsListed world db query viewerId) := world.arranged _ _
  have distinct : rows.Nodup := same.nodup_iff.mpr (db.distinct.of_map.filter _)
  have refused {error : AppError} (always : ∀ page : Nat, 1 ≤ page →
      listSongs world db query viewerId page limit = .error error) (page : Nat) (first : 1 ≤ page) :
      listSongsPage world db query viewerId limit page = .error error := by
    rw [listSongsPage, always page first]
    rfl
  by_cases bounded : (limit : Int) < 1 ∨ 100 < (limit : Int)
  · exact Or.inl ⟨_, refused fun page _ => if_pos (Or.inr bounded)⟩
  by_cases status : query.status ≠ none ∧ isOwner viewerId query.artistId = false
  · exact Or.inl ⟨_, refused fun page _ => by rw [listSongs, if_neg (by omega), if_pos status]⟩
  by_cases tag : truthy query.tag ≠ none ∧ world.songTag = false
  · exact Or.inl ⟨_, refused fun page _ => by
      rw [listSongs, if_neg (by omega), if_neg status, if_pos tag]⟩
  have pages (page : Nat) : listSongsPage world db query viewerId limit (page + 1) =
      .ok (paginatedResponse ((rows.drop (page * limit)).take limit) rows.length (page + 1)
        limit) := by
    have skipped : (((page + 1 : Nat) : Int) - 1) * limit = (page * limit : Nat) := by
      rw [show ((page + 1 : Nat) : Int) - 1 = page by omega, ← Int.natCast_mul]
    unfold listSongsPage listSongs paged
    rw [if_neg (by omega), if_neg status, if_neg tag, skipped, if_neg (by omega),
      Int.toNat_natCast, Int.toNat_natCast, same.length_eq]
    rfl
  have all := readPages_rows (by omega) pages _ 0 (Nat.zero_add _).ge (by omega)
  exact Or.inr ⟨_, rows, by rwa [Nat.zero_mul] at all, distinct, same⟩

end AudioBlock.Catalog
