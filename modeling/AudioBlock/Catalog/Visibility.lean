/-
The public read paths of the catalogue.

Each path makes its own check of what a caller may see.  A read answers with the songs
whose data it carries.  `SongService.ts` uses the names `validateUUID` and `SongTag`
without importing them; what they are bound to in the global scope, and what the
database and the storage do, is given by a world.
-/
import AudioBlock.Foundation.Text
import AudioBlock.Songs.SongService

namespace AudioBlock.Catalog

open AudioBlock.Foundation AudioBlock.Songs

structure Tag where
  id : String
  slug : String

structure SongTag where
  songId : String
  tagId : String

/-- The columns of an artist that a search reads. -/
structure Artist where
  id : String
  name : Option String
  username : Option String

structure SongDatabase where
  songs : List Song
  songTags : List SongTag
  tags : List Tag
  artists : List Artist
  distinct : (songs.map Song.id).Nodup

structure ListSongsQuery where
  artistId : Option String
  genreId : Option String
  tag : Option String
  mintStatus : Option MintStatus
  status : Option SongStatus

inductive ReadPath
  | getSongView (id : String)
  | listSongs (query : ListSongsQuery)
  | searchSongs (query : String)
  | getPopularSongs
  | getSongsByTagSlug (slug : String)
  | getLyrics (songId : String)
  | getSongEmbed (songId : String)
  | streamSong (songId : String)

/-- The global scope, the text operators of the language and of the database, the order
in which rows come, and the manifests that are cached or can be generated. -/
structure ReadWorld where
  validateUUID : Option (String → Bool)
  songTag : Bool
  toLowerCase : String → String
  ilike : String → String → Bool
  arrange : ReadPath → List Song → List Song
  arranged : ∀ path rows, (arrange path rows).Perm rows
  manifest : String → Option String

def slugsOf (db : SongDatabase) (songId : String) : List String :=
  (db.songTags.filter fun link => decide (link.songId = songId)).flatMap fun link =>
    (db.tags.filter fun tag => decide (tag.id = link.tagId)).map Tag.slug

/-- `skip` and `take`, which the database rejects if negative. -/
def paged (rows : List Song) (page limit : Int) : Except AppError (List Song) :=
  if (page - 1) * limit < 0 ∨ limit < 0 then .error rejectedWrite
  else .ok ((rows.drop ((page - 1) * limit).toNat).take limit.toNat)

def publicSong (song : Song) : Bool := song.status = .ready ∧ song.flagged = false

def isOwner (viewerId artistId : Option String) : Bool :=
  viewerId.any fun id => decide (id ≠ "" ∧ artistId = some id)

def getSongView (world : ReadWorld) (db : SongDatabase) (id : String) (viewerId : Option String) :
    Except AppError Song :=
  match world.validateUUID with
  | none => .error (.plain "validateUUID is not defined")
  | some accepts =>
      if accepts id = false then .error (.validation "id must be a valid UUID")
      else
        match findRow Song.id id db.songs with
        | none => .error (.notFound "Song not found")
        | some song =>
            if isOwner viewerId (some song.artistId) = false ∧
                (song.status ≠ .ready ∨ song.flagged = true) then
              .error (.notFound "Song not found")
            else .ok song

def listed (world : ReadWorld) (db : SongDatabase) (query : ListSongsQuery) (song : Song) : Bool :=
  query.artistId.all (fun artistId => decide (song.artistId = artistId)) &&
    query.genreId.all (fun genreId => decide (song.genreId = some genreId)) &&
    query.mintStatus.all (fun mintStatus => decide (song.mintStatus = mintStatus)) &&
    (truthy query.tag).all fun tag => decide (world.toLowerCase tag ∈ slugsOf db song.id)

def statusListed (query : ListSongsQuery) (viewerId : Option String) (song : Song) : Bool :=
  if isOwner viewerId query.artistId then
    query.status.all fun status => decide (song.status = status)
  else publicSong song

def listSongs (world : ReadWorld) (db : SongDatabase) (query : ListSongsQuery)
    (viewerId : Option String) (page limit : Int) : Except AppError (List Song) :=
  if page < 1 ∨ limit < 1 ∨ 100 < limit then .error (.validation "Validation failed")
  else if query.status ≠ none ∧ isOwner viewerId query.artistId = false then
    .error (.authorization "The status filter is only available for your own songs")
  else if truthy query.tag ≠ none ∧ world.songTag = false then
    .error (.plain "SongTag is not defined")
  else
    paged (world.arrange (.listSongs query)
      (db.songs.filter fun song =>
        statusListed query viewerId song && listed world db query song)) page limit

def searched (world : ReadWorld) (db : SongDatabase) (trimmed : List Char) (song : Song) : Bool :=
  let like := "%" ++ String.ofList trimmed ++ "%"
  let found (column : Option String) : Bool := column.any fun text => world.ilike text like
  found (some song.title) || found song.genre || found song.composers || found song.description ||
    db.artists.any fun artist =>
      decide (artist.id = song.artistId) && (found artist.name || found artist.username)

def searchSongs (world : ReadWorld) (db : SongDatabase) (query : String) (page limit : Int) :
    Except AppError (List Song) :=
  let trimmed := trim query.toList
  if utf16Length trimmed < 2 then .ok []
  else
    paged (world.arrange (.searchSongs query)
      (db.songs.filter fun song => publicSong song && searched world db trimmed song))
      (max 1 page) (min (max 1 limit) 100)

def getPopularSongs (world : ReadWorld) (db : SongDatabase) (page limit : Int) :
    Except AppError (List Song) :=
  paged (world.arrange .getPopularSongs
    (db.songs.filter fun song => decide (song.status = .ready))) page limit

def getSongsByTagSlug (world : ReadWorld) (db : SongDatabase) (slug : String) : List Song :=
  world.arrange (.getSongsByTagSlug slug)
    (db.songs.filter fun song => decide (slug ∈ slugsOf db song.id))

def lyricsConfirmed (song : Song) : Bool :=
  truthy song.lyrics ≠ none ∧ song.lyricsRightsConfirmedAt ≠ none

def getLyrics (db : SongDatabase) (songId : String) : Except AppError Song :=
  match findRow Song.id songId db.songs with
  | none => .error (.notFound "Song not found" "SONG_NOT_FOUND")
  | some song =>
      if lyricsConfirmed song then .ok song
      else .error (.notFound "Lyrics not found for this song" "LYRICS_NOT_FOUND")

def getSongEmbed (db : SongDatabase) (songId : String) : Except AppError Song :=
  match findRow Song.id songId db.songs with
  | none => .error (.withStatus "Song not available" 404)
  | some song =>
      if song.status ≠ .ready ∨ song.flagged = true then
        .error (.withStatus "Song not available" 404)
      else .ok song

def streamSong (world : ReadWorld) (db : SongDatabase) (songId : String) : Except AppError Song :=
  match findRow Song.id songId db.songs with
  | none => .error (.notFound "Song not available" "SONG_NOT_AVAILABLE")
  | some song =>
      if song.status ≠ .ready ∨ truthy song.hlsMasterUrl = none ∨ song.flagged = true then
        .error (.notFound "Song not available" "SONG_NOT_AVAILABLE")
      else
        match world.manifest songId with
        | none => .error (.notFound "No HLS manifest for song" "MANIFEST_NOT_FOUND")
        | some _ => .ok song

/-- A read by a caller, who may be anonymous; only some paths have pages. -/
def readPath (world : ReadWorld) (db : SongDatabase) (caller : Option SongRequester)
    (path : ReadPath) (page limit : Int) : Except AppError (List Song) :=
  let viewerId := caller.map SongRequester.id
  match path with
  | .getSongView id => (getSongView world db id viewerId).map fun song => [song]
  | .listSongs query => listSongs world db query viewerId page limit
  | .searchSongs query => searchSongs world db query page limit
  | .getPopularSongs => getPopularSongs world db page limit
  | .getSongsByTagSlug slug => .ok (getSongsByTagSlug world db slug)
  | .getLyrics songId => (getLyrics db songId).map fun song => [song]
  | .getSongEmbed songId => (getSongEmbed db songId).map fun song => [song]
  | .streamSong songId => (streamSong world db songId).map fun song => [song]

/-!
### What the paths show

A path asks for some songs and lets some of them through; that these are the same for
every path is what the paths should agree on.
-/

def Permitted (caller : Option SongRequester) (song : Song) : Prop :=
  ∃ requester ∈ caller, requester.id = song.artistId ∨ requester.role = some .admin

def Shows (world : ReadWorld) (db : SongDatabase) (caller : Option SongRequester)
    (path : ReadPath) (song : Song) : Prop :=
  ∃ page limit songs, readPath world db caller path page limit = .ok songs ∧ song ∈ songs

def Asks (world : ReadWorld) (db : SongDatabase) (song : Song) : ReadPath → Prop
  | .getSongView id | .getSongEmbed id => song.id = id
  | .listSongs query => query.status = none ∧ listed world db query song = true
  | .searchSongs query =>
      2 ≤ utf16Length (trim query.toList) ∧
        searched world db (trim query.toList) song = true
  | .getPopularSongs => True
  | .getSongsByTagSlug slug => slug ∈ slugsOf db song.id
  | .getLyrics songId => song.id = songId ∧ lyricsConfirmed song = true
  | .streamSong songId =>
      song.id = songId ∧ truthy song.hlsMasterUrl ≠ none ∧ world.manifest songId ≠ none

structure PublicVisibility (world : ReadWorld) (db : SongDatabase)
    (caller : Option SongRequester) : Prop where
  hides : ∀ path song, Shows world db caller path song → publicSong song = false →
    Permitted caller song
  agrees : ∀ song ∈ db.songs, ¬Permitted caller song → ∀ path other,
    Asks world db song path → Asks world db song other →
      (Shows world db caller path song ↔ Shows world db caller other song)

def AcceptsId (world : ReadWorld) (song : Song) : Prop :=
  ∃ accepts ∈ world.validateUUID, accepts song.id = true

/-- What a path lets through of what it asks for, for a caller who is not permitted. -/
def Lets (world : ReadWorld) (song : Song) : ReadPath → Prop
  | .getSongView _ => AcceptsId world song ∧ publicSong song = true
  | .listSongs query =>
      (truthy query.tag ≠ none → world.songTag = true) ∧ publicSong song = true
  | .searchSongs _ | .getSongEmbed _ | .streamSong _ => publicSong song = true
  | .getPopularSongs => song.status = .ready
  | .getSongsByTagSlug _ | .getLyrics _ => True

def Consistent (world : ReadWorld) (db : SongDatabase) (song : Song) : Prop :=
  if publicSong song then
    AcceptsId world song ∧
      ∀ tag, tag ≠ "" → world.toLowerCase tag ∈ slugsOf db song.id → world.songTag = true
  else song.status ≠ .ready ∧ slugsOf db song.id = [] ∧ lyricsConfirmed song = false

section Paths

variable {world : ReadWorld} {db : SongDatabase} {caller : Option SongRequester} {song : Song}

theorem publicSong_iff : publicSong song = true ↔ song.status = .ready ∧ song.flagged = false := by
  unfold publicSong
  exact decide_eq_true_iff

theorem isOwner_permitted {artistId : Option String}
    (owner : isOwner (caller.map SongRequester.id) artistId = true)
    (own : artistId = some song.artistId) : Permitted caller song := by
  obtain ⟨id, present, same⟩ := (Option.any_eq_true _ _).mp owner
  obtain ⟨requester, found, rfl⟩ := Option.map_eq_some_iff.mp present
  obtain ⟨_, named⟩ := of_decide_eq_true same
  exact ⟨requester, found, Or.inl (Option.some.inj (named.symm.trans own))⟩

theorem paged_one {rows : List Song} (member : song ∈ rows) :
    ∃ page : Int, 1 ≤ page ∧ paged rows page 1 = .ok [song] := by
  obtain ⟨index, present, same⟩ := List.getElem_of_mem member
  refine ⟨index + 1, by omega, ?_⟩
  have skipped : ((index : Int) + 1 - 1) * 1 = index := by omega
  unfold paged
  rw [skipped, if_neg (by omega), Int.toNat_natCast, List.drop_eq_getElem_cons present, same]
  rfl

theorem paged_mem {rows songs : List Song} {page limit : Int}
    (read : paged rows page limit = .ok songs) (member : song ∈ songs) : song ∈ rows := by
  unfold paged at read
  split at read
  · cases read
  · cases read
    exact List.mem_of_mem_drop (List.mem_of_mem_take member)

variable {path : ReadPath} {songId : String}

theorem mem_arranged {keep : Song → Bool} :
    song ∈ world.arrange path (db.songs.filter keep) ↔ song ∈ db.songs ∧ keep song = true :=
  ((world.arranged path _).mem_iff).trans List.mem_filter

theorem findRow_iff :
    findRow Song.id songId db.songs = some song ↔ song ∈ db.songs ∧ song.id = songId := by
  constructor
  · exact findRow_mem
  · rintro ⟨member, rfl⟩
    exact findRow_of_mem db.distinct member

theorem single_shows {answer : Except AppError Song}
    (single : ∀ page limit, readPath world db caller path page limit =
      answer.map fun song => [song]) :
    Shows world db caller path song ↔ answer = .ok song := by
  constructor
  · rintro ⟨page, limit, songs, read, member⟩
    rw [single] at read
    cases answer with
    | error failure => cases read
    | ok found =>
        cases read
        rw [List.mem_singleton.mp member]
  · rintro rfl
    exact ⟨1, 1, [song], single 1 1, List.mem_singleton_self song⟩

theorem not_public {song : Song} :
    song.status ≠ .ready ∨ song.flagged = true ↔ ¬publicSong song = true := by
  rw [publicSong_iff, not_and_or, Bool.not_eq_false]

theorem getSongView_shows {id : String} (stranger : ¬Permitted caller song) :
    getSongView world db id (caller.map SongRequester.id) = .ok song ↔
      song ∈ db.songs ∧ song.id = id ∧ AcceptsId world song ∧ publicSong song = true := by
  unfold getSongView
  constructor
  · intro read
    split at read
    · cases read
    · rename_i accepts bound
      split at read
      · cases read
      · rename_i accepted
        split at read
        · cases read
        · rename_i found present
          split at read
          · cases read
          · rename_i seen
            cases read
            obtain ⟨member, named⟩ := findRow_iff.mp present
            refine ⟨member, named, ⟨accepts, bound, ?_⟩, ?_⟩
            · rw [named]
              exact Bool.not_eq_false _ ▸ accepted
            · by_contra hidden
              refine seen ⟨?_, not_public.mpr hidden⟩
              by_contra owner
              exact stranger (isOwner_permitted (Bool.not_eq_false _ ▸ owner) rfl)
  · rintro ⟨member, rfl, ⟨accepts, bound, accepted⟩, seen⟩
    have resolved : world.validateUUID = some accepts := bound
    have present : findRow Song.id song.id db.songs = some song := findRow_iff.mpr ⟨member, rfl⟩
    simp only [resolved, accepted, present, not_public, seen, not_true, and_false, if_false,
      Bool.true_eq_false]

theorem listSongs_shows {query : ListSongsQuery} (stranger : ¬Permitted caller song) :
    (∃ page limit songs,
        listSongs world db query (caller.map SongRequester.id) page limit = .ok songs ∧
          song ∈ songs) ↔
      song ∈ db.songs ∧ (query.status = none ∧ listed world db query song = true) ∧
        (truthy query.tag ≠ none → world.songTag = true) ∧ publicSong song = true := by
  have notOwner (asked : listed world db query song = true) :
      isOwner (caller.map SongRequester.id) query.artistId = false := by
    by_contra owner
    have owned := Bool.not_eq_false _ ▸ owner
    obtain ⟨id, _, same⟩ := (Option.any_eq_true _ _).mp owned
    obtain ⟨_, named⟩ := of_decide_eq_true same
    simp only [listed, named, Option.all_some, Bool.and_eq_true, decide_eq_true_eq] at asked
    exact stranger (isOwner_permitted owned (named.trans (congrArg some asked.1.1.1.symm)))
  constructor
  · rintro ⟨page, limit, songs, read, member⟩
    unfold listSongs at read
    split at read
    · cases read
    split at read
    · cases read
    split at read
    · cases read
    rename_i _ allowed resolved
    obtain ⟨present, passed⟩ := mem_arranged.mp (paged_mem read member)
    obtain ⟨seen, asked⟩ := (Bool.and_eq_true _ _).mp passed
    have foreign := notOwner asked
    rw [statusListed, foreign, if_neg Bool.false_ne_true] at seen
    refine ⟨present, ⟨?_, asked⟩, ?_, seen⟩
    · by_contra status
      exact allowed ⟨status, foreign⟩
    · intro tagged
      by_contra unbound
      exact resolved ⟨tagged, Bool.not_eq_true _ ▸ unbound⟩
  · rintro ⟨member, ⟨status, asked⟩, resolved, seen⟩
    have foreign := notOwner asked
    have row : song ∈ world.arrange (.listSongs query) (db.songs.filter fun song =>
        statusListed query (caller.map SongRequester.id) song && listed world db query song) := by
      refine mem_arranged.mpr ⟨member, ?_⟩
      rw [statusListed, foreign, if_neg Bool.false_ne_true, seen, asked]
      rfl
    obtain ⟨page, first, read⟩ := paged_one row
    refine ⟨page, 1, [song], ?_, List.mem_singleton_self song⟩
    unfold listSongs
    rw [if_neg (by omega), if_neg (fun refused => refused.1 status), if_neg ?_]
    · exact read
    · rintro ⟨tagged, unbound⟩
      exact Bool.false_ne_true (unbound.symm.trans (resolved tagged))

theorem searchSongs_shows {query : String} :
    (∃ page limit songs, searchSongs world db query page limit = .ok songs ∧ song ∈ songs) ↔
      song ∈ db.songs ∧ (2 ≤ utf16Length (trim query.toList) ∧
        searched world db (trim query.toList) song = true) ∧
          publicSong song = true := by
  constructor
  · rintro ⟨page, limit, songs, read, member⟩
    unfold searchSongs at read
    dsimp only at read
    split at read
    · cases read
      cases member
    · rename_i long
      obtain ⟨present, passed⟩ := mem_arranged.mp (paged_mem read member)
      obtain ⟨seen, found⟩ := (Bool.and_eq_true _ _).mp passed
      exact ⟨present, ⟨Nat.le_of_not_lt long, found⟩, seen⟩
  · rintro ⟨member, ⟨long, found⟩, seen⟩
    have row : song ∈ world.arrange (.searchSongs query) (db.songs.filter fun song =>
        publicSong song && searched world db (trim query.toList) song) := by
      refine mem_arranged.mpr ⟨member, ?_⟩
      rw [seen, found]
      rfl
    obtain ⟨page, first, read⟩ := paged_one row
    refine ⟨page, 1, [song], ?_, List.mem_singleton_self song⟩
    unfold searchSongs
    dsimp only
    have clamped : max 1 page = page := by omega
    rw [if_neg (Nat.not_lt_of_le long), clamped]
    exact read

theorem getPopularSongs_shows :
    (∃ page limit songs, getPopularSongs world db page limit = .ok songs ∧ song ∈ songs) ↔
      song ∈ db.songs ∧ song.status = .ready := by
  constructor
  · rintro ⟨page, limit, songs, read, member⟩
    obtain ⟨present, ready⟩ := mem_arranged.mp (paged_mem read member)
    exact ⟨present, of_decide_eq_true ready⟩
  · rintro ⟨member, ready⟩
    have row : song ∈ world.arrange .getPopularSongs
        (db.songs.filter fun song => decide (song.status = .ready)) :=
      mem_arranged.mpr ⟨member, decide_eq_true ready⟩
    obtain ⟨page, _, read⟩ := paged_one row
    exact ⟨page, 1, [song], read, List.mem_singleton_self song⟩

theorem getLyrics_shows :
    getLyrics db songId = .ok song ↔
      song ∈ db.songs ∧ song.id = songId ∧ lyricsConfirmed song = true := by
  unfold getLyrics
  constructor
  · intro read
    split at read
    · cases read
    · rename_i found present
      split at read
      · rename_i confirmed
        cases read
        obtain ⟨member, named⟩ := findRow_iff.mp present
        exact ⟨member, named, confirmed⟩
      · cases read
  · rintro ⟨member, named, confirmed⟩
    rw [findRow_iff.mpr ⟨member, named⟩]
    exact if_pos confirmed

theorem getSongEmbed_shows :
    getSongEmbed db songId = .ok song ↔
      song ∈ db.songs ∧ song.id = songId ∧ publicSong song = true := by
  unfold getSongEmbed
  constructor
  · intro read
    split at read
    · cases read
    · rename_i found present
      split at read
      · cases read
      · rename_i seen
        cases read
        obtain ⟨member, named⟩ := findRow_iff.mp present
        exact ⟨member, named, not_not.mp fun hidden => seen (not_public.mpr hidden)⟩
  · rintro ⟨member, named, seen⟩
    rw [findRow_iff.mpr ⟨member, named⟩]
    exact if_neg fun hidden => not_public.mp hidden seen

theorem streamSong_shows :
    streamSong world db songId = .ok song ↔
      song ∈ db.songs ∧ (song.id = songId ∧ truthy song.hlsMasterUrl ≠ none ∧
        world.manifest songId ≠ none) ∧ publicSong song = true := by
  unfold streamSong
  constructor
  · intro read
    split at read
    · cases read
    · rename_i found present
      split at read
      · cases read
      · rename_i served
        split at read
        · cases read
        · rename_i manifest cached
          cases read
          obtain ⟨member, named⟩ := findRow_iff.mp present
          simp only [not_or, ne_eq, not_not, Bool.not_eq_true] at served
          obtain ⟨ready, transcoded, unflagged⟩ := served
          exact ⟨member, ⟨named, transcoded, by rw [cached]; exact Option.some_ne_none _⟩,
            publicSong_iff.mpr ⟨ready, unflagged⟩⟩
  · rintro ⟨member, ⟨named, transcoded, cached⟩, seen⟩
    obtain ⟨ready, unflagged⟩ := publicSong_iff.mp seen
    obtain ⟨manifest, there⟩ := Option.ne_none_iff_exists'.mp cached
    rw [findRow_iff.mpr ⟨member, named⟩]
    simp [ready, unflagged, transcoded, there]

theorem shows_iff (path : ReadPath) (stranger : ¬Permitted caller song) :
    Shows world db caller path song ↔
      song ∈ db.songs ∧ Asks world db song path ∧ Lets world song path := by
  cases path with
  | getSongView id => exact (single_shows fun _ _ => rfl).trans (getSongView_shows stranger)
  | listSongs query => exact listSongs_shows stranger
  | searchSongs query => exact searchSongs_shows
  | getPopularSongs =>
      exact getPopularSongs_shows.trans ⟨fun ⟨member, ready⟩ => ⟨member, trivial, ready⟩,
        fun ⟨member, _, ready⟩ => ⟨member, ready⟩⟩
  | getSongsByTagSlug slug =>
      constructor
      · rintro ⟨_, _, songs, read, member⟩
        cases read
        obtain ⟨present, tagged⟩ := mem_arranged.mp member
        have slugs : slug ∈ slugsOf db song.id := of_decide_eq_true tagged
        exact ⟨present, slugs, trivial⟩
      · rintro ⟨member, tagged, _⟩
        have slugs : slug ∈ slugsOf db song.id := tagged
        have row : song ∈ getSongsByTagSlug world db slug :=
          mem_arranged.mpr ⟨member, decide_eq_true slugs⟩
        exact ⟨1, 1, _, rfl, row⟩
  | getLyrics songId =>
      exact ((single_shows fun _ _ => rfl).trans getLyrics_shows).trans
        ⟨fun ⟨member, asked⟩ => ⟨member, asked, trivial⟩,
          fun ⟨member, asked, _⟩ => ⟨member, asked⟩⟩
  | getSongEmbed songId => exact (single_shows fun _ _ => rfl).trans getSongEmbed_shows
  | streamSong songId => exact (single_shows fun _ _ => rfl).trans streamSong_shows

theorem Consistent.lets (consistent : Consistent world db song) (asks : Asks world db song path) :
    Lets world song path ↔ publicSong song = true := by
  unfold Consistent at consistent
  by_cases seen : publicSong song = true
  · rw [if_pos seen] at consistent
    obtain ⟨accepted, tags⟩ := consistent
    refine iff_of_true ?_ seen
    cases path with
    | getSongView id => exact ⟨accepted, seen⟩
    | listSongs query =>
        refine ⟨?_, seen⟩
        intro tagged
        obtain ⟨tag, asked⟩ := Option.ne_none_iff_exists'.mp tagged
        obtain ⟨_, written⟩ := Option.filter_eq_some_iff.mp asked
        have found := asks.2
        simp only [listed, asked, Option.all_some, Bool.and_eq_true, decide_eq_true_eq] at found
        exact tags tag (of_decide_eq_true written) found.2
    | searchSongs | getSongEmbed | streamSong => exact seen
    | getPopularSongs => exact (publicSong_iff.mp seen).1
    | getSongsByTagSlug | getLyrics => trivial
  · rw [if_neg seen] at consistent
    obtain ⟨unready, untagged, unconfirmed⟩ := consistent
    refine iff_of_false ?_ seen
    intro lets
    cases path with
    | getSongView | listSongs => exact seen lets.2
    | searchSongs | getSongEmbed | streamSong => exact seen lets
    | getPopularSongs => exact unready lets
    | getSongsByTagSlug slug =>
        change slug ∈ slugsOf db song.id at asks
        rw [untagged] at asks
        cases asks
    | getLyrics songId =>
        rw [asks.2] at unconfirmed
        cases unconfirmed

theorem PublicVisibility.consistent (visibility : PublicVisibility world db caller)
    (member : song ∈ db.songs) (stranger : ¬Permitted caller song) :
    Consistent world db song := by
  unfold Consistent
  split
  · rename_i seen
    have popular : Shows world db caller .getPopularSongs song :=
      (shows_iff .getPopularSongs stranger).mpr ⟨member, trivial, (publicSong_iff.mp seen).1⟩
    have shown {path : ReadPath} (asks : Asks world db song path) : Lets world song path := by
      have same := visibility.agrees song member stranger .getPopularSongs path trivial asks
      exact ((shows_iff path stranger).mp (same.mp popular)).2.2
    have view : Lets world song (.getSongView song.id) := shown rfl
    refine ⟨view.1, ?_⟩
    intro tag written tagged
    have asked : truthy (some tag) = some tag :=
      Option.filter_eq_some_iff.mpr ⟨rfl, decide_eq_true written⟩
    have listing : Asks world db song (.listSongs ⟨none, none, some tag, none, none⟩) := by
      refine ⟨rfl, ?_⟩
      simp [listed, asked, tagged]
    exact (shown listing).1 (by rw [asked]; exact Option.some_ne_none tag)
  · rename_i hidden
    have nowhere {path : ReadPath} (asks : Asks world db song path) : ¬Lets world song path := by
      intro lets
      exact stranger (visibility.hides path song
        ((shows_iff path stranger).mpr ⟨member, asks, lets⟩) (Bool.not_eq_true _ ▸ hidden))
    have unready : ¬Lets world song .getPopularSongs := nowhere trivial
    refine ⟨unready, ?_, ?_⟩
    · refine List.eq_nil_iff_forall_not_mem.mpr ?_
      intro slug tagged
      have byTag : ¬Lets world song (.getSongsByTagSlug slug) := nowhere tagged
      exact byTag trivial
    · by_contra confirmed
      have lyrics : ¬Lets world song (.getLyrics song.id) :=
        nowhere ⟨rfl, Bool.not_eq_false _ ▸ confirmed⟩
      exact lyrics trivial

end Paths

/-- The paths agree exactly where each song that the caller is not permitted to see
otherwise is consistent. -/
theorem publicVisibility_iff (world : ReadWorld) (db : SongDatabase)
    (caller : Option SongRequester) :
    PublicVisibility world db caller ↔
      ∀ song ∈ db.songs, Permitted caller song ∨ Consistent world db song := by
  constructor
  · intro visibility song member
    by_cases permitted : Permitted caller song
    · exact Or.inl permitted
    · exact Or.inr (visibility.consistent member permitted)
  · intro consistent
    constructor
    · intro path song shown hidden
      by_contra stranger
      obtain ⟨member, asks, lets⟩ := (shows_iff path stranger).mp shown
      have seen := ((consistent song member).resolve_left stranger).lets asks |>.mp lets
      rw [hidden] at seen
      cases seen
    · intro song member stranger path other asks also
      have lets := (consistent song member).resolve_left stranger
      rw [shows_iff path stranger, shows_iff other stranger]
      constructor
      · rintro ⟨_, _, one⟩
        exact ⟨member, also, (lets.lets also).mpr ((lets.lets asks).mp one)⟩
      · rintro ⟨_, _, one⟩
        exact ⟨member, asks, (lets.lets asks).mpr ((lets.lets also).mp one)⟩

/-! Two songs: one is ready and flagged, the other is ready and to be seen. -/

/-- Nothing binds the two names. -/
def plainWorld : ReadWorld where
  validateUUID := none
  songTag := false
  toLowerCase text := text
  ilike text like := text == like
  arrange _ rows := rows
  arranged _ rows := List.Perm.refl rows
  manifest _ := none

def flaggedReady : Song :=
  { Song.uploaded "s1" "artist" "Dawn" with status := .ready, flagged := true }

def unflaggedReady : Song := { Song.uploaded "s2" "artist" "Dusk" with status := .ready }

def twoSongs : SongDatabase where
  songs := [flaggedReady, unflaggedReady]
  songTags := []
  tags := []
  artists := []
  distinct := by decide

/-- The anonymous caller is shown the flagged song among the popular ones, and the other
one by its embed but not by its view. -/
theorem publicReads_disagree :
    readPath plainWorld twoSongs none .getPopularSongs 1 20 = .ok [flaggedReady, unflaggedReady] ∧
      readPath plainWorld twoSongs none (.getSongEmbed "s2") 1 20 = .ok [unflaggedReady] ∧
      readPath plainWorld twoSongs none (.getSongView "s2") 1 20 =
        .error (.plain "validateUUID is not defined") ∧
      ¬PublicVisibility plainWorld twoSongs none := by
  have popular : readPath plainWorld twoSongs none .getPopularSongs 1 20 =
      .ok [flaggedReady, unflaggedReady] := rfl
  refine ⟨popular, rfl, rfl, ?_⟩
  intro visibility
  obtain ⟨requester, present, _⟩ := visibility.hides .getPopularSongs flaggedReady
    ⟨1, 20, _, popular, List.mem_cons_self⟩ rfl
  cases present

end AudioBlock.Catalog
