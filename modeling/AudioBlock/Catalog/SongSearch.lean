/-
What a search of songs finds, and in which order.

The trimmed query is put into the patterns of `ILIKE` as it stands.  The score is that of
the first matching case, and the cases of the title come before those of the artist.  Rows
of one score, similarity and play count come in an order that the database chooses.
-/
import AudioBlock.Catalog.Visibility
import AudioBlock.Foundation.LikePattern
import Mathlib.Data.Prod.Lex

namespace AudioBlock.Catalog.SongSearch

open AudioBlock.Foundation AudioBlock.Songs

structure SearchDatabase extends SongDatabase where
  playCount : String → Nat
  distinctArtists : (artists.map Artist.id).Nodup

/-- The text functions of the database; `similarity` is that of `pg_trgm`. -/
structure TextOperators (σ : Type) where
  folding : CaseFold
  similarity : List Char → List Char → σ

section Search

variable {σ : Type} (operators : TextOperators σ) (db : SearchDatabase)

def user (song : Song) : Option Artist :=
  findRow Artist.id song.artistId db.artists

def artistName (song : Song) : Option String := (user db song).bind Artist.name

def artistUsername (song : Song) : Option String := (user db song).bind Artist.username

def ilike (column : Option String) (pattern : List Char) : Bool :=
  column.any fun text => operators.folding.ilike text.toList pattern

def relevance (trimmed : List Char) (song : Song) : Nat :=
  let like := anywhere trimmed
  let exact := trimmed
  let begins := trimmed ++ ['%']
  if ilike operators (some song.title) exact then 100
  else if ilike operators (some song.title) begins then 70
  else if ilike operators (some song.title) like then 40
  else if ilike operators (artistName db song) exact then 90
  else if ilike operators (artistName db song) begins then 60
  else if ilike operators (artistName db song) like then 30
  else if ilike operators (artistUsername db song) exact then 85
  else if ilike operators (artistUsername db song) begins then 55
  else if ilike operators (artistUsername db song) like then 25
  else if ilike operators song.genre like then 15
  else 10

variable [LinearOrder σ]

/-- `GREATEST` leaves a missing name out. -/
def greatestSimilarity (trimmed : List Char) (song : Song) : σ :=
  let title := operators.similarity song.title.toList trimmed
  (artistName db song).elim title fun name =>
    max title (operators.similarity name.toList trimmed)

def orderKey (trimmed : List Char) (song : Song) : ℕ ×ₗ (σ ×ₗ ℕ) :=
  toLex (relevance operators db trimmed song,
    toLex (greatestSimilarity operators db trimmed song, db.playCount song.id))

/-- The worlds in which the database has these operators and sorts the rows as asked. -/
structure Searches (world : ReadWorld) : Prop where
  ilike : ∀ text pattern,
    world.ilike text pattern = operators.folding.ilike text.toList pattern.toList
  ordered : ∀ query rows, (world.arrange (.searchSongs query) rows).Pairwise fun earlier later =>
    orderKey operators db (trim query.toList) later ≤
      orderKey operators db (trim query.toList) earlier

end Search

section Law

variable (folding : CaseFold) (db : SearchDatabase) (query : List Char)

def columns (song : Song) : List (Option String) :=
  [some song.title, song.genre, song.composers, song.description, artistName db song,
    artistUsername db song]

def Holds (related : List Char → List Char → Prop) (column : Option String) : Prop :=
  ∃ text ∈ column, related (folding.fold query) (folding.fold text.toList)

instance (related : List Char → List Char → Prop) [DecidableRel related] (column : Option String) :
    Decidable (Holds folding query related column) :=
  decidable_of_iff (column.any fun text =>
    decide (related (folding.fold query) (folding.fold text.toList)))
    (by simp [Holds, Option.any_eq_true])

def Exact (song : Song) : Prop :=
  Holds folding query (· = ·) (some song.title) ∨ Holds folding query (· = ·) (artistName db song)

/-- No title, name or username is the query or begins with it. -/
def OnlyContains (song : Song) : Prop :=
  ∀ column ∈ [some song.title, artistName db song, artistUsername db song],
    ¬Holds folding query (· <+: ·) column

def TitleContains (song : Song) : Prop :=
  ¬Holds folding query (· <+: ·) (some song.title) ∧
    Holds folding query (· <:+: ·) (some song.title)

end Law

/-- What a search should answer: its pages are the slices of one listing. -/
structure Found (folding : CaseFold) (db : SearchDatabase) (world : ReadWorld) (query : String)
    (listing : List Song) : Prop where
  pages : ∀ page limit, searchSongs world db.toSongDatabase query page limit =
    paged listing (max 1 page) (min (max 1 limit) 100)
  nodup : listing.Nodup
  mem : ∀ song, song ∈ listing ↔ song ∈ db.songs ∧ publicSong song = true ∧
    ∃ column ∈ columns db song, Holds folding (trim query.toList) (· <:+: ·) column
  ranked : listing.Pairwise fun earlier later =>
    ¬(OnlyContains folding db (trim query.toList) earlier ∧
      Exact folding db (trim query.toList) later)

section Search

variable {σ : Type} {operators : TextOperators σ} {db : SearchDatabase}
  {world : ReadWorld} {query : String}

/-! ### The rows that are found -/

variable {song : Song}

theorem user_any {keep : Artist → Bool} :
    (db.artists.any fun artist => decide (artist.id = song.artistId) && keep artist) =
      (user db song).any keep := by
  rw [Bool.eq_iff_iff, List.any_eq_true, Option.any_eq_true]
  constructor
  · intro ⟨artist, member, both⟩
    obtain ⟨same, kept⟩ := Bool.and_eq_true_iff.mp both
    have found := findRow_of_mem db.distinctArtists member
    rw [of_decide_eq_true same] at found
    exact ⟨artist, found, kept⟩
  · intro ⟨artist, found, kept⟩
    obtain ⟨member, same⟩ := findRow_mem found
    exact ⟨artist, member, Bool.and_eq_true_iff.mpr ⟨decide_eq_true same, kept⟩⟩

variable (operators db query) in
def rowsFound : List Song :=
  db.songs.filter fun song => publicSong song &&
    decide (∃ column ∈ columns db song, ilike operators column (anywhere (trim query.toList)) = true)

theorem paged_ext {one other : List Song}
    (same : ∀ page limit, paged one (max 1 page) (min (max 1 limit) 100) =
      paged other (max 1 page) (min (max 1 limit) 100)) : one = other := by
  have slice (rows : List Song) (index : Nat) :
      paged rows (max 1 (index + 1 : Int)) (min (max 1 1) 100) = .ok rows[index]?.toList := by
    have single : min (max 1 1) (100 : Int) = 1 := by decide
    have skipped : (max 1 (index + 1 : Int) - 1) * 1 = index := by omega
    unfold paged
    rw [single, skipped, if_neg (by omega), Int.toNat_natCast, ← List.head?_drop]
    exact congrArg Except.ok List.take_one
  refine List.ext_getElem? fun index => ?_
  have row := same (index + 1) 1
  rw [slice, slice] at row
  simpa using congrArg List.head? (Except.ok.inj row)

theorem mem_rowsFound :
    song ∈ rowsFound operators db query ↔ song ∈ db.songs ∧ publicSong song = true ∧
      ∃ column ∈ columns db song,
        ilike operators column (anywhere (trim query.toList)) = true := by
  unfold rowsFound
  rw [List.mem_filter, Bool.and_eq_true_iff, decide_eq_true_iff]

theorem ilike_iff {related : List Char → List Char → Prop} {trimmed pattern : List Char}
    {column : Option String}
    (same : ∀ text, operators.folding.ilike text pattern = true ↔
      related (operators.folding.fold trimmed) (operators.folding.fold text)) :
    ilike operators column pattern = true ↔ Holds operators.folding trimmed related column := by
  unfold ilike Holds
  rw [Option.any_eq_true]
  simp [same]

/-! ### The score -/

section Score

variable {trimmed : List Char} {song : Song}

variable {column : Option String}

theorem exact_holds (plain : Plain trimmed) :
    ilike operators column trimmed = true ↔ Holds operators.folding trimmed (· = ·) column :=
  ilike_iff fun text => by rw [operators.folding.ilike_exact plain, eq_comm]

theorem begins_holds (plain : Plain trimmed) :
    ilike operators column (trimmed ++ ['%']) = true ↔
      Holds operators.folding trimmed (· <+: ·) column :=
  ilike_iff fun _ => operators.folding.ilike_begins plain

theorem contains_holds (plain : Plain trimmed) :
    ilike operators column (anywhere trimmed) = true ↔
      Holds operators.folding trimmed (· <:+: ·) column :=
  ilike_iff fun _ => operators.folding.ilike_anywhere plain

theorem Holds.begins {folding : CaseFold} (holds : Holds folding trimmed (· = ·) column) :
    Holds folding trimmed (· <+: ·) column := by
  obtain ⟨text, present, same⟩ := holds
  exact ⟨text, present, same ▸ List.prefix_rfl⟩

theorem OnlyContains.not_exact {folding : CaseFold} (only : OnlyContains folding db trimmed song) :
    ¬Exact folding db trimmed song := by
  intro exact
  rcases exact with title | name
  · exact only _ (by simp) title.begins
  · exact only (artistName db song) (by simp) name.begins

theorem relevance_onlyContains (plain : Plain trimmed)
    (only : OnlyContains operators.folding db trimmed song) :
    relevance operators db trimmed song ≤ 40 ∧
      (relevance operators db trimmed song = 40 ↔
        TitleContains operators.folding trimmed song) := by
  have noBegin : ∀ column ∈ [some song.title, artistName db song, artistUsername db song],
      ilike operators column (trimmed ++ ['%']) = false := fun column member =>
    Bool.eq_false_iff.mpr fun begins => only column member ((begins_holds plain).mp begins)
  have noExact : ∀ column ∈ [some song.title, artistName db song, artistUsername db song],
      ilike operators column trimmed = false := fun column member =>
    Bool.eq_false_iff.mpr fun exact => only column member ((exact_holds plain).mp exact).begins
  simp only [List.forall_mem_cons] at noBegin noExact
  obtain ⟨title, name, username, _⟩ := noBegin
  obtain ⟨title', name', username', _⟩ := noExact
  have only := only (some song.title) List.mem_cons_self
  unfold relevance TitleContains
  rw [← contains_holds plain]
  simp only [title, name, username, title', name', username', only]
  split_ifs <;> simp_all

theorem relevance_exact (plain : Plain trimmed)
    (exact : Exact operators.folding db trimmed song) :
    40 ≤ relevance operators db trimmed song ∧
      (relevance operators db trimmed song = 40 ↔
        TitleContains operators.folding trimmed song) := by
  unfold Exact at exact
  have begins : Holds operators.folding trimmed (· = ·) (some song.title) →
    Holds operators.folding trimmed (· <+: ·) (some song.title) := Holds.begins
  unfold relevance TitleContains
  rw [← contains_holds plain, ← begins_holds plain]
  rw [← begins_holds plain, ← exact_holds plain] at begins
  rw [← exact_holds plain, ← exact_holds plain] at exact
  simp only
  split_ifs <;> simp_all

end Score

/-! ### The listing -/

variable [LinearOrder σ]

variable (operators db query) in
def Lawful : Prop :=
  ∀ world, Searches operators db world → ∃ listing, Found operators.folding db world query listing

variable (operators db) in
def tie (trimmed : List Char) (song : Song) : σ ×ₗ ℕ :=
  toLex (greatestSimilarity operators db trimmed song, db.playCount song.id)

variable (operators db) in
/-- A song whose artist is the query and whose title only contains it gets the score of
the titles that only contain it. -/
def Settled (trimmed : List Char) : Prop :=
  ∀ exact ∈ db.songs, ∀ other ∈ db.songs, publicSong exact = true → publicSong other = true →
    Exact operators.folding db trimmed exact → TitleContains operators.folding trimmed exact →
      OnlyContains operators.folding db trimmed other →
        TitleContains operators.folding trimmed other →
          tie operators db trimmed other < tie operators db trimmed exact

theorem searched_iff (searches : Searches operators db world) {trimmed : List Char} :
    searched world db.toSongDatabase trimmed song = true ↔
      ∃ column ∈ columns db song, ilike operators column (anywhere trimmed) = true := by
  have pattern : ("%" ++ String.ofList trimmed ++ "%").toList = anywhere trimmed := by
    simp [anywhere]
  unfold searched
  simp only [searches.ilike, pattern, user_any]
  unfold columns ilike artistName artistUsername
  cases user db song with
  | none => simp [or_assoc]
  | some artist => simp [or_assoc]

theorem searchSongs_pages (searches : Searches operators db world)
    (long : 2 ≤ utf16Length (trim query.toList)) (page limit : Int) :
    searchSongs world db.toSongDatabase query page limit =
      paged (world.arrange (.searchSongs query) (rowsFound operators db query))
        (max 1 page) (min (max 1 limit) 100) := by
  have rows : rowsFound operators db query = db.songs.filter fun song =>
      publicSong song && searched world db.toSongDatabase (trim query.toList) song := by
    refine List.filter_congr fun song _ => ?_
    rw [Bool.eq_iff_iff]
    simp [searched_iff searches]
  unfold searchSongs
  rw [if_neg (by omega), rows]

/-- The listing of a search is the rows found, in the order of the world. -/
theorem Found.listing (searches : Searches operators db world)
    (long : 2 ≤ utf16Length (trim query.toList)) {folding : CaseFold} {listing : List Song}
    (found : Found folding db world query listing) :
    listing = world.arrange (.searchSongs query) (rowsFound operators db query) := by
  refine paged_ext fun page limit => ?_
  rw [← found.pages, searchSongs_pages searches long]

theorem orderKey_lt_iff {trimmed : List Char} (plain : Plain trimmed) {exact other : Song}
    (first : Exact operators.folding db trimmed exact)
    (only : OnlyContains operators.folding db trimmed other) :
    orderKey operators db trimmed other < orderKey operators db trimmed exact ↔
      (TitleContains operators.folding trimmed exact →
        TitleContains operators.folding trimmed other →
          tie operators db trimmed other < tie operators db trimmed exact) := by
  obtain ⟨high, contested⟩ := relevance_exact plain first
  obtain ⟨low, rival⟩ := relevance_onlyContains plain only
  unfold orderKey
  rw [Prod.Lex.toLex_lt_toLex, ← contested, ← rival]
  constructor
  · intro before same also
    rcases before with less | ⟨_, less⟩
    · omega
    · exact less
  · intro settled
    by_cases less : relevance operators db trimmed other < relevance operators db trimmed exact
    · exact Or.inl less
    · exact Or.inr ⟨by omega, settled (by omega) (by omega)⟩

theorem Settled.lawful (plain : Plain (trim query.toList))
    (long : 2 ≤ utf16Length (trim query.toList))
    (settled : Settled operators db (trim query.toList)) : Lawful operators db query := by
  intro world searches
  have shuffled := world.arranged (.searchSongs query) (rowsFound operators db query)
  refine ⟨_, searchSongs_pages searches long, ?_, ?_, ?_⟩
  · exact shuffled.nodup_iff.mpr ((db.distinct.of_map Song.id).filter _)
  · intro song
    simp only [shuffled.mem_iff, mem_rowsFound, contains_holds plain]
  · refine (searches.ordered query _).imp_of_mem fun {earlier later} one two before both => ?_
    obtain ⟨member, visible, _⟩ := mem_rowsFound.mp (shuffled.mem_iff.mp one)
    obtain ⟨member', visible', _⟩ := mem_rowsFound.mp (shuffled.mem_iff.mp two)
    obtain ⟨only, exact⟩ := both
    refine absurd ((orderKey_lt_iff plain exact only).mpr ?_) (not_lt.mpr before)
    intro contested rival
    exact settled later member' earlier member visible' visible exact contested only rival

/-! ### A world that lists one song as early as it may -/

variable (operators db) in
def notAfter (trimmed : List Char) (earlier later : Song) : Bool :=
  decide (orderKey operators db trimmed later ≤ orderKey operators db trimmed earlier)

variable (operators db) in
def eagerOrder (front : Song) : ReadPath → List Song → List Song
  | .searchSongs query, rows =>
      ((rows.filter fun song => decide (song = front)) ++
        rows.filter fun song => !decide (song = front)).mergeSort
        (notAfter operators db (trim query.toList))
  | _, rows => rows

variable (operators db) in
def eagerWorld (front : Song) : ReadWorld where
  validateUUID := none
  songTag := false
  toLowerCase text := text
  ilike text pattern := operators.folding.ilike text.toList pattern.toList
  arrange := eagerOrder operators db front
  arranged path rows := by
    cases path with
    | searchSongs query =>
        exact (List.mergeSort_perm _ _).trans (List.filter_append_perm _ rows)
    | _ => exact List.Perm.refl rows
  manifest _ := none

theorem notAfter_trans {trimmed : List Char} (one two three : Song)
    (first : notAfter operators db trimmed one two = true)
    (second : notAfter operators db trimmed two three = true) :
    notAfter operators db trimmed one three = true :=
  decide_eq_true ((of_decide_eq_true second).trans (of_decide_eq_true first))

theorem notAfter_total {trimmed : List Char} (one two : Song) :
    (notAfter operators db trimmed one two || notAfter operators db trimmed two one) = true := by
  unfold notAfter
  simpa using le_total _ _

theorem eagerWorld_searches (front : Song) :
    Searches operators db (eagerWorld operators db front) where
  ilike _ _ := rfl
  ordered query rows := by
    have sorted := List.pairwise_mergeSort
      (@notAfter_trans _ operators db _ (trim query.toList)) notAfter_total
    exact (sorted _).imp of_decide_eq_true

theorem eager_pair {front : Song} {rows : List Song} (one : front ∈ rows) (two : song ∈ rows)
    (different : song ≠ front) :
    [front, song].Sublist ((rows.filter fun song => decide (song = front)) ++
      rows.filter fun song => !decide (song = front)) := by
  have early : [front].Sublist (rows.filter fun song => decide (song = front)) :=
    List.singleton_sublist.mpr (by simpa using one)
  refine early.append (List.singleton_sublist.mpr ?_)
  simpa [different] using two

theorem Lawful.settled (plain : Plain (trim query.toList))
    (long : 2 ≤ utf16Length (trim query.toList)) (lawful : Lawful operators db query) :
    Settled operators db (trim query.toList) := by
  intro exact member other member' visible visible' first contested only rival
  by_contra behind
  have searches : Searches operators db (eagerWorld operators db other) :=
    eagerWorld_searches other
  obtain ⟨listing, found⟩ := lawful _ searches
  have late : notAfter operators db (trim query.toList) other exact = true := by
    refine decide_eq_true (not_lt.mp fun before => behind ?_)
    exact (orderKey_lt_iff plain first only).mp before contested rival
  have row {song : Song} (present : song ∈ db.songs) (shown : publicSong song = true)
      (contains : TitleContains operators.folding (trim query.toList) song) :
      song ∈ rowsFound operators db query := by
    refine mem_rowsFound.mpr ⟨present, shown, some song.title, List.mem_cons_self, ?_⟩
    exact (contains_holds plain).mpr contains.2
  have different : exact ≠ other := fun same => only.not_exact (same ▸ first)
  have pair := List.pair_sublist_mergeSort notAfter_trans notAfter_total late
    (eager_pair (row member' visible' rival) (row member visible contested) different)
  have ranked := found.ranked
  rw [found.listing searches long] at ranked
  exact ranked.forall_sublist pair ⟨only, first⟩

def oneSong (title : String) : SearchDatabase where
  songs := [{ Song.uploaded "s1" "a1" title with status := .ready }]
  songTags := []
  tags := []
  artists := []
  distinct := List.nodup_singleton _
  playCount _ := 0
  distinctArtists := List.nodup_nil

/-- A single song is enough to tell the pattern from the search that it is meant to be. -/
theorem oneSong_lawful {title : String} (long : 2 ≤ utf16Length (trim query.toList))
    (lawful : Lawful operators (oneSong title) query) :
    operators.folding.ilike title.toList (anywhere (trim query.toList)) = true ↔
      operators.folding.fold (trim query.toList) <:+: operators.folding.fold title.toList := by
  let song : Song := { Song.uploaded "s1" "a1" title with status := .ready }
  have searches : Searches operators (oneSong title) (eagerWorld operators (oneSong title) song) :=
    eagerWorld_searches song
  obtain ⟨listing, found⟩ := lawful _ searches
  have listed := found.mem song
  rw [found.listing searches long, (ReadWorld.arranged _ _ _).mem_iff, mem_rowsFound] at listed
  simpa [song, oneSong, publicSong, columns, artistName, artistUsername, user, findRow, ilike,
    Holds, Song.uploaded] using listed

theorem not_lawful (long : 2 ≤ utf16Length (trim query.toList))
    (wild : ¬Plain (trim query.toList)) : ∃ db, ¬Lawful operators db query := by
  by_contra every
  refine wild (operators.folding.ilike_contains_iff.mp fun text => ?_)
  have lawful := not_not.mp (not_exists.mp every (oneSong (String.ofList text)))
  simpa using oneSong_lawful long lawful

/-- The pattern of a query without wildcards finds the right songs. -/
theorem searchSongs_lawful (long : 2 ≤ utf16Length (trim query.toList)) :
    (Plain (trim query.toList) →
      ∀ db, Lawful operators db query ↔ Settled operators db (trim query.toList)) ∧
    (¬Plain (trim query.toList) → ∃ db, ¬Lawful operators db query) := by
  constructor
  · intro plain db
    exact ⟨Lawful.settled plain long, Settled.lawful plain long⟩
  · exact not_lawful long

end Search

def asciiFold : CaseFold where
  lower := Char.toLower
  wild char wild := by
    unfold Char.toLower Wild at *
    by_cases upper : char.val ≥ 'A'.val ∧ char.val ≤ 'Z'.val
    · rw [dif_pos upper] at wild ⊢
      have code : 65 ≤ char.toNat ∧ char.toNat ≤ 90 := upper
      simp [Char.ext_iff, ← UInt32.toNat_inj] at wild
      omega
    · rw [dif_neg upper]

/-- The similarities, in hundredths, of the texts below to `night`; other characters than
letters do not count. -/
def hundredths : TextOperators ℕ where
  folding := asciiFold
  similarity text _ :=
    if text = "First Night".toList then 50 else if text = "Moon".toList then 0 else 100

theorem searchSongs_lawful_plainTitle :
    Lawful hundredths (oneSong "Good Night") "night" ∧ ∃ db, ¬Lawful hundredths db "100%" := by
  constructor
  · refine ((searchSongs_lawful (by decide)).1 (by decide) _).mpr ?_
    intro exact member other same _ _ first _ only
    rw [List.mem_singleton.mp member] at first
    rw [List.mem_singleton.mp same] at only
    exact absurd first only.not_exact
  · exact (searchSongs_lawful (by decide)).2 (by decide)

def firstNight : Song := { Song.uploaded "s1" "a1" "First Night" with status := .ready }

def otherNight : Song := { Song.uploaded "s2" "a2" "(Night)" with status := .ready }

def nightSongs : SearchDatabase where
  songs := [firstNight, otherNight]
  songTags := []
  tags := []
  artists := [⟨"a1", some "Night", none⟩, ⟨"a2", some "Moon", none⟩]
  distinct := by decide
  playCount songId := if songId = "s2" then 10 else 0
  distinctArtists := by decide

theorem searchSongs_misses :
    ¬Lawful hundredths (oneSong "1000") "100%" ∧ ¬Lawful hundredths nightSongs "night" := by
  constructor
  · intro lawful
    have found := (oneSong_lawful (by decide) lawful).mp (by decide)
    exact absurd found (by decide)
  · intro lawful
    have settled := lawful.settled (by decide) (by decide)
    have before := settled firstNight List.mem_cons_self otherNight
      (List.mem_cons_of_mem _ List.mem_cons_self) rfl rfl
      (Or.inr (by decide)) ⟨by decide, by decide⟩ (by unfold OnlyContains; decide)
      ⟨by decide, by decide⟩
    exact absurd before (by decide)

end AudioBlock.Catalog.SongSearch
