/-
`addTagsToSong` under any order of the turns of its calls.

A call reads the links of the song and the tags of its names, saves each tag that is missing, checks
the limit with what it has read, and saves the links.  Names and slugs of tags are unique, and so
are links.  Nothing is undone when a call is rejected.
-/
import AudioBlock.Foundation.CallTable
import AudioBlock.Foundation.Machine
import AudioBlock.Foundation.Text
import Mathlib.Data.List.Chain

namespace AudioBlock.Catalog.Tagging

open AudioBlock.Foundation

abbrev Name := List Char

structure Tag where
  id : String
  name : Name
  slug : Name
  category : Option String
deriving DecidableEq, Repr

structure SongTag where
  songId : String
  tagId : String
deriving DecidableEq, Repr

structure TagDatabase where
  songs : List String
  tags : List Tag
  links : List SongTag
deriving DecidableEq, Repr

def MAX_TAGS_PER_SONG : Nat := 10

/-! ### Slugs -/

def isSlugChar (char : Char) : Bool :=
  (decide ('a' ≤ char) && decide (char ≤ 'z')) || (decide ('0' ≤ char) && decide (char ≤ '9'))

/-- `replace(/[^a-z0-9]+/g, '-')`. -/
def dashed : Name → Name
  | [] => []
  | char :: rest =>
      if isSlugChar char then char :: dashed rest
      else
        match dashed rest with
        | '-' :: more => '-' :: more
        | more => '-' :: more

/-- `replace(/^-+|-+$/g, '')`. -/
def undashed (text : Name) : Name :=
  ((text.dropWhile (· == '-')).reverse.dropWhile (· == '-')).reverse

variable (toLowerCase : Name → Name)

def slugify (name : Name) : Name := undashed (dashed (trim (toLowerCase name)))

def normalizedNames (names : List Name) : List Name :=
  ((names.map fun name => trim (toLowerCase name)).filter fun name => !name.isEmpty).eraseDups

/-! ### Calls -/

inductive TagError
  | songNotFound
  | nameRequired
  | tooManyTags
  | nameTaken
  | slugTaken
  | linkTaken
  | queryFailed
deriving DecidableEq, Repr

/-- What a call has read and made before it saves a tag. -/
structure TagDraft where
  songId : String
  category : Option String
  existingTagIds : List String
  existingTags : List Tag
  tags : List Tag
deriving DecidableEq, Repr

/-- Where a call stands: before its next query, or at its end. -/
inductive TagCall
  | findSong (songId : String) (names : List Name) (category : Option String)
  | findLinks (songId : String) (names : List Name) (category : Option String)
  | findTags (songId : String) (names : List Name) (category : Option String)
      (existingTagIds : List String)
  | saveTag (draft : TagDraft) (name : Name) (left : List Name)
  | saveLinks (songId : String) (newTagIds : List String) (tags : List Tag)
  | returned (tags : List Tag)
  | rejected (error : TagError)
deriving DecidableEq, Repr

namespace TagDraft

def newTagIds (draft : TagDraft) : List String :=
  (draft.tags.map Tag.id).filter fun id => id ∉ draft.existingTagIds

/-- The limit, once every name has its tag. -/
def checked (draft : TagDraft) : TagCall :=
  if MAX_TAGS_PER_SONG < draft.existingTagIds.length + draft.newTagIds.length then
    .rejected .tooManyTags
  else if draft.newTagIds = [] then .returned draft.tags
  else .saveLinks draft.songId draft.newTagIds draft.tags

def tagOf (draft : TagDraft) (name : Name) : Option Tag :=
  draft.existingTags.find? fun tag => tag.name = name

/-- The loop over the names, up to the next tag that has to be saved. -/
def next (draft : TagDraft) : List Name → TagCall
  | [] => draft.checked
  | name :: left =>
      match draft.tagOf name with
      | some tag => next { draft with tags := draft.tags ++ [tag] } left
      | none => .saveTag draft name left

end TagDraft

structure TagState where
  db : TagDatabase
  calls : List TagCall
  savedTags : List (Nat × Tag)
  savedLinks : List (Nat × SongTag)
deriving DecidableEq, Repr

inductive TagLabel
  | addTagsToSong (songId : String) (names : List Name) (category : Option String)
  | answer (call : Nat) (id : String) (fails : Bool)
deriving DecidableEq, Repr

namespace TagState

def linksOf (db : TagDatabase) (songId : String) : List SongTag :=
  db.links.filter fun link => link.songId = songId

def place (state : TagState) (index : Nat) (call : TagCall) : TagState :=
  { state with calls := state.calls.set index call }

def created (draft : TagDraft) (id : String) (name : Name) : Tag :=
  { id, name, slug := slugify toLowerCase name, category := draft.category }

def saveTag (state : TagState) (index : Nat) (id : String) (draft : TagDraft) (name : Name)
    (left : List Name) : TagState :=
  let tag := created toLowerCase draft id name
  if state.db.tags.any (fun other => other.name = tag.name) then
    state.place index (.rejected .nameTaken)
  else if state.db.tags.any (fun other => other.slug = tag.slug) then
    state.place index (.rejected .slugTaken)
  else
    { state.place index ({ draft with tags := draft.tags ++ [tag] }.next left) with
      db := { state.db with tags := state.db.tags ++ [tag] }
      savedTags := state.savedTags ++ [(index, tag)] }

def saveLinks (state : TagState) (index : Nat) (songId : String) (newTagIds : List String)
    (tags : List Tag) : TagState :=
  let links := newTagIds.map fun tagId => { songId, tagId : SongTag }
  if links.any (fun link => link ∈ state.db.links) then
    state.place index (.rejected .linkTaken)
  else
    { state.place index (.returned tags) with
      db := { state.db with links := state.db.links ++ links }
      savedLinks := state.savedLinks ++ links.map fun link => (index, link) }

def answer (state : TagState) (index : Nat) (id : String) : TagCall → Option TagState
  | .findSong songId names category =>
      if songId ∈ state.db.songs then
        if normalizedNames toLowerCase names = [] then
          some (state.place index (.rejected .nameRequired))
        else
          some (state.place index
            (.findLinks songId (normalizedNames toLowerCase names) category))
      else some (state.place index (.rejected .songNotFound))
  | .findLinks songId names category =>
      some (state.place index (.findTags songId names category
        ((linksOf state.db songId).map SongTag.tagId).eraseDups))
  | .findTags songId names category existingTagIds =>
      some (state.place index ({ songId, category, existingTagIds, tags := []
                                 existingTags := state.db.tags.filter fun tag =>
                                   tag.name ∈ names : TagDraft }.next names))
  | .saveTag draft name left => some (state.saveTag toLowerCase index id draft name left)
  | .saveLinks songId newTagIds tags => some (state.saveLinks index songId newTagIds tags)
  | .returned _ => none
  | .rejected _ => none

def step (state : TagState) : TagLabel → Option TagState
  | .addTagsToSong songId names category =>
      some { state with calls := state.calls ++ [.findSong songId names category] }
  | .answer index id fails =>
      match state.calls[index]? with
      | none => none
      | some call =>
          if fails then
            (state.answer toLowerCase index id call).map fun _ =>
              state.place index (.rejected .queryFailed)
          else state.answer toLowerCase index id call

def start (db : TagDatabase) : TagState := { db, calls := [], savedTags := [], savedLinks := [] }

end TagState

def tagMachine (db : TagDatabase) : Machine TagState TagLabel where
  initial state := state = TagState.start db
  step := TagState.step toLowerCase

/-! ### What the claim asks for -/

structure LawfulTagging (db : TagDatabase) (after : TagState) : Prop where
  limit : ∀ songId, (TagState.linksOf after.db songId).length ≤ MAX_TAGS_PER_SONG
  tags : after.db.tags = db.tags ++ after.savedTags.map Prod.snd
  links : after.db.links = db.links ++ after.savedLinks.map Prod.snd
  rejected : ∀ (index : Nat) error, after.calls[index]? = some (.rejected error) →
    (∀ entry ∈ after.savedTags, entry.1 ≠ index) ∧ ∀ entry ∈ after.savedLinks, entry.1 ≠ index
  slugs : ∀ index : Nat, after.calls[index]? ≠ some (.rejected .slugTaken)

/-- The links that the tags so far and those of the names make. -/
def TagDraft.wanted (draft : TagDraft) (names : List Name) : Nat :=
  draft.newTagIds.length + (names.filter fun name =>
    match draft.tagOf name with
    | some tag => tag.id ∉ draft.existingTagIds
    | none => true).length

def TagState.hasSaved (state : TagState) (index : Nat) : Bool :=
  state.savedTags.any fun entry => entry.1 = index

def guarded (state : TagState) : TagLabel → Bool
  | .addTagsToSong _ _ _ => true
  | .answer index _ fails =>
      match state.calls[index]? with
      | some (.saveTag draft name left) =>
          if fails || state.db.tags.any (fun other => other.name = name) then
            !state.hasSaved index
          else
            !state.db.tags.any (fun other => other.slug = slugify toLowerCase name) &&
              decide (draft.existingTagIds.length + draft.wanted left + 1 ≤ MAX_TAGS_PER_SONG)
      | some (.saveLinks songId newTagIds _) =>
          if fails || newTagIds.any (fun tagId => ⟨songId, tagId⟩ ∈ state.db.links) then
            !state.hasSaved index
          else
            decide ((TagState.linksOf state.db songId).length + newTagIds.length ≤
              MAX_TAGS_PER_SONG)
      | _ => true

/-! ### The loop over the names -/

/-- Only these phases follow a saved tag. -/
def TagCall.writes : TagCall → Bool
  | .saveTag _ _ _ => true
  | .saveLinks _ _ _ => true
  | .returned _ => true
  | _ => false

namespace TagDraft

variable (draft : TagDraft)

theorem next_cases (names : List Name) :
    (draft.next names).writes = true ∨ draft.next names = .rejected .tooManyTags := by
  induction names generalizing draft with
  | nil =>
      unfold next checked
      split
      · exact Or.inr rfl
      · split
        · exact Or.inl rfl
        · exact Or.inl rfl
  | cons name left ih =>
      unfold next
      split
      · exact ih _
      · exact Or.inl rfl

theorem newTagIds_with (tag : Tag) :
    ({ draft with tags := draft.tags ++ [tag] } : TagDraft).newTagIds.length =
      draft.newTagIds.length + (if tag.id ∉ draft.existingTagIds then 1 else 0) := by
  unfold newTagIds
  rw [List.map_append, List.filter_append, List.length_append]
  by_cases fresh : tag.id ∉ draft.existingTagIds
  · simp [fresh]
  · simp only [List.map_cons, List.map_nil, fresh, if_false, Nat.add_left_cancel_iff]
    simpa using fresh

theorem next_writes (names : List Name)
    (fits : draft.existingTagIds.length + draft.wanted names ≤ MAX_TAGS_PER_SONG) :
    (draft.next names).writes = true := by
  induction names generalizing draft with
  | nil =>
      unfold next checked
      have within : ¬ MAX_TAGS_PER_SONG < draft.existingTagIds.length + draft.newTagIds.length :=
        Nat.not_lt.mpr fits
      rw [if_neg within]
      split
      · rfl
      · rfl
  | cons name left ih =>
      unfold next
      cases found : draft.tagOf name with
      | none => rfl
      | some tag =>
          apply ih
          have counted := newTagIds_with draft tag
          unfold wanted at fits ⊢
          rw [List.filter_cons] at fits
          simp only [found] at fits
          rw [counted]
          change draft.existingTagIds.length + (draft.newTagIds.length + _ +
            (left.filter fun name => match draft.tagOf name with
              | some tag => decide (tag.id ∉ draft.existingTagIds)
              | none => true).length) ≤ _
          by_cases fresh : tag.id ∉ draft.existingTagIds
          · simp only [fresh, not_false_eq_true, decide_true, if_true, List.length_cons] at fits ⊢
            omega
          · simp only [fresh, decide_false, if_false, Bool.false_eq_true] at fits ⊢
            omega

theorem next_saved (tag : Tag) (left : List Name)
    (fits : draft.existingTagIds.length + draft.wanted left + 1 ≤ MAX_TAGS_PER_SONG) :
    (({ draft with tags := draft.tags ++ [tag] } : TagDraft).next left).writes = true := by
  apply next_writes
  have counted := newTagIds_with draft tag
  unfold wanted at fits ⊢
  rw [counted]
  have one : (if tag.id ∉ draft.existingTagIds then 1 else 0) ≤ 1 := by
    split
    · exact Nat.le_refl 1
    · exact Nat.zero_le 1
  change draft.existingTagIds.length + (draft.newTagIds.length + _ +
    (left.filter fun name => match draft.tagOf name with
      | some tag => decide (tag.id ∉ draft.existingTagIds)
      | none => true).length) ≤ _
  omega

end TagDraft

/-! ### Runs of guarded steps -/

structure Kept (db : TagDatabase) (state : TagState) : Prop where
  tags : state.db.tags = db.tags ++ state.savedTags.map Prod.snd
  links : state.db.links = db.links ++ state.savedLinks.map Prod.snd
  room : ∀ songId, (TagState.linksOf state.db songId).length ≤ MAX_TAGS_PER_SONG
  saver : ∀ entry ∈ state.savedTags, ∃ call, state.calls[entry.1]? = some call ∧
    call.writes = true
  linker : ∀ entry ∈ state.savedLinks, ∃ tags, state.calls[entry.1]? = some (.returned tags)
  slugs : .rejected .slugTaken ∉ state.calls

theorem read_placed {calls : List TagCall} {index : Nat} {call : TagCall}
    (present : calls[index]? = some call) (next : TagCall) (other : Nat) :
    (calls.set index next)[other]? = if other = index then some next else calls[other]? := by
  obtain ⟨inside, _same⟩ := List.getElem?_eq_some_iff.mp present
  by_cases same : other = index
  · rw [if_pos same, same, List.getElem?_set_self inside]
  · rw [if_neg same, List.getElem?_set_ne (Ne.symm same)]

namespace Kept

variable {db : TagDatabase} {state : TagState} {index : Nat} {call next : TagCall}

section

variable (kept : Kept db state) (present : state.calls[index]? = some call)
include kept present

theorem saver_placed (writes : state.hasSaved index = true → next.writes = true) :
    ∀ entry ∈ state.savedTags, ∃ other, (state.calls.set index next)[entry.1]? = some other ∧
      other.writes = true := by
  intro entry member
  obtain ⟨other, stands, writing⟩ := kept.saver entry member
  rw [read_placed present]
  by_cases here : entry.1 = index
  · have saved : state.hasSaved index = true :=
      List.any_eq_true.mpr ⟨entry, member, decide_eq_true here⟩
    exact ⟨next, if_pos here, writes saved⟩
  · exact ⟨other, (if_neg here).trans stands, writing⟩

theorem linker_placed (open_ : ∀ tags, call ≠ .returned tags) :
    ∀ entry ∈ state.savedLinks, ∃ tags,
      (state.calls.set index next)[entry.1]? = some (.returned tags) := by
  intro entry member
  obtain ⟨tags, stands⟩ := kept.linker entry member
  rw [read_placed present]
  by_cases here : entry.1 = index
  · rw [here, present] at stands
    exact absurd (Option.some.inj stands) (open_ tags)
  · exact ⟨tags, (if_neg here).trans stands⟩

theorem slugs_placed (other : next ≠ .rejected .slugTaken) :
    .rejected .slugTaken ∉ state.calls.set index next := by
  intro member
  cases (mem_placed present next _).mp member with
  | inl here => exact other here.symm
  | inr elsewhere => exact kept.slugs ((mem_of_present present _).mpr (Or.inr elsewhere))

theorem place (open_ : ∀ tags, call ≠ .returned tags)
    (writes : state.hasSaved index = true → next.writes = true)
    (other : next ≠ .rejected .slugTaken) : Kept db (state.place index next) where
  tags := kept.tags
  links := kept.links
  room := kept.room
  saver := kept.saver_placed present writes
  linker := kept.linker_placed present open_
  slugs := kept.slugs_placed present other

theorem unsaved (reading : call.writes = false) : state.hasSaved index ≠ true := by
  intro saved
  obtain ⟨entry, member, here⟩ := List.any_eq_true.mp saved
  obtain ⟨stored, stands, writing⟩ := kept.saver entry member
  rw [of_decide_eq_true here, present] at stands
  rw [← Option.some.inj stands, reading] at writing
  cases writing

theorem read (reading : call.writes = false) (other : next ≠ .rejected .slugTaken) :
    Kept db (state.place index next) := by
  refine kept.place present ?_ (fun saved => absurd saved (kept.unsaved present reading)) other
  intro tags same
  rw [same] at reading
  cases reading

end

theorem next_not_slugTaken (draft : TagDraft) (names : List Name) :
    draft.next names ≠ .rejected .slugTaken := by
  intro same
  cases draft.next_cases names with
  | inl writes =>
      rw [same] at writes
      cases writes
  | inr many =>
      rw [many] at same
      cases same

variable {id : String} {after : TagState}

theorem saveTag (kept : Kept db state) {draft : TagDraft} {name : Name} {left : List Name}
    (present : state.calls[index]? = some (.saveTag draft name left))
    (guard : guarded toLowerCase state (.answer index id false) = true) :
    Kept db (state.saveTag toLowerCase index id draft name left) := by
  have open_ : ∀ tags, TagCall.saveTag draft name left ≠ .returned tags :=
    fun _tags same => by cases same
  unfold guarded at guard
  simp only [present, Bool.false_or] at guard
  unfold TagState.saveTag TagState.created
  dsimp only
  by_cases taken : state.db.tags.any (fun other => other.name = name) = true
  · rw [if_pos taken] at guard ⊢
    refine kept.place present open_ ?_ (fun same => by cases same)
    intro saved
    rw [saved] at guard
    cases guard
  · rw [if_neg taken] at guard ⊢
    obtain ⟨free, fits⟩ := Bool.and_eq_true_iff.mp guard
    rw [Bool.not_eq_true'] at free
    rw [if_neg (Bool.eq_false_iff.mp free)]
    have writes := draft.next_saved
      { id, name, slug := slugify toLowerCase name, category := draft.category } left
      (of_decide_eq_true fits)
    refine ⟨?_, kept.links, kept.room, ?_, kept.linker_placed present open_,
      kept.slugs_placed present (next_not_slugTaken _ left)⟩
    · change state.db.tags ++ _ = db.tags ++ (state.savedTags ++ _).map Prod.snd
      rw [kept.tags, List.map_append, List.append_assoc]
      rfl
    · intro entry member
      cases List.mem_append.mp member with
      | inl earlier => exact kept.saver_placed present (fun _saved => writes) entry earlier
      | inr own =>
          rw [List.mem_singleton.mp own]
          exact ⟨_, (read_placed present _ index).trans (if_pos rfl), writes⟩

theorem linksOf_append (database : TagDatabase) (songId other : String) (ids : List String) :
    (TagState.linksOf { database with
        links := database.links ++ ids.map fun tagId => { songId, tagId : SongTag } } other).length =
      (TagState.linksOf database other).length + (if songId = other then ids.length else 0) := by
  unfold TagState.linksOf
  rw [List.filter_append, List.length_append, List.filter_map, List.length_map]
  by_cases same : songId = other
  · simp [same, Function.comp_def]
  · simp [same, Function.comp_def]

section

variable (kept : Kept db state)
include kept

theorem saveLinks {songId : String} {newTagIds : List String} {tags : List Tag}
    (present : state.calls[index]? = some (.saveLinks songId newTagIds tags))
    (guard : guarded toLowerCase state (.answer index id false) = true) :
    Kept db (state.saveLinks index songId newTagIds tags) := by
  have open_ : ∀ others, TagCall.saveLinks songId newTagIds tags ≠ .returned others :=
    fun _others same => by cases same
  unfold guarded at guard
  simp only [present, Bool.false_or] at guard
  unfold TagState.saveLinks
  simp only [List.any_map, Function.comp_def]
  by_cases taken : newTagIds.any (fun tagId => ⟨songId, tagId⟩ ∈ state.db.links) = true
  · rw [if_pos taken] at guard ⊢
    refine kept.place present open_ ?_ (fun same => by cases same)
    intro saved
    rw [saved] at guard
    cases guard
  · rw [if_neg taken] at guard ⊢
    have room := of_decide_eq_true guard
    refine ⟨kept.tags, ?_, ?_, kept.saver_placed present (fun _saved => rfl), ?_,
      kept.slugs_placed present (fun same => by cases same)⟩
    · change state.db.links ++ _ = db.links ++ (state.savedLinks ++ _).map Prod.snd
      rw [kept.links, List.map_append, List.append_assoc, List.map_map]
      refine congrArg (fun links => db.links ++ (state.savedLinks.map Prod.snd ++ links)) ?_
      exact (List.map_id _).symm
    · intro other
      have counted := linksOf_append state.db songId other newTagIds
      have before := kept.room other
      change (TagState.linksOf { state.db with links := _ } other).length ≤ _
      rw [counted]
      by_cases same : songId = other
      · rw [if_pos same, ← same]
        exact room
      · rw [if_neg same]
        exact before
    · intro entry member
      cases List.mem_append.mp member with
      | inl earlier => exact kept.linker_placed present open_ entry earlier
      | inr own =>
          obtain ⟨link, _made, same⟩ := List.mem_map.mp own
          rw [← same]
          exact ⟨tags, (read_placed present _ index).trans (if_pos rfl)⟩

section

variable (present : state.calls[index]? = some call)
  (moved : state.answer toLowerCase index id call = some after)
include present moved

theorem fail (guard : guarded toLowerCase state (.answer index id true) = true) :
    Kept db (state.place index (.rejected .queryFailed)) := by
  have unsaved : state.hasSaved index = true → False := by
    intro saved
    unfold guarded at guard
    cases call with
    | saveTag draft name left =>
        simp only [present, Bool.true_or, if_true, saved] at guard
        cases guard
    | saveLinks songId newTagIds tags =>
        simp only [present, Bool.true_or, if_true, saved] at guard
        cases guard
    | findSong _ _ _ | findLinks _ _ _ | findTags _ _ _ _ | rejected _ =>
        exact kept.unsaved present rfl saved
    | returned tags => cases moved
  refine kept.place present ?_ (fun saved => (unsaved saved).elim) (fun same => by cases same)
  intro tags same
  rw [same] at moved
  cases moved

theorem answer (guard : guarded toLowerCase state (.answer index id false) = true) :
    Kept db after := by
  cases call with
  | findSong songId names category =>
      unfold TagState.answer at moved
      dsimp only at moved
      split at moved
      · split at moved
        · cases moved
          exact kept.read present rfl fun same => by cases same
        · cases moved
          exact kept.read present rfl fun same => by cases same
      · cases moved
        exact kept.read present rfl fun same => by cases same
  | findLinks songId names category =>
      cases moved
      exact kept.read present rfl fun same => by cases same
  | findTags songId names category existingTagIds =>
      cases moved
      exact kept.read present rfl (next_not_slugTaken _ names)
  | saveTag draft name left =>
      cases moved
      exact kept.saveTag toLowerCase present guard
  | saveLinks songId newTagIds tags =>
      cases moved
      exact kept.saveLinks toLowerCase present guard
  | returned tags => cases moved
  | rejected error => cases moved

end

theorem step {label : TagLabel} (guard : guarded toLowerCase state label = true)
    (moved : state.step toLowerCase label = some after) : Kept db after := by
  cases label with
  | addTagsToSong songId names category =>
      cases moved
      have found : ∀ {place : Nat} {call : TagCall}, state.calls[place]? = some call →
          (state.calls ++ [.findSong songId names category])[place]? = some call :=
        fun present =>
          (List.getElem?_append_left (List.getElem?_eq_some_iff.mp present).1).trans present
      refine ⟨kept.tags, kept.links, kept.room, ?_, ?_, ?_⟩
      · intro entry member
        obtain ⟨call, stands, writes⟩ := kept.saver entry member
        exact ⟨call, found stands, writes⟩
      · intro entry member
        obtain ⟨tags, stands⟩ := kept.linker entry member
        exact ⟨tags, found stands⟩
      · intro member
        cases List.mem_append.mp member with
        | inl earlier => exact kept.slugs earlier
        | inr own => cases List.mem_singleton.mp own
  | answer index id fails =>
      unfold TagState.step at moved
      dsimp only at moved
      cases present : state.calls[index]? with
      | none =>
          rw [present] at moved
          cases moved
      | some call =>
          rw [present] at moved
          cases fails with
          | true =>
              obtain ⟨answered, made, same⟩ := Option.map_eq_some_iff.mp moved
              rw [← same]
              exact kept.fail toLowerCase present made guard
          | false => exact kept.answer toLowerCase present moved guard

theorem lawful : LawfulTagging db state where
  limit := kept.room
  tags := kept.tags
  links := kept.links
  rejected := by
    intro index error rejected
    constructor
    · intro entry member here
      obtain ⟨call, stands, writes⟩ := kept.saver entry member
      rw [here, rejected] at stands
      cases stands
      cases writes
    · intro entry member here
      obtain ⟨tags, stands⟩ := kept.linker entry member
      rw [here, rejected] at stands
      cases stands
  slugs := fun _index rejected => kept.slugs (List.mem_of_getElem? rejected)

end

end Kept

/-- In every run of guarded turns a song keeps to the limit, a rejected call leaves nothing, and no
call fails for a slug. -/
theorem addTagsToSong_lawful (db : TagDatabase)
    (room : ∀ songId, (TagState.linksOf db songId).length ≤ MAX_TAGS_PER_SONG)
    (labels : List TagLabel) (after : TagState)
    (permitted : (tagMachine toLowerCase db).Permits
      (fun state label => guarded toLowerCase state label = true) (TagState.start db) labels)
    (ran : (tagMachine toLowerCase db).run (TagState.start db) labels = some after) :
    LawfulTagging db after := by
  have begins : Kept db (TagState.start db) :=
    ⟨(List.append_nil _).symm, (List.append_nil _).symm, room,
      fun _entry member => (List.not_mem_nil member).elim,
      fun _entry member => (List.not_mem_nil member).elim, List.not_mem_nil⟩
  exact (Machine.run_preserves (Kept db)
    (fun _before _label _after kept guard moved => kept.step toLowerCase guard moved) labels begins
    permitted ran).lawful

def oneSong : TagDatabase := { songs := ["s"], tags := [], links := [] }

def oneName : List TagLabel :=
  [.addTagsToSong "s" ["rock".toList] none, .answer 0 "" false, .answer 0 "" false,
    .answer 0 "" false, .answer 0 "t" false, .answer 0 "" false]

theorem addTagsToSong_lawful_oneName :
    (∀ songId, (TagState.linksOf oneSong songId).length ≤ MAX_TAGS_PER_SONG) ∧
      ∃ after, (tagMachine id oneSong).run (TagState.start oneSong) oneName = some after ∧
        after.db.links = [⟨"s", "t"⟩] ∧ LawfulTagging oneSong after := by
  have seen : ((tagMachine id oneSong).run (TagState.start oneSong) oneName).map
      (fun state => state.db.links) = some [⟨"s", "t"⟩] := by
    decide +kernel
  obtain ⟨after, ran, shown⟩ := Option.map_eq_some_iff.mp seen
  exact ⟨fun _songId => Nat.zero_le _, after, ran, shown,
    addTagsToSong_lawful id oneSong (fun _songId => Nat.zero_le _) oneName after
      (by decide +kernel) ran⟩

/-- Two names with one slug. -/
def twoLanguages : List TagLabel :=
  [.addTagsToSong "s" ["c++".toList, "c#".toList] none, .answer 0 "" false, .answer 0 "" false,
    .answer 0 "" false, .answer 0 "t" false, .answer 0 "u" false]

/-- The call is rejected for the slug of its second tag, and the first one stays. -/
theorem addTagsToSong_leaves_tag :
    ¬∀ after, (tagMachine id oneSong).run (TagState.start oneSong) twoLanguages = some after →
      LawfulTagging oneSong after := by
  intro lawful
  have seen : ((tagMachine id oneSong).run (TagState.start oneSong) twoLanguages).map
      (fun state => (state.calls, state.savedTags.map Prod.fst)) =
        some ([.rejected .slugTaken], [0]) := by
    decide +kernel
  obtain ⟨after, ran, shown⟩ := Option.map_eq_some_iff.mp seen
  obtain ⟨calls, _saved⟩ := Prod.mk.inj shown
  apply (lawful after ran).slugs 0
  rw [calls, List.getElem?_cons_zero]

/-! ### The slugs of the tags -/

/-- Runs of letters and digits, with one dash between two of them. -/
structure IsSlug (text : Name) : Prop where
  chars : ∀ char ∈ text, isSlugChar char = true ∨ char = '-'
  single : text.IsChain fun one next => one = '-' → next ≠ '-'
  first : text.head? ≠ some '-'
  last : text.getLast? ≠ some '-'

theorem dashed_chars (name : Name) : ∀ char ∈ dashed name, isSlugChar char = true ∨ char = '-' := by
  induction name with
  | nil => simp [dashed]
  | cons first rest ih =>
      unfold dashed
      split
      · simp_all
      · split <;> simp_all

theorem dashed_single (name : Name) :
    (dashed name).IsChain fun one next => one = '-' → next ≠ '-' := by
  induction name with
  | nil => exact List.IsChain.nil
  | cons first rest ih =>
      unfold dashed
      split
      · rename_i letter
        refine ih.cons fun next _ dash => ?_
        rw [dash] at letter
        exact absurd letter (by decide)
      · split
        · rename_i same
          rwa [← same]
        · rename_i other
          refine ih.cons fun next begins _ dash => ?_
          obtain ⟨more, same⟩ := List.head?_eq_some_iff.mp begins
          exact other more (dash ▸ same)

theorem head?_dropWhile_dash (text : Name) : (text.dropWhile (· == '-')).head? ≠ some '-' := by
  intro begins
  have other := List.head?_dropWhile_not (· == '-') text
  rw [begins] at other
  cases other

theorem slugify_isSlug (name : Name) : IsSlug (slugify toLowerCase name) := by
  have left := List.dropWhile_suffix (l := dashed (trim (toLowerCase name))) (· == '-')
  have right : slugify toLowerCase name <+:
      (dashed (trim (toLowerCase name))).dropWhile (· == '-') :=
    List.reverse_suffix.mp (by
      rw [slugify, undashed, List.reverse_reverse]
      exact List.dropWhile_suffix _)
  refine ⟨fun char member => dashed_chars _ char (left.subset (right.subset member)), ?_, ?_, ?_⟩
  · obtain ⟨front, whole⟩ := left
    obtain ⟨more, kept⟩ := right
    have single := dashed_single (trim (toLowerCase name))
    rw [← whole, ← kept] at single
    exact single.right_of_append.left_of_append
  · intro begins
    obtain ⟨more, whole⟩ := right
    apply head?_dropWhile_dash (dashed (trim (toLowerCase name)))
    rw [← whole, List.head?_append, begins]
    rfl
  · rw [slugify, undashed, List.getLast?_reverse]
    exact head?_dropWhile_dash _

/-- A turn adds no tag but one with the slug of a name. -/
theorem step_tags {state after : TagState} {label : TagLabel}
    (moved : state.step toLowerCase label = some after) (tag : Tag) (member : tag ∈ after.db.tags) :
    tag ∈ state.db.tags ∨ ∃ name, tag.slug = slugify toLowerCase name := by
  cases label with
  | addTagsToSong songId names category =>
      cases moved
      exact Or.inl member
  | answer index id fails =>
      simp only [TagState.step] at moved
      cases present : state.calls[index]? with
      | none => simp [present] at moved
      | some call =>
          cases call <;> grind [TagState.answer, TagState.saveTag, TagState.saveLinks,
            TagState.place, TagState.created]

/-- In every run from slugs the slugs of the tags are slugs. -/
theorem addTagsToSong_slugs (db : TagDatabase) (slugs : ∀ tag ∈ db.tags, IsSlug tag.slug)
    (labels : List TagLabel) (after : TagState)
    (ran : (tagMachine toLowerCase db).run (TagState.start db) labels = some after) :
    ∀ tag ∈ after.db.tags, IsSlug tag.slug := by
  refine Machine.run_preserves
    (fun state : TagState => ∀ tag ∈ state.db.tags, IsSlug tag.slug) ?_ labels slugs
    (Machine.permits_always _ _ _) ran
  intro before label after slugs _ moved tag member
  rcases step_tags toLowerCase moved tag member with earlier | ⟨name, slug⟩
  · exact slugs tag earlier
  · rw [slug]
    exact slugify_isSlug toLowerCase name

theorem addTagsToSong_slugs_oneName :
    ∃ after, (tagMachine id oneSong).run (TagState.start oneSong) oneName = some after ∧
      ∀ tag ∈ after.db.tags, IsSlug tag.slug := by
  obtain ⟨after, ran⟩ := Option.isSome_iff_exists.mp
    (show ((tagMachine id oneSong).run (TagState.start oneSong) oneName).isSome by decide +kernel)
  exact ⟨after, ran, addTagsToSong_slugs id oneSong (by simp [oneSong]) oneName after ran⟩

end AudioBlock.Catalog.Tagging
