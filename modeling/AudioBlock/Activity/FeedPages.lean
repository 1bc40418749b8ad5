/-
The activity feed (src/services/ActivityService.ts, `getFeed` and `getUserActivities`), read
page by page with the last returned id as the cursor.
-/
import AudioBlock.Foundation.KeysetPages
import AudioBlock.Foundation.Text
import AudioBlock.Songs.Song
import Mathlib.Data.List.Nodup

namespace AudioBlock.Activity

open AudioBlock.Foundation AudioBlock.Songs

/-- The ids are UUIDs, which the database compares byte by byte. -/
structure ActivityFeed (Metadata : Type) where
  id : BitVec 128
  userId : String
  actionType : String
  targetId : String
  targetType : String
  metadata : Option Metadata
  createdAt : Int

structure ActivityStore (Metadata : Type) where
  rows : List (ActivityFeed Metadata)
  primary : (rows.map fun row => row.id).Nodup

/-- The parameter `type` of a request. -/
inductive TypeParameter
  | text (type : String)
  | array (types : List String)

def validActionTypes : List String :=
  ["song_upload", "song_purchase", "artist_follow", "song_save", "album_release"]

def parseTypes : Option TypeParameter → Option (List String)
  | none => none
  | some (.text type) =>
      if type = "" then none
      else some ((type.toList.splitOn ',').map fun piece => String.ofList (trim piece))
  | some (.array types) => some types

def parseAndValidateTypes (type : Option TypeParameter) :
    Except AppError (Option (List String)) :=
  match parseTypes type with
  | none => .ok none
  | some types =>
      match types.find? fun type => !validActionTypes.contains type with
      | some invalid => .error (.validation ("Invalid activity type: " ++ invalid))
      | none => .ok (some types)

/-- Ninety days before, in milliseconds; the server's clock has no summer time. -/
def ninetyDaysAgo (now : Int) : Int := now - 90 * 86400000

/-- An empty list of types restricts nothing. -/
def allowsType : Option (List String) → String → Bool
  | some (first :: others), actionType => (first :: others).contains actionType
  | _, _ => true

def allowsCursor : Option (BitVec 128) → BitVec 128 → Bool
  | none, _ => true
  | some cursor, id => decide (id < cursor)

namespace ActivityStore

variable {Metadata : Type} (store : ActivityStore Metadata)
  (order : List (ActivityFeed Metadata) → List (ActivityFeed Metadata)) (now : Int)

/-- The rows that a query asks for; `order` is how the database lists them. -/
def page (byUser : String → Bool) (types : Option (List String)) (cursor : Option (BitVec 128))
    (limit : Nat) : List (ActivityFeed Metadata) :=
  (order (store.rows.filter fun activity =>
    byUser activity.userId && decide (ninetyDaysAgo now < activity.createdAt) &&
      allowsType types activity.actionType && allowsCursor cursor activity.id)).take limit

def getFeed (userId : String) (cursor : Option (BitVec 128)) (limit : Nat)
    (type : Option TypeParameter) : Except AppError (List (ActivityFeed Metadata)) := do
  let userIds := [userId]
  let types ← parseAndValidateTypes type
  return store.page order now (fun user => userIds.contains user) types cursor limit

def getUserActivities (userId : String) (cursor : Option (BitVec 128)) (limit : Nat)
    (type : Option TypeParameter) : Except AppError (List (ActivityFeed Metadata)) := do
  let types ← parseAndValidateTypes type
  return store.page order now (fun user => user == userId) types cursor limit

theorem getFeed_eq_getUserActivities : @getFeed Metadata = @getUserActivities Metadata := by
  funext store order now userId cursor limit type
  have oneUser : (fun user => [userId].contains user) = fun user => user == userId := by
    funext user
    rw [List.contains_cons, List.contains_nil, Bool.or_false]
  unfold getFeed getUserActivities
  simp only [oneUser]

def matching (userId : String) (types : Option (List String)) : List (ActivityFeed Metadata) :=
  store.rows.filter fun activity =>
    activity.userId == userId && decide (ninetyDaysAgo now < activity.createdAt) &&
      allowsType types activity.actionType

end ActivityStore

/-! ### Reading on from the last id -/

variable {Metadata : Type}

/-- Pages are asked for until one is empty, each with the last id of the page before it. -/
inductive Iterates
    (ask : Option (BitVec 128) → Except AppError (List (ActivityFeed Metadata))) :
    Option (BitVec 128) → List (ActivityFeed Metadata) → Prop
  | done {cursor : Option (BitVec 128)} : ask cursor = .ok [] → Iterates ask cursor []
  | next {cursor : Option (BitVec 128)} {front rest : List (ActivityFeed Metadata)}
      {last : ActivityFeed Metadata} :
      ask cursor = .ok (front ++ [last]) → Iterates ask (some last.id) rest →
        Iterates ask cursor (front ++ last :: rest)

def ReadsAll (ask : Option (BitVec 128) → Except AppError (List (ActivityFeed Metadata)))
    (activities : List (ActivityFeed Metadata)) : Prop :=
  ∃ returned, Iterates ask none returned ∧
    Listing (fun row : ActivityFeed Metadata => row.createdAt) activities returned

/-- What `ORDER BY "createdAt" DESC` promises. -/
def SortsByCreation
    (order : List (ActivityFeed Metadata) → List (ActivityFeed Metadata)) : Prop :=
  ∀ rows, Listing (fun row : ActivityFeed Metadata => row.createdAt) rows (order rows)

def PagesFollowIds (limit : Nat) (activities : List (ActivityFeed Metadata)) : Prop :=
  ∀ listing, Listing (fun row : ActivityFeed Metadata => row.createdAt) activities listing →
    PageEndsBetween (fun row : ActivityFeed Metadata => row.id.toNat) limit listing

section Pages

variable {store : ActivityStore Metadata}
  {order : List (ActivityFeed Metadata) → List (ActivityFeed Metadata)} {now : Int}
  {userId : String} {type : Option TypeParameter} {types : Option (List String)} {limit : Nat}

theorem getUserActivities_eq (valid : parseAndValidateTypes type = .ok types)
    (cursor : Option (BitVec 128)) :
    store.getUserActivities order now userId cursor limit type =
      .ok ((order ((store.matching now userId types).filter fun row =>
        allowsCursor cursor row.id)).take limit) := by
  unfold ActivityStore.getUserActivities
  rw [valid]
  change Except.ok (store.page order now _ types cursor limit) = _
  unfold ActivityStore.page ActivityStore.matching
  rw [List.filter_filter]
  congr 4
  funext activity
  rw [Bool.and_comm (allowsCursor _ _)]

theorem matching_nodup :
    ((store.matching now userId types).map fun row => row.id.toNat).Nodup := by
  have ids : ((store.matching now userId types).map fun row => row.id).Nodup :=
    store.primary.sublist (List.filter_sublist.map _)
  have injective : Function.Injective (BitVec.toNat : BitVec 128 → Nat) :=
    fun _one _other same => BitVec.eq_of_toNat_eq same
  have numbers := List.Nodup.map injective ids
  rw [List.map_map] at numbers
  exact numbers

theorem filter_cursor {cursor : Option (BitVec 128)} {last : ActivityFeed Metadata}
    (rows : List (ActivityFeed Metadata)) (below : allowsCursor cursor last.id = true) :
    ((rows.filter fun row => allowsCursor cursor row.id).filter fun row =>
        decide (row.id.toNat < last.id.toNat)) =
      rows.filter fun row => allowsCursor (some last.id) row.id := by
  rw [List.filter_filter]
  congr 1
  funext row
  cases cursor with
  | none => exact Bool.and_true _
  | some cursor =>
      have lastBelow : last.id.toNat < cursor.toNat := BitVec.lt_def.mp (of_decide_eq_true below)
      have same : (row.id.toNat < last.id.toNat ∧ row.id.toNat < cursor.toNat) ↔
          row.id.toNat < last.id.toNat := ⟨And.left, fun under => ⟨under, by omega⟩⟩
      simp only [allowsCursor, BitVec.lt_def, ← Bool.decide_and, same]

theorem iterates_iff_scan (sorts : SortsByCreation order)
    (valid : parseAndValidateTypes type = .ok types) (cursor : Option (BitVec 128))
    (returned : List (ActivityFeed Metadata)) :
    Iterates (fun cursor => store.getUserActivities order now userId cursor limit type) cursor
        returned ↔
      KeysetScan (fun row : ActivityFeed Metadata => row.id.toNat) order limit
        ((store.matching now userId types).filter fun row => allowsCursor cursor row.id)
        returned := by
  have onPage : ∀ cursor {front : List (ActivityFeed Metadata)} {last},
      (order ((store.matching now userId types).filter fun row =>
        allowsCursor cursor row.id)).take limit = front ++ [last] →
          allowsCursor cursor last.id = true := by
    intro cursor front last page
    have member : last ∈ (order ((store.matching now userId types).filter fun row =>
        allowsCursor cursor row.id)).take limit := by
      rw [page]
      exact List.mem_append_right front (List.mem_singleton_self last)
    have among := (sorts _).perm.mem_iff.mp (List.mem_of_mem_take member)
    exact (List.mem_filter.mp among).2
  constructor
  · intro iterates
    induction iterates with
    | done empty =>
        simp only [getUserActivities_eq valid, Except.ok.injEq] at empty
        exact KeysetScan.stop empty
    | next page _later ih =>
        simp only [getUserActivities_eq valid, Except.ok.injEq] at page
        refine KeysetScan.page page ?_
        rw [filter_cursor _ (onPage _ page)]
        exact ih
  · intro scan
    generalize left : ((store.matching now userId types).filter fun row =>
      allowsCursor cursor row.id) = rows at scan
    induction scan generalizing cursor with
    | stop empty =>
        subst left
        refine Iterates.done ?_
        simp only [getUserActivities_eq valid, empty]
    | page page _later ih =>
        subst left
        refine Iterates.next ?_ (ih _ (filter_cursor _ (onPage _ page)).symm)
        simp only [getUserActivities_eq valid, page]

end Pages

/-- Under every way to list activities of one time, both endpoints return all matching
activities once, newest first, exactly if the pages end between the ids. -/
theorem feedPages_complete_iff (store : ActivityStore Metadata) (now : Int) (userId : String)
    (type : Option TypeParameter) (types : Option (List String))
    (valid : parseAndValidateTypes type = .ok types) (limit : Nat) (positive : 1 ≤ limit) :
    ((∀ order, SortsByCreation order →
        ReadsAll (fun cursor => store.getFeed order now userId cursor limit type)
          (store.matching now userId types)) ↔
      PagesFollowIds limit (store.matching now userId types)) ∧
    ((∀ order, SortsByCreation order →
        ReadsAll (fun cursor => store.getUserActivities order now userId cursor limit type)
          (store.matching now userId types)) ↔
      PagesFollowIds limit (store.matching now userId types)) := by
  rw [ActivityStore.getFeed_eq_getUserActivities, and_self]
  have whole : ((store.matching now userId types).filter fun row => allowsCursor none row.id) =
      store.matching now userId types := List.filter_eq_self.mpr fun _row _member => rfl
  unfold PagesFollowIds
  rw [← keysetScan_complete_iff positive matching_nodup]
  refine forall_congr' fun order => forall_congr' fun sorts => exists_congr fun returned => ?_
  rw [iterates_iff_scan sorts valid, whole]

/-- A saved song, an hour before the first request. -/
def savedSong (id : BitVec 128) (createdAt : Int) : ActivityFeed Unit :=
  { id, userId := "u", actionType := "song_save", targetId := "s", targetType := "song"
    metadata := none, createdAt }

def oneSave : ActivityStore Unit where
  rows := [savedSong 7 1000]
  primary := by decide

def laterSmaller : ActivityStore Unit where
  rows := [savedSong 9 1000, savedSong 3 2000]
  primary := by decide

theorem oneSave_readsAll :
    parseAndValidateTypes none = .ok none ∧
      ∀ order, SortsByCreation order →
        ReadsAll (fun cursor => oneSave.getFeed order 3000 "u" cursor 1 none)
          (oneSave.matching 3000 "u" none) := by
  refine ⟨rfl, ?_⟩
  have found : oneSave.matching 3000 "u" none = [savedSong 7 1000] := by rfl
  apply (feedPages_complete_iff oneSave 3000 "u" none none rfl 1 (Nat.le_refl 1)).1.mpr
  intro listing good before row after split _ends
  have one := good.perm.length_eq
  rw [found, split, List.length_append, List.length_cons, List.length_singleton] at one
  have nothingBefore : before = [] := List.eq_nil_of_length_eq_zero (by omega)
  have nothingAfter : after = [] := List.eq_nil_of_length_eq_zero (by omega)
  subst nothingBefore nothingAfter
  exact ⟨fun _other member => (List.not_mem_nil member).elim,
    fun _other member => (List.not_mem_nil member).elim⟩

/-- The cursor of the first page leaves nothing, though the earlier activity is missing. -/
theorem laterSmaller_misses :
    ¬∀ order, SortsByCreation order →
      ReadsAll (fun cursor => laterSmaller.getFeed order 3000 "u" cursor 1 none)
        (laterSmaller.matching 3000 "u" none) := by
  intro complete
  obtain ⟨returned, iterates, all⟩ := complete (byDate fun row => row.createdAt) Listing.byDate
  have first : laterSmaller.getFeed (byDate fun row => row.createdAt) 3000 "u" none 1 none =
      .ok [savedSong 3 2000] := by
    change Except.ok ((byDate _ [savedSong 9 1000, savedSong 3 2000]).take 1) = _
    rw [byDate_cons, byDate_cons, byDate_nil]
    rfl
  have second : laterSmaller.getFeed (byDate fun row => row.createdAt) 3000 "u" (some 3) 1 none =
      .ok [] := by
    change Except.ok ((byDate _ []).take 1) = _
    rw [byDate_nil]
    rfl
  have two := all.perm.length_eq
  rcases iterates with empty | ⟨page, later⟩
  · rw [first] at empty
    cases empty
  · rename_i front rest last
    rw [first] at page
    have whole : [] ++ [savedSong 3 2000] = front ++ [last] := Except.ok.inj page
    obtain ⟨nothing, same⟩ := List.append_inj' whole rfl
    obtain ⟨saved, _end⟩ := List.cons.inj same
    subst nothing saved
    rcases later with _empty | ⟨again, _more⟩
    · cases two
    · rw [show (savedSong 3 2000).id = 3 from rfl, second] at again
      exact List.append_ne_nil_of_right_ne_nil _ (List.cons_ne_nil _ []) (Except.ok.inj again).symm

end AudioBlock.Activity
