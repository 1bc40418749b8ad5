/-
What the reindex command makes of the pages that it fetches.

Whatever the RPC answers, an event of a fetched page is processed once for each time that a
page delivers it, and no cursor is requested twice.  The command sees every event of the
range if the RPC answers a cursor by the events that come after it, in ledger order.
-/
import AudioBlock.Foundation.Walks
import AudioBlock.Indexer.Reindex
import Mathlib.Data.Finset.Card
import Mathlib.Data.List.Nodup

namespace AudioBlock.Indexer

open AudioBlock.Foundation

variable {ScVal Value State : Type}

def ReindexOptions.inRange (options : ReindexOptions) (event : NormalizedContractEvent Value) :
    Bool :=
  decide (options.fromLedger ≤ event.ledger ∧ (event.ledger : Int) ≤ options.toLedger)

def ReindexOptions.past (options : ReindexOptions) (event : NormalizedContractEvent Value) : Bool :=
  decide (options.toLedger < event.ledger)

theorem upsertEvent_cases (answers : UpsertAnswers) (onResult : Bool → State → State)
    (state : State) :
    (∃ inserted, upsertEvent answers onResult state = (onResult inserted state, true)) ∨
      upsertEvent answers onResult state = (state, false) := by
  rcases answers with ⟨existing, save, raceExisting⟩
  cases existing with
  | none => exact Or.inr rfl
  | some found =>
      cases found with
      | true => exact Or.inl ⟨false, rfl⟩
      | false =>
          cases save with
          | saved => exact Or.inl ⟨true, rfl⟩
          | rejected => exact Or.inr rfl
          | duplicate =>
              cases raceExisting with
              | none => exact Or.inr rfl
              | some raced =>
                  cases raced with
                  | true => exact Or.inl ⟨false, rfl⟩
                  | false => exact Or.inr rfl

namespace ReindexWorld

variable (world : ReindexWorld ScVal Value) (options : ReindexOptions)
  (registered : IndexerContract Value)

/-- The summary counts the processed events and, in a run that writes, what became of each. -/
structure Balanced (run : ReindexRun Value) : Prop where
  fetched : run.summary.fetched = run.processed.length
  accounted : options.dryRun = false → run.summary.fetched = run.summary.accounted

/-- The fields that the events of a page leave alone. -/
structure SamePages (before after : ReindexRun Value) : Prop where
  pages : after.pages = before.pages
  cursor : after.cursor = before.cursor
  cursors : after.cursors = before.cursors

theorem SamePages.trans {first second third : ReindexRun Value} (one : SamePages first second)
    (two : SamePages second third) : SamePages first third :=
  ⟨two.pages.trans one.pages, two.cursor.trans one.cursor, two.cursors.trans one.cursors⟩

theorem processReindexEvent_run (run : ReindexRun Value) (event : NormalizedContractEvent Value) :
    SamePages run (world.processReindexEvent options registered run event) ∧
      (world.processReindexEvent options registered run event).processed =
        run.processed ++ [event] := by
  unfold processReindexEvent
  cases registered.decoder.decode event with
  | none => exact ⟨⟨rfl, rfl, rfl⟩, rfl⟩
  | some dto =>
      by_cases dry : options.dryRun = true
      · simp only [dry, if_true]
        exact ⟨⟨rfl, rfl, rfl⟩, trivial⟩
      · simp only [dry]
        exact ⟨⟨rfl, rfl, rfl⟩, rfl⟩

variable {run : ReindexRun Value}

theorem Balanced.event (balanced : Balanced options run) (event : NormalizedContractEvent Value) :
    Balanced options (world.processReindexEvent options registered run event) := by
  have counted := balanced.fetched
  have whole := balanced.accounted
  simp only [ReindexSummary.accounted] at whole
  unfold processReindexEvent
  cases registered.decoder.decode event with
  | none =>
      constructor
      · simp [counted]
      · intro writes
        simp only [ReindexSummary.accounted]
        have sums := whole writes
        omega
  | some dto =>
      by_cases dry : options.dryRun = true
      · simp only [dry, if_true]
        constructor
        · simp [counted]
        · intro writes
          cases dry.symm.trans writes
      · have sums := whole (Bool.eq_false_of_not_eq_true dry)
        simp only [dry]
        -- The write counts the event once, or rejects and is counted as failed.
        rcases upsertEvent_cases
            (world.database run.upserts { dto with network := some options.network })
            ReindexSummary.onResult
            { run.summary with
              fetched := run.summary.fetched + 1
              perType := tallyItem id run.summary.perType dto.eventType } with
          ⟨inserted, resolved⟩ | rejected
        · simp only [resolved]
          cases inserted with
          | true =>
              constructor
              · simp [ReindexSummary.onResult, counted]
              · intro _writes
                simp [ReindexSummary.onResult, ReindexSummary.accounted]
                omega
          | false =>
              constructor
              · simp [ReindexSummary.onResult, counted]
              · intro _writes
                simp [ReindexSummary.onResult, ReindexSummary.accounted]
                omega
        · simp only [rejected]
          constructor
          · simp [counted]
          · intro _writes
            simp [ReindexSummary.accounted]
            omega

theorem processPage_run (run : ReindexRun Value) (events : List (NormalizedContractEvent Value))
    (balanced : Balanced options run) :
    SamePages run (world.processPage options registered run events).1 ∧
      Balanced options (world.processPage options registered run events).1 ∧
      (world.processPage options registered run events).1.processed =
        run.processed ++ events.filter options.inRange ∧
      (world.processPage options registered run events).2 = events.any options.past := by
  induction events using List.reverseRecOn with
  | nil => exact ⟨⟨rfl, rfl, rfl⟩, balanced, by simp [processPage], rfl⟩
  | append_singleton events event ih =>
      obtain ⟨same, kept, processed, past⟩ := ih
      unfold processPage at same kept processed past ⊢
      rw [List.foldl_append, List.foldl_cons, List.foldl_nil, List.filter_append, List.any_append]
      generalize events.foldl _ (run, false) = reached at same kept processed past ⊢
      obtain ⟨after, pastEnd⟩ := reached
      subst past
      simp only
      by_cases beyond : options.toLedger < event.ledger
      · rw [if_pos beyond]
        have outside : options.inRange event = false := by
          simp [ReindexOptions.inRange]
          omega
        refine ⟨same, kept, ?_, ?_⟩
        · simpa [outside] using processed
        · simp [ReindexOptions.past, beyond]
      · have inside : options.past event = false := by simpa [ReindexOptions.past] using beyond
        rw [if_neg beyond]
        by_cases earlier : (event.ledger : Int) < options.fromLedger
        · rw [if_pos earlier]
          have outside : options.inRange event = false := by
            simp [ReindexOptions.inRange]
            omega
          refine ⟨same, kept, ?_, ?_⟩
          · simpa [outside] using processed
          · simp [inside]
        · rw [if_neg earlier]
          have within : options.inRange event = true := by
            simp [ReindexOptions.inRange]
            omega
          obtain ⟨stays, added⟩ := world.processReindexEvent_run options registered after event
          refine ⟨same.trans stays, kept.event world options registered event, ?_, ?_⟩
          · rw [added, processed, List.append_assoc]
            simp [within]
          · simp [inside]

/-! ### Turns and runs -/

/-- The cursor that a request is made with. -/
def cursorAt (pages : List (EventsPage Value)) : Nat → Option String
  | 0 => none
  | index + 1 => (pages[index]?).map EventsPage.cursor

/-- What holds of every run, also of one that has ended. -/
structure Counted (run : ReindexRun Value) : Prop where
  balanced : Balanced options run
  processed : run.processed = (run.pages.flatMap EventsPage.events).filter options.inRange
  answered : ∀ index page, run.pages[index]? = some page →
    world.fetchPage options index (cursorAt run.pages index) = some page

/-- What holds of a run that goes on. -/
structure Underway (run : ReindexRun Value) : Prop extends Counted world options run where
  cursors : run.cursors = run.pages.map EventsPage.cursor
  distinct : run.cursors.Nodup
  named : ∀ page ∈ run.pages, page.cursor ≠ ""
  cursor : run.cursor = cursorAt run.pages run.pages.length

theorem underway_start : Underway world options (ReindexRun.start : ReindexRun Value) where
  balanced := ⟨rfl, fun _writes => rfl⟩
  processed := rfl
  answered := by
    intro index page found
    cases found
  cursors := rfl
  distinct := List.nodup_nil
  named := by
    intro page member
    cases member
  cursor := rfl

theorem cursorAt_append (pages : List (EventsPage Value)) (page : EventsPage Value) {index : Nat}
    (within : index ≤ pages.length) : cursorAt (pages ++ [page]) index = cursorAt pages index := by
  cases index with
  | zero => rfl
  | succ index =>
      simp only [cursorAt]
      rw [List.getElem?_append_left within]

/-- Why a run stops at the page that it fetched last. -/
inductive Stops (seen : List String) (page : EventsPage Value) : ReindexEnd → Prop
  | past (beyond : page.events.any options.past = true) : Stops seen page .returned
  | finished (none : page.cursor = "") : Stops seen page .returned
  | tip (again : page.cursor ∈ seen) (empty : page.events = []) : Stops seen page .returned
  | stuck (again : page.cursor ∈ seen) (some : page.events ≠ []) : Stops seen page .notAdvanced

theorem reindexTurn_cases (underway : Underway world options run) :
    (world.reindexTurn options registered run = (run, some .rejected)) ∨
      ∃ page after, Counted world options after ∧ after.pages = run.pages ++ [page] ∧
        ((∃ ending, world.reindexTurn options registered run = (after, some ending) ∧
            Stops options run.cursors page ending) ∨
          (world.reindexTurn options registered run = (after, none) ∧
            Underway world options after)) := by
  unfold reindexTurn
  cases answer : world.fetchPage options run.pages.length run.cursor with
  | none => exact Or.inl rfl
  | some page =>
      right
      have fetched : Balanced options { run with pages := run.pages ++ [page] } :=
        ⟨underway.balanced.fetched, underway.balanced.accounted⟩
      obtain ⟨same, balanced, processed, past⟩ :=
        world.processPage_run options registered { run with pages := run.pages ++ [page] }
          page.events fetched
      simp only
      generalize world.processPage options registered { run with pages := run.pages ++ [page] }
        page.events = worked at same balanced processed past ⊢
      obtain ⟨after, pastEnd⟩ := worked
      simp only at same balanced processed past ⊢
      have pages : after.pages = run.pages ++ [page] := same.pages
      have counted : Counted world options after := by
        refine ⟨balanced, ?_, ?_⟩
        · rw [processed, pages, underway.processed]
          simp
        · intro index other found
          rw [pages] at found ⊢
          by_cases within : index < run.pages.length
          · rw [List.getElem?_append_left within] at found
            rw [cursorAt_append _ _ (Nat.le_of_lt within)]
            exact underway.answered index other found
          · have last : index = run.pages.length := by
              have bound := (List.getElem?_eq_some_iff.mp found).1
              rw [List.length_append, List.length_singleton] at bound
              omega
            subst last
            rw [List.getElem?_concat_length] at found
            rw [cursorAt_append _ _ (Nat.le_refl _), ← underway.cursor, answer, found]
      have seen : after.cursors = run.cursors := same.cursors
      by_cases beyond : page.events.any options.past = true
      · refine ⟨page, after, counted, pages, Or.inl ⟨.returned, ?_, .past beyond⟩⟩
        simp [past, beyond]
      · by_cases finished : page.cursor = ""
        · refine ⟨page, after, counted, pages, Or.inl ⟨.returned, ?_, .finished finished⟩⟩
          simp [finished]
        · rw [if_neg (by simp [past, beyond, finished])]
          by_cases again : page.cursor ∈ after.cursors
          · rw [if_pos again]
            rw [seen] at again
            cases events : page.events with
            | nil =>
                exact ⟨page, after, counted, pages, Or.inl ⟨.returned, rfl, .tip again events⟩⟩
            | cons event rest =>
                exact ⟨page, after, counted, pages,
                  Or.inl ⟨.notAdvanced, rfl, .stuck again (by simp [events])⟩⟩
          · rw [if_neg again]
            have onward : Counted world options
                { after with
                  cursors := after.cursors ++ [page.cursor], cursor := some page.cursor } :=
              ⟨⟨counted.balanced.fetched, counted.balanced.accounted⟩, counted.processed,
                counted.answered⟩
            refine ⟨page, _, onward, pages, Or.inr ⟨rfl, onward, ?_, ?_, ?_, ?_⟩⟩
            · simp [seen, underway.cursors, pages]
            · rw [seen] at again ⊢
              exact List.nodup_append.mpr ⟨underway.distinct, List.nodup_singleton _, by
                intro old among new fresh same
                rw [List.mem_singleton.mp fresh] at same
                exact again (same ▸ among)⟩
            · intro other member
              change other ∈ after.pages at member
              rw [pages] at member
              rcases List.mem_append.mp member with earlier | last
              · exact underway.named other earlier
              · rw [List.mem_singleton.mp last]
                exact finished
            · change some page.cursor = cursorAt after.pages after.pages.length
              simp [pages, cursorAt]

theorem reindexLoop_last (fuel : Nat) {after : ReindexRun Value} {ending : ReindexEnd}
    (underway : Underway world options run)
    (ended : world.reindexLoop options registered fuel run = some (after, ending)) :
    ∃ before, Underway world options before ∧
      world.reindexTurn options registered before = (after, some ending) := by
  induction fuel generalizing run with
  | zero => cases ended
  | succ fuel ih =>
      unfold reindexLoop at ended
      rcases world.reindexTurn_cases options registered underway with
        failed | ⟨page, next, _counted, _pages, ⟨stop, turned, _why⟩ | ⟨turned, goesOn⟩⟩
      · rw [failed] at ended
        cases ended
        exact ⟨_, underway, failed⟩
      · rw [turned] at ended
        cases ended
        exact ⟨run, underway, turned⟩
      · rw [turned] at ended
        exact ih goesOn ended

theorem Underway.pages_le (underway : Underway world options run) (known : Finset String)
    (finite : ∀ call cursor page, world.fetchPage options call cursor = some page →
      page.cursor ≠ "" → page.cursor ∈ known) : run.pages.length ≤ known.card := by
  have among : run.cursors.toFinset ⊆ known := by
    intro cursor member
    rw [List.mem_toFinset, underway.cursors] at member
    obtain ⟨page, passed, same⟩ := List.mem_map.mp member
    obtain ⟨index, found⟩ := List.mem_iff_getElem?.mp passed
    rw [← same]
    exact finite _ _ page (underway.answered index page found) (underway.named page passed)
  have counted := Finset.card_le_card among
  rw [List.toFinset_card_of_nodup underway.distinct, underway.cursors, List.length_map] at counted
  exact counted

theorem reindexLoop_ends (known : Finset String)
    (finite : ∀ call cursor page, world.fetchPage options call cursor = some page →
      page.cursor ≠ "" → page.cursor ∈ known) (fuel : Nat) (underway : Underway world options run)
    (enough : known.card < run.pages.length + fuel) :
    ∃ after ending, after.pages.length ≤ known.card + 1 ∧
      ∀ more, fuel ≤ more →
        world.reindexLoop options registered more run = some (after, ending) := by
  induction fuel generalizing run with
  | zero =>
      have used := underway.pages_le world options known finite
      omega
  | succ fuel ih =>
      have used := underway.pages_le world options known finite
      rcases world.reindexTurn_cases options registered underway with
        failed | ⟨page, next, _counted, pages, ⟨stop, turned, _why⟩ | ⟨turned, goesOn⟩⟩
      · refine ⟨run, .rejected, Nat.le_succ_of_le used, ?_⟩
        intro more atLeast
        obtain ⟨rest, rfl⟩ := Nat.exists_eq_add_of_le' atLeast
        rw [← Nat.add_assoc, reindexLoop, failed]
      · refine ⟨next, stop, ?_, ?_⟩
        · rw [pages, List.length_append, List.length_singleton]
          exact Nat.succ_le_succ used
        · intro more atLeast
          obtain ⟨rest, rfl⟩ := Nat.exists_eq_add_of_le' atLeast
          rw [← Nat.add_assoc, reindexLoop, turned]
      · have longer : next.pages.length = run.pages.length + 1 := by
          rw [pages, List.length_append, List.length_singleton]
        obtain ⟨after, ending, short, ends⟩ := ih goesOn (by omega)
        refine ⟨after, ending, short, ?_⟩
        intro more atLeast
        obtain ⟨rest, rfl⟩ := Nat.exists_eq_add_of_le' atLeast
        rw [← Nat.add_assoc, reindexLoop, turned]
        exact ends _ (Nat.le_add_left fuel rest)

/-! ### An RPC that serves the events in order -/

def Follows (page later : EventsPage Value) : Prop :=
  page.cursor ≠ "" ∧ world.fetchPage options 0 (some page.cursor) = some later

/-- The pages that the cursors lead to. -/
def Reached (page : EventsPage Value) : Prop :=
  ∃ first, world.fetchPage options 0 none = some first ∧
    Relation.ReflTransGen (world.Follows options) first page

/-- A request has one answer, and a page behind a cursor holds other events than the pages
before it, none of an earlier ledger. -/
structure ServesInOrder : Prop where
  steady : ∀ call, world.getEvents call = world.getEvents 0
  distinct : ∀ page, world.Reached options page → page.events.Nodup
  apart : ∀ page later, world.Reached options page →
    Relation.TransGen (world.Follows options) page later → page.events.Disjoint later.events
  ordered : ∀ page later, world.Reached options page →
    Relation.TransGen (world.Follows options) page later →
      ∀ event ∈ page.events, ∀ other ∈ later.events, event.ledger ≤ other.ledger

theorem follows_single (page one other : EventsPage Value) (left : world.Follows options page one)
    (right : world.Follows options page other) : one = other :=
  Option.some.inj (left.2.symm.trans right.2)

theorem Counted.first (counted : Counted world options run) {page : EventsPage Value}
    (heads : run.pages.head? = some page) :
    world.fetchPage options 0 none = some page := by
  rw [List.head?_eq_getElem?] at heads
  exact counted.answered 0 page heads

structure LastTurn (before after : ReindexRun Value) (page : EventsPage Value)
    (ending : ReindexEnd) : Prop where
  underway : Underway world options before
  counted : Counted world options after
  pages : after.pages = before.pages ++ [page]
  stops : Stops options before.cursors page ending

theorem reindexLoop_lastTurn (fuel : Nat) {after : ReindexRun Value} {ending : ReindexEnd}
    (ended : world.reindexLoop options registered fuel ReindexRun.start = some (after, ending)) :
    Counted world options after ∧
      (ending ≠ .rejected → ∃ before page, LastTurn world options before after page ending) := by
  obtain ⟨before, underway, turned⟩ :=
    world.reindexLoop_last options registered fuel (world.underway_start options) ended
  rcases world.reindexTurn_cases options registered underway with
    failed | ⟨page, next, counted, pages, ⟨stop, stopped, why⟩ | ⟨went, _goesOn⟩⟩
  · rw [failed] at turned
    cases turned
    exact ⟨underway.toCounted, fun answered => absurd rfl answered⟩
  · rw [stopped] at turned
    cases turned
    exact ⟨counted, fun _answered => ⟨before, page, underway, counted, pages, why⟩⟩
  · rw [went] at turned
    cases turned

section InOrder

variable {world options registered}
variable (serves : world.ServesInOrder options)

include serves

theorem ServesInOrder.fetchPage (call : Nat) (cursor : Option String) :
    world.fetchPage options call cursor = world.fetchPage options 0 cursor := by
  unfold ReindexWorld.fetchPage
  rw [serves.steady call]

theorem ServesInOrder.walk {run : ReindexRun Value} (counted : Counted world options run)
    (named : ∀ index page later, run.pages[index]? = some page →
      run.pages[index + 1]? = some later → page.cursor ≠ "") :
    run.pages.IsChain (world.Follows options) := by
  refine List.isChain_iff_getElem.mpr fun index within => ?_
  have here := List.getElem?_eq_getElem (Nat.lt_of_succ_lt within)
  have after := List.getElem?_eq_getElem within
  refine ⟨named index _ _ here after, ?_⟩
  have answered := counted.answered (index + 1) _ after
  rw [serves.fetchPage, cursorAt, here, Option.map_some] at answered
  exact answered

variable {before after : ReindexRun Value} {page : EventsPage Value} {ending : ReindexEnd}
variable (last : LastTurn world options before after page ending)

include last

theorem ServesInOrder.walk_after : after.pages.IsChain (world.Follows options) := by
  refine serves.walk last.counted fun index earlier later found next => ?_
  have within : index < before.pages.length := by
    have bound := (List.getElem?_eq_some_iff.mp next).1
    rw [last.pages, List.length_append, List.length_singleton] at bound
    omega
  rw [last.pages, List.getElem?_append_left within] at found
  exact last.underway.named earlier (List.mem_of_getElem? found)

theorem ServesInOrder.reached {passed : EventsPage Value} (member : passed ∈ after.pages) :
    world.Reached options passed := by
  cases pages : after.pages with
  | nil =>
      rw [pages] at member
      cases member
  | cons first rest =>
      have heads : after.pages.head? = some first := by rw [pages]; rfl
      exact ⟨first, last.counted.first world options heads,
        walk_reached (serves.walk_after last) heads member⟩

theorem ServesInOrder.seen_leads (seen : page.cursor ∈ before.cursors) :
    ∃ later ∈ after.pages, world.Follows options page later := by
  rw [last.underway.cursors] at seen
  obtain ⟨earlier, passed, same⟩ := List.mem_map.mp seen
  obtain ⟨index, found⟩ := List.mem_iff_getElem?.mp passed
  have within : index < before.pages.length := (List.getElem?_eq_some_iff.mp found).1
  have beyond : index + 1 < after.pages.length := by
    rw [last.pages, List.length_append, List.length_singleton]
    omega
  obtain ⟨later, next⟩ : ∃ later, after.pages[index + 1]? = some later :=
    ⟨_, List.getElem?_eq_getElem beyond⟩
  have answered := last.counted.answered (index + 1) later next
  rw [serves.fetchPage, cursorAt, last.pages, List.getElem?_append_left within, found,
    Option.map_some, same] at answered
  refine ⟨later, List.mem_of_getElem? next, ?_, answered⟩
  rw [← same]
  exact last.underway.named earlier passed

theorem ServesInOrder.again (seen : page.cursor ∈ before.cursors) {later : EventsPage Value}
    (follows : world.Follows options page later) : later ∈ after.pages := by
  obtain ⟨fetched, member, leads⟩ := serves.seen_leads last seen
  rw [world.follows_single options page later fetched follows leads]
  exact member

theorem ServesInOrder.fetched {passed : EventsPage Value} (reached : world.Reached options passed)
    {event : NormalizedContractEvent Value} (member : event ∈ passed.events)
    (within : options.inRange event = true) : passed ∈ after.pages := by
  obtain ⟨first, begins, behind⟩ := reached
  have final : after.pages.getLast? = some page := by rw [last.pages, List.getLast?_concat]
  have head : first ∈ after.pages := by
    cases pages : after.pages with
    | nil => simp [pages] at final
    | cons head rest =>
        have heads : after.pages.head? = some head := by rw [pages]; rfl
        have answered := last.counted.first world options heads
        rw [begins] at answered
        rw [Option.some.inj answered]
        exact List.mem_cons_self
  have closed : ∀ other, after.pages.getLast? = some other →
      other.events.any options.past = true ∨
        ∀ later, world.Follows options other later → later ∈ after.pages := by
    intro other same
    cases Option.some.inj (final.symm.trans same)
    cases last.stops with
    | past beyond => exact Or.inl beyond
    | finished none => exact Or.inr fun later follows => absurd none follows.1
    | tip seen _empty => exact Or.inr fun later => serves.again last seen
    | stuck seen _some => exact Or.inr fun later => serves.again last seen
  rcases reached_of_walk (world.follows_single options) (serves.walk_after last) head
    (fun other => other.events.any options.past = true) closed behind with
    inside | ⟨other, same, beyond, hidden⟩
  · exact inside
  · -- An event past the end has no event of the range behind it.
    cases Option.some.inj (final.symm.trans same)
    obtain ⟨late, among, past⟩ := List.any_eq_true.mp beyond
    have order := serves.ordered page passed
      (serves.reached last (List.mem_of_getLast? final)) hidden late among event member
    simp only [ReindexOptions.past, ReindexOptions.inRange, decide_eq_true_eq] at past within
    omega

theorem ServesInOrder.delivers_once : (after.pages.flatMap EventsPage.events).Nodup := by
  refine List.nodup_flatMap.mpr ⟨fun passed member =>
    serves.distinct passed (serves.reached last member), ?_⟩
  refine (walk_pairwise (serves.walk_after last)).imp_of_mem fun {one other} left _right behind => ?_
  exact serves.apart one other (serves.reached last left) behind

theorem ServesInOrder.advances : ending ≠ .notAdvanced := by
  intro stopped
  subst stopped
  cases last.stops with
  | stuck seen some =>
      -- The page would come after itself and so deliver its events twice.
      have final : page ∈ after.pages := by simp [last.pages]
      obtain ⟨later, member, leads⟩ := serves.seen_leads last seen
      have circle : Relation.TransGen (world.Follows options) page page := by
        have order := walk_pairwise (serves.walk_after last)
        rw [last.pages] at member order
        rcases List.mem_append.mp member with earlier | itself
        · have behind := (List.pairwise_append.mp order).2.2 later earlier page
            (List.mem_singleton_self page)
          exact Relation.TransGen.head leads behind
        · rw [List.mem_singleton.mp itself] at leads
          exact Relation.TransGen.single leads
      have empty := serves.apart page page (serves.reached last final) circle
      cases events : page.events with
      | nil => exact some events
      | cons event rest =>
          rw [events] at empty
          exact empty List.mem_cons_self List.mem_cons_self

end InOrder

def ProcessesOnce [DecidableEq Value] (world : ReindexWorld ScVal Value)
    (options : ReindexOptions) : Prop :=
  ∀ fuel run ending, world.reindexRange options fuel = .ok (some (run, ending)) →
    ∀ page ∈ run.pages, ∀ event ∈ page.events, options.inRange event = true →
      run.processed.count event = 1

end ReindexWorld

open ReindexWorld

/-- Every delivery is processed once and counted once, a finite set of cursors is enough for the
command to end, and an RPC that serves in order gets each event of the range processed once. -/
theorem reindexRange_accounts (world : ReindexWorld ScVal Value) (options : ReindexOptions)
    (registered : IndexerContract Value)
    (accepted : createReindexContext world.contracts options = .ok registered) :
    (∀ known : Finset String,
      (∀ call request response, world.getEvents call request = some response →
        ∀ cursor ∈ response.cursor, cursor ∈ known) →
      ∃ run ending, run.pages.length ≤ known.card + 1 ∧
        ∀ fuel, known.card < fuel → world.reindexRange options fuel = .ok (some (run, ending))) ∧
    ∀ fuel run ending, world.reindexRange options fuel = .ok (some (run, ending)) →
      run.processed = (run.pages.flatMap EventsPage.events).filter options.inRange ∧
      run.summary.fetched = run.processed.length ∧
      (options.dryRun = false → run.summary.fetched = run.summary.inserted +
        run.summary.alreadyPresent + run.summary.failed + run.summary.skipped) ∧
      (world.ServesInOrder options → ending ≠ .rejected →
        ending = .returned ∧ run.processed.Nodup ∧
          ∀ event, event ∈ run.processed ↔ options.inRange event = true ∧
            ∃ page, world.Reached options page ∧ event ∈ page.events) := by
  have started : ∀ fuel, world.reindexRange options fuel =
      .ok (world.reindexLoop options registered fuel ReindexRun.start) := by
    intro fuel
    rw [reindexRange, accepted]
  constructor
  · intro known finite
    have named : ∀ call cursor page, world.fetchPage options call cursor = some page →
        page.cursor ≠ "" → page.cursor ∈ known := by
      intro call cursor page fetched nonempty
      unfold fetchPage fetchEvents at fetched
      cases answer : world.getEvents call (getEventsRequest (pageOptions options cursor)) with
      | none =>
          rw [answer] at fetched
          cases fetched
      | some response =>
          rw [answer] at fetched
          cases fetched
          cases given : response.cursor with
          | none => exact absurd (by simp [given]) nonempty
          | some text =>
              simp only [Option.getD_some]
              exact finite _ _ _ answer text given
    have enough : known.card <
        (ReindexRun.start : ReindexRun Value).pages.length + (known.card + 1) := by
      rw [ReindexRun.start, List.length_nil]
      omega
    obtain ⟨run, ending, short, ends⟩ := world.reindexLoop_ends options registered known named
      (known.card + 1) (world.underway_start options) enough
    refine ⟨run, ending, short, fun fuel enough => ?_⟩
    rw [started, ends fuel enough]
  · intro fuel run ending ended
    rw [started] at ended
    obtain ⟨counted, lastTurn⟩ :=
      world.reindexLoop_lastTurn options registered fuel (Except.ok.inj ended)
    refine ⟨counted.processed, counted.balanced.fetched, counted.balanced.accounted, ?_⟩
    intro serves answered
    obtain ⟨before, page, last⟩ := lastTurn answered
    refine ⟨?_, ?_, ?_⟩
    · have advanced := serves.advances last
      cases ending with
      | returned => rfl
      | notAdvanced => exact absurd rfl advanced
      | rejected => exact absurd rfl answered
    · rw [counted.processed]
      exact (serves.delivers_once last).filter _
    · intro event
      rw [counted.processed, List.mem_filter, List.mem_flatMap]
      constructor
      · rintro ⟨⟨passed, member, delivered⟩, within⟩
        exact ⟨within, passed, serves.reached last member, delivered⟩
      · rintro ⟨within, passed, reached, delivered⟩
        exact ⟨⟨passed, serves.fetched last reached delivered within, delivered⟩, within⟩

def rpcAnswering (cursor : String) : ReindexWorld Unit Unit where
  scValToNative _ := some ()
  contracts _ :=
    [{ contractType := .nft, contractId := "C",
       decoder := { contractType := .nft, decode := fun _ => none } }]
  getEvents _ _ := some
    { events := [some
        { id := some "e", ledger := some 5, txHash := none, contractId := none, topic := none,
          value := none }]
      cursor := some cursor }
  database _ _ := { existing := some false, save := .saved, raceExisting := none }

def oneLedger : ReindexOptions :=
  { contract := "C", network := "testnet", fromLedger := 5, toLedger := 5, dryRun := false }

def answeredEvent : NormalizedContractEvent Unit :=
  { id := "e", ledger := 5, txHash := "", contractId := some "C", topic := [], value := none }

theorem rpcAnswering_nothing_servesInOrder : (rpcAnswering "").ServesInOrder oneLedger := by
  have only : ∀ page, (rpcAnswering "").Reached oneLedger page →
      page = { events := [answeredEvent], cursor := "" } ∧
        ∀ later, ¬ Relation.TransGen ((rpcAnswering "").Follows oneLedger) page later := by
    rintro page ⟨first, fetched, reached⟩
    cases Option.some.inj fetched
    have ends : ∀ later, ¬ (rpcAnswering "").Follows oneLedger
        { events := [answeredEvent], cursor := "" } later := fun later follows => follows.1 rfl
    rcases Relation.ReflTransGen.cases_head reached with same | ⟨later, follows, _rest⟩
    · rw [← same]
      refine ⟨rfl, fun later behind => ?_⟩
      obtain ⟨next, follows, _rest⟩ := Relation.TransGen.head'_iff.mp behind
      exact ends next follows
    · exact absurd follows (ends later)
  refine ⟨fun _call => rfl, ?_, ?_, ?_⟩
  · intro page reached
    rw [(only page reached).1]
    exact List.nodup_singleton _
  · intro page later reached behind
    exact absurd behind ((only page reached).2 later)
  · intro page later reached behind
    exact absurd behind ((only page reached).2 later)

theorem rpcAnswering_nothing_accounts :
    ∃ run, (rpcAnswering "").reindexRange oneLedger 1 = .ok (some (run, .returned)) ∧
      run.summary.fetched = 1 ∧ run.summary.skipped = 1 ∧
      ∀ event, event ∈ run.processed ↔ oneLedger.inRange event = true ∧
        ∃ page, (rpcAnswering "").Reached oneLedger page ∧ event ∈ page.events :=
  ⟨_, rfl, rfl, rfl,
    (((reindexRange_accounts (rpcAnswering "") oneLedger _ rfl).2 1 _ .returned rfl).2.2.2
      rpcAnswering_nothing_servesInOrder (by decide)).2.2⟩

/-- The event that a repeated cursor delivers again is processed again. -/
theorem rpcAnswering_repeated_processes_again :
    ¬ (rpcAnswering "a").ProcessesOnce oneLedger := by
  intro once
  have counted : [answeredEvent, answeredEvent].count answeredEvent = 1 :=
    once 2 _ .notAdvanced rfl { events := [answeredEvent], cursor := "a" } List.mem_cons_self
      answeredEvent List.mem_cons_self rfl
  simp at counted

end AudioBlock.Indexer
