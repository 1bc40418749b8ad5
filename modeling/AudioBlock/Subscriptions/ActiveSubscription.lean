/-
At most one active subscription for every user, over every interleaving of the calls.

The law is kept exactly by the runs in which a row is stored as active only while its user has
no other active one.  A save does so for what it has read, however long ago.
-/
import AudioBlock.Subscriptions.LazyFinalisation
import AudioBlock.Subscriptions.SubscriptionCalls

namespace AudioBlock.Subscriptions

open AudioBlock.Foundation AudioBlock.Songs

/-! ### The law and its condition -/

def KeepsOneActive (addDays : Int → Int → Int) (state : Subscribing) (label : SubscribingStep) :
    Prop :=
  ∀ after, state.step addDays label = some after → OneActive after.rows

def savedBy : SubscriptionCall → Option SubscriptionEntity
  | .settling _ _ saved _ | .saving saved _ => some saved
  | _ => none

def StoresAlone (state : Subscribing) : SubscribingStep → Prop
  | .save call => ∀ underWay saved, state.calls call = some underWay →
      savedBy underWay = some saved → saved.status = .active →
      ∀ row ∈ state.rows, isActiveOf saved.userId row = true → row.id = saved.id
  | .insert call drawn => ∀ draft gift, state.calls call = some (.inserting draft gift) →
      drawn ∉ state.rows.map Subscription.id →
      ∀ row ∈ state.rows, isActiveOf draft.userId row = false
  | _ => True

/-! ### Rows that are stored -/

section Rows

variable {rows : List Subscription} {saved : SubscriptionEntity}

variable {row : Subscription}

theorem isActiveOf_iff {userId : String} :
    isActiveOf userId row = true ↔ row.userId = userId ∧ row.status = .active := by
  unfold isActiveOf
  rw [Bool.and_eq_true, decide_eq_true_eq, decide_eq_true_eq]

theorem oneActive_iff (distinct : (rows.map Subscription.id).Nodup) :
    OneActive rows ↔ ∀ one ∈ rows, ∀ other ∈ rows, one.userId = other.userId →
      one.status = .active → other.status = .active → one.id = other.id := by
  constructor
  · intro single one oneMember other otherMember user oneActive otherActive
    have oneListed : one ∈ rows.filter (isActiveOf one.userId) :=
      List.mem_filter.mpr ⟨oneMember, isActiveOf_iff.mpr ⟨rfl, oneActive⟩⟩
    have otherListed : other ∈ rows.filter (isActiveOf one.userId) :=
      List.mem_filter.mpr ⟨otherMember, isActiveOf_iff.mpr ⟨user.symm, otherActive⟩⟩
    have bound := single one.userId
    match listed : rows.filter (isActiveOf one.userId) with
    | [] =>
        rw [listed] at oneListed
        exact absurd oneListed List.not_mem_nil
    | [only] =>
        rw [listed, List.mem_singleton] at oneListed otherListed
        rw [oneListed, otherListed]
    | _ :: _ :: _ =>
        rw [listed, List.length_cons, List.length_cons] at bound
        omega
  · intro same userId
    have ids : ((rows.filter (isActiveOf userId)).map Subscription.id).Nodup :=
      distinct.sublist (List.filter_sublist.map _)
    match listed : rows.filter (isActiveOf userId) with
    | [] => exact Nat.zero_le 1
    | [_] => exact Nat.le_refl 1
    | first :: second :: rest =>
        have firstListed : first ∈ rows.filter (isActiveOf userId) := by
          rw [listed]
          exact List.mem_cons_self
        have secondListed : second ∈ rows.filter (isActiveOf userId) := by
          rw [listed]
          exact List.mem_cons_of_mem _ List.mem_cons_self
        obtain ⟨firstMember, firstActive⟩ := List.mem_filter.mp firstListed
        obtain ⟨secondMember, secondActive⟩ := List.mem_filter.mp secondListed
        obtain ⟨firstUser, firstActive⟩ := isActiveOf_iff.mp firstActive
        obtain ⟨secondUser, secondActive⟩ := isActiveOf_iff.mp secondActive
        have equal := same first firstMember second secondMember
          (firstUser.trans secondUser.symm) firstActive secondActive
        rw [listed, List.map_cons, List.map_cons] at ids
        exact absurd (equal ▸ List.mem_cons_self) (List.nodup_cons.mp ids).1

def owners (rows : List Subscription) : List (String × String) :=
  rows.map fun row => (row.id, row.userId)

theorem mem_owners {id userId : String} :
    (id, userId) ∈ owners rows ↔ ∃ row ∈ rows, row.id = id ∧ row.userId = userId := by
  unfold owners
  rw [List.mem_map]
  constructor
  · intro listed
    obtain ⟨row, member, same⟩ := listed
    exact ⟨row, member, congrArg Prod.fst same, congrArg Prod.snd same⟩
  · intro stored
    obtain ⟨row, member, named, user⟩ := stored
    exact ⟨row, member, Prod.ext named user⟩

theorem saveSubscription_owners (distinct : (rows.map Subscription.id).Nodup)
    (owned : (saved.id, saved.userId) ∈ owners rows) :
    owners (saveSubscription rows saved) = owners rows := by
  obtain ⟨stored, present, named, user⟩ := mem_owners.mp owned
  unfold owners saveSubscription
  rw [List.map_map]
  apply List.map_congr_left
  intro row member
  by_cases same : row.id = saved.id
  · have equal : row = stored :=
      List.inj_on_of_nodup_map distinct member present (same.trans named.symm)
    rw [Function.comp_apply, if_pos same]
    exact Prod.ext rfl (user.symm.trans (congrArg Subscription.userId equal.symm))
  · rw [Function.comp_apply, if_neg same]

theorem mem_saveSubscription (member : row ∈ saveSubscription rows saved) :
    (row.id = saved.id ∧ row.userId = saved.userId ∧ row.status = saved.status) ∨
      row ∈ rows ∧ row.id ≠ saved.id := by
  obtain ⟨old, present, same⟩ := List.mem_map.mp member
  split at same
  · rename_i named
    exact Or.inl (same ▸ ⟨named, rfl, rfl⟩)
  · rename_i other
    exact Or.inr (same ▸ ⟨present, other⟩)

theorem saveSubscription_mem_other (member : row ∈ rows) (other : row.id ≠ saved.id) :
    row ∈ saveSubscription rows saved :=
  List.mem_map.mpr ⟨row, member, if_neg other⟩

theorem saveSubscription_oneActive_iff (distinct : (rows.map Subscription.id).Nodup)
    (owned : (saved.id, saved.userId) ∈ owners rows) (single : OneActive rows) :
    OneActive (saveSubscription rows saved) ↔ (saved.status = .active →
      ∀ row ∈ rows, isActiveOf saved.userId row = true → row.id = saved.id) := by
  have ids := saveSubscription_ids rows saved
  rw [oneActive_iff (ids ▸ distinct)]
  constructor
  · intro same active row member rowActive
    by_contra other
    obtain ⟨user, rowActive⟩ := isActiveOf_iff.mp rowActive
    obtain ⟨stored, present, named, _⟩ := mem_owners.mp owned
    have written : saved.write stored ∈ saveSubscription rows saved :=
      List.mem_map.mpr ⟨stored, present, if_pos named⟩
    have equal := same row (saveSubscription_mem_other member other) (saved.write stored) written
      user rowActive active
    exact other (equal.trans named)
  · intro alone one oneMember other otherMember user oneActive otherActive
    have before := (oneActive_iff distinct).mp single
    rcases mem_saveSubscription oneMember with ⟨oneNamed, oneUser, oneStatus⟩ | ⟨oneOld, _⟩
    · rcases mem_saveSubscription otherMember with ⟨otherNamed, _, _⟩ | ⟨otherOld, _⟩
      · exact oneNamed.trans otherNamed.symm
      · have listed : isActiveOf saved.userId other = true :=
          isActiveOf_iff.mpr ⟨user.symm.trans oneUser, otherActive⟩
        exact oneNamed.trans (alone (oneStatus ▸ oneActive) other otherOld listed).symm
    · rcases mem_saveSubscription otherMember with
        ⟨otherNamed, otherUser, otherStatus⟩ | ⟨otherOld, _⟩
      · have listed : isActiveOf saved.userId one = true :=
          isActiveOf_iff.mpr ⟨user.trans otherUser, oneActive⟩
        exact (alone (otherStatus ▸ otherActive) one oneOld listed).trans otherNamed.symm
      · exact before one oneOld other otherOld user oneActive otherActive

theorem insert_oneActive_iff (distinct : (rows.map Subscription.id).Nodup)
    (single : OneActive rows) {draft : SubscriptionDraft} {drawn : String}
    (fresh : drawn ∉ rows.map Subscription.id) (now : Int) :
    OneActive (rows ++ [draft.row drawn now]) ↔
      ∀ row ∈ rows, isActiveOf draft.userId row = false := by
  have ids : ((rows ++ [draft.row drawn now]).map Subscription.id).Nodup := by
    rw [List.map_append]
    apply distinct.append (List.nodup_singleton _)
    intro id member same
    have named : id = drawn := List.mem_singleton.mp same
    exact fresh (named ▸ member)
  rw [oneActive_iff ids]
  constructor
  · intro same row member
    apply Bool.eq_false_iff.mpr
    intro rowActive
    obtain ⟨user, active⟩ := isActiveOf_iff.mp rowActive
    have named : row.id = drawn := same row (List.mem_append_left _ member) (draft.row drawn now)
      (List.mem_append_right _ (List.mem_singleton_self _)) user active rfl
    exact fresh (named ▸ List.mem_map_of_mem member)
  · intro alone one oneMember other otherMember user oneActive otherActive
    have before := (oneActive_iff distinct).mp single
    rcases List.mem_append.mp oneMember with oneOld | oneNew
    · rcases List.mem_append.mp otherMember with otherOld | otherNew
      · exact before one oneOld other otherOld user oneActive otherActive
      · rw [List.mem_singleton.mp otherNew] at user
        have listed : isActiveOf draft.userId one = true := isActiveOf_iff.mpr ⟨user, oneActive⟩
        rw [alone one oneOld] at listed
        cases listed
    · rcases List.mem_append.mp otherMember with otherOld | otherNew
      · rw [List.mem_singleton.mp oneNew] at user
        have listed : isActiveOf draft.userId other = true :=
          isActiveOf_iff.mpr ⟨user.symm, otherActive⟩
        rw [alone other otherOld] at listed
        cases listed
      · rw [List.mem_singleton.mp oneNew, List.mem_singleton.mp otherNew]

end Rows

/-! ### Calls that nothing runs into -/

theorem finalize_owner (subscription : SubscriptionEntity) :
    (finalizeTrialTransition subscription).id = subscription.id ∧
      (finalizeTrialTransition subscription).userId = subscription.userId := by
  unfold finalizeTrialTransition
  split
  · exact ⟨rfl, rfl⟩
  · exact ⟨rfl, rfl⟩

def ReadOutcome.subscription : ReadOutcome → SubscriptionEntity
  | .expired saved | .finalised saved | .current saved => saved

theorem readOutcome_owner (now : Int) (subscription : SubscriptionEntity) :
    (readOutcome now subscription).subscription.id = subscription.id ∧
      (readOutcome now subscription).subscription.userId = subscription.userId := by
  unfold readOutcome
  by_cases ended : hasEnded now subscription = true
  · rw [if_pos ended]
    exact ⟨rfl, rfl⟩
  · rw [if_neg ended]
    cases subscription.trialEnd with
    | none => exact ⟨rfl, rfl⟩
    | some trialEndsAt =>
        dsimp only
        by_cases runs : now < trialEndsAt
        · rw [if_pos runs]
          exact ⟨rfl, rfl⟩
        · rw [if_neg runs]
          exact finalize_owner subscription

section Alone

variable {rows : List Subscription} {now : Int} {userId : String}

theorem currentSubscription_ids (rows : List Subscription) (now : Int) (userId : String) :
    (currentSubscription rows now userId).1.map Subscription.id = rows.map Subscription.id := by
  unfold currentSubscription
  cases findActive rows userId with
  | none => rfl
  | some found =>
      dsimp only
      cases readOutcome now found.load with
      | expired saved => exact saveSubscription_ids rows saved
      | finalised saved => exact saveSubscription_ids rows saved
      | current current => rfl

end Alone

/-! ### What a call refers to -/

def refersTo : SubscriptionCall → Option (String × String)
  | .found _ _ (some subscription) | .lookedUp _ (some subscription) =>
      some (subscription.id, subscription.userId)
  | .settling _ _ saved _ | .saving saved _ => some (saved.id, saved.userId)
  | .settled _ _ (some current) => some (current.id, current.userId)
  | _ => none

structure Tracked (state : Subscribing) : Prop where
  distinct : (state.rows.map Subscription.id).Nodup
  single : OneActive state.rows
  owned : ∀ call underWay key, state.calls call = some underWay →
    refersTo underWay = some key → key ∈ owners state.rows

theorem orderly_tracked {state : Subscribing} (orderly : Orderly state) : Tracked state := by
  refine ⟨orderly.distinct, orderly.oneActive, ?_⟩
  intro call underWay key running
  rw [orderly.idle call] at running
  cases running

theorem resolve_refersTo {now : Int} {userId : String} {purpose : Purpose}
    {current : Option SubscriptionEntity} {next : SubscriptionCall} {key : String × String}
    (resolved : resolve now userId purpose current = some next)
    (refers : refersTo next = some key) :
    ∃ subscription, current = some subscription ∧ key = (subscription.id, subscription.userId) := by
  unfold resolve at resolved
  split at resolved
  · rename_i existing
    cases resolved
    cases refers
    exact ⟨existing, rfl, rfl⟩
  · cases resolved
    cases refers
  · obtain ⟨ending, _, same⟩ := Option.map_eq_some_iff.mp resolved
    subst same
    cases refers
  · rename_i subscription
    cases resolved
    cases refers
    exact ⟨subscription, rfl, rfl⟩
  · cases resolved

theorem goOn_refersTo {addDays : Int → Int → Int} {now : Int} {underWay next : SubscriptionCall}
    {key : String × String} (moved : goOn addDays now underWay = some (some next))
    (refers : refersTo next = some key) : refersTo underWay = some key := by
  unfold goOn at moved
  split at moved
  · obtain ⟨_, absent, _⟩ := resolve_refersTo (Option.some.inj moved) refers
    cases absent
  · rename_i subscription
    have owner := readOutcome_owner now subscription.load
    have going := Option.some.inj moved
    split at going
    · rename_i saved outcome
      rw [outcome] at owner
      cases going
      cases refers
      exact congrArg some (Prod.ext owner.1.symm owner.2.symm)
    · rename_i saved outcome
      rw [outcome] at owner
      cases going
      cases refers
      exact congrArg some (Prod.ext owner.1.symm owner.2.symm)
    · rename_i current outcome
      rw [outcome] at owner
      obtain ⟨same, isCurrent, named⟩ := resolve_refersTo going refers
      cases isCurrent
      rw [named]
      exact congrArg some (Prod.ext owner.1.symm owner.2.symm)
  · obtain ⟨subscription, isCurrent, named⟩ := resolve_refersTo (Option.some.inj moved) refers
    rw [isCurrent, named]
    rfl
  · cases moved
  · have going := Option.some.inj moved
    split at going
    · cases going
    · cases going
      cases refers
    · cases going
      cases refers
  · cases moved
    cases refers
  · cases moved
    exact refers
  · cases moved
    cases refers
  · cases moved

/-! ### Steps -/

section Steps

variable {addDays : Int → Int → Int} {state after : Subscribing}

variable {entered : Option SubscriptionCall}

theorem enter_tracked (tracked : Tracked state) (call : Nat)
    (sound : ∀ underWay key, entered = some underWay → refersTo underWay = some key →
      key ∈ owners state.rows) : Tracked (state.enter call entered) := by
  refine ⟨tracked.distinct, tracked.single, ?_⟩
  intro other underWay key running refers
  have calls : Function.update state.calls call entered other = some underWay := running
  by_cases same : other = call
  · subst same
    rw [Function.update_self] at calls
    exact sound underWay key calls refers
  · rw [Function.update_of_ne same] at calls
    exact tracked.owned other underWay key calls refers

theorem withRows_tracked (tracked : Tracked state) {rows : List Subscription}
    (distinct : (rows.map Subscription.id).Nodup) (single : OneActive rows)
    (kept : ∀ key ∈ owners state.rows, key ∈ owners rows) : Tracked (state.withRows rows) := by
  refine ⟨distinct, single, ?_⟩
  intro call underWay key running refers
  exact kept key (tracked.owned call underWay key running refers)

def Quiet : SubscribingStep → Prop
  | .save _ | .insert _ _ => False
  | _ => True

inductive QuietStep (state : Subscribing) : Subscribing → Prop
  | elapses (milliseconds : Nat) :
      QuietStep state { state with now := state.now + milliseconds }
  | stays : QuietStep state state
  | enters (call : Nat) (entered : Option SubscriptionCall)
      (sound : ∀ underWay key, entered = some underWay → refersTo underWay = some key →
        key ∈ owners state.rows ∨
          ∃ earlier, state.calls call = some earlier ∧ refersTo earlier = some key) :
      QuietStep state (state.enter call entered)

theorem QuietStep.enters_plain (call : Nat)
    (plain : ∀ underWay, entered = some underWay → refersTo underWay = none) :
    QuietStep state (state.enter call entered) := by
  apply QuietStep.enters
  intro underWay key same refers
  rw [plain underWay same] at refers
  cases refers

theorem step_quiet {label : SubscribingStep} (quiet : Quiet label)
    (moved : state.step addDays label = some after) : QuietStep state after := by
  cases label with
  | elapse milliseconds =>
      cases moved
      exact .elapses milliseconds
  | begin call userId request =>
      unfold Subscribing.step at moved
      dsimp only at moved
      split at moved
      · cases moved
      · split at moved
        · cases moved
          exact .stays
        · cases moved
          apply QuietStep.enters_plain
          intro underWay same
          cases same
          rfl
  | beginAccept call userId giftId =>
      unfold Subscribing.step at moved
      dsimp only at moved
      split at moved
      · cases moved
      · cases moved
        apply QuietStep.enters_plain
        intro underWay same
        cases same
        rfl
  | find call =>
      unfold Subscribing.step at moved
      dsimp only at moved
      split at moved
      · rename_i purpose userId running
        cases moved
        apply QuietStep.enters
        intro underWay key same refers
        cases same
        apply Or.inl
        cases newest : findActive state.rows userId with
        | none =>
            rw [newest] at refers
            cases refers
        | some found =>
            rw [newest] at refers
            cases refers
            exact mem_owners.mpr ⟨found, (findActive_mem newest).1, rfl, rfl⟩
      · cases moved
        apply QuietStep.enters_plain
        intro underWay same
        cases same
        rfl
      · cases moved
  | pick call chosen =>
      unfold Subscribing.step at moved
      dsimp only at moved
      split at moved
      · split at moved
        · rename_i gift running choice
          cases moved
          apply QuietStep.enters
          intro underWay key same refers
          cases same
          cases chosen with
          | none => cases refers
          | some row =>
              cases refers
              exact Or.inl (mem_owners.mpr ⟨row, choice.1, rfl, rfl⟩)
        · cases moved
      · cases moved
  | goOn call =>
      unfold Subscribing.step at moved
      dsimp only at moved
      split at moved
      · rename_i underWay running
        obtain ⟨next, going, same⟩ := Option.map_eq_some_iff.mp moved
        subst same
        apply QuietStep.enters
        intro entered key isNext refers
        subst isNext
        exact Or.inr ⟨underWay, running, goOn_refersTo going refers⟩
      · cases moved
  | abandon call =>
      cases moved
      apply QuietStep.enters_plain
      intro underWay same
      cases same
  | save call => exact absurd quiet id
  | insert call drawn => exact absurd quiet id

theorem QuietStep.rows (step : QuietStep state after) : after.rows = state.rows := by
  cases step with
  | elapses milliseconds => rfl
  | stays => rfl
  | enters call entered sound => rfl

theorem QuietStep.tracked (step : QuietStep state after) (tracked : Tracked state) :
    Tracked after := by
  cases step with
  | elapses milliseconds => exact ⟨tracked.distinct, tracked.single, tracked.owned⟩
  | stays => exact tracked
  | enters call entered sound =>
      apply enter_tracked tracked
      intro underWay key same refers
      rcases sound underWay key same refers with owned | ⟨earlier, running, referred⟩
      · exact owned
      · exact tracked.owned call earlier key running referred

theorem saved_owned (tracked : Tracked state) {call : Nat} {underWay : SubscriptionCall}
    {saved : SubscriptionEntity} (running : state.calls call = some underWay)
    (saves : savedBy underWay = some saved) : (saved.id, saved.userId) ∈ owners state.rows := by
  apply tracked.owned call underWay _ running
  cases underWay with
  | settling purpose userId entity kept =>
      cases saves
      rfl
  | saving entity gift =>
      cases saves
      rfl
  | _ => cases saves

theorem save_tracked (tracked : Tracked state) {saved : SubscriptionEntity}
    (owned : (saved.id, saved.userId) ∈ owners state.rows)
    (single : OneActive (saveSubscription state.rows saved)) :
    Tracked (state.withRows (saveSubscription state.rows saved)) := by
  apply withRows_tracked tracked _ single
  · intro key member
    rw [saveSubscription_owners tracked.distinct owned]
    exact member
  · rw [saveSubscription_ids]
    exact tracked.distinct

theorem insert_tracked (tracked : Tracked state) {draft : SubscriptionDraft} {drawn : String}
    (fresh : drawn ∉ state.rows.map Subscription.id)
    (single : OneActive (state.rows ++ [draft.row drawn state.now])) :
    Tracked (state.withRows (state.rows ++ [draft.row drawn state.now])) := by
  apply withRows_tracked tracked _ single
  · intro key member
    unfold owners
    rw [List.map_append]
    exact List.mem_append_left _ member
  · rw [List.map_append]
    apply tracked.distinct.append (List.nodup_singleton _)
    intro id member same
    have named : id = drawn := List.mem_singleton.mp same
    exact fresh (named ▸ member)

theorem stored_refersTo {gift : Option GiftSubscription} {underWay : SubscriptionCall}
    {key : String × String} (entered : gift.map .stored = some underWay)
    (refers : refersTo underWay = some key) : False := by
  obtain ⟨stored, _, same⟩ := Option.map_eq_some_iff.mp entered
  subst same
  cases refers

theorem step_tracked {label : SubscribingStep} (tracked : Tracked state)
    (keeps : KeepsOneActive addDays state label)
    (moved : state.step addDays label = some after) : Tracked after := by
  have single := keeps after moved
  have quietly : Quiet label → Tracked after :=
    fun quiet => (step_quiet quiet moved).tracked tracked
  cases label with
  | save call =>
      unfold Subscribing.step at moved
      dsimp only at moved
      split at moved
      · rename_i purpose userId saved kept running
        cases moved
        have owned := saved_owned tracked running rfl
        apply enter_tracked (save_tracked tracked owned single)
        intro underWay key entered refers
        cases entered
        cases kept with
        | false => cases refers
        | true =>
            cases refers
            exact (saveSubscription_owners tracked.distinct owned).symm ▸ owned
      · rename_i saved gift running
        cases moved
        have owned := saved_owned tracked running rfl
        apply enter_tracked (save_tracked tracked owned single)
        exact fun underWay key entered refers => absurd (stored_refersTo entered refers) id
      · rename_i gift running
        cases moved
        have same : Tracked (state.withGifts
            (saveRow GiftSubscription.id gift state.tables.gifts)) :=
          ⟨tracked.distinct, tracked.single, tracked.owned⟩
        apply enter_tracked same
        intro underWay key entered
        cases entered
      · cases moved
  | insert call drawn =>
      unfold Subscribing.step at moved
      dsimp only at moved
      split at moved
      · rename_i draft gift running
        split at moved
        · cases moved
        · rename_i fresh
          cases moved
          apply enter_tracked (insert_tracked tracked fresh single)
          exact fun underWay key entered refers => absurd (stored_refersTo entered refers) id
      · cases moved
  | elapse milliseconds => exact quietly trivial
  | begin call userId request => exact quietly trivial
  | beginAccept call userId giftId => exact quietly trivial
  | find call => exact quietly trivial
  | pick call chosen => exact quietly trivial
  | goOn call => exact quietly trivial
  | abandon call => exact quietly trivial

theorem save_keeps_iff (tracked : Tracked state) (call : Nat) :
    KeepsOneActive addDays state (.save call) ↔ StoresAlone state (.save call) := by
  constructor
  · intro keeps underWay saved running saves
    have owned := saved_owned tracked running saves
    apply (saveSubscription_oneActive_iff tracked.distinct owned tracked.single).mp
    cases underWay with
    | settling purpose userId entity kept =>
        cases saves
        have moved : state.step addDays (.save call) =
            some ((state.withRows (saveSubscription state.rows saved)).enter call
              (some (.settled purpose userId (if kept then some saved else none)))) := by
          dsimp only [Subscribing.step]
          rw [running]
        exact keeps _ moved
    | saving entity gift =>
        cases saves
        have moved : state.step addDays (.save call) =
            some ((state.withRows (saveSubscription state.rows saved)).enter call
              (gift.map .stored)) := by
          dsimp only [Subscribing.step]
          rw [running]
        exact keeps _ moved
    | _ => cases saves
  · intro alone after moved
    have stays : ∀ underWay saved, state.calls call = some underWay →
        savedBy underWay = some saved → OneActive (saveSubscription state.rows saved) := by
      intro underWay saved running saves
      have owned := saved_owned tracked running saves
      exact (saveSubscription_oneActive_iff tracked.distinct owned tracked.single).mpr
        (alone underWay saved running saves)
    unfold Subscribing.step at moved
    dsimp only at moved
    split at moved
    · rename_i purpose userId saved kept running
      cases moved
      exact stays _ saved running rfl
    · rename_i saved gift running
      cases moved
      exact stays _ saved running rfl
    · cases moved
      exact tracked.single
    · cases moved

theorem insert_keeps_iff (tracked : Tracked state) (call : Nat) (drawn : String) :
    KeepsOneActive addDays state (.insert call drawn) ↔
      StoresAlone state (.insert call drawn) := by
  constructor
  · intro keeps draft gift running fresh
    apply (insert_oneActive_iff tracked.distinct tracked.single fresh state.now).mp
    have moved : state.step addDays (.insert call drawn) =
        some ((state.withRows (state.rows ++ [draft.row drawn state.now])).enter call
          (gift.map .stored)) := by
      dsimp only [Subscribing.step]
      rw [running]
      exact if_neg fresh
    exact keeps _ moved
  · intro alone after moved
    unfold Subscribing.step at moved
    dsimp only at moved
    split at moved
    · rename_i draft gift running
      split at moved
      · cases moved
      · rename_i fresh
        cases moved
        exact (insert_oneActive_iff tracked.distinct tracked.single fresh state.now).mpr
          (alone draft gift running fresh)
    · cases moved

theorem keepsOneActive_iff (tracked : Tracked state) (label : SubscribingStep) :
    KeepsOneActive addDays state label ↔ StoresAlone state label := by
  have unstored : Quiet label → KeepsOneActive addDays state label := by
    intro quiet after moved
    rw [(step_quiet quiet moved).rows]
    exact tracked.single
  cases label with
  | save call => exact save_keeps_iff tracked call
  | insert call drawn => exact insert_keeps_iff tracked call drawn
  | elapse milliseconds => exact iff_of_true (unstored trivial) trivial
  | begin call userId request => exact iff_of_true (unstored trivial) trivial
  | beginAccept call userId giftId => exact iff_of_true (unstored trivial) trivial
  | find call => exact iff_of_true (unstored trivial) trivial
  | pick call chosen => exact iff_of_true (unstored trivial) trivial
  | goOn call => exact iff_of_true (unstored trivial) trivial
  | abandon call => exact iff_of_true (unstored trivial) trivial

/-- Along a run no user has two active subscriptions exactly if every row is stored as active
while its user has no other active one. -/
theorem subscribingMachine_oneActive_iff (addDays : Int → Int → Int) (state : Subscribing)
    (orderly : Orderly state) (labels : List SubscribingStep) :
    (subscribingMachine addDays).Permits (KeepsOneActive addDays) state labels ↔
      (subscribingMachine addDays).Permits StoresAlone state labels := by
  apply Machine.permits_iff Tracked (fun _ => True) _ _ labels (orderly_tracked orderly)
    fun _ _ => trivial
  · exact fun before label tracked _ => keepsOneActive_iff tracked label
  · exact fun before label after tracked _ keeps moved => step_tracked tracked keeps moved

end Steps

/-! A user without a subscription, to whom one has been given. -/

def pendingGift : GiftSubscription := ⟨"g1", "u1", .label, some 30, .pending, none, none⟩

def unsubscribed : Subscribing := ⟨0, ⟨[], [pendingGift]⟩, fun _ => none⟩

theorem unsubscribed_orderly : Orderly unsubscribed :=
  ⟨fun _ => rfl, List.nodup_nil, fun _ => Nat.zero_le 1⟩

/-- One acceptance. -/
theorem unsubscribed_accepted :
    (subscribingMachine fun date _ => date).Permits (KeepsOneActive fun date _ => date)
      unsubscribed [.beginAccept 0 (some "u1") "g1", .find 0, .goOn 0, .pick 0 none, .goOn 0,
        .insert 0 "s1"] := by
  apply (subscribingMachine_oneActive_iff _ unsubscribed unsubscribed_orderly _).mpr
  refine ⟨trivial, trivial, trivial, trivial, trivial, ?_, trivial⟩
  intro draft given _ _ row member
  exact absurd member List.not_mem_nil

/-- Two purchases that both look before the first of them inserts. -/
def bothLooked : List SubscribingStep :=
  [.begin 0 "u1" (.upgrade "label" none), .begin 1 "u1" (.upgrade "label" none), .find 0,
    .find 1, .goOn 0, .goOn 1, .insert 0 "s1"]

theorem unsubscribed_bought_twice :
    Orderly unsubscribed ∧
      ¬(subscribingMachine fun date _ => date).Permits (KeepsOneActive fun date _ => date)
        unsubscribed (bothLooked ++ [.insert 1 "s2"]) := by
  refine ⟨unsubscribed_orderly, ?_⟩
  intro permitted
  have twice : (((subscribingMachine fun date _ => date).run unsubscribed bothLooked).bind
      fun state => (state.step (fun date _ => date) (.insert 1 "s2")).map fun after =>
        (after.rows.filter (isActiveOf "u1")).length) = some 2 := by decide +kernel
  obtain ⟨state, executed, second⟩ := Option.bind_eq_some_iff.mp twice
  obtain ⟨after, moved, two⟩ := Option.map_eq_some_iff.mp second
  have keeps := (Machine.Permits.later permitted executed).1
  have bound := keeps after moved "u1"
  rw [two] at bound
  omega

end AudioBlock.Subscriptions
