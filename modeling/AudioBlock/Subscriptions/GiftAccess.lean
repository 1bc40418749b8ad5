/-
What a recipient may use after the acceptance of a gift, against what was held before.

Without an end date a subscription or a gift does not end.  A day that is given may count as
one of the calendar or as 24 hours, whichever ends first.
-/
import AudioBlock.Foundation.Newest
import AudioBlock.Subscriptions.SubscriptionService
import AudioBlock.Subscriptions.LazyFinalisation

namespace AudioBlock.Subscriptions

open AudioBlock.Foundation AudioBlock.Songs

/-- The one end is not earlier than the other. -/
def NotEarlier : Option Int → Option Int → Prop
  | none, _ => True
  | some _, none => False
  | some later, some earlier => earlier ≤ later

instance : (later earlier : Option Int) → Decidable (NotEarlier later earlier)
  | none, _ => isTrue trivial
  | some _, none => isFalse id
  | some later, some earlier => inferInstanceAs (Decidable (earlier ≤ later))

def GiftSubscription.lasts (addDays : Int → Int → Int) (now : Int) (gift : GiftSubscription) :
    Option Int :=
  gift.days.map fun days => min (addDays now days) (now + days * 86400000)

structure KeepsAccess (addDays : Int → Int → Int) (now : Int) (gift : GiftSubscription)
    (held : Option SubscriptionEntity) (current : SubscriptionEntity) : Prop where
  given : gift.tier.rank ≤ current.tier.rank
  lasts : NotEarlier current.endDate (gift.lasts addDays now)
  kept : ∀ before ∈ held, before.tier.rank ≤ current.tier.rank
  ends : ∀ before ∈ held, before.tier = current.tier → NotEarlier current.endDate before.endDate

/-- What a read answers, if it answers at all. -/
def heldBy (rows : List Subscription) (now : Int) (userId : String) : Option SubscriptionEntity :=
  (currentSubscription rows now userId).2

structure GiftRequest where
  now : Int
  drawn : String
  userId : Option String
  giftId : String
  chosen : Option Subscription

def acceptRequest (addDays : Int → Int → Int) (tables : GiftTables) (request : GiftRequest) :
    GiftTables × Except AppError (GiftSubscription × SubscriptionEntity) :=
  acceptGift addDays tables request.now request.drawn request.userId request.giftId request.chosen

def afterRequests (addDays : Int → Int → Int) (tables : GiftTables)
    (requests : List GiftRequest) : GiftTables :=
  requests.foldl (fun before request => (acceptRequest addDays before request).1) tables

def Consumed (addDays : Int → Int → Int) (tables : GiftTables) (giftId : String) : Prop :=
  ∀ requests request, request.giftId = giftId →
    (acceptRequest addDays (afterRequests addDays tables requests) request).2.toOption = none

def AccessKept (addDays : Int → Int → Int) (tables : GiftTables) (request : GiftRequest)
    (gift : GiftSubscription) : Prop :=
  let after := (acceptRequest addDays tables request).1
  (∃ current, reported after.subscriptions request.now gift.recipientId = .ok (some current) ∧
      KeepsAccess addDays request.now gift
        (heldBy tables.subscriptions request.now gift.recipientId) current) ∧
    Consumed addDays after gift.id

/-! ### The condition -/

def reactivated (rows : List Subscription) (chosen : Subscription) : List Subscription :=
  rows.map fun row => if row.id = chosen.id then { row with status := .active } else row

def Subscription.servedEnd (now : Int) (row : Subscription) : Option Int :=
  row.endDate.or ((row.trialEndsAt.filter fun trialEndsAt => decide (trialEndsAt ≤ now)).map
    (· + DEFAULT_BILLING_PERIOD_MS))

/-- The row that the gift is written over grants it, and more than was held. -/
structure Renews (addDays : Int → Int → Int) (now : Int) (gift : GiftSubscription)
    (held : Option SubscriptionEntity) (chosen : Subscription) : Prop where
  kept : ∀ before ∈ held, before.tier.rank ≤ gift.tier.rank
  endless : gift.days = none → chosen.servedEnd now = none
  ahead : ∀ days ∈ gift.days, now ≤ addDays now days
  ends : ∀ days ∈ gift.days, ∀ before ∈ held, before.tier = gift.tier →
    NotEarlier (some (addDays now days)) before.endDate

def GiftSuffices (addDays : Int → Int → Int) (rows : List Subscription) (now : Int)
    (gift : GiftSubscription) : Option Subscription → Prop
  | none => ∀ days ∈ gift.days, 0 ≤ days
  | some chosen =>
      ∀ newest ∈ findActive (reactivated rows chosen) gift.recipientId,
        (newest.id = chosen.id →
            Renews addDays now gift (heldBy rows now gift.recipientId) chosen) ∧
          (newest.id ≠ chosen.id →
            ¬Overdue now newest ∧ gift.tier.rank ≤ newest.tier.rank ∧
              NotEarlier (newest.servedEnd now) (gift.lasts addDays now))

/-! ### A gift is consumed once -/

section Once

variable {addDays : Int → Int → Int} {tables : GiftTables} {request : GiftRequest}
  {gift : GiftSubscription}

def Spent (tables : GiftTables) (giftId : String) : Prop :=
  ∃ gift, findRow GiftSubscription.id giftId tables.gifts = some gift ∧ gift.status = .accepted

theorem decideGift_spent {now : Int} {userId : Option String} (spent : gift.status = .accepted) :
    ∃ failure, decideGift now userId gift = .refused failure := by
  unfold decideGift
  by_cases stranger : userId ≠ some gift.recipientId
  · exact ⟨_, if_pos stranger⟩
  · have closed : gift.status ≠ .pending := by
      rw [spent]
      decide
    rw [if_neg stranger]
    exact ⟨_, if_pos closed⟩

theorem acceptRequest_spent (spent : Spent tables request.giftId) :
    (acceptRequest addDays tables request).1 = tables ∧
      (acceptRequest addDays tables request).2.toOption = none := by
  obtain ⟨gift, found, accepted⟩ := spent
  obtain ⟨failure, refused⟩ :=
    @decideGift_spent gift request.now request.userId accepted
  unfold acceptRequest acceptGift
  rw [found]
  dsimp only
  rw [refused]
  exact ⟨rfl, rfl⟩

theorem acceptRequest_gifts :
    (acceptRequest addDays tables request).1.gifts = tables.gifts ∨
      ∃ saved, saved.id = request.giftId ∧
        (acceptRequest addDays tables request).1.gifts =
          saveRow GiftSubscription.id saved tables.gifts := by
  unfold acceptRequest acceptGift
  cases found : findRow GiftSubscription.id request.giftId tables.gifts with
  | none => exact .inl rfl
  | some gift =>
      have named := (findRow_mem found).2
      dsimp only
      cases decision : decideGift request.now request.userId gift with
      | refused failure => exact .inl rfl
      | expired saved =>
          refine .inr ⟨saved, ?_, rfl⟩
          unfold decideGift at decision
          split at decision
          · cases decision
          · split at decision
            · cases decision
            · split at decision
              · cases decision
                exact named
              · cases decision
      | accepted =>
          refine .inr ⟨acceptedGift request.now gift, named, ?_⟩
          cases request.chosen with
          | none => rfl
          | some chosen => rfl

theorem Spent.next {giftId : String} (spent : Spent tables giftId) :
    Spent (acceptRequest addDays tables request).1 giftId := by
  by_cases own : request.giftId = giftId
  · rw [(acceptRequest_spent (own ▸ spent)).1]
    exact spent
  · obtain ⟨gift, found, accepted⟩ := spent
    refine ⟨gift, ?_, accepted⟩
    rcases @acceptRequest_gifts addDays tables request with same | ⟨saved, named, same⟩
    · rw [same]
      exact found
    · rw [same, findRow_saveRow_other _ (named ▸ Ne.symm own)]
      exact found

theorem Spent.consumed {giftId : String} (spent : Spent tables giftId) :
    Consumed addDays tables giftId := by
  intro requests request named
  have later : Spent (afterRequests addDays tables requests) giftId := by
    unfold afterRequests
    induction requests generalizing tables with
    | nil => exact spent
    | cons first rest ih => exact ih spent.next
  exact (acceptRequest_spent (named ▸ later)).2

end Once

/-! ### What a read answers -/

section Read

variable {rows : List Subscription} {userId : String} {now : Int} {found : Subscription}

theorem heldBy_overdue (newest : findActive rows userId = some found)
    (overdue : Overdue now found) : heldBy rows now userId = none := by
  unfold heldBy
  rw [read_overdue newest overdue]

theorem servedEnd_current
    (trial : ∀ trialEndsAt, found.trialEndsAt = some trialEndsAt → now < trialEndsAt) :
    found.servedEnd now = found.endDate := by
  unfold Subscription.servedEnd
  cases stored : found.trialEndsAt with
  | none => exact Option.or_none
  | some trialEndsAt =>
      have later : ¬trialEndsAt ≤ now := Int.not_le.2 (trial trialEndsAt stored)
      rw [Option.filter_some, if_neg (by simpa using later)]
      exact Option.or_none

theorem servedEnd_elapsed {trialEndsAt : Int} (trial : found.trialEndsAt = some trialEndsAt)
    (elapsed : trialEndsAt ≤ now) :
    found.servedEnd now = some (found.endDate.getD (trialEndsAt + DEFAULT_BILLING_PERIOD_MS)) := by
  unfold Subscription.servedEnd
  rw [trial, Option.filter_some, if_pos (decide_eq_true elapsed)]
  cases found.endDate with
  | none => rfl
  | some endDate => rfl

theorem heldBy_running (newest : findActive rows userId = some found) (runs : ¬Overdue now found) :
    ∃ current, heldBy rows now userId = some current ∧ current.tier = found.tier ∧
      current.endDate = found.servedEnd now := by
  unfold heldBy
  by_cases elapsed : ∃ trialEndsAt, found.trialEndsAt = some trialEndsAt ∧ trialEndsAt ≤ now
  · obtain ⟨trialEndsAt, trial, passed⟩ := elapsed
    rw [read_finalised newest runs trial passed, finalize_eq trial, servedEnd_elapsed trial passed]
    exact ⟨_, rfl, rfl, rfl⟩
  · have going : ∀ trialEndsAt, found.trialEndsAt = some trialEndsAt → now < trialEndsAt :=
      fun trialEndsAt trial => Int.not_le.1 fun passed => elapsed ⟨trialEndsAt, trial, passed⟩
    rw [read_current newest runs going, servedEnd_current going]
    exact ⟨_, rfl, rfl, rfl⟩

end Read

/-! ### The rows after the acceptance -/

section Rows

variable {rows : List Subscription} {userId : String} {now : Int} {chosen newest : Subscription}

theorem findActive_eq : findActive rows userId =
    Foundation.newest Subscription.createdAt (rows.filter (isActiveOf userId)) := rfl

section

variable (distinct : (rows.map Subscription.id).Nodup) (member : chosen ∈ rows)
include distinct member

theorem mem_reactivated {row : Subscription} (present : row ∈ reactivated rows chosen) :
    row.id = chosen.id ∧ row = { chosen with status := .active } ∨
      row.id ≠ chosen.id ∧ row ∈ rows := by
  obtain ⟨old, stored, same⟩ := List.mem_map.1 present
  by_cases named : old.id = chosen.id
  · have itself : old = chosen := List.inj_on_of_nodup_map distinct stored member named
    rw [if_pos named, itself] at same
    exact .inl ⟨same ▸ rfl, same.symm⟩
  · rw [if_neg named] at same
    exact .inr ⟨same ▸ named, same ▸ stored⟩

theorem findActive_gifted (user : chosen.userId = userId) {saved : SubscriptionEntity}
    (named : saved.id = chosen.id) (owner : saved.userId = userId)
    (active : saved.status = .active) :
    findActive (saveSubscription rows saved) userId =
      (findActive (reactivated rows chosen) userId).map fun row =>
        if row.id = chosen.id then saved.write row else row := by
  have written : saveSubscription rows saved = (reactivated rows chosen).map fun row =>
      if row.id = chosen.id then saved.write row else row := by
    unfold saveSubscription reactivated
    rw [List.map_map]
    apply List.map_congr_left
    intro row _
    by_cases same : row.id = chosen.id
    · rw [Function.comp_apply, if_pos (same.trans named.symm), if_pos same]
      exact (if_pos same).symm
    · rw [Function.comp_apply, if_neg (named ▸ same), if_neg same]
      exact (if_neg same).symm
  have chosenActive : ∀ row ∈ reactivated rows chosen, (isActiveOf userId ∘ fun row =>
      if row.id = chosen.id then saved.write row else row) row = isActiveOf userId row := by
    intro row present
    rcases mem_reactivated distinct member present with ⟨same, rfl⟩ | ⟨other, _⟩
    · have before : isActiveOf userId { chosen with status := .active } = true :=
        Bool.and_eq_true_iff.2 ⟨decide_eq_true user, rfl⟩
      have after : isActiveOf userId (saved.write { chosen with status := .active }) = true :=
        Bool.and_eq_true_iff.2 ⟨decide_eq_true owner, decide_eq_true active⟩
      rw [Function.comp_apply, if_pos same, before, after]
    · rw [Function.comp_apply, if_neg other]
  rw [written, findActive_eq, List.filter_map, List.filter_congr chosenActive, newest_map]
  · rfl
  · intro row _
    split
    · rfl
    · rfl

theorem findActive_other (found : findActive (reactivated rows chosen) userId = some newest)
    (other : newest.id ≠ chosen.id) : findActive rows userId = some newest := by
  by_cases active : chosen.status = .active
  · have same : reactivated rows chosen = rows := by
      have kept : ∀ row ∈ rows, (if row.id = chosen.id then { row with status := .active }
          else row) = id row := by
        intro row stored
        by_cases named : row.id = chosen.id
        · have itself := List.inj_on_of_nodup_map distinct stored member named
          rw [if_pos named, itself, ← active]
          rfl
        · exact if_neg named
      unfold reactivated
      rw [List.map_congr_left kept, List.map_id]
    rw [same] at found
    exact found
  · have without : (reactivated rows chosen |>.filter (isActiveOf userId)).filter
        (fun row => decide (row.id ≠ chosen.id)) = rows.filter (isActiveOf userId) := by
      have inactive : isActiveOf userId chosen = false :=
        Bool.and_eq_false_iff.2 (.inr (decide_eq_false active))
      have different : ∀ row ∈ rows, isActiveOf userId row = true → row.id ≠ chosen.id := by
        intro row stored rowActive named
        rw [List.inj_on_of_nodup_map distinct stored member named, inactive] at rowActive
        cases rowActive
      have views : ∀ row ∈ rows, ((fun row => decide (row.id ≠ chosen.id) && isActiveOf userId row) ∘
          fun row => if row.id = chosen.id then { row with status := .active } else row) row =
            isActiveOf userId row := by
        intro row stored
        by_cases named : row.id = chosen.id
        · rw [List.inj_on_of_nodup_map distinct stored member named, inactive,
            Function.comp_apply, if_pos rfl]
          exact Bool.and_eq_false_iff.2 (.inl (decide_eq_false (not_not_intro rfl)))
        · rw [Function.comp_apply, if_neg named, decide_eq_true named, Bool.true_and]
      unfold reactivated
      rw [List.filter_filter, List.filter_map, List.filter_congr views]
      conv_rhs => rw [← List.map_id (rows.filter (isActiveOf userId))]
      apply List.map_congr_left
      intro row stored
      obtain ⟨inRows, rowActive⟩ := List.mem_filter.1 stored
      exact if_neg (different row inRows rowActive)
    rw [findActive_eq, ← without]
    exact newest_filter _ found (decide_eq_true other)

end

end Rows

/-! ### The acceptance -/

section Acceptance

variable {addDays : Int → Int → Int} {tables : GiftTables} {request : GiftRequest}
  {gift : GiftSubscription}

variable {result : GiftSubscription × SubscriptionEntity} {held : Option SubscriptionEntity}
  {chosen : Subscription}

section

variable (succeeded : (acceptRequest addDays tables request).2 = .ok result)
  (found : findRow GiftSubscription.id request.giftId tables.gifts = some gift)
include succeeded found

theorem acceptRequest_ok :
    (acceptRequest addDays tables request).1.gifts =
        saveRow GiftSubscription.id (acceptedGift request.now gift) tables.gifts ∧
      (acceptRequest addDays tables request).1.subscriptions =
        match request.chosen with
        | some chosen =>
            saveSubscription tables.subscriptions (giftedEntity addDays request.now gift chosen)
        | none =>
            tables.subscriptions ++ [(giftedDraft request.now gift).row request.drawn request.now] := by
  unfold acceptRequest acceptGift at succeeded ⊢
  rw [found] at succeeded ⊢
  dsimp only at succeeded ⊢
  cases decision : decideGift request.now request.userId gift with
  | refused failure =>
      rw [decision] at succeeded
      cases succeeded
  | expired saved =>
      rw [decision] at succeeded
      cases succeeded
  | accepted =>
      dsimp only
      cases request.chosen with
      | none => exact ⟨rfl, rfl⟩
      | some chosen => exact ⟨rfl, rfl⟩

theorem spent_of_ok :
    Spent (acceptRequest addDays tables request).1 gift.id := by
  have named := (findRow_mem found).2
  refine ⟨acceptedGift request.now gift, ?_, rfl⟩
  rw [(acceptRequest_ok succeeded found).1, named]
  exact findRow_saveRow_same found (acceptedGift request.now gift) rfl

end

variable {rows : List Subscription} {now : Int} {drawn : String}

theorem NotEarlier.refl : ∀ ending : Option Int, NotEarlier ending ending
  | none => trivial
  | some ending => Int.le_refl ending

theorem readGrants_iff {found : Subscription} {userId : String}
    (newest : findActive rows userId = some found) :
    (∃ current, heldBy rows now userId = some current ∧ KeepsAccess addDays now gift held current) ↔
      ¬Overdue now found ∧ gift.tier.rank ≤ found.tier.rank ∧
        NotEarlier (found.servedEnd now) (gift.lasts addDays now) ∧
          ∀ before ∈ held, before.tier.rank ≤ found.tier.rank ∧
            (before.tier = found.tier → NotEarlier (found.servedEnd now) before.endDate) := by
  constructor
  · rintro ⟨current, answered, grants⟩
    have runs : ¬Overdue now found := by
      intro overdue
      rw [heldBy_overdue newest overdue] at answered
      cases answered
    obtain ⟨served, same, tier, ending⟩ := heldBy_running newest runs
    obtain rfl := Option.some.inj (same.symm.trans answered)
    refine ⟨runs, tier ▸ grants.given, ending ▸ grants.lasts, fun before prior => ⟨?_, ?_⟩⟩
    · exact tier ▸ grants.kept before prior
    · exact fun sameTier => ending ▸ grants.ends before prior (sameTier.trans tier.symm)
  · rintro ⟨runs, given, lasts, prior⟩
    obtain ⟨served, same, tier, ending⟩ := heldBy_running newest runs
    refine ⟨served, same, ⟨tier ▸ given, ending ▸ lasts, ?_, ?_⟩⟩
    · exact fun before held => tier ▸ (prior before held).1
    · exact fun before held sameTier => ending ▸ (prior before held).2 (sameTier.trans tier)

theorem created_iff (absent : ∀ row ∈ rows, row.userId ≠ gift.recipientId) :
    (∃ current,
        heldBy (rows ++ [(giftedDraft now gift).row drawn now]) now gift.recipientId = some current ∧
          KeepsAccess addDays now gift (heldBy rows now gift.recipientId) current) ↔
      ∀ days ∈ gift.days, 0 ≤ days := by
  have none : rows.filter (isActiveOf gift.recipientId) = [] := by
    apply List.filter_eq_nil_iff.2
    intro row member active
    exact absent row member (of_decide_eq_true (Bool.and_eq_true_iff.1 active).1)
  have nothing : heldBy rows now gift.recipientId = Option.none := by
    have missing : findActive rows gift.recipientId = Option.none := by
      rw [findActive_eq, none, newest_nil]
    unfold heldBy currentSubscription
    rw [missing]
  have newest : findActive (rows ++ [(giftedDraft now gift).row drawn now]) gift.recipientId =
      some ((giftedDraft now gift).row drawn now) := by
    have active : isActiveOf gift.recipientId ((giftedDraft now gift).row drawn now) = true :=
      Bool.and_eq_true_iff.2 ⟨decide_eq_true rfl, rfl⟩
    rw [findActive_eq, List.filter_append, none, List.nil_append,
      List.filter_cons_of_pos active, List.filter_nil, newest_cons, newest_nil]
  have ending : ((giftedDraft now gift).row drawn now).servedEnd now =
      gift.days.map fun days => now + days * 86400000 := servedEnd_current fun _ trial => nomatch trial
  rw [readGrants_iff newest, ending, nothing]
  unfold Overdue GiftSubscription.lasts
  have dated : ((giftedDraft now gift).row drawn now).endDate =
      gift.days.map fun days => now + days * 86400000 := rfl
  rw [dated]
  cases gift.days with
  | none =>
      refine iff_of_true ⟨?_, Nat.le_refl _, trivial, fun _ held => nomatch held⟩
        fun _ member => nomatch member
      rintro ⟨_, stored, _⟩
      cases stored
  | some days =>
      constructor
      · rintro ⟨runs, _⟩ _ ⟨⟩
        refine Int.not_lt.1 fun negative => runs ⟨now + days * 86400000, rfl, ?_⟩
        omega
      · intro lasting
        have bound := lasting days rfl
        refine ⟨?_, Nat.le_refl _, Int.min_le_right _ _, fun _ held => nomatch held⟩
        rintro ⟨_, ⟨⟩, passed⟩
        have before : now + days * 86400000 < now := passed
        omega

theorem notEarlier_endless {ending : Option Int} : NotEarlier ending none ↔ ending = none := by
  cases ending with
  | none => exact iff_of_true trivial rfl
  | some stored => exact iff_of_false id (Option.some_ne_none stored)

def giftedRow (addDays : Int → Int → Int) (now : Int) (gift : GiftSubscription)
    (chosen : Subscription) : Subscription :=
  (giftedEntity addDays now gift chosen).write chosen

theorem giftedRow_servedEnd :
    (giftedRow addDays now gift chosen).servedEnd now =
      match gift.days with
      | none => chosen.servedEnd now
      | some days => some (addDays now days) := by
  unfold giftedRow giftedEntity SubscriptionEntity.write Subscription.servedEnd
  cases gift.days with
  | none => rfl
  | some days => rfl

theorem giftedRow_overdue :
    Overdue now (giftedRow addDays now gift chosen) ↔
      match gift.days with
      | none => Overdue now chosen
      | some days => addDays now days < now := by
  unfold giftedRow giftedEntity SubscriptionEntity.write Overdue
  cases gift.days with
  | none => exact Iff.rfl
  | some days =>
      constructor
      · rintro ⟨_, ⟨⟩, passed⟩
        exact passed
      · exact fun passed => ⟨_, rfl, passed⟩

theorem renewed_iff :
    (¬Overdue now (giftedRow addDays now gift chosen) ∧
        gift.tier.rank ≤ (giftedRow addDays now gift chosen).tier.rank ∧
          NotEarlier ((giftedRow addDays now gift chosen).servedEnd now) (gift.lasts addDays now) ∧
            ∀ before ∈ held, before.tier.rank ≤ (giftedRow addDays now gift chosen).tier.rank ∧
              (before.tier = (giftedRow addDays now gift chosen).tier →
                NotEarlier ((giftedRow addDays now gift chosen).servedEnd now) before.endDate)) ↔
      Renews addDays now gift held chosen := by
  have tier : (giftedRow addDays now gift chosen).tier = gift.tier := rfl
  rw [giftedRow_overdue, giftedRow_servedEnd, tier]
  unfold GiftSubscription.lasts
  cases length : gift.days with
  | none =>
      dsimp only
      rw [Option.map_none, notEarlier_endless]
      constructor
      · rintro ⟨_, _, endless, prior⟩
        refine ⟨fun before held => (prior before held).1, fun _ => endless, ?_, ?_⟩
        · exact fun days member => nomatch length.symm.trans member
        · exact fun days member => nomatch length.symm.trans member
      · intro renews
        have endless := renews.endless length
        refine ⟨?_, Nat.le_refl _, endless, fun before held => ⟨renews.kept before held, fun _ => ?_⟩⟩
        · rintro ⟨stored, ending, _⟩
          unfold Subscription.servedEnd at endless
          rw [ending] at endless
          cases endless
        · rw [endless]
          exact trivial
  | some days =>
      dsimp only
      rw [Option.map_some]
      constructor
      · rintro ⟨runs, _, _, prior⟩
        refine ⟨fun before held => (prior before held).1, ?_, ?_, ?_⟩
        · exact fun endless => nomatch length.symm.trans endless
        · intro stored member
          cases length.symm.trans member
          exact Int.not_lt.1 runs
        · intro stored member before held
          cases length.symm.trans member
          exact (prior before held).2
      · intro renews
        refine ⟨Int.not_lt.2 (renews.ahead days length), Nat.le_refl _, Int.min_le_left _ _, ?_⟩
        exact fun before held => ⟨renews.kept before held, renews.ends days length before held⟩

theorem written_iff (distinct : (rows.map Subscription.id).Nodup) (member : chosen ∈ rows)
    (user : chosen.userId = gift.recipientId) :
    (∃ current, heldBy (saveSubscription rows (giftedEntity addDays now gift chosen)) now
          gift.recipientId = some current ∧
        KeepsAccess addDays now gift (heldBy rows now gift.recipientId) current) ↔
      GiftSuffices addDays rows now gift (some chosen) := by
  have after := @findActive_gifted rows gift.recipientId chosen distinct member user
    (giftedEntity addDays now gift chosen) rfl user rfl
  unfold GiftSuffices
  cases found : findActive (reactivated rows chosen) gift.recipientId with
  | none =>
      have stored : { chosen with status := .active } ∈ reactivated rows chosen :=
        List.mem_map.2 ⟨chosen, member, if_pos rfl⟩
      have active : isActiveOf gift.recipientId { chosen with status := .active } = true :=
        Bool.and_eq_true_iff.2 ⟨decide_eq_true user, rfl⟩
      rw [findActive_none found stored] at active
      cases active
  | some newest =>
      rw [found, Option.map_some] at after
      have only : ∀ sought ∈ findActive (reactivated rows chosen) gift.recipientId, newest = sought :=
        fun sought isFound => Option.some.inj (found.symm.trans isFound)
      rw [readGrants_iff after]
      by_cases same : newest.id = chosen.id
      · rcases mem_reactivated distinct member (findActive_mem found).1 with ⟨_, itself⟩ | ⟨other, _⟩
        · have written : (if newest.id = chosen.id then
              (giftedEntity addDays now gift chosen).write newest else newest) =
                giftedRow addDays now gift chosen := by
            rw [if_pos same, itself]
            rfl
          rw [written, renewed_iff]
          constructor
          · intro renews sought isFound
            obtain rfl := only sought isFound
            exact ⟨fun _ => renews, fun other => absurd same other⟩
          · exact fun renewed => (renewed newest found).1 same
        · exact absurd same other
      · rw [if_neg same]
        have before := findActive_other distinct member found same
        constructor
        · rintro ⟨runs, given, lasts, _⟩ sought isFound
          obtain rfl := only sought isFound
          exact ⟨fun own => absurd own same, fun _ => ⟨runs, given, lasts⟩⟩
        · intro grants
          obtain ⟨runs, given, lasts⟩ := (grants newest found).2 same
          obtain ⟨current, held, tier, ending⟩ := heldBy_running before runs
          refine ⟨runs, given, lasts, fun prior isPrior => ?_⟩
          rw [held] at isPrior
          obtain rfl := Option.some.inj isPrior
          rw [tier, ending]
          exact ⟨Nat.le_refl _, fun _ => NotEarlier.refl _⟩

/-- An acceptance keeps the access, and consumes the gift, exactly if the gift suffices for the
row that it is written over. -/
theorem acceptGift_keeps_iff {result : GiftSubscription × SubscriptionEntity}
    (found : findRow GiftSubscription.id request.giftId tables.gifts = some gift)
    (distinct : (tables.subscriptions.map Subscription.id).Nodup)
    (answer : IsSubscriptionOf tables.subscriptions gift.recipientId request.chosen)
    (succeeded : (acceptRequest addDays tables request).2 = .ok result) :
    AccessKept addDays tables request gift ↔
      gift.recipientId ≠ "" ∧
        GiftSuffices addDays tables.subscriptions request.now gift request.chosen := by
  have rowsAfter := (acceptRequest_ok succeeded found).2
  unfold AccessKept
  rw [and_iff_left (spent_of_ok succeeded found).consumed]
  by_cases named : gift.recipientId = ""
  · refine iff_of_false ?_ fun both => both.1 named
    rintro ⟨current, answered, _⟩
    rw [named] at answered
    cases answered
  · have read : ∀ current, reported (acceptRequest addDays tables request).1.subscriptions
        request.now gift.recipientId = .ok (some current) ↔
          heldBy (acceptRequest addDays tables request).1.subscriptions request.now
            gift.recipientId = some current := by
      intro current
      rw [reported_named named]
      constructor
      · intro same
        exact Except.ok.inj same
      · intro same
        exact congrArg Except.ok same
    simp only [read]
    rw [and_iff_right named, rowsAfter]
    cases chosen : request.chosen with
    | none =>
        rw [chosen] at answer
        exact created_iff answer
    | some row =>
        rw [chosen] at answer
        exact written_iff distinct answer.1 answer.2

def monthGift : GiftSubscription where
  id := "gift"
  recipientId := "fan"
  tier := .artistPro
  durationDays := some 30
  status := .pending
  redeemedAt := none
  expiresAt := some 7000

def calendarDays (now days : Int) : Int := now + days * 86400000

def giftRequest (chosen : Option Subscription) : GiftRequest :=
  ⟨5000, "drawn", some "fan", "gift", chosen⟩

/-- The recipient had nothing. -/
theorem firstGift_kept :
    AccessKept calendarDays ⟨[], [monthGift]⟩ (giftRequest none) monthGift := by
  have found : findRow GiftSubscription.id (giftRequest none).giftId [monthGift] =
      some monthGift := rfl
  have absent : IsSubscriptionOf [] monthGift.recipientId none := fun _ member => nomatch member
  apply (@acceptGift_keeps_iff calendarDays ⟨[], [monthGift]⟩ (giftRequest none) monthGift _ found
    List.nodup_nil absent rfl).2
  refine ⟨by decide, ?_⟩
  intro days length
  cases length
  decide

def endedSubscription : Subscription where
  id := "subscription"
  userId := "fan"
  tier := .artistPro
  status := .expired
  startDate := 0
  endDate := some 1000
  trialEndsAt := none
  createdAt := 0

def openGift : GiftSubscription := { monthGift with durationDays := none }

/-- A gift that is accepted over the subscription that ended is not read, and is consumed. -/
theorem openGift_lost :
    (acceptRequest calendarDays ⟨[endedSubscription], [openGift]⟩
        (giftRequest (some endedSubscription))).2.toOption.isSome = true ∧
      IsSubscriptionOf [endedSubscription] openGift.recipientId (some endedSubscription) ∧
        ¬AccessKept calendarDays ⟨[endedSubscription], [openGift]⟩
          (giftRequest (some endedSubscription)) openGift := by
  refine ⟨rfl, by decide, ?_⟩
  rintro ⟨⟨current, answered, _⟩, _⟩
  have newest : findActive [giftedRow calendarDays 5000 openGift endedSubscription] "fan" =
      some (giftedRow calendarDays 5000 openGift endedSubscription) := by
    have active : isActiveOf "fan" (giftedRow calendarDays 5000 openGift endedSubscription) = true :=
      rfl
    rw [findActive_eq, List.filter_cons_of_pos active, List.filter_nil, newest_cons, newest_nil]
  have overdue : Overdue 5000 (giftedRow calendarDays 5000 openGift endedSubscription) :=
    ⟨1000, rfl, by decide⟩
  have lost := heldBy_overdue newest overdue
  unfold heldBy at lost
  have silent : reported [giftedRow calendarDays 5000 openGift endedSubscription] 5000 "fan" =
      .ok none := by
    rw [reported_named (by decide), lost]
  cases silent.symm.trans answered

end Acceptance

end AudioBlock.Subscriptions
