/-
Purchases, trials, cancellations and acceptances of gifts that run at the same time.

A call waits for the answer of one statement and goes on, at a time of its own, with what was
answered.  With nothing in between, the steps of a call make one call of the source.
-/
import AudioBlock.Foundation.Machine
import AudioBlock.Subscriptions.SubscriptionService

namespace AudioBlock.Subscriptions

open AudioBlock.Foundation AudioBlock.Songs

/-! ### Calls under way -/

inductive SubscriptionRequest
  | read
  | upgrade (tier : String) (endDate : Option Int)
  | trial (tier : String) (trialDays : Float)
  | cancel

inductive Purpose
  | read
  | upgrade (tier : SubscriptionTier) (endDate : Option Int)
  | trial (tier : SubscriptionTier) (trialDays : Float)
  | cancel

def purposeOf (userId : String) : SubscriptionRequest → Except SubscriptionError Purpose
  | .read =>
      match validateRequired userId "userId" with
      | some refusal => .error refusal
      | none => .ok .read
  | .cancel =>
      match validateRequired userId "userId" with
      | some refusal => .error refusal
      | none => .ok .cancel
  | .upgrade tier endDate => (upgradeTier userId tier).map fun known => .upgrade known endDate
  | .trial tier trialDays =>
      (trialTier userId tier trialDays).map fun known => .trial known trialDays

inductive SubscriptionCall
  | finding (purpose : Purpose) (userId : String)
  | found (purpose : Purpose) (userId : String) (subscription : Option Subscription)
  /-- Saves the expiry, or the end of the trial and goes on with the subscription. -/
  | settling (purpose : Purpose) (userId : String) (saved : SubscriptionEntity) (kept : Bool)
  | settled (purpose : Purpose) (userId : String) (current : Option SubscriptionEntity)
  | saving (saved : SubscriptionEntity) (gift : Option GiftSubscription)
  | inserting (draft : SubscriptionDraft) (gift : Option GiftSubscription)
  | findingGift (userId : Option String) (giftId : String)
  | foundGift (userId : Option String) (gift : Option GiftSubscription)
  | lookingUp (gift : GiftSubscription)
  | lookedUp (gift : GiftSubscription) (subscription : Option Subscription)
  | stored (gift : GiftSubscription)
  | savingGift (gift : GiftSubscription)

/-- What a call does when its current subscription is known, or nothing more. -/
def resolve (now : Int) (userId : String) :
    Purpose → Option SubscriptionEntity → Option SubscriptionCall
  | .upgrade tier endDate, some existing => some (.saving (upgraded tier endDate existing) none)
  | .upgrade tier endDate, none => some (.inserting ⟨userId, tier, now, endDate, none⟩ none)
  | .trial tier trialDays, none =>
      (trialEndsAt now trialDays).map fun ending =>
        .inserting ⟨userId, tier, now, none, some ending⟩ none
  | .cancel, some subscription => some (.saving { subscription with status := .cancelled } none)
  | _, _ => none

/-- Where a call goes on after an answer, or that it returns; `none` for a call that waits. -/
def goOn (addDays : Int → Int → Int) (now : Int) :
    SubscriptionCall → Option (Option SubscriptionCall)
  | .found purpose userId none => some (resolve now userId purpose none)
  | .found purpose userId (some subscription) =>
      some (match readOutcome now subscription.load with
        | .expired saved => some (.settling purpose userId saved false)
        | .finalised saved => some (.settling purpose userId saved true)
        | .current current => resolve now userId purpose (some current))
  | .settled purpose userId current => some (resolve now userId purpose current)
  | .foundGift _ none => some none
  | .foundGift userId (some gift) =>
      some (match decideGift now userId gift with
        | .refused _ => none
        | .expired saved => some (.savingGift saved)
        | .accepted => some (.lookingUp gift))
  | .lookedUp gift none => some (some (.inserting (giftedDraft now gift) (some gift)))
  | .lookedUp gift (some subscription) =>
      some (some (.saving (giftedEntity addDays now gift subscription) (some gift)))
  | .stored gift => some (some (.savingGift (acceptedGift now gift)))
  | _ => none

structure Subscribing where
  now : Int
  tables : GiftTables
  calls : Nat → Option SubscriptionCall

inductive SubscribingStep
  | elapse (milliseconds : Nat)
  | begin (call : Nat) (userId : String) (request : SubscriptionRequest)
  | beginAccept (call : Nat) (userId : Option String) (giftId : String)
  | find (call : Nat)
  | pick (call : Nat) (chosen : Option Subscription)
  | save (call : Nat)
  | insert (call : Nat) (drawn : String)
  | goOn (call : Nat)
  | abandon (call : Nat)

namespace Subscribing

def rows (state : Subscribing) : List Subscription := state.tables.subscriptions

def enter (state : Subscribing) (call : Nat) (entered : Option SubscriptionCall) : Subscribing :=
  { state with calls := Function.update state.calls call entered }

def withRows (state : Subscribing) (rows : List Subscription) : Subscribing :=
  { state with tables := { state.tables with subscriptions := rows } }

def withGifts (state : Subscribing) (gifts : List GiftSubscription) : Subscribing :=
  { state with tables := { state.tables with gifts } }

def step (addDays : Int → Int → Int) (state : Subscribing) : SubscribingStep → Option Subscribing
  | .elapse milliseconds => some { state with now := state.now + milliseconds }
  | .begin call userId request =>
      match state.calls call with
      | some _ => none
      | none =>
          match purposeOf userId request with
          | .error _ => some state
          | .ok purpose => some (state.enter call (some (.finding purpose userId)))
  | .beginAccept call userId giftId =>
      match state.calls call with
      | some _ => none
      | none => some (state.enter call (some (.findingGift userId giftId)))
  | .find call =>
      match state.calls call with
      | some (.finding purpose userId) =>
          some (state.enter call (some (.found purpose userId (findActive state.rows userId))))
      | some (.findingGift userId giftId) =>
          some (state.enter call (some (.foundGift userId
            (findRow GiftSubscription.id giftId state.tables.gifts))))
      | _ => none
  | .pick call chosen =>
      match state.calls call with
      | some (.lookingUp gift) =>
          if IsSubscriptionOf state.rows gift.recipientId chosen then
            some (state.enter call (some (.lookedUp gift chosen)))
          else none
      | _ => none
  | .save call =>
      match state.calls call with
      | some (.settling purpose userId saved kept) =>
          some ((state.withRows (saveSubscription state.rows saved)).enter call
            (some (.settled purpose userId (if kept then some saved else none))))
      | some (.saving saved gift) =>
          some ((state.withRows (saveSubscription state.rows saved)).enter call
            (gift.map .stored))
      | some (.savingGift gift) =>
          some ((state.withGifts
            (saveRow GiftSubscription.id gift state.tables.gifts)).enter call none)
      | _ => none
  | .insert call drawn =>
      match state.calls call with
      | some (.inserting draft gift) =>
          if drawn ∈ state.rows.map Subscription.id then none
          else
            some ((state.withRows (state.rows ++ [draft.row drawn state.now])).enter call
              (gift.map .stored))
      | _ => none
  | .goOn call =>
      match state.calls call with
      | some underWay => (goOn addDays state.now underWay).map (state.enter call)
      | none => none
  | .abandon call => some (state.enter call none)

end Subscribing

def OneActive (rows : List Subscription) : Prop :=
  ∀ userId, (rows.filter (isActiveOf userId)).length ≤ 1

/-- No call is under way. -/
structure Orderly (state : Subscribing) : Prop where
  idle : ∀ call, state.calls call = none
  distinct : (state.rows.map Subscription.id).Nodup
  oneActive : OneActive state.rows

def subscribingMachine (addDays : Int → Int → Int) : Machine Subscribing SubscribingStep where
  initial := Orderly
  step := Subscribing.step addDays

/-! ### A call that nothing runs into -/

section Alone

variable {addDays : Int → Int → Int} {state : Subscribing} {call : Nat}

/-! ### An acceptance that nothing runs into -/

end Alone

end AudioBlock.Subscriptions
