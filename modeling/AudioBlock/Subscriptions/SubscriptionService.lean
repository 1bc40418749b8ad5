/-
Subscriptions of users, their trials and the tiers that they grant.

Times are milliseconds.  A save writes the properties of an entity that have a value, so that a
trial marker set to undefined stays in its column.  Nothing deletes a subscription while its
user is there, so a save finds the row of its entity.
-/
import AudioBlock.Foundation.Binary64
import AudioBlock.Foundation.EntityColumns
import AudioBlock.Foundation.Rows
import AudioBlock.Songs.Song

namespace AudioBlock.Subscriptions

open AudioBlock.Foundation AudioBlock.Songs

/-! ### The rows -/

inductive SubscriptionTier
  | free
  | artistPro
  | label
  deriving DecidableEq

namespace SubscriptionTier

def value : SubscriptionTier → String
  | free => "free"
  | artistPro => "artist_pro"
  | label => "label"

def values : List SubscriptionTier := [free, artistPro, label]

def ofText (text : String) : Option SubscriptionTier :=
  values.find? fun tier => decide (tier.value = text)

theorem ofText_value (tier : SubscriptionTier) : ofText tier.value = some tier := by
  cases tier <;> decide

/-- The place of a tier in the hierarchy. -/
def rank : SubscriptionTier → Nat
  | free => 0
  | artistPro => 1
  | label => 2

end SubscriptionTier

inductive SubscriptionStatus
  | active
  | cancelled
  | expired
  deriving DecidableEq

structure Subscription where
  id : String
  userId : String
  tier : SubscriptionTier
  status : SubscriptionStatus
  startDate : Int
  endDate : Option Int
  trialEndsAt : Option Int
  createdAt : Int
  deriving DecidableEq

/-- A subscription in memory, where the trial marker may be undefined. -/
structure SubscriptionEntity where
  id : String
  userId : String
  tier : SubscriptionTier
  status : SubscriptionStatus
  startDate : Int
  endDate : Option Int
  trialEndsAt : Property (Option Int)
  deriving DecidableEq

def Subscription.load (row : Subscription) : SubscriptionEntity where
  id := row.id
  userId := row.userId
  tier := row.tier
  status := row.status
  startDate := row.startDate
  endDate := row.endDate
  trialEndsAt := .value row.trialEndsAt

def SubscriptionEntity.write (subscription : SubscriptionEntity) (row : Subscription) :
    Subscription where
  id := row.id
  userId := subscription.userId
  tier := subscription.tier
  status := subscription.status
  startDate := subscription.startDate
  endDate := subscription.endDate
  trialEndsAt := subscription.trialEndsAt.column row.trialEndsAt
  createdAt := row.createdAt

def saveSubscription (rows : List Subscription) (subscription : SubscriptionEntity) :
    List Subscription :=
  rows.map fun row => if row.id = subscription.id then subscription.write row else row

theorem saveSubscription_ids (rows : List Subscription) (saved : SubscriptionEntity) :
    (saveSubscription rows saved).map Subscription.id = rows.map Subscription.id := by
  unfold saveSubscription
  rw [List.map_map]
  apply List.map_congr_left
  intro row _
  change (if row.id = saved.id then saved.write row else row).id = row.id
  split
  · rfl
  · rfl

/-- A subscription that is created active. -/
structure SubscriptionDraft where
  userId : String
  tier : SubscriptionTier
  startDate : Int
  endDate : Option Int
  trialEndsAt : Option Int
  deriving DecidableEq

def SubscriptionDraft.row (draft : SubscriptionDraft) (drawn : String) (createdAt : Int) :
    Subscription where
  id := drawn
  userId := draft.userId
  tier := draft.tier
  status := .active
  startDate := draft.startDate
  endDate := draft.endDate
  trialEndsAt := draft.trialEndsAt
  createdAt := createdAt

/-! ### Errors -/

structure FieldDetail where
  field : String
  message : Option String
  deriving DecidableEq

structure SubscriptionError where
  error : AppError
  details : List FieldDetail
  deriving DecidableEq

def validateRequired (value fieldName : String) : Option SubscriptionError :=
  if value = "" then
    some ⟨.validation (fieldName ++ " is required"), [⟨fieldName, none⟩]⟩
  else none

/-! ### The current subscription -/

def DEFAULT_BILLING_PERIOD_MS : Int := 30 * 24 * 60 * 60 * 1000

def isActiveOf (userId : String) (row : Subscription) : Bool :=
  decide (row.userId = userId) && decide (row.status = .active)

def findActive (rows : List Subscription) (userId : String) : Option Subscription :=
  ((rows.filter (isActiveOf userId)).mergeSort fun one other =>
    decide (other.createdAt ≤ one.createdAt)).head?

def hasEnded (now : Int) (subscription : SubscriptionEntity) : Bool :=
  subscription.endDate.any fun endDate => decide (endDate < now)

def SubscriptionEntity.trialEnd (subscription : SubscriptionEntity) : Option Int :=
  subscription.trialEndsAt.column none

def finalizeTrialTransition (subscription : SubscriptionEntity) : SubscriptionEntity :=
  match subscription.trialEnd with
  | none => subscription
  | some trialEndedAt =>
      { subscription with
        trialEndsAt := .undefined
        endDate := some (subscription.endDate.getD (trialEndedAt + DEFAULT_BILLING_PERIOD_MS)) }

inductive ReadOutcome
  | expired (saved : SubscriptionEntity)
  | finalised (saved : SubscriptionEntity)
  | current (subscription : SubscriptionEntity)
  deriving DecidableEq

def readOutcome (now : Int) (subscription : SubscriptionEntity) : ReadOutcome :=
  if hasEnded now subscription then .expired { subscription with status := .expired }
  else
    match subscription.trialEnd with
    | none => .current subscription
    | some trialEndsAt =>
        if now < trialEndsAt then .current subscription
        else .finalised (finalizeTrialTransition subscription)

def currentSubscription (rows : List Subscription) (now : Int) (userId : String) :
    List Subscription × Option SubscriptionEntity :=
  match findActive rows userId with
  | none => (rows, none)
  | some found =>
      match readOutcome now found.load with
      | .expired saved => (saveSubscription rows saved, none)
      | .finalised saved => (saveSubscription rows saved, some saved)
      | .current subscription => (rows, some subscription)

def getUserSubscription (rows : List Subscription) (now : Int) (userId : String) :
    List Subscription × Except SubscriptionError (Option SubscriptionEntity) :=
  match validateRequired userId "userId" with
  | some refusal => (rows, .error refusal)
  | none =>
      let (after, current) := currentSubscription rows now userId
      (after, .ok current)

/-! ### Purchases and trials -/

def tierTexts : List String := SubscriptionTier.values.map SubscriptionTier.value

def readTier (tier message : String) : Except SubscriptionError SubscriptionTier :=
  match SubscriptionTier.ofText tier with
  | none => .error ⟨.validation ("Invalid tier: " ++ tier), [⟨"tier", some message⟩]⟩
  | some known => .ok known

def upgradeTier (userId tier : String) : Except SubscriptionError SubscriptionTier :=
  match validateRequired userId "userId" with
  | some refusal => .error refusal
  | none =>
      match validateRequired tier "tier" with
      | some refusal => .error refusal
      | none => readTier tier ("Tier must be one of: " ++ ", ".intercalate tierTexts)

def upgraded (tier : SubscriptionTier) (endDate : Option Int)
    (existing : SubscriptionEntity) : SubscriptionEntity :=
  { existing with tier, endDate := endDate.or existing.endDate }

/-- A number as a date in milliseconds, unless it is none. -/
def timeClip (time : Float) : Option Int :=
  match exactValue time with
  | none => none
  | some exact =>
      if |exact| ≤ 8640000000000000 then some (exact.num.tdiv exact.den) else none

def trialEndsAt (now : Int) (trialDays : Float) : Option Int :=
  timeClip (Float.ofInt now + trialDays * 24 * 60 * 60 * 1000)

/-- The trial is over in finitely many days, and in more than none. -/
def isTrialLength (trialDays : Float) : Bool :=
  (exactValue trialDays).any fun days => decide (0 < days)

def trialTier (userId tier : String) (trialDays : Float) :
    Except SubscriptionError SubscriptionTier :=
  match validateRequired userId "userId" with
  | some refusal => .error refusal
  | none =>
      match readTier tier "Tier must be a valid subscription tier" with
      | .error refusal => .error refusal
      | .ok known =>
          if isTrialLength trialDays then .ok known
          else
            .error ⟨.validation "trialDays must be a positive number",
              [⟨"trialDays", some "Trial duration must be greater than zero days"⟩]⟩

/-! ### Trials under way, cancellation and access -/

def cancelSubscription (rows : List Subscription) (now : Int) (userId : String) :
    List Subscription × Except SubscriptionError SubscriptionEntity :=
  match getUserSubscription rows now userId with
  | (after, .error refusal) => (after, .error refusal)
  | (after, .ok none) => (after, .error ⟨.notFound "No active subscription found", []⟩)
  | (after, .ok (some subscription)) =>
      let saved := { subscription with status := .cancelled }
      (saveSubscription after saved, .ok saved)

/-!
### Gifts

The acceptance looks for a subscription of any status, and the server may answer any one of them.
`AppError` has no functions of the names that the refusals call, so that each of them ends in a
TypeError.  A number of days is added to a date in the time zone of the process.
-/

inductive GiftStatus
  | pending
  | accepted
  | declined
  | expired
  deriving DecidableEq

structure GiftSubscription where
  id : String
  recipientId : String
  tier : SubscriptionTier
  durationDays : Option Int
  status : GiftStatus
  redeemedAt : Option Int
  expiresAt : Option Int
  deriving DecidableEq

structure GiftTables where
  subscriptions : List Subscription
  gifts : List GiftSubscription

def notAFunction (name : String) : AppError :=
  .plain ("AppError_1.AppError." ++ name ++ " is not a function")

inductive GiftDecision
  | refused (failure : AppError)
  | expired (saved : GiftSubscription)
  | accepted

def decideGift (now : Int) (userId : Option String) (gift : GiftSubscription) : GiftDecision :=
  if userId ≠ some gift.recipientId then .refused (notAFunction "forbidden")
  else if gift.status ≠ .pending then .refused (notAFunction "badRequest")
  else if gift.expiresAt.any fun expiresAt => decide (expiresAt < now) then
    .expired { gift with status := .expired }
  else .accepted

/-- Days that are neither missing nor zero. -/
def GiftSubscription.days (gift : GiftSubscription) : Option Int :=
  gift.durationDays.filter fun days => decide (days ≠ 0)

/-- The subscription that was found, as it is saved. -/
def giftedEntity (addDays : Int → Int → Int) (now : Int) (gift : GiftSubscription)
    (subscription : Subscription) : SubscriptionEntity :=
  { subscription.load with
    tier := gift.tier
    status := .active
    startDate := now
    endDate := (gift.days.map (addDays now)).or subscription.endDate }

def giftedDraft (now : Int) (gift : GiftSubscription) : SubscriptionDraft where
  userId := gift.recipientId
  tier := gift.tier
  startDate := now
  endDate := gift.days.map fun days => now + days * 86400000
  trialEndsAt := none

def acceptedGift (now : Int) (gift : GiftSubscription) : GiftSubscription :=
  { gift with status := .accepted, redeemedAt := some now }

/-- The answers that the server may give to the search for a subscription of a user. -/
def IsSubscriptionOf (rows : List Subscription) (userId : String) :
    Option Subscription → Prop
  | none => ∀ row ∈ rows, row.userId ≠ userId
  | some row => row ∈ rows ∧ row.userId = userId

instance (rows : List Subscription) (userId : String) (chosen : Option Subscription) :
    Decidable (IsSubscriptionOf rows userId chosen) :=
  match chosen with
  | none => inferInstanceAs (Decidable (∀ row ∈ rows, row.userId ≠ userId))
  | some row => inferInstanceAs (Decidable (row ∈ rows ∧ row.userId = userId))

def acceptGift (addDays : Int → Int → Int) (tables : GiftTables) (now : Int) (drawn : String)
    (userId : Option String) (giftId : String) (chosen : Option Subscription) :
    GiftTables × Except AppError (GiftSubscription × SubscriptionEntity) :=
  match findRow GiftSubscription.id giftId tables.gifts with
  | none => (tables, .error (.notFound "Gift not found"))
  | some gift =>
      match decideGift now userId gift with
      | .refused failure => (tables, .error failure)
      | .expired saved =>
          ({ tables with gifts := saveRow GiftSubscription.id saved tables.gifts },
            .error (notAFunction "badRequest"))
      | .accepted =>
          let gifts := saveRow GiftSubscription.id (acceptedGift now gift) tables.gifts
          match chosen with
          | some subscription =>
              let saved := giftedEntity addDays now gift subscription
              (⟨saveSubscription tables.subscriptions saved, gifts⟩,
                .ok (acceptedGift now gift, saved))
          | none =>
              let created := (giftedDraft now gift).row drawn now
              (⟨tables.subscriptions ++ [created], gifts⟩,
                .ok (acceptedGift now gift, created.load))

end AudioBlock.Subscriptions
