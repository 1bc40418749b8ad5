/-
Deliveries to the endpoints of webhook subscriptions, call by call.

A delivery loads the subscription once, sends its payload up to three times, and then saves
the copy that it loaded.  Saving a copy whose row is gone inserts it again.  Every call of the
database may throw, and most of these failures are caught.  Whoever has access to the table may
edit a subscription in other columns than the identifier and the count of failures.
-/
import AudioBlock.Foundation.Machine
import AudioBlock.Foundation.Rows

namespace AudioBlock.Webhooks

open AudioBlock.Foundation

structure WebhookSubscription where
  id : String
  userId : String
  endpoint : String
  secret : String
  eventTypes : Option (List String)
  isActive : Bool
  consecutiveFailures : Nat
  deriving DecidableEq

structure WebhookPayload where
  eventId : String
  eventType : String
  deriving DecidableEq

inductive WebhookDeliveryStatus
  | succeeded
  | failed
  deriving DecidableEq

structure WebhookDelivery where
  subscriptionId : String
  eventId : String
  eventType : String
  attempt : Nat
  status : WebhookDeliveryStatus
  responseStatus : Option Nat
  error : Option String
  deriving DecidableEq

/-- What `fetch` does. -/
inductive FetchResponse
  | answered (status : Nat) (statusText : String)
  | threw (message : String)
  deriving DecidableEq

namespace FetchResponse

def ok : FetchResponse → Bool
  | .answered status _ => decide (200 ≤ status ∧ status ≤ 299)
  | .threw _ => false

def status : FetchResponse → Option Nat
  | .answered status _ => some status
  | .threw _ => none

def error : FetchResponse → String
  | .answered status statusText => "HTTP " ++ toString status ++ ": " ++ statusText
  | .threw message => message

end FetchResponse

inductive DeliveryTarget
  | byId (subscriptionId : String)
  | byEndpoint (endpoint : String)
  deriving DecidableEq

/-- What a delivery knows of its subscription; `copy` is the row that it loaded. -/
structure DeliverySubject where
  payload : WebhookPayload
  subscriptionId : Option String
  copy : Option WebhookSubscription
  deriving DecidableEq

inductive DeliveryOutcome
  | success
  | failure
  | disabling
  deriving DecidableEq

def DeliveryOutcome.succeeded (outcome : DeliveryOutcome) : Bool :=
  decide (outcome = .success)

inductive WebhookCall
  | findSubscription (target : DeliveryTarget) (payload : WebhookPayload)
  | fetching (attempt : Nat) (subject : DeliverySubject)
  /-- The attempt is recorded. -/
  | recording (attempt : Nat) (subject : DeliverySubject) (response : FetchResponse)
  /-- The owner is told that the subscription has been disabled. -/
  | notifying (copy : WebhookSubscription)
  | saving (copy : WebhookSubscription) (outcome : DeliveryOutcome)
  | findForDelete (userId subscriptionId : String)
  | removing (copy : WebhookSubscription)
  | ended
  deriving DecidableEq

/-- Beside the tables, what the deliveries of each subscription came to so far: how many have
failed since the last success, and whether it is their failures that it is disabled for. -/
structure WebhookState where
  subscriptions : List WebhookSubscription
  deliveries : List WebhookDelivery
  calls : List WebhookCall
  streak : String → Nat
  struckOff : String → Bool

/-- An edit that leaves the identifier and the count of failures. -/
structure ManualUpdate where
  apply : WebhookSubscription → WebhookSubscription
  keepsId : ∀ row, (apply row).id = row.id
  keepsFailures : ∀ row, (apply row).consecutiveFailures = row.consecutiveFailures

inductive WebhookStep
  | deliver (target : DeliveryTarget) (payload : WebhookPayload)
  | deleteSubscription (userId subscriptionId : String)
  | update (subscriptionId : String) (change : ManualUpdate)
  | step (index : Nat)
  | respond (index : Nat) (response : FetchResponse)
  | fails (index : Nat)

def maxRetries : Nat := 3

def newDelivery (subscriptionId : String) (payload : WebhookPayload) (attempt : Nat)
    (response : FetchResponse) : WebhookDelivery :=
  { subscriptionId := subscriptionId
    eventId := payload.eventId
    eventType := if payload.eventType = "" then "unknown" else payload.eventType
    attempt := attempt
    status := if response.ok then .succeeded else .failed
    responseStatus := response.status
    error := if response.ok then none else some response.error }

namespace WebhookState

def place (state : WebhookState) (index : Nat) (call : WebhookCall) : WebhookState :=
  { state with calls := state.calls.set index call }

def findRow (state : WebhookState) (subscriptionId : String) : Option WebhookSubscription :=
  Foundation.findRow WebhookSubscription.id subscriptionId state.subscriptions

def subject (state : WebhookState) (target : DeliveryTarget) (payload : WebhookPayload) :
    DeliverySubject :=
  match target with
  | .byId subscriptionId => ⟨payload, some subscriptionId, state.findRow subscriptionId⟩
  | .byEndpoint endpoint =>
      let found := state.subscriptions.find? fun row => decide (row.endpoint = endpoint)
      ⟨payload, found.map WebhookSubscription.id, found⟩

/-- A delivery of the subscription has come to its end. -/
def finish (state : WebhookState) (subscriptionId : Option String) (succeeded : Bool) :
    WebhookState :=
  { state with
    streak := fun id =>
      if some id = subscriptionId then (if succeeded then 0 else state.streak id + 1)
      else state.streak id }

def save (state : WebhookState) (copy : WebhookSubscription) (outcome : DeliveryOutcome) :
    WebhookState :=
  { state with
    subscriptions := storeRow WebhookSubscription.id copy state.subscriptions
    struckOff := fun id =>
      if id = copy.id then
        !copy.isActive && (state.struckOff id || decide (outcome = .disabling))
      else state.struckOff id }

def record (state : WebhookState) (attempt : Nat) (subject : DeliverySubject)
    (response : FetchResponse) : WebhookState :=
  match subject.subscriptionId with
  | none => state
  | some subscriptionId =>
      { state with
        deliveries := state.deliveries ++
          [newDelivery subscriptionId subject.payload attempt response] }

def update (state : WebhookState) (subscriptionId : String) (change : ManualUpdate) :
    WebhookState :=
  { state with
    subscriptions := state.subscriptions.map fun row =>
      if row.id = subscriptionId then change.apply row else row
    struckOff := fun id =>
      state.struckOff id &&
        !(decide (id = subscriptionId) &&
          (state.findRow id).any fun row => (change.apply row).isActive) }

end WebhookState

/-- The copy after the last failure, and whether its subscription is disabled now. -/
def failedCopy (maxFailures : Nat) (copy : WebhookSubscription) : WebhookSubscription × Bool :=
  let failures := copy.consecutiveFailures + 1
  if maxFailures ≤ failures ∧ copy.isActive = true then
    ({ copy with consecutiveFailures := failures, isActive := false }, true)
  else ({ copy with consecutiveFailures := failures }, false)

def afterAttempt (maxFailures : Nat) (state : WebhookState) (attempt : Nat)
    (subject : DeliverySubject) (succeeded : Bool) : WebhookState × WebhookCall :=
  if succeeded then
    match subject.copy with
    | some copy =>
        if 0 < copy.consecutiveFailures then
          (state, .saving { copy with consecutiveFailures := 0 } .success)
        else (state.finish subject.subscriptionId true, .ended)
    | none => (state.finish subject.subscriptionId true, .ended)
  else if attempt < maxRetries then (state, .fetching (attempt + 1) subject)
  else
    match subject.copy with
    | none => (state.finish subject.subscriptionId false, .ended)
    | some copy =>
        match failedCopy maxFailures copy with
        | (failed, true) => (state, .notifying failed)
        | (failed, false) => (state, .saving failed .failure)

def performWebhook (maxFailures : Nat) (state : WebhookState) :
    WebhookCall → Option (WebhookState × WebhookCall)
  | .findSubscription target payload => some (state, .fetching 1 (state.subject target payload))
  | .recording attempt subject response =>
      some (afterAttempt maxFailures (state.record attempt subject response) attempt subject
        response.ok)
  | .notifying copy => some (state, .saving copy .disabling)
  | .saving copy outcome =>
      some ((state.save copy outcome).finish (some copy.id) outcome.succeeded, .ended)
  | .findForDelete userId subscriptionId =>
      some (state, match state.findRow subscriptionId with
        | none => .ended
        | some row => if row.userId = userId then .removing row else .ended)
  | .removing copy =>
      some ({ state with
        subscriptions := removeRow WebhookSubscription.id copy.id state.subscriptions }, .ended)
  | .fetching _ _ | .ended => none

def respondWebhook (maxFailures : Nat) (state : WebhookState) (response : FetchResponse) :
    WebhookCall → Option (WebhookState × WebhookCall)
  | .fetching attempt subject =>
      some (match subject.subscriptionId with
        | some _ => (state, .recording attempt subject response)
        | none => afterAttempt maxFailures state attempt subject response.ok)
  | _ => none

def failWebhook (maxFailures : Nat) (state : WebhookState) :
    WebhookCall → Option (WebhookState × WebhookCall)
  | .findSubscription target payload =>
      some (state, .fetching 1
        ⟨payload, match target with
          | .byId subscriptionId => some subscriptionId
          | .byEndpoint _ => none, none⟩)
  | .recording attempt subject response =>
      some (afterAttempt maxFailures state attempt subject response.ok)
  | .notifying copy => some (state.finish (some copy.id) false, .ended)
  | .saving copy outcome => some (state.finish (some copy.id) outcome.succeeded, .ended)
  | .findForDelete _ _ | .removing _ => some (state, .ended)
  | .fetching _ _ | .ended => none

def WebhookState.reply (maxFailures : Nat) (state : WebhookState) (label : WebhookStep)
    (call : WebhookCall) : Option (WebhookState × WebhookCall) :=
  match label with
  | .step _ => performWebhook maxFailures state call
  | .respond _ response => respondWebhook maxFailures state response call
  | .fails _ => failWebhook maxFailures state call
  | .deliver _ _ | .deleteSubscription _ _ | .update _ _ => none

def webhookStep (maxFailures : Nat) (state : WebhookState) (label : WebhookStep) :
    Option WebhookState :=
  match label with
  | .deliver target payload =>
      some { state with calls := state.calls ++ [.findSubscription target payload] }
  | .deleteSubscription userId subscriptionId =>
      some { state with calls := state.calls ++ [.findForDelete userId subscriptionId] }
  | .update subscriptionId change => some (state.update subscriptionId change)
  | .step index | .respond index _ | .fails index =>
      state.calls[index]?.bind fun call =>
        (state.reply maxFailures label call).map fun answer => answer.1.place index answer.2

end AudioBlock.Webhooks
