/-
The messages of one song job, from its publish until no copy of it is left.

An attempt is any JSON value.  `??` replaces a missing one, `+` adds to numbers and
concatenates to texts, and `>=` converts.  An array or an object is kept as the text that it
converts to, if its conversion does not throw.  How a text reads as a number and which
expirations the broker accepts are left open; a publish that it refuses closes the channel.

The outcome of the processing step and whether a call on the channel throws are chosen by
the environment.  A consumer whose channel is lost may go on, and its calls throw.
-/
import AudioBlock.Foundation.Broker
import AudioBlock.Foundation.Machine
import AudioBlock.Processing.SongProcessorWorker

namespace AudioBlock.Delivery

open AudioBlock.Foundation AudioBlock.Processing

inductive AttemptValue
  | boolean (value : Bool)
  | number (value : Float)
  | text (value : String)
  | structured (converted : Option String)
  deriving DecidableEq

/-- A payload with any attempt; `none` is an attempt that is missing or null. -/
structure SongMessage where
  songId : String
  fileId : String
  attempt : Option AttemptValue
  deriving DecidableEq

inductive MessageContent
  | unreadable
  | job (payload : SongMessage)
  deriving DecidableEq

structure Conversions where
  /-- `Number(text)`. -/
  numberOf : String → Float
  /-- The broker takes messages with this expiration. -/
  accepts : Float → Bool

/-- What `+` makes of an attempt. -/
inductive Increment
  | number (value : Float)
  | text (value : String)

namespace AttemptValue

/-- The attempt can be written into a template literal. -/
def hasText : AttemptValue → Bool
  | .boolean _ | .number _ | .text _ => true
  | .structured converted => converted.isSome

def plusOne : AttemptValue → Option Increment
  | .boolean value => some (.number ((if value then 1 else 0) + 1))
  | .number value => some (.number (value + 1))
  | .text value => some (.text (value ++ "1"))
  | .structured converted => converted.map fun value => .text (value ++ "1")

theorem plusOne_isSome {value : AttemptValue} (text : value.hasText = true) :
    value.plusOne.isSome = true := by
  cases value with
  | boolean value | number value | text value => rfl
  | structured converted => exact Option.isSome_map.trans text

end AttemptValue

namespace Increment

def toNumber (conversions : Conversions) : Increment → Float
  | .number value => value
  | .text value => conversions.numberOf value

/-- An attempt after `JSON.stringify` and `JSON.parse`. -/
def published : Increment → Option AttemptValue
  | .number value => if value.isFinite then some (.number value) else none
  | .text value => some (.text value)

end Increment

/-- `payload.attempt ?? 1`. -/
def SongMessage.currentAttempt (payload : SongMessage) : AttemptValue :=
  payload.attempt.getD (.number 1)

def parsePayload : MessageContent → Option SongMessage
  | .unreadable => none
  | .job payload => if payload.songId = "" ∨ payload.fileId = "" then none else some payload

def Named (payload : SongMessage) : Prop := payload.songId ≠ "" ∧ payload.fileId ≠ ""

theorem parsePayload_job {payload : SongMessage} (named : Named payload) :
    parsePayload (.job payload) = some payload :=
  if_neg (not_or.mpr named)

theorem parsePayload_inv {content : MessageContent} {payload : SongMessage}
    (parsed : parsePayload content = some payload) : content = .job payload ∧ Named payload := by
  cases content with
  | unreadable => cases parsed
  | job other =>
      obtain ⟨named, same⟩ := Option.ite_none_left_eq_some.mp parsed
      cases same
      exact ⟨rfl, not_or.mp named⟩

/-- What a failure leads to: the end of the attempts, or another one after a delay. -/
inductive Retry
  | exhausted
  | again (payload : SongMessage) (expiration : Float)

/-- What `handleFailure` does, unless the attempt cannot be counted up. -/
def nextAttempt (conversions : Conversions) (payload : SongMessage) : Option Retry :=
  payload.currentAttempt.plusOne.map fun attempt =>
    if Float.ofNat maxAttempts ≤ attempt.toNumber conversions then .exhausted
    else
      .again { payload with attempt := attempt.published } (60000 * attempt.toNumber conversions)

theorem nextAttempt_of_hasText (conversions : Conversions) {payload : SongMessage}
    (text : payload.currentAttempt.hasText = true) :
    ∃ retry, nextAttempt conversions payload = some retry := by
  obtain ⟨attempt, counted⟩ := Option.isSome_iff_exists.mp (AttemptValue.plusOne_isSome text)
  unfold nextAttempt
  rw [counted]
  exact ⟨_, rfl⟩

structure QueuedMessage where
  content : MessageContent
  expires : Bool
  deriving DecidableEq

structure JobMessages where
  broker : Broker QueuedMessage SongMessage
  failures : Nat
  succeeded : Bool
  /-- The message was acknowledged after a success. -/
  acknowledged : Bool
  deriving DecidableEq

/-- `assertQueue(MAIN_QUEUE, { durable: true })`. -/
def mainQueue : QueueOptions := { deadLetters := false }

/-- Which calls on the channel return: the acknowledgement of a success, the publish of
another attempt, and the `ack` or `nack` of a failure. -/
structure ChannelCalls where
  acks : Bool
  publishes : Bool
  settles : Bool
  deriving DecidableEq

inductive MessageLabel
  | deliver (index : Nat) (settles : Bool)
  | finish (index : Nat) (success : Bool) (calls : ChannelCalls)
  /-- The channel of a consumer is lost, and its process with it or not. -/
  | redeliver (index : Nat) (stops : Bool)
  | expire (index : Nat)
  deriving DecidableEq

namespace JobMessages

def submitted (payload : SongMessage) : JobMessages :=
  { broker :=
      { waiting := [{ content := .job payload, expires := false }], consumed := [], dead := [] }
    failures := 0
    succeeded := false
    acknowledged := false }

def started (message : QueuedMessage) : Option SongMessage :=
  (parsePayload message.content).filter fun payload => payload.currentAttempt.hasText

/-- The start of the consume callback.  A message without a payload is discarded; an attempt
that cannot be written into the log message throws before the step. -/
def delivered (state : JobMessages) (index : Nat) (message : QueuedMessage) (settles : Bool) :
    JobMessages :=
  let broker := state.broker.deliver index message (started message)
  if (parsePayload message.content).isNone ∧ settles then
    { state with
      broker := broker.reject mainQueue state.broker.consumed.length
        { message := message, work := none, holds := true } }
  else { state with broker := broker }

theorem delivered_readable {message : QueuedMessage}
    (readable : (parsePayload message.content).isSome = true) (state : JobMessages) (index : Nat)
    (settles : Bool) : state.delivered index message settles =
      { state with broker := state.broker.deliver index message (started message) } :=
  if_neg fun malformed => by simp [Option.isSome_iff_ne_none.mp readable] at malformed

def ended (state : JobMessages) (index : Nat)
    (consumption : Consumption QueuedMessage SongMessage) (success : Bool) : JobMessages :=
  { state with
    broker := state.broker.withConsumption index { consumption with work := none }
    failures := if success then state.failures else state.failures + 1
    succeeded := state.succeeded || success }

def handleFailure (conversions : Conversions) (state : JobMessages) (index : Nat)
    (consumption : Consumption QueuedMessage SongMessage) (payload : SongMessage)
    (calls : ChannelCalls) : JobMessages :=
  match nextAttempt conversions payload with
  | none => state
  | some .exhausted =>
      if calls.settles then
        { state with broker := state.broker.reject mainQueue index consumption }
      else state
  | some (.again payload expiration) =>
      if calls.publishes = false then state
      else if conversions.accepts expiration = false then
        { state with broker := state.broker.requeue index consumption }
      else
        let broker :=
          if calls.settles then state.broker.release index consumption else state.broker
        { state with broker := broker.publish { content := .job payload, expires := true } }

def finished (conversions : Conversions) (state : JobMessages) (index : Nat)
    (consumption : Consumption QueuedMessage SongMessage) (payload : SongMessage)
    (success : Bool) (calls : ChannelCalls) : JobMessages :=
  let idle := { consumption with work := none }
  let ended := state.ended index consumption success
  if consumption.holds = false then ended
  else if success ∧ calls.acks then
    { ended with broker := ended.broker.release index idle, acknowledged := true }
  else ended.handleFailure conversions index idle payload calls

end JobMessages

def messageStep (conversions : Conversions) (state : JobMessages) :
    MessageLabel → Option JobMessages
  | .deliver index settles =>
      state.broker.waiting[index]?.map fun message => state.delivered index message settles
  | .finish index success calls =>
      state.broker.consumed[index]?.bind fun consumption =>
        consumption.work.map fun payload =>
          state.finished conversions index consumption payload success calls
  | .redeliver index stops =>
      (state.broker.consumed[index]?.filter Consumption.holds).map fun consumption =>
        { state with
          broker := state.broker.requeue index
            { consumption with work := if stops then none else consumption.work } }
  | .expire index =>
      (state.broker.waiting[index]?.filter QueuedMessage.expires).map fun message =>
        { state with broker := state.broker.expire mainQueue index message }

def messageMachine (conversions : Conversions) (payload : SongMessage) :
    Machine JobMessages MessageLabel where
  initial state := state = .submitted payload
  step := messageStep conversions

end AudioBlock.Delivery
