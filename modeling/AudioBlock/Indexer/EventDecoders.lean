/-
The event decoders (src/services/Soroban/eventDecoders.ts).

`NativeValue` is what `scValToNative` makes of topics and values; a topic that is not there
and a field that is missing are `undefined`.  Bytes and arrays have none of the fields that
the decoders read.  A royalty payload is the value of its event: where that is not an
object its fields are left out, and nothing else of it is read.
-/
import AudioBlock.Indexer.Worker

namespace AudioBlock.Indexer

inductive NativeValue
  | undefined
  | null
  | boolean (value : Bool)
  | number (value : Int)
  | bigint (value : Int)
  | text (value : String)
  | bytes (value : List UInt8)
  | array (items : List NativeValue)
  | object (fields : List (String × NativeValue))

namespace NativeValue

/-- `value.name` -/
def field (value : NativeValue) (name : String) : NativeValue :=
  match value with
  | .object fields => ((fields.find? fun entry => entry.1 = name).map Prod.snd).getD .undefined
  | _ => .undefined

/-- `value ?? other` -/
def orElse (value other : NativeValue) : NativeValue :=
  match value with
  | .undefined | .null => other
  | _ => value

def isTruthy : NativeValue → Bool
  | .undefined | .null => false
  | .boolean value => value
  | .number value | .bigint value => decide (value ≠ 0)
  | .text value => decide (value ≠ "")
  | .bytes _ | .array _ | .object _ => true

def asText : NativeValue → Option String
  | .text value => some value
  | _ => none

def ofText (text : Option String) : NativeValue := (text.map .text).getD .undefined

def fields : NativeValue → List (String × NativeValue)
  | .object fields => fields
  | _ => []

end NativeValue

namespace NormalizedContractEvent

variable (event : NormalizedContractEvent NativeValue)

def topicAt (index : Nat) : NativeValue := (event.topic[index]?).getD .undefined

def nativeValue : NativeValue := event.value.getD .null

end NormalizedContractEvent

/-- The first topic, or its `symbol` or `name`. -/
def eventSymbol (topic : List NativeValue) : String :=
  match (topic[0]?).getD .undefined with
  | .object fields =>
      (((NativeValue.object fields).field "symbol").asText.or
        ((NativeValue.object fields).field "name").asText).getD ""
  | .text symbol => symbol
  | _ => ""

def addressOf : NativeValue → Option String
  | .text value => some value
  | .object fields =>
      ((NativeValue.object fields).field "address").asText.or
        ((NativeValue.object fields).field "key").asText
  | _ => none

def ContractType.name : ContractType → String
  | .nft => "nft"
  | .artist => "artist"
  | .catalog => "catalog"
  | .royalty => "royalty"
  | .marketplace => "marketplace"

/-- `baseDTO`; no decoder sets the network. -/
def baseDTO (event : NormalizedContractEvent NativeValue) (contractType : ContractType)
    (eventType : String) (payload : List (String × NativeValue)) :
    InsertIndexedEventDTO NativeValue :=
  { contractId := event.contractId
    contractType := some contractType.name
    eventType
    eventId := some event.id
    txHash := nonEmpty event.txHash
    ledger := some event.ledger
    payload := some payload }

def decoded (event : NormalizedContractEvent NativeValue) (contractType : ContractType)
    (eventType : String) (payload : List (String × NativeValue)) (address : Option String) :
    Option (InsertIndexedEventDTO NativeValue) :=
  some { baseDTO event contractType eventType payload with address }

def nftDecoder : SorobanEventDecoder NativeValue :=
  { contractType := .nft
    decode := fun event =>
      let symbol := eventSymbol event.topic
      if symbol = "mint" then
        decoded event .nft "mint"
          [("tokenId", event.nativeValue.orElse .null),
            ("owner", .ofText (addressOf (event.topicAt 1)))]
          (addressOf (event.topicAt 1))
      else if symbol = "transfer" then
        decoded event .nft "transfer"
          [("tokenId", (event.topicAt 1).orElse .null),
            ("from", .ofText (addressOf (event.topicAt 2))),
            ("to", .ofText (addressOf ((event.topicAt 3).orElse event.nativeValue)))]
          (addressOf ((event.topicAt 3).orElse event.nativeValue))
      else none }

def artistDecoder : SorobanEventDecoder NativeValue :=
  { contractType := .artist
    decode := fun event =>
      let symbol := eventSymbol event.topic
      if symbol = "artist_registered" then
        decoded event .artist "artist_registered"
          [("artist", (event.topicAt 1).orElse .null), ("payload", event.nativeValue)]
          (addressOf ((event.topicAt 1).orElse event.nativeValue))
      else if symbol = "profile_updated" then
        decoded event .artist "profile_updated"
          [("artist", (event.topicAt 1).orElse .null), ("changes", event.nativeValue)]
          (addressOf ((event.topicAt 1).orElse event.nativeValue))
      else none }

def playDuration (value : NativeValue) : List (String × NativeValue) :=
  match value.field "durationSeconds" with
  | .number seconds => [("durationSeconds", .number seconds)]
  | _ =>
      match value with
      | .number seconds => [("durationSeconds", .number seconds)]
      | _ => []

def catalogDecoder : SorobanEventDecoder NativeValue :=
  { contractType := .catalog
    decode := fun event =>
      let symbol := eventSymbol event.topic
      let address := addressOf ((event.topicAt 2).orElse event.nativeValue)
      if symbol = "song_registered" then
        decoded event .catalog "song_registered"
          [("songId", (event.topicAt 1).orElse .null), ("data", event.nativeValue)] address
      else if symbol = "album_created" then
        decoded event .catalog "album_created"
          [("albumId", (event.topicAt 1).orElse .null), ("data", event.nativeValue)] address
      else if symbol = "song_played" then
        decoded event .catalog "song_played"
          ([("songId", (event.topicAt 1).orElse .null), ("listener", .ofText address)] ++
            playDuration event.nativeValue) address
      else none }

def royaltyDecoder : SorobanEventDecoder NativeValue :=
  { contractType := .royalty
    decode := fun event =>
      if eventSymbol event.topic = "royalty_payout" then
        let payload :=
          if event.nativeValue.isTruthy then event.nativeValue
          else .object [("recipient", (event.topicAt 1).orElse .null),
            ("amountStroops", (event.topicAt 2).orElse .null)]
        decoded event .royalty "royalty_payout" payload.fields
          (addressOf (((payload.field "recipient").orElse (event.topicAt 1)).orElse
            (payload.field "recipientPublicKey")))
      else none }

def marketplaceDecoder : SorobanEventDecoder NativeValue :=
  { contractType := .marketplace
    decode := fun event =>
      let symbol := eventSymbol event.topic
      if symbol = "listing_created" then
        decoded event .marketplace "listing_created"
          [("listing", (event.topicAt 1).orElse .null), ("seller", (event.topicAt 2).orElse .null),
            ("data", event.nativeValue)]
          (addressOf ((event.topicAt 2).orElse event.nativeValue))
      else if symbol = "sale" then
        decoded event .marketplace "sale"
          [("listing", (event.topicAt 1).orElse .null), ("buyer", (event.topicAt 2).orElse .null),
            ("amountStroops", (event.topicAt 3).orElse .null), ("data", event.nativeValue)]
          (addressOf ((event.topicAt 2).orElse event.nativeValue))
      else if symbol = "listing_cancelled" then
        decoded event .marketplace "listing_cancelled"
          [("listing", (event.topicAt 1).orElse .null)] none
      else none }

def eventDecoders : ContractType → SorobanEventDecoder NativeValue
  | .nft => nftDecoder
  | .artist => artistDecoder
  | .catalog => catalogDecoder
  | .royalty => royaltyDecoder
  | .marketplace => marketplaceDecoder

/-! ### What every decoder keeps of an event -/

structure OfEvent (event : NormalizedContractEvent NativeValue)
    (dto : InsertIndexedEventDTO NativeValue) : Prop where
  network : dto.network = none
  contractId : dto.contractId = event.contractId
  eventId : dto.eventId = some event.id
  txHash : dto.txHash = nonEmpty event.txHash
  ledger : dto.ledger = some event.ledger

section Decoders

variable {event : NormalizedContractEvent NativeValue} {dto : InsertIndexedEventDTO NativeValue}

theorem decoded_ofEvent {contractType : ContractType} {eventType : String}
    {payload : List (String × NativeValue)} {address : Option String}
    (same : decoded event contractType eventType payload address = some dto) :
    OfEvent event dto := by
  cases same
  exact ⟨rfl, rfl, rfl, rfl, rfl⟩

theorem eventDecoders_ofEvent {contractType : ContractType}
    (same : (eventDecoders contractType).decode event = some dto) : OfEvent event dto := by
  cases contractType with
  | nft =>
      simp only [eventDecoders, nftDecoder] at same
      split at same
      · exact decoded_ofEvent same
      · split at same
        · exact decoded_ofEvent same
        · cases same
  | artist =>
      simp only [eventDecoders, artistDecoder] at same
      split at same
      · exact decoded_ofEvent same
      · split at same
        · exact decoded_ofEvent same
        · cases same
  | catalog =>
      simp only [eventDecoders, catalogDecoder] at same
      split at same
      · exact decoded_ofEvent same
      · split at same
        · exact decoded_ofEvent same
        · split at same
          · exact decoded_ofEvent same
          · cases same
  | royalty =>
      simp only [eventDecoders, royaltyDecoder] at same
      split at same
      · exact decoded_ofEvent same
      · cases same
  | marketplace =>
      simp only [eventDecoders, marketplaceDecoder] at same
      split at same
      · exact decoded_ofEvent same
      · split at same
        · exact decoded_ofEvent same
        · split at same
          · exact decoded_ofEvent same
          · cases same

end Decoders

end AudioBlock.Indexer
