/-
The numbers of an event, and those that its decoder leaves in the payload.

A 64-bit integer or a wider one comes as a bigint, which `JSON.stringify` does not take.  The
decoders copy what they are given, so a payload keeps every number and can be stored exactly
where the event has no bigint.
-/
import AudioBlock.Indexer.EventDecoders

namespace AudioBlock.Indexer

namespace NativeValue

mutual

def leaves (give : NativeValue → List Int) : NativeValue → List Int
  | .array items => leavesOfItems give items
  | .object fields => leavesOfFields give fields
  | value => give value

def leavesOfItems (give : NativeValue → List Int) : List NativeValue → List Int
  | [] => []
  | item :: rest => leaves give item ++ leavesOfItems give rest

def leavesOfField (give : NativeValue → List Int) : String × NativeValue → List Int
  | (_, value) => leaves give value

def leavesOfFields (give : NativeValue → List Int) : List (String × NativeValue) → List Int
  | [] => []
  | field :: rest => leavesOfField give field ++ leavesOfFields give rest

end

def numeral : NativeValue → List Int
  | .number value | .bigint value => [value]
  | _ => []

def wideNumeral : NativeValue → List Int
  | .bigint value => [value]
  | _ => []

end NativeValue

open NativeValue (leaves leavesOfItems leavesOfField leavesOfFields numeral wideNumeral)

/-! ### Events and payloads -/

/-- An integer of any width. -/
inductive Numeric : NativeValue → Prop
  | number (value : Int) : Numeric (.number value)
  | bigint (value : Int) : Numeric (.bigint value)

def texts (topics : List String) : List NativeValue := topics.map .text

/-- The topics after the symbol and the value, for each event of each contract.  Ids, amounts and
data are any values, addresses are texts and may be missing; a play lasts an integer, bare or in a
field. -/
inductive WellFormed : ContractType → String → List NativeValue → NativeValue → Prop
  | mint (owner : List String) (tokenId : NativeValue) :
      WellFormed .nft "mint" (texts owner) tokenId
  | transfer (tokenId : NativeValue) (parties : List String) :
      WellFormed .nft "transfer" (tokenId :: texts parties) .null
  | transferTo (tokenId : NativeValue) (sender : List String) (receiver : String) :
      WellFormed .nft "transfer" (tokenId :: texts sender) (.text receiver)
  | artistRegistered (artist : List String) (payload : NativeValue) :
      WellFormed .artist "artist_registered" (texts artist) payload
  | profileUpdated (artist : List String) (changes : NativeValue) :
      WellFormed .artist "profile_updated" (texts artist) changes
  | songRegistered (songId : NativeValue) (artist : List String) (data : NativeValue) :
      WellFormed .catalog "song_registered" (songId :: texts artist) data
  | albumCreated (albumId : NativeValue) (artist : List String) (data : NativeValue) :
      WellFormed .catalog "album_created" (albumId :: texts artist) data
  | songPlayed (songId : String) (listener : List String) {duration : NativeValue}
      (numeric : Numeric duration) :
      WellFormed .catalog "song_played" (texts (songId :: listener)) duration
  | songPlayedField (songId : String) (listener : List String) {duration : NativeValue}
      (numeric : Numeric duration) :
      WellFormed .catalog "song_played" (texts (songId :: listener))
        (.object [("durationSeconds", duration)])
  | payout (recipient : List String) (fields : List (String × NativeValue)) :
      WellFormed .royalty "royalty_payout" (texts recipient) (.object fields)
  | payoutTopics (recipient : String) (amount : NativeValue) :
      WellFormed .royalty "royalty_payout" [.text recipient, amount] .null
  | listingCreated (listing : NativeValue) (seller : List String) (data : NativeValue) :
      WellFormed .marketplace "listing_created" (listing :: texts seller) data
  | sale (listing : NativeValue) (buyer : String) (amount data : NativeValue) :
      WellFormed .marketplace "sale" [listing, .text buyer, amount] data
  | listingCancelled (listing : NativeValue) (seller : List String) :
      WellFormed .marketplace "listing_cancelled" (listing :: texts seller) .null

section Payloads

variable (give : NativeValue → List Int) (event : NormalizedContractEvent NativeValue)
  (dto : InsertIndexedEventDTO NativeValue)

def eventLeaves : List Int :=
  leavesOfItems give event.topic.tail ++ leaves give event.nativeValue

def payloadLeaves : List Int := leavesOfFields give (dto.payload.getD [])

/-- `JSON.stringify` takes the payload, and it has every number of the event, in their order. -/
structure PayloadKept : Prop where
  serialisable : payloadLeaves wideNumeral dto = []
  exact : (eventLeaves numeral event).Sublist (payloadLeaves numeral dto)

end Payloads

/-! ### What the decoders copy -/

section Copies

variable {give : NativeValue → List Int} {event : NormalizedContractEvent NativeValue}

/-- Only integers give anything. -/
structure Quiet (give : NativeValue → List Int) : Prop where
  undefined : give .undefined = []
  null : give .null = []
  text : ∀ text, give (.text text) = []

@[simp]
theorem leaves_null (quiet : Quiet give) : leaves give .null = [] := quiet.null

@[simp]
theorem leaves_text (quiet : Quiet give) (text : String) : leaves give (.text text) = [] :=
  quiet.text text

@[simp]
theorem leaves_ofText (quiet : Quiet give) (text : Option String) :
    leaves give (.ofText text) = [] := by
  cases text with
  | none => exact quiet.undefined
  | some text => exact quiet.text text

@[simp]
theorem leaves_orElse (quiet : Quiet give) (value : NativeValue) :
    leaves give (value.orElse .null) = leaves give value := by
  cases value with
  | undefined => exact quiet.null.trans quiet.undefined.symm
  | null => rfl
  | boolean value => rfl
  | number value => rfl
  | bigint value => rfl
  | text value => rfl
  | bytes value => rfl
  | array items => rfl
  | object fields => rfl

@[simp]
theorem leavesOfItems_nil : leavesOfItems give [] = [] := rfl

@[simp]
theorem leavesOfItems_cons (item : NativeValue) (rest : List NativeValue) :
    leavesOfItems give (item :: rest) = leaves give item ++ leavesOfItems give rest := rfl

@[simp]
theorem leavesOfFields_nil : leavesOfFields give [] = [] := rfl

@[simp]
theorem leavesOfFields_cons (name : String) (value : NativeValue)
    (rest : List (String × NativeValue)) :
    leavesOfFields give ((name, value) :: rest) = leaves give value ++ leavesOfFields give rest := rfl

@[simp]
theorem leavesOfItems_texts (quiet : Quiet give) (topics : List String) :
    leavesOfItems give (texts topics) = [] := by
  induction topics with
  | nil => rfl
  | cons first rest ih =>
      change leaves give (.text first) ++ leavesOfItems give (texts rest) = []
      rw [leaves_text quiet, ih]
      rfl

@[simp]
theorem leaves_textAt (quiet : Quiet give) (topics : List String) (index : Nat) :
    leaves give (((texts topics)[index]?).getD .undefined) = [] := by
  unfold texts
  rw [List.getElem?_map]
  cases topics[index]? with
  | none => exact quiet.undefined
  | some text => exact quiet.text text

theorem topicAt_succ (event : NormalizedContractEvent NativeValue) (index : Nat) :
    event.topicAt (index + 1) = (event.topic.tail[index]?).getD .undefined := by
  unfold NormalizedContractEvent.topicAt
  rw [List.getElem?_tail]

structure Carries (event : NormalizedContractEvent NativeValue) (symbol : String)
    (arguments : List NativeValue) (value : NativeValue) : Prop where
  symbol : eventSymbol event.topic = symbol
  topics : event.topic.tail = arguments
  value : event.nativeValue = value

def Copies (contractType : ContractType) (event : NormalizedContractEvent NativeValue)
    (symbol : String) (arguments : List NativeValue) (value : NativeValue) : Prop :=
  ∃ payload address,
    (eventDecoders contractType).decode event =
        decoded event contractType symbol payload address ∧
      ∀ give, Quiet give →
        leavesOfFields give payload = leavesOfItems give arguments ++ leaves give value

variable {symbol : String} {arguments : List NativeValue} {value : NativeValue}

theorem Carries.topicAt (carries : Carries event symbol arguments value) (index : Nat) :
    event.topicAt (index + 1) = (arguments[index]?).getD .undefined := by
  rw [topicAt_succ, carries.topics]

theorem nft_copies (wellFormed : WellFormed .nft symbol arguments value)
    (carries : Carries event symbol arguments value) : Copies .nft event symbol arguments value := by
  have first := carries.topicAt 0
  cases wellFormed with
  | mint owner tokenId =>
      simp only [Copies, eventDecoders, nftDecoder, carries.symbol, carries.value, if_true]
      refine ⟨_, _, rfl, ?_⟩
      intro give quiet
      simp [quiet]
  | transfer tokenId parties =>
      simp only [Copies, eventDecoders, nftDecoder, carries.symbol, carries.value]
      refine ⟨_, _, rfl, ?_⟩
      intro give quiet
      simp [quiet, first]
  | transferTo tokenId sender receiver =>
      simp only [Copies, eventDecoders, nftDecoder, carries.symbol, carries.value]
      refine ⟨_, _, rfl, ?_⟩
      intro give quiet
      simp [quiet, first]

theorem artist_copies (wellFormed : WellFormed .artist symbol arguments value)
    (carries : Carries event symbol arguments value) :
    Copies .artist event symbol arguments value := by
  have first := carries.topicAt 0
  cases wellFormed with
  | artistRegistered artist payload =>
      simp only [Copies, eventDecoders, artistDecoder, carries.symbol, carries.value, if_true]
      refine ⟨_, _, rfl, ?_⟩
      intro give quiet
      simp [quiet, first]
  | profileUpdated artist changes =>
      simp only [Copies, eventDecoders, artistDecoder, carries.symbol, carries.value]
      refine ⟨_, _, rfl, ?_⟩
      intro give quiet
      simp [quiet, first]

theorem catalog_copies (wellFormed : WellFormed .catalog symbol arguments value)
    (carries : Carries event symbol arguments value) (played : symbol ≠ "song_played") :
    Copies .catalog event symbol arguments value := by
  have first := carries.topicAt 0
  cases wellFormed with
  | songRegistered songId artist data =>
      simp only [Copies, eventDecoders, catalogDecoder, carries.symbol, carries.value, if_true]
      refine ⟨_, _, rfl, ?_⟩
      intro give quiet
      simp [quiet, first]
  | albumCreated albumId artist data =>
      simp only [Copies, eventDecoders, catalogDecoder, carries.symbol, carries.value]
      refine ⟨_, _, rfl, ?_⟩
      intro give quiet
      simp [quiet, first]
  | songPlayed songId listener numeric => exact absurd rfl played
  | songPlayedField songId listener numeric => exact absurd rfl played

theorem royalty_copies (wellFormed : WellFormed .royalty symbol arguments value)
    (carries : Carries event symbol arguments value) :
    Copies .royalty event symbol arguments value := by
  have first := carries.topicAt 0
  have second := carries.topicAt 1
  cases wellFormed with
  | payout recipient fields =>
      simp only [Copies, eventDecoders, royaltyDecoder, carries.symbol, carries.value, if_true]
      refine ⟨_, _, rfl, ?_⟩
      intro give quiet
      rw [leavesOfItems_texts quiet]
      rfl
  | payoutTopics recipient amount =>
      simp only [Copies, eventDecoders, royaltyDecoder, carries.symbol, carries.value, if_true]
      refine ⟨_, _, rfl, ?_⟩
      intro give quiet
      simp [quiet, first, second, NativeValue.isTruthy, NativeValue.fields]

theorem marketplace_copies (wellFormed : WellFormed .marketplace symbol arguments value)
    (carries : Carries event symbol arguments value) :
    Copies .marketplace event symbol arguments value := by
  have first := carries.topicAt 0
  have second := carries.topicAt 1
  have third := carries.topicAt 2
  cases wellFormed with
  | listingCreated listing seller data =>
      simp only [Copies, eventDecoders, marketplaceDecoder, carries.symbol, carries.value, if_true]
      refine ⟨_, _, rfl, ?_⟩
      intro give quiet
      simp [quiet, first, second]
  | sale listing buyer amount data =>
      simp only [Copies, eventDecoders, marketplaceDecoder, carries.symbol, carries.value]
      refine ⟨_, _, rfl, ?_⟩
      intro give quiet
      simp [quiet, first, second, third]
  | listingCancelled listing seller =>
      simp only [Copies, eventDecoders, marketplaceDecoder, carries.symbol]
      refine ⟨_, _, rfl, ?_⟩
      intro give quiet
      simp [quiet, first]

theorem Copies.kept_iff {contractType : ContractType}
    (copies : Copies contractType event symbol arguments value)
    (carries : Carries event symbol arguments value) :
    ∃ dto, (eventDecoders contractType).decode event = some dto ∧
      (PayloadKept event dto ↔ eventLeaves wideNumeral event = []) := by
  obtain ⟨payload, address, decodes, copied⟩ := copies
  refine ⟨_, decodes, ?_⟩
  have same : ∀ give, Quiet give → leavesOfFields give payload = eventLeaves give event := by
    intro give quiet
    rw [copied give quiet, eventLeaves, carries.topics, carries.value]
  have wide := same wideNumeral ⟨rfl, rfl, fun _ => rfl⟩
  have numbers := same numeral ⟨rfl, rfl, fun _ => rfl⟩
  constructor
  · exact fun kept => wide.symm.trans kept.serialisable
  · intro narrow
    refine ⟨wide.trans narrow, ?_⟩
    change (eventLeaves numeral event).Sublist (leavesOfFields numeral payload)
    simp only [numbers, List.Sublist.refl]

theorem WellFormed.played (wellFormed : WellFormed .catalog symbol arguments value)
    (played : symbol = "song_played") :
    ∃ songId listener duration, arguments = texts (songId :: listener) ∧ Numeric duration ∧
      (value = duration ∨ value = .object [("durationSeconds", duration)]) := by
  cases wellFormed with
  | songRegistered songId artist data => exact absurd played (by decide)
  | albumCreated albumId artist data => exact absurd played (by decide)
  | songPlayed songId listener numeric => exact ⟨_, _, _, rfl, numeric, Or.inl rfl⟩
  | songPlayedField songId listener numeric => exact ⟨_, _, _, rfl, numeric, Or.inr rfl⟩

theorem playDuration_leaves {duration : NativeValue} (numeric : Numeric duration)
    (lasts : value = duration ∨ value = .object [("durationSeconds", duration)]) :
    leavesOfFields wideNumeral (playDuration value) = [] ∧
      ((leaves numeral value).Sublist (leavesOfFields numeral (playDuration value)) ↔
        leaves wideNumeral value = []) := by
  cases numeric with
  | number seconds =>
      rcases lasts with bare | field
      · subst bare
        exact ⟨rfl, iff_of_true (List.Sublist.refl _) rfl⟩
      · subst field
        exact ⟨rfl, iff_of_true (List.Sublist.refl _) rfl⟩
  | bigint seconds =>
      rcases lasts with bare | field
      · subst bare
        exact ⟨rfl, iff_of_false (nomatch ·) (nomatch ·)⟩
      · subst field
        exact ⟨rfl, iff_of_false (nomatch ·) (nomatch ·)⟩

theorem played_payload {songId : String} {listener : List String}
    (carries : Carries event "song_played" (texts (songId :: listener)) value) :
    ∃ payload address,
      catalogDecoder.decode event = decoded event .catalog "song_played" payload address ∧
        ∀ give, Quiet give →
          leavesOfFields give payload = leavesOfFields give (playDuration value) := by
  have first := carries.topicAt 0
  simp only [catalogDecoder, carries.symbol, carries.value]
  refine ⟨_, _, rfl, ?_⟩
  intro give quiet
  simp [quiet, first]

theorem played_kept_iff {songId : String} {listener : List String} {duration : NativeValue}
    (numeric : Numeric duration)
    (lasts : value = duration ∨ value = .object [("durationSeconds", duration)])
    (carries : Carries event "song_played" (texts (songId :: listener)) value) :
    ∃ dto, catalogDecoder.decode event = some dto ∧
      (PayloadKept event dto ↔ eventLeaves wideNumeral event = []) := by
  obtain ⟨payload, address, decodes, copied⟩ := played_payload carries
  obtain ⟨storable, exact⟩ := playDuration_leaves numeric lasts
  refine ⟨_, decodes, ?_⟩
  have leavesOf : ∀ give, Quiet give → eventLeaves give event = leaves give value := by
    intro give quiet
    rw [eventLeaves, carries.topics, carries.value]
    simp [quiet]
  have wideQuiet : Quiet wideNumeral := ⟨rfl, rfl, fun _ => rfl⟩
  have quiet : Quiet numeral := ⟨rfl, rfl, fun _ => rfl⟩
  rw [leavesOf wideNumeral wideQuiet, ← exact]
  constructor
  · intro kept
    have numbers := kept.exact
    rw [leavesOf numeral quiet] at numbers
    exact copied numeral quiet ▸ numbers
  · intro numbers
    refine ⟨(copied wideNumeral wideQuiet).trans storable, ?_⟩
    change (eventLeaves numeral event).Sublist (leavesOfFields numeral payload)
    rw [leavesOf numeral quiet, copied numeral quiet]
    exact numbers

end Copies

/-- A well-formed event is decoded, and its payload can be stored and has every number of the event
exactly where none of them is a bigint. -/
theorem payloadKept_iff (contractType : ContractType) (event : NormalizedContractEvent NativeValue)
    (wellFormed : WellFormed contractType (eventSymbol event.topic) event.topic.tail
      event.nativeValue) :
    ∃ dto, (eventDecoders contractType).decode event = some dto ∧
      (PayloadKept event dto ↔ eventLeaves wideNumeral event = []) := by
  have carries : Carries event (eventSymbol event.topic) event.topic.tail event.nativeValue :=
    ⟨rfl, rfl, rfl⟩
  generalize eventSymbol event.topic = symbol at wellFormed carries
  generalize event.topic.tail = arguments at wellFormed carries
  generalize event.nativeValue = value at wellFormed carries
  cases contractType with
  | nft => exact (nft_copies wellFormed carries).kept_iff carries
  | artist => exact (artist_copies wellFormed carries).kept_iff carries
  | royalty => exact (royalty_copies wellFormed carries).kept_iff carries
  | marketplace => exact (marketplace_copies wellFormed carries).kept_iff carries
  | catalog =>
      by_cases played : symbol = "song_played"
      · obtain ⟨songId, listener, duration, same, numeric, lasts⟩ := wellFormed.played played
        subst played same
        exact played_kept_iff numeric lasts carries
      · exact (catalog_copies wellFormed carries played).kept_iff carries

instance (event : NormalizedContractEvent NativeValue) (dto : InsertIndexedEventDTO NativeValue) :
    Decidable (PayloadKept event dto) :=
  decidable_of_iff
    (payloadLeaves wideNumeral dto = [] ∧
      (eventLeaves numeral event).Sublist (payloadLeaves numeral dto))
    ⟨fun both => ⟨both.1, both.2⟩, fun kept => ⟨kept.serialisable, kept.exact⟩⟩

def nativeEvent (topic : List NativeValue) (value : NativeValue) :
    NormalizedContractEvent NativeValue where
  id := "1-1"
  ledger := 1
  txHash := "tx1"
  contractId := some "CCATALOG"
  topic := topic
  value := some value

def playedFor (duration : NativeValue) : NormalizedContractEvent NativeValue :=
  nativeEvent [.text "song_played", .text "song-1", .text "GLISTENER"]
    (.object [("durationSeconds", duration)])

def soldFor (amount : NativeValue) : NormalizedContractEvent NativeValue :=
  nativeEvent [.text "sale", .text "listing-9", .text "GBUYER", amount] .null

theorem soldForText_kept :
    ∃ dto, marketplaceDecoder.decode (soldFor (.text "7500")) = some dto ∧
      (PayloadKept (soldFor (.text "7500")) dto ↔
        eventLeaves wideNumeral (soldFor (.text "7500")) = []) :=
  payloadKept_iff .marketplace (soldFor (.text "7500"))
    (.sale (.text "listing-9") "GBUYER" (.text "7500") .null)

theorem wideNumbers_lost :
    (∀ dto ∈ catalogDecoder.decode (playedFor (.bigint 180)),
        ¬ PayloadKept (playedFor (.bigint 180)) dto) ∧
      ∀ dto ∈ marketplaceDecoder.decode (soldFor (.bigint 7500)),
        ¬ PayloadKept (soldFor (.bigint 7500)) dto := by
  decide +kernel

end AudioBlock.Indexer
