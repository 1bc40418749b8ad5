/-
`PrivyWebhookService.verifySignature`: the header, the age of its timestamp, and the HMAC of
the text that the service reads the body as.
-/
import AudioBlock.Auth.PrivyWebhooks
import AudioBlock.Foundation.ByteTexts
import Mathlib.Algebra.Order.Field.Rat
import Mathlib.Data.List.Induction
import Mathlib.Data.List.TakeWhile

namespace AudioBlock.Auth

open AudioBlock.Foundation

/-- An output of SHA-256. -/
abbrev Digest := { digest : List UInt8 // digest.length = 32 }

/-- The constructor refuses a blank secret and keeps the trimmed one. -/
structure PrivyWebhookService where
  webhookSecret : List Char
  maxAgeSeconds : Rat
  configured : webhookSecret ≠ []

/-- `rawBody: Buffer | string`. -/
inductive RawBody
  | buffer (bytes : List UInt8)
  | text (payload : List Char)

/-- `rawBody.toString('utf8')`, or the string itself. -/
def RawBody.payload : RawBody → List Char
  | .buffer bytes => decodeUtf8 bytes
  | .text payload => payload

def RawBody.bytes : RawBody → List UInt8
  | .buffer bytes => bytes
  | .text payload => utf8 payload

/-! ### The header -/

structure SignatureHeader where
  timestamp : Option (List Char)
  providedSignature : Option (List Char)

/-- `const [key, value] = part.split('=')`; a key without a value takes back an earlier one. -/
def SignatureHeader.read (header : SignatureHeader) (part : List Char) : SignatureHeader :=
  let key := (part.splitOn '=')[0]?
  let value := (part.splitOn '=')[1]?
  { timestamp := if key = some "t".toList then value else header.timestamp
    providedSignature := if key = some "v1".toList then value else header.providedSignature }

def parseSignature (signature : List Char) : SignatureHeader :=
  (signature.splitOn ',').foldl SignatureHeader.read ⟨none, none⟩

def nonempty (text : Option (List Char)) : Option (List Char) :=
  text.filter fun shown => !shown.isEmpty

/-! ### The check -/

/-- Neither older than the maximum age nor more than a minute ahead; `now` is in
milliseconds. -/
def isFresh (service : PrivyWebhookService) (now : Nat) (webhookTimestamp : Int) : Bool :=
  let age := ((now / 1000 : Nat) : Int) - webhookTimestamp
  !decide (service.maxAgeSeconds < age) && !decide (age < -60)

/-- `createHmac` is HMAC-SHA256. -/
def verifySignature (createHmac : List Char → List UInt8 → Digest) (service : PrivyWebhookService)
    (now : Nat) (signature : Option (List Char)) (rawBody : RawBody) : Bool :=
  match nonempty signature with
  | none => false
  | some signature =>
      let header := parseSignature signature
      match nonempty header.timestamp, nonempty header.providedSignature with
      | some timestamp, some providedSignature =>
          match parseInt timestamp with
          | none => false
          | some webhookTimestamp =>
              if isFresh service now webhookTimestamp then
                let signedPayload := timestamp ++ '.' :: rawBody.payload
                let expectedSignature :=
                  showHex (createHmac service.webhookSecret (utf8 signedPayload)).1
                let providedBuffer := readHex providedSignature
                let expectedBuffer := readHex expectedSignature
                if providedBuffer.length ≠ expectedBuffer.length then false
                else providedBuffer == expectedBuffer
              else false
      | _, _ => false

/-!
### What is accepted

What `verifySignature` accepts, against the header `t=timestamp,v1=signature` with the hex
digest of `timestamp.payload` that it documents.
-/

/-! ### The fields of a header -/

def beforeEquals (value : List Char) : List Char := value.takeWhile (· != '=')

/-- What a part says of the field `name`, if it is about it: the text after its first `=`. -/
def partField (name part : List Char) : Option (Option (List Char)) :=
  if beforeEquals part = name then some (part.dropWhile (· != '=')).tail? else none

def headerField (name header : List Char) : Option (List Char) :=
  ((header.splitOn ',').reverse.findSome? (partField name)).join

theorem takeWhile_of_noEquals {value : List Char} (single : '=' ∉ value) :
    ∀ char ∈ value, (char != '=') = true := by
  intro char member
  exact bne_iff_ne.2 fun same => single (same ▸ member)

theorem beforeEquals_of_noEquals {value : List Char} (single : '=' ∉ value) :
    beforeEquals value = value :=
  List.takeWhile_eq_self_iff.2 (takeWhile_of_noEquals single)

theorem beforeEquals_append {front : List Char} (single : '=' ∉ front) (rest : List Char) :
    beforeEquals (front ++ '=' :: rest) = front := by
  unfold beforeEquals
  rw [List.takeWhile_append_of_pos (takeWhile_of_noEquals single)]
  exact List.append_nil front

theorem beforeEquals_cons {char : Char} (differs : char ≠ '=') (rest : List Char) :
    beforeEquals (char :: rest) = char :: beforeEquals rest :=
  List.takeWhile_cons_of_pos (bne_iff_ne.2 differs)

variable (value header : List Char)

theorem equals_cases :
    '=' ∉ value ∨ ∃ front rest, '=' ∉ front ∧ value = front ++ '=' :: rest := by
  by_cases single : '=' ∈ value
  · obtain ⟨front, rest, shape, first⟩ := List.eq_append_cons_of_mem single
    exact .inr ⟨front, rest, first, shape⟩
  · exact .inl single

theorem splitOn_first (part : List Char) :
    (part.splitOn '=')[0]? = some (beforeEquals part) := by
  rcases equals_cases part with single | ⟨front, rest, single, rfl⟩
  · rw [List.splitOn_eq_singleton single, beforeEquals_of_noEquals single]
    rfl
  · rw [List.splitOn_append_cons_self_of_not_mem single, beforeEquals_append single]
    rfl

theorem splitOn_second (part : List Char) :
    (part.splitOn '=')[1]? = (part.dropWhile (· != '=')).tail?.map beforeEquals := by
  rcases equals_cases part with single | ⟨front, rest, single, rfl⟩
  · rw [List.splitOn_eq_singleton single,
      List.dropWhile_eq_nil_iff.2 (takeWhile_of_noEquals single)]
    rfl
  · rw [List.splitOn_append_cons_self_of_not_mem single,
      List.dropWhile_append_of_pos (takeWhile_of_noEquals single)]
    exact splitOn_first rest

theorem readField (name part : List Char) (earlier : Option (List Char)) :
    (if (part.splitOn '=')[0]? = some name then (part.splitOn '=')[1]? else earlier) =
      ((partField name part).map (Option.map beforeEquals)).getD earlier := by
  rw [splitOn_first, splitOn_second]
  unfold partField
  by_cases named : beforeEquals part = name
  · rw [if_pos (congrArg some named), if_pos named]
    rfl
  · rw [if_neg fun same => named (Option.some.inj same), if_neg named]
    rfl

theorem foldl_read (name : List Char) (value : SignatureHeader → Option (List Char))
    (step : ∀ header part, value (header.read part) =
      ((partField name part).map (Option.map beforeEquals)).getD (value header))
    (parts : List (List Char)) (header : SignatureHeader) (blank : value header = none) :
    value (parts.foldl SignatureHeader.read header) =
      (parts.reverse.findSome? (partField name)).join.map beforeEquals := by
  induction parts using List.reverseRecOn with
  | nil => exact blank
  | append_singleton parts last ih =>
      rw [List.foldl_append, List.foldl_cons, List.foldl_nil, step, List.reverse_append,
        List.reverse_singleton, List.singleton_append, List.findSome?_cons]
      cases partField name last with
      | none => exact ih
      | some found => rfl

theorem parseSignature_timestamp :
    (parseSignature header).timestamp = (headerField "t".toList header).map beforeEquals :=
  foldl_read "t".toList SignatureHeader.timestamp
    (fun header part => readField "t".toList part header.timestamp) (header.splitOn ',')
    ⟨none, none⟩ rfl

theorem parseSignature_provided :
    (parseSignature header).providedSignature =
      (headerField "v1".toList header).map beforeEquals :=
  foldl_read "v1".toList SignatureHeader.providedSignature
    (fun header part => readField "v1".toList part header.providedSignature) (header.splitOn ',')
    ⟨none, none⟩ rfl

/-! ### The timestamp -/

theorem dropWhile_beforeEquals :
    (beforeEquals value).dropWhile isBlank = beforeEquals (value.dropWhile isBlank) := by
  induction value with
  | nil => rfl
  | cons char rest ih =>
      by_cases blank : isBlank char = true
      · have differs : char ≠ '=' := fun same => absurd (same ▸ blank) (by decide)
        rw [beforeEquals_cons differs, List.dropWhile_cons_of_pos blank,
          List.dropWhile_cons_of_pos blank, ih]
      · rw [List.dropWhile_cons_of_neg blank]
        by_cases stops : char = '='
        · rw [stops]
          rfl
        · rw [beforeEquals_cons stops, List.dropWhile_cons_of_neg blank]

theorem digits_beforeEquals :
    (beforeEquals value).takeWhile Char.isDigit = value.takeWhile Char.isDigit := by
  unfold beforeEquals
  rw [List.takeWhile_takeWhile]
  congr 1
  funext char
  by_cases same : char = '='
  · rw [same]
    decide
  · rw [bne_iff_ne.2 same]
    simp

theorem parseInt_beforeEquals : parseInt (beforeEquals value) = parseInt value := by
  unfold parseInt
  rw [dropWhile_beforeEquals]
  cases value.dropWhile isBlank with
  | nil => rfl
  | cons char rest =>
      by_cases stops : char = '='
      · rw [stops]
        rfl
      · have digits := digits_beforeEquals (char :: rest)
        rw [beforeEquals_cons stops] at digits ⊢
        dsimp only
        split
        case h_1 _ shown same =>
            obtain ⟨rfl, rfl⟩ := List.cons.inj same
            rw [digits_beforeEquals]
            rfl
        case h_2 _ shown same =>
            obtain ⟨rfl, rfl⟩ := List.cons.inj same
            rw [digits_beforeEquals]
            rfl
        case h_3 _ minus plus =>
            have unsigned : char ≠ '-' ∧ char ≠ '+' :=
              ⟨fun sign => minus _ (congrArg (· :: beforeEquals rest) sign),
                fun sign => plus _ (congrArg (· :: beforeEquals rest) sign)⟩
            rw [digits]
            simp [unsigned.1, unsigned.2]

/-! ### What is accepted -/

/-- The timestamp's age lies between the allowed skew and the maximum age. -/
def Fresh (service : PrivyWebhookService) (now : Nat) (timestamp : List Char) : Prop :=
  ∃ seconds ∈ parseInt timestamp,
    -60 ≤ ((now / 1000 : Nat) : Int) - seconds ∧
      ((((now / 1000 : Nat) : Int) - seconds : Int) : Rat) ≤ service.maxAgeSeconds

/-- The header carries a fresh `t` and, character for character, the hex digest of the bytes
`t.body`. -/
def SignedExactly (createHmac : List Char → List UInt8 → Digest) (service : PrivyWebhookService)
    (now : Nat) (signature : Option (List Char)) (rawBody : RawBody) : Prop :=
  ∃ header ∈ signature, ∃ timestamp ∈ headerField "t".toList header,
    ∃ provided ∈ headerField "v1".toList header,
      Fresh service now timestamp ∧
        provided = showHex
          (createHmac service.webhookSecret (utf8 (timestamp ++ ['.']) ++ rawBody.bytes)).1

/-- Beside a fresh `t`, a `v1` that decodes to 32 bytes is 64 lower-case digits and no more,
`t` has no second `=`, and the body is UTF-8. -/
def ExactTexts (service : PrivyWebhookService) (now : Nat) (signature : Option (List Char))
    (rawBody : RawBody) : Prop :=
  ∀ header ∈ signature, ∀ timestamp ∈ headerField "t".toList header,
    Fresh service now timestamp → ∀ provided ∈ headerField "v1".toList header,
      (readHex (beforeEquals provided)).length = 32 →
        (provided.length = 64 ∧ ∀ char ∈ provided, isLowerHex char = true) ∧
          '=' ∉ timestamp ∧ ∃ text, rawBody.bytes = utf8 text

theorem fresh_iff (service : PrivyWebhookService) (now : Nat) (timestamp : List Char) :
    Fresh service now timestamp ↔
      ∃ seconds ∈ parseInt timestamp, isFresh service now seconds = true := by
  unfold Fresh isFresh
  simp only [Bool.and_eq_true, Bool.not_eq_true', decide_eq_false_iff_not, not_lt]
  constructor
  · rintro ⟨seconds, parsed, ahead, old⟩
    exact ⟨seconds, parsed, old, ahead⟩
  · rintro ⟨seconds, parsed, old, ahead⟩
    exact ⟨seconds, parsed, ahead, old⟩

theorem fresh_beforeEquals (service : PrivyWebhookService) (now : Nat) (timestamp : List Char) :
    Fresh service now (beforeEquals timestamp) ↔ Fresh service now timestamp := by
  unfold Fresh
  rw [parseInt_beforeEquals]

theorem mem_nonempty {text : Option (List Char)} {shown : List Char} :
    nonempty text = some shown ↔ text = some shown ∧ shown ≠ [] := by
  unfold nonempty
  rw [Option.filter_eq_some_iff]
  simp

variable {timestamp : List Char}

theorem Fresh.beforeEquals_ne_nil {service : PrivyWebhookService} {now : Nat}
    (fresh : Fresh service now timestamp) :
    beforeEquals timestamp ≠ [] := by
  intro empty
  obtain ⟨seconds, parsed, _⟩ := (fresh_beforeEquals service now timestamp).2 fresh
  rw [empty] at parsed
  exact nomatch parsed

theorem digest_ne_nil (digest : Digest) : digest.1 ≠ [] := by
  intro empty
  have length := digest.2
  rw [empty] at length
  exact nomatch length

variable {createHmac : List Char → List UInt8 → Digest} {service : PrivyWebhookService} {now : Nat}
  {signature : Option (List Char)} {rawBody : RawBody}

theorem verifySignature_cases (given : signature = some header) (filled : header ≠ [])
    {provided : List Char} (hasTimestamp : headerField "t".toList header = some timestamp)
    (hasProvided : headerField "v1".toList header = some provided)
    (timestampFilled : beforeEquals timestamp ≠ []) (providedFilled : beforeEquals provided ≠ []) :
    verifySignature createHmac service now signature rawBody = true ↔
      Fresh service now timestamp ∧
        readHex (beforeEquals provided) = (createHmac service.webhookSecret
          (utf8 (beforeEquals timestamp ++ '.' :: rawBody.payload))).1 := by
  have shortTimestamp : nonempty (parseSignature header).timestamp = some (beforeEquals timestamp) := by
    rw [parseSignature_timestamp, hasTimestamp]
    exact mem_nonempty.2 ⟨rfl, timestampFilled⟩
  have shortProvided :
      nonempty (parseSignature header).providedSignature = some (beforeEquals provided) := by
    rw [parseSignature_provided, hasProvided]
    exact mem_nonempty.2 ⟨rfl, providedFilled⟩
  unfold verifySignature
  rw [mem_nonempty.2 ⟨given, filled⟩]
  dsimp only
  rw [shortTimestamp, shortProvided, ← fresh_beforeEquals, fresh_iff]
  dsimp only
  cases parseInt (beforeEquals timestamp) with
  | none =>
      constructor
      · intro accepted
        exact nomatch accepted
      · rintro ⟨⟨seconds, parsed, _⟩, _⟩
        exact nomatch parsed
  | some seconds =>
      simp only [Option.mem_some, exists_eq_left']
      cases isFresh service now seconds with
      | false => simp
      | true =>
          rw [readHex_showHex, if_pos rfl]
          by_cases same : readHex (beforeEquals provided) = (createHmac service.webhookSecret
              (utf8 (beforeEquals timestamp ++ '.' :: rawBody.payload))).1
          · rw [same, if_neg fun differs => differs rfl]
            simp
          · rw [beq_eq_false_iff_ne.2 same]
            simp [same]

theorem verifySignature_fields (accepted :
      verifySignature createHmac service now signature rawBody = true) :
    ∃ header ∈ signature, ∃ timestamp ∈ headerField "t".toList header,
      ∃ provided ∈ headerField "v1".toList header,
        header ≠ [] ∧ beforeEquals timestamp ≠ [] ∧ beforeEquals provided ≠ [] := by
  unfold verifySignature at accepted
  cases given : nonempty signature with
  | none =>
      rw [given] at accepted
      exact nomatch accepted
  | some header =>
      rw [given] at accepted
      dsimp only at accepted
      cases hasTimestamp : nonempty (parseSignature header).timestamp with
      | none =>
          rw [hasTimestamp] at accepted
          exact nomatch accepted
      | some shortTimestamp =>
          rw [hasTimestamp] at accepted
          cases hasProvided : nonempty (parseSignature header).providedSignature with
          | none =>
              rw [hasProvided] at accepted
              exact nomatch accepted
          | some shortProvided =>
              obtain ⟨present, filled⟩ := mem_nonempty.1 given
              obtain ⟨timestampIs, timestampFilled⟩ := mem_nonempty.1 hasTimestamp
              obtain ⟨providedIs, providedFilled⟩ := mem_nonempty.1 hasProvided
              rw [parseSignature_timestamp] at timestampIs
              rw [parseSignature_provided] at providedIs
              obtain ⟨timestamp, timestampField, rfl⟩ := Option.map_eq_some_iff.1 timestampIs
              obtain ⟨provided, providedField, rfl⟩ := Option.map_eq_some_iff.1 providedIs
              exact ⟨header, present, timestamp, timestampField, provided, providedField, filled,
                timestampFilled, providedFilled⟩

theorem verifySignature_iff :
    verifySignature createHmac service now signature rawBody = true ↔
      ∃ header ∈ signature, ∃ timestamp ∈ headerField "t".toList header,
        ∃ provided ∈ headerField "v1".toList header,
          Fresh service now timestamp ∧
            readHex (beforeEquals provided) = (createHmac service.webhookSecret
              (utf8 (beforeEquals timestamp ++ '.' :: rawBody.payload))).1 := by
  constructor
  · intro accepted
    obtain ⟨header, present, timestamp, hasTimestamp, provided, hasProvided, filled,
      timestampFilled, providedFilled⟩ := verifySignature_fields accepted
    exact ⟨header, present, timestamp, hasTimestamp, provided, hasProvided,
      (verifySignature_cases header present filled hasTimestamp hasProvided timestampFilled
        providedFilled).1 accepted⟩
  · rintro ⟨header, present, timestamp, hasTimestamp, provided, hasProvided, fresh, same⟩
    have filled : header ≠ [] := by
      rintro rfl
      have absent : headerField "t".toList [] = none := by decide +kernel
      rw [absent] at hasTimestamp
      exact nomatch hasTimestamp
    have providedFilled : beforeEquals provided ≠ [] := by
      intro empty
      rw [empty] at same
      exact digest_ne_nil _ same.symm
    exact (verifySignature_cases header present filled hasTimestamp hasProvided
      fresh.beforeEquals_ne_nil providedFilled).2 ⟨fresh, same⟩

/-! ### The exact condition -/

theorem isLowerHex_noEquals {text : List Char} (lower : ∀ char ∈ text, isLowerHex char = true) :
    '=' ∉ text := fun member => absurd (lower '=' member) (by decide)

theorem RawBody.utf8_payload {rawBody : RawBody} (valid : ∃ text, rawBody.bytes = utf8 text) :
    utf8 rawBody.payload = rawBody.bytes := by
  cases rawBody with
  | buffer bytes => exact (utf8_decodeUtf8_iff bytes).2 valid
  | text payload => rfl

theorem signedPayload_bytes (single : '=' ∉ timestamp) (valid : ∃ text, rawBody.bytes = utf8 text) :
    utf8 (beforeEquals timestamp ++ '.' :: rawBody.payload) =
      utf8 (timestamp ++ ['.']) ++ rawBody.bytes := by
  rw [beforeEquals_of_noEquals single, ← rawBody.utf8_payload valid, ← utf8_append,
    List.append_assoc, List.singleton_append]

theorem signed_of_accepted (exactTexts : ExactTexts service now signature rawBody)
    (accepted : verifySignature createHmac service now signature rawBody = true) :
    SignedExactly createHmac service now signature rawBody := by
  obtain ⟨header, present, timestamp, hasTimestamp, provided, hasProvided, fresh, same⟩ :=
    verifySignature_iff.1 accepted
  obtain ⟨⟨length, lower⟩, single, valid⟩ :=
    exactTexts header present timestamp hasTimestamp fresh provided hasProvided
      (same ▸ (createHmac _ _).2)
  refine ⟨header, present, timestamp, hasTimestamp, provided, hasProvided, fresh, ?_⟩
  rw [← signedPayload_bytes single valid, ← same,
    beforeEquals_of_noEquals (isLowerHex_noEquals lower)]
  exact (showHex_readHex (by rw [length]) lower).symm

theorem accepted_of_signed (exactTexts : ExactTexts service now signature rawBody)
    (signed : SignedExactly createHmac service now signature rawBody) :
    verifySignature createHmac service now signature rawBody = true := by
  obtain ⟨header, present, timestamp, hasTimestamp, provided, hasProvided, fresh, shown⟩ := signed
  have lower : ∀ char ∈ provided, isLowerHex char = true := shown ▸ showHex_lower _
  have decoded : readHex (beforeEquals provided) =
      (createHmac service.webhookSecret (utf8 (timestamp ++ ['.']) ++ rawBody.bytes)).1 := by
    rw [beforeEquals_of_noEquals (isLowerHex_noEquals lower), shown, readHex_showHex]
  obtain ⟨_, single, valid⟩ :=
    exactTexts header present timestamp hasTimestamp fresh provided hasProvided
      (decoded ▸ (createHmac _ _).2)
  refine verifySignature_iff.2
    ⟨header, present, timestamp, hasTimestamp, provided, hasProvided, fresh, ?_⟩
  rw [signedPayload_bytes single valid]
  exact decoded

theorem signed_field {header provided : List Char} (present : signature = some header)
    (hasTimestamp : headerField "t".toList header = some timestamp)
    (hasProvided : headerField "v1".toList header = some provided)
    (signed : SignedExactly createHmac service now signature rawBody) :
    provided = showHex
      (createHmac service.webhookSecret (utf8 (timestamp ++ ['.']) ++ rawBody.bytes)).1 := by
  obtain ⟨header', present', timestamp', hasTimestamp', provided', hasProvided', _, shown⟩ := signed
  cases Option.some.inj (present.symm.trans present')
  cases Option.some.inj (hasTimestamp.symm.trans hasTimestamp')
  cases Option.some.inj (hasProvided.symm.trans hasProvided')
  exact shown

theorem showHex_injective {left right : List UInt8} (same : showHex left = showHex right) :
    left = right := by
  have read := congrArg readHex same
  rwa [readHex_showHex, readHex_showHex] at read

/-- The digest `digest` of one text, and another one of every other text. -/
def hmacOf (signedPayload : List UInt8) (digest : Digest) : List Char → List UInt8 → Digest :=
  fun _ bytes =>
    if bytes = signedPayload then digest
    else ⟨digest.1.map (· + 1), (List.length_map _).trans digest.2⟩

theorem hmacOf_same {signedPayload bytes : List UInt8} {digest : Digest} {secret : List Char}
    (same : (hmacOf signedPayload digest secret bytes).1 = digest.1) : bytes = signedPayload := by
  unfold hmacOf at same
  by_cases equal : bytes = signedPayload
  · exact equal
  · rw [if_neg equal] at same
    cases shape : digest.1 with
    | nil => exact absurd shape (digest_ne_nil digest)
    | cons byte rest =>
        dsimp only at same
        rw [shape, List.map_cons] at same
        have fixed : byte + 1 = byte := (List.cons.inj same).1
        have number := congrArg UInt8.toNat fixed
        rw [UInt8.toNat_add] at number
        have bound := byte.toNat_lt
        have one : (1 : UInt8).toNat = 1 := rfl
        omega

theorem signedPayload_cancel
    (same : utf8 (timestamp ++ ['.']) ++ rawBody.bytes =
      utf8 (beforeEquals timestamp ++ '.' :: rawBody.payload)) :
    '=' ∉ timestamp ∧ rawBody.bytes = utf8 rawBody.payload := by
  rcases equals_cases timestamp with single | ⟨front, rest, single, rfl⟩
  · rw [beforeEquals_of_noEquals single, List.append_cons timestamp '.' rawBody.payload,
      utf8_append (timestamp ++ ['.'])] at same
    exact ⟨single, List.append_cancel_left same⟩
  · rw [beforeEquals_append single, List.append_assoc, utf8_append front, utf8_append front,
      List.append_assoc] at same
    have equals : String.utf8EncodeChar '=' = [61] := by decide +kernel
    have dot : String.utf8EncodeChar '.' = [46] := by decide +kernel
    have heads := congrArg List.head? (List.append_cancel_left same)
    unfold utf8 at heads
    rw [List.cons_append, List.flatMap_cons, List.flatMap_cons, equals, dot] at heads
    exact absurd (Option.some.inj heads) (by decide)

theorem exactTexts_of_agreement
    (agree : ∀ createHmac, verifySignature createHmac service now signature rawBody = true ↔
      SignedExactly createHmac service now signature rawBody) :
    ExactTexts service now signature rawBody := by
  intro header present timestamp hasTimestamp fresh provided hasProvided length
  -- the digest that `v1` decodes to, of every text and of the text that the service signs
  let digest : Digest := ⟨readHex (beforeEquals provided), length⟩
  let signedPayload := utf8 (beforeEquals timestamp ++ '.' :: rawBody.payload)
  have accepted : verifySignature (fun _ _ => digest) service now signature rawBody = true :=
    verifySignature_iff.2
      ⟨header, present, timestamp, hasTimestamp, provided, hasProvided, fresh, rfl⟩
  have acceptedOnce :
      verifySignature (hmacOf signedPayload digest) service now signature rawBody = true :=
    verifySignature_iff.2 ⟨header, present, timestamp, hasTimestamp, provided, hasProvided, fresh,
      by rw [hmacOf, if_pos rfl]⟩
  have shown := signed_field present hasTimestamp hasProvided ((agree _).1 accepted)
  have shownOnce := signed_field present hasTimestamp hasProvided ((agree _).1 acceptedOnce)
  obtain ⟨single, valid⟩ :=
    signedPayload_cancel (hmacOf_same (showHex_injective (shownOnce.symm.trans shown)))
  refine ⟨⟨?_, ?_⟩, single, _, valid⟩
  · rw [shown, length_showHex]
    exact congrArg (2 * ·) digest.2
  · rw [shown]
    exact showHex_lower _

/-- Whatever the HMAC is, the check accepts what is signed exactly, and nothing else, on the
deliveries whose texts are exact. -/
theorem verifySignature_exact_iff (service : PrivyWebhookService) (now : Nat)
    (signature : Option (List Char)) (rawBody : RawBody) :
    (∀ createHmac, verifySignature createHmac service now signature rawBody = true ↔
      SignedExactly createHmac service now signature rawBody) ↔
      ExactTexts service now signature rawBody := by
  constructor
  · exact exactTexts_of_agreement
  · intro exactTexts createHmac
    exact ⟨signed_of_accepted exactTexts, accepted_of_signed exactTexts⟩

def fiveMinutes : PrivyWebhookService := ⟨"secret".toList, 300, by decide +kernel⟩

def zeroDigest : Digest := ⟨List.replicate 32 0, rfl⟩

/-- A digest with a tail that is no hexadecimal digit is accepted. -/
theorem verifySignature_accepts_extended :
    verifySignature (fun _ _ => zeroDigest) fiveMinutes 0
        (some ("t=0,v1=".toList ++ showHex zeroDigest.1 ++ "zz".toList)) (.buffer []) = true ∧
      ¬SignedExactly (fun _ _ => zeroDigest) fiveMinutes 0
        (some ("t=0,v1=".toList ++ showHex zeroDigest.1 ++ "zz".toList)) (.buffer []) := by
  constructor
  · decide +kernel
  · intro signed
    have hasTimestamp : headerField "t".toList
        ("t=0,v1=".toList ++ showHex zeroDigest.1 ++ "zz".toList) = some ['0'] := by
      decide +kernel
    have hasProvided : headerField "v1".toList
        ("t=0,v1=".toList ++ showHex zeroDigest.1 ++ "zz".toList) =
          some (showHex zeroDigest.1 ++ "zz".toList) := by
      decide +kernel
    have shown := signed_field rfl hasTimestamp hasProvided signed
    exact absurd shown (by decide +kernel)

end AudioBlock.Auth
