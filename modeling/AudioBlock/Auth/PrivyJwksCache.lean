/-
The cache of the public keys that Privy signs access tokens with.

`createPublicKey` stands for the key import of Node.  A fetch is one `resilientCall`, with the
retries that it makes, and ends in a later step with a document or an error.  What waits for a
fetch goes on in the step in which the fetch ends.  The clock does not run back.

`latest`, `fetches` and `failures` are not part of the cache: they record the last fetch that
brought a usable key, the starts of all fetches, and the starts of those that have failed since.
-/
import AudioBlock.Auth.PrivyCircuitBreaker
import AudioBlock.Auth.PrivyMiddleware
import Mathlib.Data.List.AList

namespace AudioBlock.Auth

open AudioBlock.Foundation

/-- The settings that the cache reads; `intVar` takes positive numbers only. -/
structure PrivyJwksConfig where
  jwksTtlMs : Nat
  jwksStaleTtlMs : Nat
  jwksNegativeTtlMs : Nat
  circuitFailureThreshold : Nat
  circuitResetTimeoutMs : Nat
  circuitStartsOpen : Bool
  allowStaleKeysOnError : Bool
  ttlPositive : 0 < jwksTtlMs
  staleTtlPositive : 0 < jwksStaleTtlMs
  negativeTtlPositive : 0 < jwksNegativeTtlMs

/-- A member of a JSON object: missing or falsy, a text, or another value. -/
inductive JwkField
  | missing
  | text (value : String)
  | other
  deriving DecidableEq

namespace JwkField

def truthy : JwkField → Bool
  | missing => false
  | text value => decide (value ≠ "")
  | other => true

def isText : JwkField → Bool
  | text _ => true
  | _ => false

end JwkField

structure Jwk where
  kid : JwkField
  kty : JwkField
  crv : JwkField
  alg : JwkField
  use : JwkField
  x : JwkField
  y : JwkField
  deriving DecidableEq

/-- The keys of a document that lists any, a null key included; `keys` that are no list count
as missing, since neither brings a usable key. -/
structure JwksDocument where
  keys : Option (List (Option Jwk))
  deriving DecidableEq

/-- A `Map` from each `kid` to a value. -/
abbrev KidMap (Value : Type) := AList fun _ : String => Value

structure CacheEntry (Key : Type) where
  keys : KidMap Key
  fetchedAt : Nat
  expiresAt : Nat
  hardExpireAt : Nat

/-- Why a fetch brought nothing. -/
inductive FetchError
  | circuitOpen
  | failed (message : String)
  deriving DecidableEq

def FetchError.reason : FetchError → String
  | circuitOpen => "Privy is unavailable (circuit breaker open)"
  | failed message => "Privy JWKS fetch failed: " ++ message

section Import

variable {Key : Type} (createPublicKey : Jwk → Option Key)

def importPrivyJwk (jwk : Jwk) : Option Key :=
  if jwk.kty ≠ .text "EC" ∨ jwk.crv ≠ .text "P-256" then none
  else if jwk.use.truthy ∧ jwk.use ≠ .text "sig" then none
  else if jwk.alg.truthy ∧ jwk.alg ≠ .text privyTokenAlgorithm then none
  else if jwk.kid.isText = false ∨ jwk.kid = .text "" then none
  else if jwk.x.isText = false ∨ jwk.y.isText = false then none
  else createPublicKey jwk

def importKeys (keys : KidMap Key) : List (Option Jwk) → Except FetchError (KidMap Key)
  | [] => .ok keys
  | none :: _ => .error (.failed "Cannot read properties of null (reading 'kty')")
  | some jwk :: rest =>
      match importPrivyJwk createPublicKey jwk, jwk.kid with
      | some imported, .text kid => importKeys (keys.insert kid imported) rest
      | _, _ => importKeys keys rest

def usableKeys (document : JwksDocument) : Except FetchError (KidMap Key) := do
  let keys ← importKeys createPublicKey ∅ (document.keys.getD [])
  if keys.keys.isEmpty then
    .error (.failed "Privy JWKS response contained no usable ES256 keys")
  else .ok keys

end Import

structure PrivyJwksCache (Key : Type) where
  config : PrivyJwksConfig
  entry : Option (CacheEntry Key)
  unknownKids : KidMap Nat
  /-- Whether a promise is shared; it is the one of the fetch that began last. -/
  inFlight : Bool
  lastFetchAt : Option Nat
  breaker : CircuitBreaker

namespace PrivyJwksCache

variable {Key : Type}

def create (config : PrivyJwksConfig) (now : Nat) : PrivyJwksCache Key :=
  { config
    entry := none
    unknownKids := ∅
    inFlight := false
    lastFetchAt := none
    breaker :=
      .create
        { failureThreshold := config.circuitFailureThreshold
          resetTimeoutMs := config.circuitResetTimeoutMs
          startsOpen := config.circuitStartsOpen }
        now }

def canRefetch (cache : PrivyJwksCache Key) (now : Nat) : Bool :=
  cache.lastFetchAt.all fun fetchedAt => decide (fetchedAt + cache.config.jwksNegativeTtlMs ≤ now)

def noteUnknownKid (cache : PrivyJwksCache Key) (kid : String) (now : Nat) : PrivyJwksCache Key :=
  { cache with unknownKids := cache.unknownKids.insert kid now }

/-- Whether a `kid` has been noted lately. -/
def isUnknownKidCached (cache : PrivyJwksCache Key) (kid : String) (now : Nat) : Bool :=
  (cache.unknownKids.lookup kid).any fun seenAt =>
    decide (now < seenAt + cache.config.jwksNegativeTtlMs)

/-- What `isUnknownKidCached` leaves: a note that is too old is deleted. -/
def forgetUnknownKid (cache : PrivyJwksCache Key) (kid : String) (now : Nat) :
    PrivyJwksCache Key :=
  if cache.isUnknownKidCached kid now then cache
  else { cache with unknownKids := cache.unknownKids.erase kid }

/-- The error for a `kid` without a key. -/
def noMatchingKey (kid : String) : PrivyFailure :=
  .unknownKey ("No Privy signing key matches kid \"" ++ kid ++ "\"")

def staleEntryOrThrow (cache : PrivyJwksCache Key) (now : Nat) (error : PrivyFailure) :
    Except PrivyFailure (CacheEntry Key) :=
  match cache.entry with
  | none => .error error
  | some entry =>
      if cache.config.allowStaleKeysOnError ∧ now < entry.hardExpireAt then .ok entry
      else .error error

def newEntry (config : PrivyJwksConfig) (keys : KidMap Key) (now : Nat) : CacheEntry Key :=
  { keys
    fetchedAt := now
    expiresAt := now + config.jwksTtlMs
    hardExpireAt := now + config.jwksStaleTtlMs }

/-- `fetchAndStore` from the end of the fetch on. -/
def fetchAndStore (cache : PrivyJwksCache Key) (now : Nat) :
    Except FetchError (KidMap Key) → PrivyJwksCache Key × Except PrivyFailure (CacheEntry Key)
  | .ok keys =>
      let entry := newEntry cache.config keys now
      ({ cache with entry := some entry, lastFetchAt := some now, unknownKids := ∅ }, .ok entry)
  | .error error => (cache, cache.staleEntryOrThrow now (.keyUnavailable error.reason))

/-- `getKey` from the refreshed entry on. -/
def selectKey (cache : PrivyJwksCache Key) (now : Nat) (kid : String) :
    Except PrivyFailure (CacheEntry Key) → PrivyJwksCache Key × Except PrivyFailure Key
  | .error failure => (cache, .error failure)
  | .ok refreshed =>
      match refreshed.keys.lookup kid with
      | some key => ({ cache with unknownKids := cache.unknownKids.erase kid }, .ok key)
      | none => (cache.noteUnknownKid kid now, .error (noMatchingKey kid))

/-- `getKey` up to the refresh, which it does not come to where it has an answer. -/
def answerFromCache (cache : PrivyJwksCache Key) (now : Nat) (kid : String) :
    PrivyJwksCache Key × Option (Except PrivyFailure Key) :=
  if kid = "" then
    (cache, some (.error (.unknownKey "Token is missing a key id (kid) header")))
  else if cache.isUnknownKidCached kid now then (cache, some (.error (noMatchingKey kid)))
  else
    let cache := cache.forgetUnknownKid kid now
    match cache.entry.filter fun entry => decide (now < entry.expiresAt) with
    | none => (cache, none)
    | some entry =>
        match entry.keys.lookup kid with
        | some key => (cache, some (.ok key))
        | none =>
            if cache.canRefetch now then (cache, none)
            else (cache.noteUnknownKid kid now, some (.error (noMatchingKey kid)))

end PrivyJwksCache

/-- A fetch as it began: `unknown` where the cached set had no key for its `kid`, and `cold`
where there was no set at all. -/
structure FetchStart where
  startedAt : Nat
  kid : String
  unknown : Bool
  cold : Bool
  deriving DecidableEq

structure Refresh where
  start : FetchStart
  admitted : CircuitState
  waiting : List String
  deriving DecidableEq

/-- The last fetch that brought a usable key. -/
structure LatestFetch where
  document : JwksDocument
  fetchedAt : Nat

structure KeyAnswer (Key : Type) where
  kid : String
  result : Except PrivyFailure Key

structure CacheRun (Key : Type) where
  now : Nat
  cache : PrivyJwksCache Key
  /-- The fetches in flight, the latest first. -/
  refreshes : List Refresh
  latest : Option LatestFetch
  fetches : List FetchStart
  failures : List FetchStart

inductive FetchOutcome
  | document (document : JwksDocument)
  | failure (message : String)
  deriving DecidableEq

inductive CacheLabel
  | elapse (milliseconds : Nat)
  | getKey (kid : String)
  | fetched (index : Nat) (outcome : FetchOutcome)
  | isDegraded
  deriving DecidableEq

namespace CacheRun

variable {Key : Type}

def create (config : PrivyJwksConfig) (now : Nat) : CacheRun Key :=
  { now
    cache := .create config now
    refreshes := []
    latest := none
    fetches := []
    failures := [] }

/-- The fetch that a `kid` starts. -/
def startOf (run : CacheRun Key) (kid : String) : FetchStart :=
  { startedAt := run.now
    kid
    unknown := run.cache.entry.all fun entry => (entry.keys.lookup kid).isNone
    cold := run.cache.entry.isNone }

/-- `selectKey` for one caller. -/
def select (run : CacheRun Key) (refreshed : Except PrivyFailure (CacheEntry Key)) (kid : String) :
    CacheRun Key × List (KeyAnswer Key) :=
  let (cache, result) := run.cache.selectKey run.now kid refreshed
  ({ run with cache }, [{ kid, result }])

/-- The callers of one fetch go on in the order in which they came. -/
def selectAll (run : CacheRun Key) (refreshed : Except PrivyFailure (CacheEntry Key)) :
    List String → CacheRun Key × List (KeyAnswer Key)
  | [] => (run, [])
  | kid :: rest =>
      let (run, answer) := run.select refreshed kid
      let (run, answers) := run.selectAll refreshed rest
      (run, answer ++ answers)

def join (kid : String) : List Refresh → List Refresh
  | [] => []
  | latest :: earlier => { latest with waiting := latest.waiting ++ [kid] } :: earlier

/-- `refresh`, with `doRefresh` up to the call of the fetch. -/
def refresh (run : CacheRun Key) (kid : String) : CacheRun Key × List (KeyAnswer Key) :=
  if run.cache.inFlight then ({ run with refreshes := join kid run.refreshes }, [])
  else if run.cache.entry.isSome ∧ run.cache.canRefetch run.now = false then
    run.select
      (run.cache.staleEntryOrThrow run.now
        (.keyUnavailable "Privy key set refresh is in its cooldown window"))
      kid
  else
    match run.cache.breaker.beginExecute run.now with
    | (breaker, .error _) =>
        let (cache, refreshed) :=
          { run.cache with breaker }.fetchAndStore run.now (.error .circuitOpen)
        { run with cache }.select refreshed kid
    | (breaker, .ok admitted) =>
        ({ run with
          cache := { run.cache with breaker, inFlight := true }
          refreshes := { start := run.startOf kid, admitted, waiting := [kid] } :: run.refreshes
          fetches := run.fetches ++ [run.startOf kid] },
          [])

def getKey (run : CacheRun Key) (kid : String) : CacheRun Key × List (KeyAnswer Key) :=
  match run.cache.answerFromCache run.now kid with
  | (cache, some result) => ({ run with cache }, [{ kid, result }])
  | (cache, none) => { run with cache }.refresh kid

def fetched (createPublicKey : Jwk → Option Key) (run : CacheRun Key) (refresh : Refresh) :
    FetchOutcome → CacheRun Key × List (KeyAnswer Key)
  | .document document =>
      let settled :=
        { run.cache with breaker := run.cache.breaker.settle run.now refresh.admitted true }
      let keys := usableKeys createPublicKey document
      let (cache, refreshed) := settled.fetchAndStore run.now keys
      let ended := { run with cache := { cache with inFlight := false } }
      match keys with
      | .ok _ =>
          { ended with
            latest := some { document, fetchedAt := run.now }
            failures := [] }.selectAll refreshed refresh.waiting
      | .error _ =>
          { ended with failures := run.failures ++ [refresh.start] }.selectAll refreshed
            refresh.waiting
  | .failure message =>
      let settled :=
        { run.cache with breaker := run.cache.breaker.settle run.now refresh.admitted false }
      let (cache, refreshed) := settled.fetchAndStore run.now (.error (.failed message))
      { run with
        cache := { cache with inFlight := false }
        failures := run.failures ++ [refresh.start] }.selectAll refreshed refresh.waiting

end CacheRun

section Steps

variable {Key : Type} (createPublicKey : Jwk → Option Key)

/-- A step, and the answers that `getKey` gives in it. -/
def cacheStep (run : CacheRun Key) :
    CacheLabel → Option (CacheRun Key × List (KeyAnswer Key))
  | .elapse milliseconds => some ({ run with now := run.now + milliseconds }, [])
  | .getKey kid => some (run.getKey kid)
  | .fetched index outcome =>
      run.refreshes[index]?.map fun refresh =>
        { run with refreshes := run.refreshes.eraseIdx index }.fetched createPublicKey refresh outcome
  | .isDegraded =>
      some
        ({ run with cache := { run.cache with breaker := run.cache.breaker.getState run.now } }, [])

def cacheMachine (config : PrivyJwksConfig) : Machine (CacheRun Key) CacheLabel where
  initial run := ∃ now, run = CacheRun.create config now
  step run label := (cacheStep createPublicKey run label).map Prod.fst

end Steps

end AudioBlock.Auth
