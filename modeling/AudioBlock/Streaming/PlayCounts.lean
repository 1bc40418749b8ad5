/-
Play counts (src/controllers/SongController.ts, `streamSong` and `recordPlay`) at their awaited
calls.

A stream fetch and a play POST share one key of redis for a listener and a song.  A request that
finds no live key counts a play and then sets the key, each endpoint for its own time.  The
manifest that a fetch is answered with comes after that and is left out.
-/
import AudioBlock.Foundation.Machine
import AudioBlock.Streaming.ManifestCache

namespace AudioBlock.Streaming

open AudioBlock.Foundation AudioBlock.Songs

inductive PlayEndpoint
  | streamSong
  | recordPlay
  deriving DecidableEq

/-- How long the key lives that a request sets, in milliseconds. -/
def PlayEndpoint.lifetime : PlayEndpoint → Nat
  | .streamSong => 30 * 1000
  | .recordPlay => 300 * 1000

/-- The key `play:throttle:<ip>:<songId>`. -/
structure SessionKey where
  ip : String
  songId : String
  deriving DecidableEq

structure SongPlayEvent where
  songId : String
  listenerId : Option String
  listenerKey : Option String
  deriving DecidableEq

inductive PlayCall
  | findSong (endpoint : PlayEndpoint) (key : SessionKey) (userId : Option String)
  | getKey (endpoint : PlayEndpoint) (key : SessionKey) (userId : Option String)
  | increment (endpoint : PlayEndpoint) (key : SessionKey) (userId : Option String)
  | insertEvent (key : SessionKey) (userId : Option String)
  | setKey (endpoint : PlayEndpoint) (key : SessionKey)
  | ended
  | refused (status : Nat) (message : String)

/-- An increment of `playCount`. -/
structure CountedPlay where
  endpoint : PlayEndpoint
  key : SessionKey
  time : Nat
  deriving DecidableEq

structure ServedPlay where
  endpoint : PlayEndpoint
  key : SessionKey
  time : Nat
  counted : Bool
  deriving DecidableEq

/-- `throttle` has the time at which a key expires.  The plays are listed latest first. -/
structure PlayState where
  songs : List Song
  playCount : String → Nat
  events : List SongPlayEvent
  throttle : SessionKey → Option Nat
  calls : List PlayCall
  clock : Nat
  counted : List CountedPlay
  served : List ServedPlay

inductive PlayLabel
  | request (endpoint : PlayEndpoint) (key : SessionKey) (userId : Option String)
  | step (index now : Nat)
  /-- Someone else writes the songs. -/
  | editSongs (songs : List Song)

namespace PlayState

/-- The key is there, `recentlyPlayed` in the source. -/
def live (state : PlayState) (key : SessionKey) (now : Nat) : Bool :=
  (state.throttle key).any fun expiry => decide (now < expiry)

def serve (state : PlayState) (play : ServedPlay) : PlayState :=
  { state with served := play :: state.served }

def count (state : PlayState) (play : CountedPlay) : PlayState :=
  { state with
    playCount := fun songId =>
      if songId = play.key.songId then state.playCount songId + 1 else state.playCount songId
    counted := play :: state.counted }

def expire (state : PlayState) (key : SessionKey) (expiry : Nat) : PlayState :=
  { state with
    throttle := fun other => if other = key then some expiry else state.throttle other }

end PlayState

/-- The listener is stored by account, or by the hash of the address. -/
def playEvent (listenerKey : String → String) (key : SessionKey) (userId : Option String) :
    SongPlayEvent :=
  { songId := key.songId
    listenerId := userId
    listenerKey := if userId = none then some (listenerKey key.ip) else none }

def performPlay (listenerKey : String → String) (state : PlayState) (now : Nat) :
    PlayCall → Option (PlayState × PlayCall)
  | .findSong .streamSong key userId =>
      some (state, match findRow Song.id key.songId state.songs with
        | none => .refused 404 "Song not available"
        | some song =>
            if streamable song then .getKey .streamSong key userId
            else .refused 404 "Song not available")
  | .findSong .recordPlay key userId =>
      some (state, match findRow Song.id key.songId state.songs with
        | none => .refused 404 "Song not found"
        | some _ => .getKey .recordPlay key userId)
  | .getKey endpoint key userId =>
      if state.live key now then
        some (state.serve { endpoint, key, time := now, counted := false }, .ended)
      else some (state, .increment endpoint key userId)
  | .increment endpoint key userId =>
      some (state.count { endpoint, key, time := now },
        match endpoint with
        | .streamSong => .insertEvent key userId
        | .recordPlay => .setKey .recordPlay key)
  | .insertEvent key userId =>
      some ({ state with events := state.events ++ [playEvent listenerKey key userId] },
        .setKey .streamSong key)
  | .setKey endpoint key =>
      some ((state.expire key (now + endpoint.lifetime)).serve
        { endpoint, key, time := now, counted := true }, .ended)
  | .ended | .refused _ _ => none

/-- The clock does not run backwards. -/
def playStep (listenerKey : String → String) (state : PlayState) : PlayLabel → Option PlayState
  | .request endpoint key userId =>
      some { state with calls := state.calls ++ [.findSong endpoint key userId] }
  | .editSongs songs => some { state with songs }
  | .step index now =>
      if state.clock ≤ now then
        state.calls[index]?.bind fun call =>
          (performPlay listenerKey state now call).map fun answer =>
            { answer.1 with calls := answer.1.calls.set index answer.2, clock := now }
      else none

/-- The keys that are there at the start are from before. -/
def playMachine (listenerKey : String → String) : Machine PlayState PlayLabel where
  initial state := state.calls = [] ∧ state.counted = [] ∧ state.served = []
  step := playStep listenerKey

theorem playStep_step {listenerKey : String → String} {state after : PlayState} {index now : Nat}
    (moved : playStep listenerKey state (.step index now) = some after) :
    state.clock ≤ now ∧ ∃ call reached next, state.calls[index]? = some call ∧
      performPlay listenerKey state now call = some (reached, next) ∧
        after = { reached with calls := reached.calls.set index next, clock := now } := by
  by_cases order : state.clock ≤ now
  · rw [playStep, if_pos order] at moved
    obtain ⟨call, present, performed⟩ := Option.bind_eq_some_iff.mp moved
    obtain ⟨⟨reached, next⟩, answered, same⟩ := Option.map_eq_some_iff.mp performed
    exact ⟨order, call, reached, next, present, answered, same.symm⟩
  · rw [playStep, if_neg order] at moved
    cases moved

end AudioBlock.Streaming
