/-
Which runs keep a job until it has been processed.

The main queue has no dead letters, so a message that is given up or that expires is dropped.
A job is lost with its last message; a copy that a failing call has left behind keeps it.
-/
import AudioBlock.Delivery.SongMessages

namespace AudioBlock.Delivery

open AudioBlock.Foundation AudioBlock.Processing

namespace JobMessages

def Kept (state : JobMessages) : Prop :=
  state.acknowledged = true ∨ 0 < state.broker.copies

def KeepsJob (conversions : Conversions) (state : JobMessages) (label : MessageLabel) : Prop :=
  ∀ after, messageStep conversions state label = some after → after.Kept

def GivesUp (conversions : Conversions) (state : JobMessages) : MessageLabel → Prop
  | .finish index success calls =>
      ∃ consumption ∈ state.broker.consumed[index]?, consumption.holds = true ∧
        (success && calls.acks) = false ∧ calls.settles = true ∧
        ∃ payload ∈ consumption.work, nextAttempt conversions payload = some .exhausted
  | .expire index => ∃ message ∈ state.broker.waiting[index]?, message.expires = true
  | .deliver _ _ | .redeliver _ _ => False

/-- A message is given up or expires only when it is not the last of an unprocessed job. -/
def Guarded (conversions : Conversions) (state : JobMessages) (label : MessageLabel) : Prop :=
  state.GivesUp conversions label → state.acknowledged = true ∨ 2 ≤ state.broker.copies

def ReadableMessage (message : QueuedMessage) (work : Option SongMessage) : Prop :=
  (parsePayload message.content).isSome = true ∧ ∀ payload ∈ work, Named payload

structure Readable (state : JobMessages) : Prop where
  kept : state.Kept
  messages : state.broker.Every ReadableMessage

variable {conversions : Conversions} {payload again : SongMessage} {state after : JobMessages}
  {message : QueuedMessage} {label : MessageLabel} {index : Nat}
  {consumption : Consumption QueuedMessage SongMessage}

theorem nextAttempt_named {expiration : Float}
    (attempted : nextAttempt conversions payload = some (.again again expiration))
    (named : Named payload) : Named again := by
  obtain ⟨attempt, _, decided⟩ := Option.map_eq_some_iff.mp attempted
  split at decided
  · cases decided
  · cases decided
    exact named

theorem readable_waiting (parsed : (parsePayload message.content).isSome = true) :
    ReadableMessage message none :=
  ⟨parsed, fun payload none => absurd none (Option.not_mem_none payload)⟩

theorem submitted_readable (named : Named payload) : (submitted payload).Readable where
  kept := Or.inr Nat.zero_lt_one
  messages := {
    waiting := by
      intro message member
      cases List.mem_singleton.mp member
      exact readable_waiting (Option.isSome_of_eq_some (parsePayload_job named))
    consumed := fun _ member => absurd member List.not_mem_nil }

/-! ### What a step does to the messages -/

structure Keeps (state after : JobMessages) : Prop where
  kept : after.acknowledged = true ∨
    after.acknowledged = state.acknowledged ∧ state.broker.copies ≤ after.broker.copies
  messages : after.broker.Every ReadableMessage

theorem Keeps.readable (keeps : Keeps state after) (kept : state.Kept) : after.Readable where
  kept := by
    rcases keeps.kept with acknowledged | ⟨same, more⟩
    · exact Or.inl acknowledged
    · rcases kept with acknowledged | positive
      · exact Or.inl (same.trans acknowledged)
      · exact Or.inr (Nat.lt_of_lt_of_le positive more)
  messages := keeps.messages

section

variable (every : state.broker.Every ReadableMessage)
include every

theorem delivered_keeps {settles : Bool} (found : state.broker.waiting[index]? = some message) :
    Keeps state (state.delivered index message settles) := by
  have readable := (every.waiting message (List.mem_of_getElem? found)).1
  have same : (state.broker.deliver index message (started message)).copies =
      state.broker.copies := Broker.copies_deliver found
  rw [delivered_readable readable]
  refine ⟨Or.inr ⟨rfl, Nat.le_of_eq same.symm⟩, every.deliver ⟨readable, ?_⟩⟩
  intro payload starts
  exact (parsePayload_inv (Option.filter_eq_some_iff.mp starts).1).2

theorem redelivered_keeps {other : Consumption QueuedMessage SongMessage}
    (found : state.broker.consumed[index]? = some consumption) (holds : consumption.holds = true)
    (same : other.message = consumption.message) :
    Keeps state { state with broker := state.broker.requeue index other } := by
  have readable := (every.consumed consumption (List.mem_of_getElem? found) holds).1
  refine ⟨Or.inr ⟨rfl, Nat.le_of_eq (Broker.copies_requeue found holds).symm⟩, every.requeue ?_⟩
  rw [same]
  exact readable_waiting readable

theorem ended_keeps {success : Bool} (found : state.broker.consumed[index]? = some consumption) :
    Keeps state (state.ended index consumption success) := by
  have same : (state.ended index consumption success).broker.copies = state.broker.copies :=
    Broker.copies_withConsumption found rfl
  refine ⟨Or.inr ⟨rfl, Nat.le_of_eq same.symm⟩, every.withConsumption fun holds => ?_⟩
  exact readable_waiting (every.consumed consumption (List.mem_of_getElem? found) holds).1

end

theorem handleFailure_keeps (conversions : Conversions) (calls : ChannelCalls)
    (every : state.broker.Every ReadableMessage)
    (found : state.broker.consumed[index]? = some consumption) (holds : consumption.holds = true)
    (named : Named payload)
    (more : calls.settles = true → nextAttempt conversions payload ≠ some .exhausted) :
    Keeps state (state.handleFailure conversions index consumption payload calls) := by
  have unchanged : Keeps state state := ⟨Or.inr ⟨rfl, Nat.le_refl _⟩, every⟩
  unfold handleFailure
  split
  · exact unchanged
  · rename_i exhausted
    split
    · rename_i settles
      exact absurd exhausted (more settles)
    · exact unchanged
  · rename_i again expiration attempted
    have parsed := parsePayload_job (nextAttempt_named attempted named)
    have readable : ReadableMessage { content := .job again, expires := true } none :=
      readable_waiting (Option.isSome_of_eq_some parsed)
    split
    · exact unchanged
    · split
      · exact redelivered_keeps every found holds rfl
      · dsimp only
        split
        · have released : (state.broker.release index consumption).copies + 1 =
              state.broker.copies := Broker.copies_release found holds
          refine ⟨Or.inr ⟨rfl, ?_⟩, every.release.publish readable⟩
          rw [Broker.copies_publish, released]
        · refine ⟨Or.inr ⟨rfl, ?_⟩, every.publish readable⟩
          rw [Broker.copies_publish]
          exact Nat.le_succ _

theorem finished_keeps {success : Bool} {calls : ChannelCalls}
    (every : state.broker.Every ReadableMessage)
    (found : state.broker.consumed[index]? = some consumption)
    (working : consumption.work = some payload)
    (kept : ¬ state.GivesUp conversions (.finish index success calls)) :
    Keeps state (state.finished conversions index consumption payload success calls) := by
  have ended : Keeps state (state.ended index consumption success) := ended_keeps every found
  have idle : (state.ended index consumption success).broker.consumed[index]? =
      some { consumption with work := none } := Broker.consumed_withConsumption found
  unfold finished
  dsimp only
  by_cases holds : consumption.holds = true
  · rw [if_neg (by simp [holds])]
    split
    · exact ⟨Or.inl rfl, ended.messages.release⟩
    · rename_i unacknowledged
      have readable := every.consumed consumption (List.mem_of_getElem? found) holds
      have failing := handleFailure_keeps conversions calls ended.messages idle holds
        (readable.2 payload working) fun settles exhausted =>
          kept ⟨consumption, found, holds, by simpa using unacknowledged, settles, payload, working,
            exhausted⟩
      refine ⟨?_, failing.messages⟩
      rcases failing.kept with acknowledged | ⟨same, more⟩
      · exact Or.inl acknowledged
      · rcases ended.kept with acknowledged | ⟨sameEnded, moreEnded⟩
        · exact Or.inl (same.trans acknowledged)
        · exact Or.inr ⟨same.trans sameEnded, moreEnded.trans more⟩
  · rw [if_pos (eq_false_of_ne_true holds)]
    exact ended

structure Loses (state after : JobMessages) : Prop where
  acknowledged : after.acknowledged = state.acknowledged
  fewer : after.broker.copies + 1 = state.broker.copies
  messages : state.broker.Every ReadableMessage → after.broker.Every ReadableMessage

theorem finished_loses {success : Bool} {calls : ChannelCalls}
    (found : state.broker.consumed[index]? = some consumption) (holds : consumption.holds = true)
    (unacknowledged : (success && calls.acks) = false) (settles : calls.settles = true)
    (exhausted : nextAttempt conversions payload = some .exhausted) :
    Loses state (state.finished conversions index consumption payload success calls) := by
  have idle : (state.ended index consumption success).broker.consumed[index]? =
      some { consumption with work := none } := Broker.consumed_withConsumption found
  have ended : (state.ended index consumption success).broker.copies = state.broker.copies :=
    Broker.copies_withConsumption found rfl
  have rejected : ((state.ended index consumption success).broker.reject mainQueue index
      { consumption with work := none }).copies + 1 = state.broker.copies :=
    (Broker.copies_reject mainQueue idle holds).trans ended
  unfold finished handleFailure
  dsimp only
  rw [if_neg (by simp [holds]), if_neg (by simpa using unacknowledged), exhausted]
  dsimp only
  rw [if_pos settles]
  exact ⟨rfl, rejected, fun every => (ended_keeps every found).messages.reject mainQueue⟩

/-! ### The runs that keep the job -/

theorem step_keeps (readable : state.Readable) (kept : ¬ state.GivesUp conversions label)
    (moved : messageStep conversions state label = some after) : Keeps state after := by
  cases label with
  | deliver index settles =>
      obtain ⟨message, found, rfl⟩ := Option.map_eq_some_iff.mp moved
      exact delivered_keeps readable.messages found
  | finish index success calls =>
      obtain ⟨consumption, found, moved⟩ := Option.bind_eq_some_iff.mp moved
      obtain ⟨payload, working, rfl⟩ := Option.map_eq_some_iff.mp moved
      exact finished_keeps readable.messages found working kept
  | redeliver index stops =>
      obtain ⟨consumption, held, rfl⟩ := Option.map_eq_some_iff.mp moved
      obtain ⟨found, holds⟩ := Option.filter_eq_some_iff.mp held
      exact redelivered_keeps readable.messages found holds rfl
  | expire index =>
      obtain ⟨message, expiring, rfl⟩ := Option.map_eq_some_iff.mp moved
      obtain ⟨found, expires⟩ := Option.filter_eq_some_iff.mp expiring
      exact (kept ⟨message, found, expires⟩).elim

theorem step_loses (givesUp : state.GivesUp conversions label) :
    ∃ after, messageStep conversions state label = some after ∧ Loses state after := by
  cases label with
  | deliver index settles => exact givesUp.elim
  | redeliver index stops => exact givesUp.elim
  | finish index success calls =>
      obtain ⟨consumption, found, holds, unacknowledged, settles, payload, working, exhausted⟩ :=
        givesUp
      refine ⟨_, ?_, finished_loses found holds unacknowledged settles exhausted⟩
      unfold messageStep
      dsimp only
      rw [found, Option.bind_some, working]
      rfl
  | expire index =>
      obtain ⟨message, found, expires⟩ := givesUp
      refine ⟨{ state with broker := state.broker.expire mainQueue index message }, ?_, rfl,
        Broker.copies_expire mainQueue found, fun every => ?_⟩
      · unfold messageStep
        dsimp only
        rw [found, Option.filter_some, if_pos expires]
        rfl
      · have expired : (state.broker.expire mainQueue index message).Every ReadableMessage :=
          every.expire mainQueue
        exact expired

theorem Readable.guarded_iff (readable : state.Readable) :
    state.KeepsJob conversions label ↔ state.Guarded conversions label := by
  constructor
  · intro keeps givesUp
    obtain ⟨after, moved, loses⟩ := step_loses givesUp
    rcases keeps after moved with acknowledged | positive
    · exact Or.inl (loses.acknowledged.symm.trans acknowledged)
    · have fewer := loses.fewer
      exact Or.inr (by omega)
  · intro guarded after moved
    by_cases givesUp : state.GivesUp conversions label
    · obtain ⟨other, same, loses⟩ := step_loses givesUp
      cases moved.symm.trans same
      rcases guarded givesUp with acknowledged | more
      · exact Or.inl (loses.acknowledged.trans acknowledged)
      · have fewer := loses.fewer
        exact Or.inr (by omega)
    · exact ((step_keeps readable givesUp moved).readable readable.kept).kept

theorem Readable.step (readable : state.Readable) (keeps : state.KeepsJob conversions label)
    (moved : messageStep conversions state label = some after) : after.Readable := by
  refine ⟨keeps after moved, ?_⟩
  by_cases givesUp : state.GivesUp conversions label
  · obtain ⟨other, same, loses⟩ := step_loses givesUp
    cases moved.symm.trans same
    exact loses.messages readable.messages
  · exact (step_keeps readable givesUp moved).messages

/-- A run keeps a job in every state exactly if its last unprocessed message is never given
up and never expires. -/
theorem messageMachine_keeps_iff (conversions : Conversions) (payload : SongMessage)
    (named : payload.songId ≠ "" ∧ payload.fileId ≠ "") (labels : List MessageLabel) :
    (messageMachine conversions payload).Permits (KeepsJob conversions) (submitted payload) labels ↔
      (messageMachine conversions payload).Permits (Guarded conversions) (submitted payload)
        labels := by
  refine Machine.permits_iff Readable (fun _ => True) ?_ ?_ labels (submitted_readable named)
    (fun _ _ => trivial)
  · exact fun state label readable _ => readable.guarded_iff
  · exact fun before label after readable _ keeps moved => readable.step keeps moved

def anyDelay : Conversions where
  numberOf _ := 0
  accepts _ := true

def publishedJob : SongMessage := { songId := "s", fileId := "f", attempt := none }

def returning : ChannelCalls := { acks := true, publishes := true, settles := true }

/-- The first failure leaves another message. -/
theorem firstFailure_keeps :
    (messageMachine anyDelay publishedJob).Permits (KeepsJob anyDelay) (submitted publishedJob)
      [.deliver 0 true, .finish 0 false returning] := by
  refine (messageMachine_keeps_iff anyDelay publishedJob (by decide) _).mpr
    ⟨False.elim, ?_, trivial⟩
  rintro ⟨consumption, found, _, _, _, payload, working, exhausted⟩
  cases found
  cases working
  cases exhausted

/-- Two failures, and the message of the second is dropped. -/
theorem secondFailure_loses :
    ¬ (messageMachine anyDelay publishedJob).Permits (KeepsJob anyDelay) (submitted publishedJob)
      [.deliver 0 true, .finish 0 false returning, .deliver 0 true, .finish 1 false returning] := by
  rintro ⟨_, _, _, last, _⟩
  rcases last _ rfl with acknowledged | left
  · exact Bool.false_ne_true acknowledged
  · exact absurd left (by decide)

end JobMessages

end AudioBlock.Delivery
