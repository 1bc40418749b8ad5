/-
How often the processing step of a job runs.

A job is republished with its attempt counted up until the count reaches the maximum, so the
number of its failures depends on the count that it is submitted with.  A job without an
attempt counts as its first, and is given up with its second failure.
-/
import AudioBlock.Delivery.SongMessages

namespace AudioBlock.Delivery

open AudioBlock.Foundation AudioBlock.Processing

def AttemptValue.count : AttemptValue → Option Float
  | .boolean value => some (if value then 1 else 0)
  | .number value => some value
  | .text _ | .structured _ => none

def SongMessage.count (payload : SongMessage) : Option Float :=
  payload.currentAttempt.count

def countedUp (count : Float) : Nat → Float
  | 0 => count
  | attempts + 1 => countedUp count attempts + 1

structure CountsToMaximum (conversions : Conversions) (count : Float) : Prop where
  below : ∀ attempts, attempts + 1 < maxAttempts →
    ¬ Float.ofNat maxAttempts ≤ countedUp count (attempts + 1) ∧
      (countedUp count (attempts + 1)).isFinite ∧
      conversions.accepts (60000 * countedUp count (attempts + 1))
  reaches : Float.ofNat maxAttempts ≤ countedUp count maxAttempts

namespace JobMessages

def failure (conversions : Conversions) (state : JobMessages) :
    MessageLabel → Option (SongMessage × Retry)
  | .finish index false _ =>
      (state.broker.consumed[index]?.filter Consumption.holds).bind fun consumption =>
        consumption.work.bind fun payload =>
          (nextAttempt conversions payload).map fun retry => (payload, retry)
  | _ => none

structure Lawful (conversions : Conversions) (state : JobMessages) (label : MessageLabel) :
    Prop where
  runs : ∀ index settles, label = .deliver index settles →
    ∀ message ∈ state.broker.waiting[index]?,
      (started message).isSome ∧ state.succeeded = false ∧ state.failures < maxAttempts
  republishes : ∀ payload again expiration,
    state.failure conversions label = some (payload, .again again expiration) →
      ∃ count, payload.count = some count ∧ again.count = some (count + 1)
  deadLetters : ∀ payload, state.failure conversions label = some (payload, .exhausted) →
    state.failures + 1 = maxAttempts

def allReturn : ChannelCalls := { acks := true, publishes := true, settles := true }

def Undisturbed (state : JobMessages) : MessageLabel → Prop
  | .finish index _ calls => calls = allReturn ∧
      ∀ consumption ∈ state.broker.consumed[index]?, consumption.holds = true
  | .deliver _ _ | .redeliver _ _ => True
  | .expire _ => False

/-! ### Counting up -/

variable {conversions : Conversions} {payload again : SongMessage} {count : Float}
  {state after : JobMessages} {message : QueuedMessage}

theorem plusOne_of_count {value : AttemptValue} (counted : value.count = some count) :
    value.plusOne = some (.number (count + 1)) := by
  cases value with
  | boolean value | number value =>
      cases counted
      rfl
  | text value | structured converted => cases counted

theorem hasText_of_count {value : AttemptValue} (counted : value.count = some count) :
    value.hasText = true := by
  cases value with
  | boolean value | number value => rfl
  | text value | structured converted => cases counted

theorem nextAttempt_of_count (conversions : Conversions) (counted : payload.count = some count) :
    nextAttempt conversions payload = some
      (if Float.ofNat maxAttempts ≤ count + 1 then .exhausted
        else .again { payload with attempt := (Increment.number (count + 1)).published }
          (60000 * (count + 1))) := by
  unfold nextAttempt
  rw [plusOne_of_count counted]
  rfl

theorem count_published (payload : SongMessage) (value : Float) :
    SongMessage.count { payload with attempt := (Increment.number value).published } =
      some (if value.isFinite then value else 1) := by
  unfold SongMessage.count SongMessage.currentAttempt Increment.published
  dsimp only
  by_cases finite : value.isFinite = true
  · rw [if_pos finite, if_pos finite]
    rfl
  · rw [if_neg finite, if_neg finite]
    rfl

structure JobAt (count : Float) (message : QueuedMessage) (payload : SongMessage) : Prop where
  content : message.content = .job payload
  named : Named payload
  counted : payload.count = some count

theorem JobAt.parsed (job : JobAt count message payload) :
    parsePayload message.content = some payload := by
  rw [job.content]
  exact parsePayload_job job.named

theorem JobAt.started (job : JobAt count message payload) : started message = some payload := by
  unfold JobMessages.started
  rw [job.parsed, Option.filter_some, if_pos (hasText_of_count job.counted)]

def CountedMessage (count : Float) (message : QueuedMessage) (work : Option SongMessage) : Prop :=
  ∃ payload, JobAt count message payload ∧ ∀ worked ∈ work, worked = payload

structure OnCount (count : Float) (state : JobMessages) : Prop where
  single : state.broker.copies ≤ 1
  unsettled : 0 < state.broker.copies → state.succeeded = false ∧ state.failures < maxAttempts
  counted : state.broker.Every (CountedMessage (countedUp count state.failures))

theorem OnCount.of_no_copies (none : state.broker.copies = 0) : OnCount count state where
  single := by omega
  unsettled positive := absurd none (Nat.ne_of_gt positive)
  counted := .of_no_copies none

theorem submitted_onCount (named : Named payload) (counted : payload.count = some count) :
    OnCount count (submitted payload) where
  single := Nat.le_refl 1
  unsettled _ := ⟨rfl, Nat.zero_lt_succ 2⟩
  counted := {
    waiting := by
      intro message member
      cases List.mem_singleton.mp member
      exact ⟨payload, ⟨rfl, named, counted⟩, fun worked none => absurd none (by simp)⟩
    consumed := fun _ member => absurd member List.not_mem_nil }

/-! ### A count that reaches the maximum keeps every run lawful -/

theorem JobAt.delivered (job : JobAt count message payload) (index : Nat) (settles : Bool) :
    state.delivered index message settles =
      { state with broker := state.broker.deliver index message (some payload) } := by
  rw [delivered_readable (Option.isSome_of_eq_some job.parsed), job.started]

variable {index : Nat} {consumption other : Consumption QueuedMessage SongMessage} {attempts : Nat}
  {label : MessageLabel} {retry : Retry}

theorem OnCount.deliver {settles : Bool} (onCount : OnCount count state)
    (found : state.broker.waiting[index]? = some message) :
    OnCount count (state.delivered index message settles) := by
  obtain ⟨payload, job, _⟩ := onCount.counted.waiting message (List.mem_of_getElem? found)
  rw [job.delivered index settles]
  have copies : (state.broker.deliver index message (some payload)).copies = state.broker.copies :=
    Broker.copies_deliver found
  refine ⟨le_of_eq_of_le copies onCount.single, ?_, onCount.counted.deliver ⟨payload, job, ?_⟩⟩
  · intro positive
    exact onCount.unsettled (copies ▸ positive)
  · intro worked same
    exact (Option.some.inj same).symm

theorem OnCount.redeliver (onCount : OnCount count state)
    (found : state.broker.consumed[index]? = some consumption) (holds : consumption.holds = true)
    (same : other.message = consumption.message) :
    OnCount count { state with broker := state.broker.requeue index other } := by
  obtain ⟨payload, job, _⟩ :=
    onCount.counted.consumed consumption (List.mem_of_getElem? found) holds
  have copies : (state.broker.requeue index other).copies = state.broker.copies :=
    Broker.copies_requeue found holds
  refine ⟨le_of_eq_of_le copies onCount.single, ?_, onCount.counted.requeue ⟨payload, ?_, ?_⟩⟩
  · intro positive
    exact onCount.unsettled (copies ▸ positive)
  · rw [same]
    exact job
  · exact fun worked none => absurd none (Option.not_mem_none worked)

theorem OnCount.released {success : Bool} (onCount : OnCount count state)
    (found : state.broker.consumed[index]? = some consumption) (holds : consumption.holds = true) :
    ((state.ended index consumption success).broker.release index other).copies = 0 := by
  have ended : (state.ended index consumption success).broker.copies = state.broker.copies :=
    Broker.copies_withConsumption found rfl
  have released : ((state.ended index consumption success).broker.release index other).copies + 1 =
      (state.ended index consumption success).broker.copies :=
    Broker.copies_release (Broker.consumed_withConsumption found) holds
  have single := onCount.single
  omega

section

variable (counts : CountsToMaximum conversions count)
include counts

theorem countedUp_lt (allowed : attempts < maxAttempts)
    (small : ¬ Float.ofNat maxAttempts ≤ countedUp count attempts + 1) :
    attempts + 1 < maxAttempts := by
  rcases Nat.lt_or_eq_of_le (Nat.succ_le_of_lt allowed) with less | last
  · exact less
  · exact absurd (last ▸ counts.reaches) small

theorem OnCount.finish {success : Bool} (onCount : OnCount count state)
    (found : state.broker.consumed[index]? = some consumption) (holds : consumption.holds = true)
    (working : consumption.work = some payload) :
    OnCount count (state.finished conversions index consumption payload success allReturn) := by
  obtain ⟨_, job, same⟩ :=
    onCount.counted.consumed consumption (List.mem_of_getElem? found) holds
  cases same payload working
  obtain ⟨fresh, allowed⟩ := onCount.unsettled (Broker.copies_pos_of_held found holds)
  have empty : ∀ other : Consumption QueuedMessage SongMessage,
      ((state.ended index consumption success).broker.release index other).copies = 0 :=
    fun other => onCount.released found holds
  unfold finished
  rw [if_neg (by simp [holds])]
  cases success with
  | true =>
      rw [if_pos ⟨rfl, rfl⟩]
      exact .of_no_copies (empty _)
  | false =>
      rw [if_neg (fun accepted => Bool.false_ne_true accepted.1)]
      unfold handleFailure
      rw [nextAttempt_of_count conversions job.counted]
      by_cases large : Float.ofNat maxAttempts ≤ countedUp count state.failures + 1
      · rw [if_pos large]
        exact .of_no_copies (empty _)
      · rw [if_neg large]
        have next := countedUp_lt counts allowed large
        obtain ⟨_, finite, accepted⟩ := counts.below state.failures next
        have taken : conversions.accepts (60000 * (countedUp count state.failures + 1)) = true :=
          accepted
        simp only [allReturn, taken, if_true, Bool.true_eq_false, if_false]
        refine ⟨?_, ?_, ?_⟩
        · rw [Broker.copies_publish, empty]
        · intro _
          exact ⟨(Bool.or_false _).trans fresh, next⟩
        · refine (Broker.Every.of_no_copies (empty _)).publish ⟨_, ⟨rfl, job.named, ?_⟩, ?_⟩
          · rw [count_published]
            exact congrArg some (if_pos finite)
          · exact fun worked none => absurd none (Option.not_mem_none worked)

theorem OnCount.step (onCount : OnCount count state) (undisturbed : state.Undisturbed label)
    (moved : messageStep conversions state label = some after) : OnCount count after := by
  cases label with
  | deliver index settles =>
      obtain ⟨message, found, rfl⟩ := Option.map_eq_some_iff.mp moved
      exact onCount.deliver found
  | finish index success calls =>
      obtain ⟨rfl, holds⟩ := undisturbed
      obtain ⟨consumption, found, moved⟩ := Option.bind_eq_some_iff.mp moved
      obtain ⟨payload, working, rfl⟩ := Option.map_eq_some_iff.mp moved
      exact onCount.finish counts found (holds consumption found) working
  | redeliver index stops =>
      obtain ⟨consumption, kept, rfl⟩ := Option.map_eq_some_iff.mp moved
      obtain ⟨found, holds⟩ := Option.filter_eq_some_iff.mp kept
      exact onCount.redeliver found holds rfl
  | expire index => exact undisturbed.elim

end

theorem failure_inv (failed : state.failure conversions label = some (payload, retry)) :
    ∃ index calls consumption, label = .finish index false calls ∧
      state.broker.consumed[index]? = some consumption ∧ consumption.holds = true ∧
      consumption.work = some payload ∧ nextAttempt conversions payload = some retry := by
  unfold failure at failed
  split at failed
  · rename_i index calls
    obtain ⟨consumption, kept, failed⟩ := Option.bind_eq_some_iff.mp failed
    obtain ⟨found, holds⟩ := Option.filter_eq_some_iff.mp kept
    obtain ⟨worked, working, failed⟩ := Option.bind_eq_some_iff.mp failed
    obtain ⟨decided, attempted, same⟩ := Option.map_eq_some_iff.mp failed
    cases same
    exact ⟨index, calls, consumption, rfl, found, holds, working, attempted⟩
  · cases failed

theorem OnCount.lawful (counts : CountsToMaximum conversions count)
    (onCount : OnCount count state) (label : MessageLabel) : state.Lawful conversions label := by
  have failing : ∀ {payload retry}, state.failure conversions label = some (payload, retry) →
      payload.count = some (countedUp count state.failures) ∧ state.failures < maxAttempts ∧
        nextAttempt conversions payload = some retry := by
    intro payload retry failed
    obtain ⟨index, _, consumption, _, found, holds, working, attempted⟩ := failure_inv failed
    obtain ⟨_, job, same⟩ :=
      onCount.counted.consumed consumption (List.mem_of_getElem? found) holds
    cases same payload working
    exact ⟨job.counted, (onCount.unsettled (Broker.copies_pos_of_held found holds)).2, attempted⟩
  refine ⟨?_, ?_, ?_⟩
  · rintro index settles rfl message found
    obtain ⟨payload, job, _⟩ := onCount.counted.waiting message (List.mem_of_getElem? found)
    exact ⟨Option.isSome_of_eq_some job.started,
      onCount.unsettled (Broker.copies_pos_of_waiting found)⟩
  · intro payload again expiration failed
    obtain ⟨counted, allowed, attempted⟩ := failing failed
    rw [nextAttempt_of_count conversions counted] at attempted
    refine ⟨_, counted, ?_⟩
    by_cases large : Float.ofNat maxAttempts ≤ countedUp count state.failures + 1
    · rw [if_pos large] at attempted
      cases attempted
    · rw [if_neg large] at attempted
      cases attempted
      rw [count_published]
      exact congrArg some
        (if_pos (counts.below state.failures (countedUp_lt counts allowed large)).2.1)
  · intro payload failed
    obtain ⟨counted, allowed, attempted⟩ := failing failed
    rw [nextAttempt_of_count conversions counted] at attempted
    rcases Nat.lt_or_eq_of_le (Nat.succ_le_of_lt allowed) with less | last
    · have small : ¬ Float.ofNat maxAttempts ≤ countedUp count state.failures + 1 :=
        (counts.below state.failures less).1
      rw [if_neg small] at attempted
      cases attempted
    · exact last

/-! ### The converse: a job whose runs are all lawful counts to the maximum -/

def StaysLawful (conversions : Conversions) (payload : SongMessage) (state : JobMessages) : Prop :=
  ∀ labels, (messageMachine conversions payload).Permits Undisturbed state labels →
    (messageMachine conversions payload).Permits (Lawful conversions) state labels

variable {submission : SongMessage}

theorem StaysLawful.now (stays : StaysLawful conversions submission state)
    (undisturbed : state.Undisturbed label) : state.Lawful conversions label := by
  refine (stays [label] ⟨undisturbed, ?_⟩).1
  split
  · trivial
  · trivial

theorem StaysLawful.next (stays : StaysLawful conversions submission state)
    (undisturbed : state.Undisturbed label)
    (moved : messageStep conversions state label = some after) :
    StaysLawful conversions submission after := by
  intro labels permitted
  have moved : (messageMachine conversions submission).step state label = some after := moved
  have both := stays (label :: labels) ⟨undisturbed, by rw [moved]; exact permitted⟩
  have later := both.2
  rw [moved] at later
  exact later

structure Waits (attempts : Nat) (message : QueuedMessage) (state : JobMessages) : Prop where
  waiting : state.broker.waiting = [message]
  consumed : state.broker.consumed.length = attempts
  failures : state.failures = attempts

theorem submitted_waits (payload : SongMessage) :
    Waits 0 { content := .job payload, expires := false } (submitted payload) where
  waiting := rfl
  consumed := rfl
  failures := rfl

theorem started_parsed (starts : started message = some payload) :
    parsePayload message.content = some payload ∧ message.content = .job payload := by
  have parsed := (Option.filter_eq_some_iff.mp starts).1
  exact ⟨parsed, (parsePayload_inv parsed).1⟩

theorem started_delivered (starts : started message = some payload) (index : Nat)
    (settles : Bool) : state.delivered index message settles =
      { state with broker := state.broker.deliver index message (some payload) } := by
  rw [delivered_readable (Option.isSome_of_eq_some (started_parsed starts).1), starts]

def consuming (state : JobMessages) (message : QueuedMessage) (payload : SongMessage) :
    JobMessages :=
  { state with broker := state.broker.deliver 0 message (some payload) }

section

variable (waits : Waits attempts message state)
include waits

theorem Waits.delivers (starts : started message = some payload) :
    messageStep conversions state (.deliver 0 true) = some (state.consuming message payload) := by
  unfold messageStep
  rw [waits.waiting]
  exact congrArg some (started_delivered starts 0 true)

theorem Waits.consumer :
    (state.consuming message payload).broker.consumed[attempts]? =
      some { message := message, work := some payload, holds := true } := by
  rw [← waits.consumed]
  exact List.getElem?_concat_length

theorem Waits.failure (attempted : nextAttempt conversions payload = some retry) :
    (state.consuming message payload).failure conversions (.finish attempts false allReturn) =
      some (payload, retry) := by
  unfold JobMessages.failure
  dsimp only
  rw [waits.consumer, Option.filter_some, if_pos rfl]
  exact congrArg (Option.map fun retry => (payload, retry)) attempted

def failed (conversions : Conversions) (state : JobMessages) (message : QueuedMessage)
    (payload : SongMessage) (attempts : Nat) : JobMessages :=
  ((state.consuming message payload).ended attempts
    { message := message, work := some payload, holds := true } false).handleFailure conversions
    attempts { message := message, work := none, holds := true } payload allReturn

theorem Waits.finishes :
    messageStep conversions (state.consuming message payload) (.finish attempts false allReturn) =
      some (state.failed conversions message payload attempts) := by
  unfold messageStep
  dsimp only
  rw [waits.consumer]
  rfl

theorem Waits.fails {expiration : Float}
    (attempted : nextAttempt conversions payload = some (.again again expiration)) :
    Waits (attempts + 1)
      (if conversions.accepts expiration then { content := .job again, expires := true }
        else message) (state.failed conversions message payload attempts) := by
  have nothing : (state.consuming message payload).broker.waiting = [] := by
    unfold consuming Broker.deliver
    rw [waits.waiting]
    rfl
  have length : (state.consuming message payload).broker.consumed.length = attempts + 1 := by
    unfold consuming Broker.deliver
    rw [List.length_append, waits.consumed]
    rfl
  have failures : (state.consuming message payload).failures + 1 = attempts + 1 :=
    congrArg (· + 1) waits.failures
  unfold failed handleFailure
  rw [attempted]
  dsimp only
  cases accepted : conversions.accepts expiration with
  | true =>
      refine ⟨?_, ?_, failures⟩
      · exact congrArg (· ++ [_]) nothing
      · exact List.length_set.trans (List.length_set.trans length)
  | false =>
      refine ⟨?_, ?_, failures⟩
      · exact congrArg (· ++ [_]) nothing
      · exact List.length_set.trans (List.length_set.trans length)

end

/-- A lawful wait ends in a delivery whose step runs; its failure is counted or the last. -/
structure Attempted (conversions : Conversions) (submission : SongMessage) (attempts : Nat)
    (message : QueuedMessage) (payload : SongMessage) (retry : Retry) : Prop where
  starts : started message = some payload
  allowed : attempts < maxAttempts
  attempted : nextAttempt conversions payload = some retry
  exhausted : retry = .exhausted → attempts + 1 = maxAttempts
  counted : ∀ again expiration, retry = .again again expiration →
    ∃ count, payload.count = some count ∧ again.count = some (count + 1)
  continues : ∀ again expiration, retry = .again again expiration →
    ∃ after, StaysLawful conversions submission after ∧
      Waits (attempts + 1)
        (if conversions.accepts expiration then { content := .job again, expires := true }
          else message) after

theorem StaysLawful.attempt (stays : StaysLawful conversions submission state)
    (waits : Waits attempts message state) :
    ∃ payload retry, Attempted conversions submission attempts message payload retry := by
  have found : message ∈ state.broker.waiting[0]? := by
    rw [waits.waiting]
    exact rfl
  have deliverable : state.Undisturbed (.deliver 0 true) := trivial
  obtain ⟨runs, _, allowed⟩ := (stays.now deliverable).runs 0 true rfl message found
  obtain ⟨payload, starts⟩ := Option.isSome_iff_exists.mp runs
  obtain ⟨retry, attempted⟩ :=
    nextAttempt_of_hasText conversions (Option.filter_eq_some_iff.mp starts).2
  have middle := stays.next deliverable (waits.delivers starts)
  have held : (state.consuming message payload).Undisturbed (.finish attempts false allReturn) := by
    refine ⟨rfl, ?_⟩
    rw [waits.consumer]
    intro consumption same
    cases same
    rfl
  have lawful := middle.now held
  have fails := waits.failure attempted
  refine ⟨payload, retry, starts, ?_, attempted, ?_, ?_, ?_⟩
  · exact waits.failures ▸ allowed
  · rintro rfl
    exact (congrArg (· + 1) waits.failures.symm).trans (lawful.deadLetters payload fails)
  · rintro again expiration rfl
    exact lawful.republishes payload again expiration fails
  · rintro again expiration rfl
    exact ⟨_, middle.next held waits.finishes, waits.fails attempted⟩

theorem StaysLawful.accepts {expiration : Float}
    (attempt : Attempted conversions submission attempts message payload retry)
    (retries : retry = .again again expiration) : conversions.accepts expiration = true := by
  subst retries
  by_contra refused
  have repeated : ∀ remaining attempts state, attempts + remaining = maxAttempts →
      StaysLawful conversions submission state → Waits attempts message state → False := by
    intro remaining
    induction remaining with
    | zero =>
        intro attempts state last stays waits
        obtain ⟨_, _, attempted⟩ := stays.attempt waits
        exact absurd attempted.allowed (Nat.not_lt_of_le (Nat.le_of_eq last.symm))
    | succ remaining ih =>
        intro attempts state last stays waits
        obtain ⟨worked, decided, attempted⟩ := stays.attempt waits
        cases attempt.starts.symm.trans attempted.starts
        cases attempt.attempted.symm.trans attempted.attempted
        obtain ⟨after, later, next⟩ := attempted.continues again expiration rfl
        rw [if_neg refused] at next
        exact ih (attempts + 1) after (by omega) later next
  obtain ⟨after, later, next⟩ := attempt.continues again expiration rfl
  rw [if_neg refused] at next
  exact repeated (maxAttempts - (attempts + 1)) (attempts + 1) after
    (Nat.add_sub_cancel' attempt.allowed) later next

structure Reaches (conversions : Conversions) (submission : SongMessage) (count : Float)
    (attempts : Nat) (message : QueuedMessage) (state : JobMessages) : Prop where
  stays : StaysLawful conversions submission state
  waits : Waits attempts message state
  counted : ∀ payload, started message = some payload →
    payload.count = some (countedUp count attempts)

theorem Reaches.next (reaches : Reaches conversions submission count attempts message state)
    (more : attempts + 1 < maxAttempts) :
    (¬ Float.ofNat maxAttempts ≤ countedUp count (attempts + 1) ∧
      (countedUp count (attempts + 1)).isFinite ∧
      conversions.accepts (60000 * countedUp count (attempts + 1))) ∧
    ∃ message state, Reaches conversions submission count (attempts + 1) message state := by
  obtain ⟨payload, retry, attempt⟩ := reaches.stays.attempt reaches.waits
  have counted := reaches.counted payload attempt.starts
  have decided := nextAttempt_of_count conversions counted
  by_cases large : Float.ofNat maxAttempts ≤ countedUp count attempts + 1
  · rw [if_pos large, attempt.attempted] at decided
    exact absurd (attempt.exhausted (Option.some.inj decided)) (Nat.ne_of_lt more)
  · rw [if_neg large, attempt.attempted] at decided
    have again := Option.some.inj decided
    have accepted := StaysLawful.accepts attempt again
    obtain ⟨before, same, increased⟩ := attempt.counted _ _ again
    cases counted.symm.trans same
    rw [count_published] at increased
    have finite : (countedUp count attempts + 1).isFinite = true := by
      by_contra infinite
      rw [if_neg infinite] at increased
      rw [← Option.some.inj increased] at infinite
      exact infinite (by decide)
    obtain ⟨after, later, waits⟩ := attempt.continues _ _ again
    rw [if_pos accepted] at waits
    refine ⟨⟨large, finite, accepted⟩, _, after, later, waits, ?_⟩
    intro next starts
    have content := (started_parsed starts).2
    cases content
    rw [count_published, if_pos finite]
    rfl

theorem Reaches.every (reaches : Reaches conversions submission count 0 message state) :
    ∀ attempts < maxAttempts, ∃ message state,
      Reaches conversions submission count attempts message state := by
  intro attempts
  induction attempts with
  | zero =>
      intro _
      exact ⟨message, state, reaches⟩
  | succ attempts ih =>
      intro more
      obtain ⟨_, _, earlier⟩ := ih (Nat.lt_of_succ_lt more)
      exact (earlier.next more).2

theorem Reaches.last (reaches : Reaches conversions submission count attempts message state)
    (final : attempts + 1 = maxAttempts) :
    Float.ofNat maxAttempts ≤ countedUp count (attempts + 1) := by
  obtain ⟨payload, retry, attempt⟩ := reaches.stays.attempt reaches.waits
  have decided := nextAttempt_of_count conversions
    (reaches.counted payload attempt.starts)
  by_contra small
  have small : ¬ Float.ofNat maxAttempts ≤ countedUp count attempts + 1 := small
  rw [if_neg small, attempt.attempted] at decided
  obtain ⟨after, later, waits⟩ := attempt.continues _ _ (Option.some.inj decided)
  obtain ⟨_, _, further⟩ := later.attempt waits
  exact absurd further.allowed (Nat.not_lt_of_le (Nat.le_of_eq final.symm))

theorem StaysLawful.countsToMaximum
    (stays : StaysLawful conversions submission (submitted submission)) :
    ∃ count, submission.count = some count ∧ CountsToMaximum conversions count := by
  obtain ⟨payload, retry, attempt⟩ := stays.attempt (submitted_waits submission)
  cases (started_parsed attempt.starts).2
  cases retry with
  | exhausted => exact absurd (attempt.exhausted rfl) (by decide)
  | again again expiration =>
      obtain ⟨count, counted, _⟩ := attempt.counted again expiration rfl
      have first : Reaches conversions submission count 0
          { content := .job submission, expires := false } (submitted submission) := by
        refine ⟨stays, submitted_waits submission, ?_⟩
        intro payload starts
        cases (started_parsed starts).2
        exact counted
      refine ⟨count, counted, ?_, ?_⟩
      · intro attempts more
        obtain ⟨_, _, reaches⟩ := first.every attempts (Nat.lt_of_succ_lt more)
        exact (reaches.next more).1
      · obtain ⟨_, _, reaches⟩ := first.every 2 (by decide)
        exact reaches.last rfl

/-- Whatever its steps come to and however often it is redelivered, a job runs until it has
succeeded or failed as often as allowed exactly if its count reaches the maximum then. -/
theorem messageMachine_lawful_iff (conversions : Conversions) (payload : SongMessage)
    (song : payload.songId ≠ "") (file : payload.fileId ≠ "") :
    (∀ labels, (messageMachine conversions payload).Permits Undisturbed (submitted payload) labels →
      (messageMachine conversions payload).Permits (Lawful conversions) (submitted payload) labels) ↔
    ∃ count, payload.count = some count ∧ CountsToMaximum conversions count := by
  constructor
  · exact StaysLawful.countsToMaximum
  · rintro ⟨count, counted, counts⟩ labels permitted
    exact permitted.strengthen (OnCount count)
      (fun state label onCount _ => onCount.lawful counts label)
      (fun before label after onCount undisturbed moved => onCount.step counts undisturbed moved)
      (submitted_onCount ⟨song, file⟩ counted)

def roundDelays : Conversions where
  numberOf _ := 0
  accepts expiration := decide (0 ≤ expiration ∧ expiration ≤ 4294967295)

def fromZero : SongMessage :=
  { songId := "s", fileId := "f", attempt := some (.number 0) }

theorem fromZero_lawful : CountsToMaximum roundDelays 0 ∧ ∀ labels,
    (messageMachine roundDelays fromZero).Permits Undisturbed (submitted fromZero) labels →
      (messageMachine roundDelays fromZero).Permits (Lawful roundDelays) (submitted fromZero)
        labels := by
  have counts : CountsToMaximum roundDelays 0 := by
    refine ⟨?_, by decide⟩
    intro attempts more
    match attempts with
    | 0 => decide
    | 1 => decide
    | _ + 2 => exact absurd more (by simp [maxAttempts])
  exact ⟨counts, (messageMachine_lawful_iff roundDelays fromZero (by decide) (by decide)).mpr
    ⟨0, rfl, counts⟩⟩

/-- A job as the services publish it. -/
def unnumbered : SongMessage := { songId := "s", fileId := "f", attempt := none }

def twoFailures : List MessageLabel :=
  [.deliver 0 true, .finish 0 false allReturn, .deliver 0 true, .finish 1 false allReturn]

theorem unnumbered_givenUp_early :
    ¬ ∀ labels,
      (messageMachine roundDelays unnumbered).Permits Undisturbed (submitted unnumbered) labels →
        (messageMachine roundDelays unnumbered).Permits (Lawful roundDelays)
          (submitted unnumbered) labels := by
  intro lawful
  have undisturbed : (messageMachine roundDelays unnumbered).Permits Undisturbed
      (submitted unnumbered) twoFailures := by
    refine ⟨trivial, ⟨rfl, ?_⟩, trivial, ⟨rfl, ?_⟩, trivial⟩
    · intro consumption found
      cases found
      rfl
    · intro consumption found
      cases found
      rfl
  obtain ⟨_, _, _, last, _⟩ := lawful twoFailures undisturbed
  exact absurd (last.deadLetters _ rfl) (by decide)

/-- A success that comes after the channel is lost does not stop the next delivery. -/
example : ¬ (messageMachine roundDelays fromZero).Permits (Lawful roundDelays) (submitted fromZero)
    [.deliver 0 true, .redeliver 0 false, .finish 0 true allReturn, .deliver 0 true] := by
  rintro ⟨_, _, _, again, _⟩
  exact absurd (again.runs 0 true rfl _ rfl).2.1 (by decide)

end JobMessages

end AudioBlock.Delivery
