/-
The registry of the messages that the workers process, and the drain that settles the rest.

The callback of the song worker runs up to the processing step as soon as its message is
registered, and its end takes its entry out of the registry at once.  The drain may end at
any moment, since its timeout may be over.  The channel stays open until the drain closes it,
so calls return.  Tags are counted over all registered workers.
-/
import AudioBlock.Delivery.SongMessages
import Mathlib.Data.List.Perm.Basic

namespace AudioBlock.Delivery

open AudioBlock.Foundation AudioBlock.Processing

/-- A message whose processing step runs; its attempt has been written to the log. -/
structure PendingEntry where
  tag : Nat
  payload : SongMessage
  active : Bool
  text : payload.currentAttempt.hasText = true
  deriving DecidableEq

inductive Settlement
  | ack
  /-- `nack` without requeue. -/
  | rejected
  /-- `nack` with requeue, of a message that comes after the drain was called. -/
  | returned
  /-- `nack` with requeue, of a message that the drain does not wait for any longer. -/
  | drained
  deriving DecidableEq

structure SettleCall where
  tag : Nat
  settlement : Settlement
  deriving DecidableEq

structure RegistryState where
  /-- How many messages were delivered. -/
  delivered : Nat
  /-- The messages that the callback has handled. -/
  handled : List (Nat × MessageContent)
  pending : List PendingEntry
  stopping : Bool
  returned : Bool
  calls : List SettleCall
  deriving DecidableEq

inductive RegistryLabel
  | deliver (content : MessageContent)
  | finish (index : Nat) (success : Bool)
  | drainWorkerQueues
  | drainEnds
  deriving DecidableEq

/-- How the end of the processing step settles its message. -/
def settlementOf (conversions : Conversions) (payload : SongMessage) (success : Bool) :
    Option Settlement :=
  if success then some .ack
  else
    (nextAttempt conversions payload).map fun
      | .exhausted => .rejected
      | .again _ _ => .ack

namespace RegistryState

def empty : RegistryState :=
  { delivered := 0
    handled := []
    pending := []
    stopping := false
    returned := false
    calls := [] }

def settled (state : RegistryState) (tag : Nat) (settlement : Settlement) : RegistryState :=
  { state with calls := state.calls ++ [{ tag := tag, settlement := settlement }] }

/-- The consume callback up to the processing step.  A handler that throws before it is
taken out of the registry without a call. -/
def callback (state : RegistryState) (tag : Nat) (content : MessageContent) : RegistryState :=
  match parsePayload content with
  | none => state.settled tag .rejected
  | some payload =>
      if text : payload.currentAttempt.hasText = true then
        { state with
          pending := state.pending ++
            [{ tag := tag, payload := payload, active := true, text := text }] }
      else state

/-- `registration.handle`. -/
def handle (state : RegistryState) (content : MessageContent) : RegistryState :=
  let tag := state.delivered
  let state := { state with delivered := state.delivered + 1 }
  if state.stopping then state.settled tag .returned
  else { state with handled := state.handled ++ [(tag, content)] }.callback tag content

/-- The end of a callback whose processing step was running. -/
def finished (conversions : Conversions) (state : RegistryState) (index : Nat)
    (entry : PendingEntry) (success : Bool) : RegistryState :=
  let state := { state with pending := state.pending.eraseIdx index }
  match settlementOf conversions entry.payload success with
  | some settlement => if entry.active then state.settled entry.tag settlement else state
  | none => state

def drainEnds (state : RegistryState) : RegistryState :=
  { state with
    pending := state.pending.map fun entry => { entry with active := false }
    returned := true
    calls := state.calls ++
      state.pending.map fun entry => { tag := entry.tag, settlement := .drained } }

end RegistryState

def registryStep (conversions : Conversions) (state : RegistryState) :
    RegistryLabel → Option RegistryState
  | .deliver content => if state.returned then none else some (state.handle content)
  | .finish index success =>
      state.pending[index]?.map fun entry => state.finished conversions index entry success
  | .drainWorkerQueues => some { state with stopping := true }
  | .drainEnds => if state.stopping ∧ state.returned = false then some state.drainEnds else none

def registryMachine (conversions : Conversions) : Machine RegistryState RegistryLabel where
  initial state := state = .empty
  step := registryStep conversions

namespace RegistryState

structure Settled (state : RegistryState) : Prop where
  once : (state.calls.map SettleCall.tag).Nodup
  drained : ∀ tag, { tag := tag, settlement := .drained } ∈ state.calls →
    { tag := tag, settlement := .ack } ∉ state.calls
  complete : state.returned = true → ∀ tag < state.delivered,
    tag ∈ state.calls.map SettleCall.tag

def Settles (conversions : Conversions) (state : RegistryState) (label : RegistryLabel) : Prop :=
  ∀ after, registryStep conversions state label = some after → after.Settled

/-- The callback gets as far as the processing step, or discards the message. -/
def Convertible (content : MessageContent) : Prop :=
  ∀ payload ∈ parsePayload content, payload.currentAttempt.hasText = true

def Logged (state : RegistryState) (label : RegistryLabel) : Prop :=
  label = .drainEnds → state.stopping = true → state.returned = false →
    ∀ handled ∈ state.handled, Convertible handled.2

/-! ### Which tags are settled, pending, or neither -/

def tags (state : RegistryState) : List Nat :=
  state.calls.map SettleCall.tag ++
    (state.pending.filter PendingEntry.active).map PendingEntry.tag

structure Accounted (delivered : Nat) (handled : List (Nat × MessageContent)) (tags : List Nat) :
    Prop where
  once : tags.Nodup
  below : ∀ tag ∈ tags, tag < delivered
  known : ∀ entry ∈ handled, entry.1 < delivered
  covered : ∀ tag < delivered, tag ∈ tags ∨ ∃ entry ∈ handled, entry.1 = tag ∧ ¬ Convertible entry.2
  thrown : ∀ entry ∈ handled, ¬ Convertible entry.2 → entry.1 ∉ tags

variable {delivered : Nat} {handled : List (Nat × MessageContent)} {tags more : List Nat}
  {content : MessageContent}

section

variable (accounted : Accounted delivered handled tags)
include accounted

theorem Accounted.perm (same : more.Perm tags) :
    Accounted delivered handled more where
  once := same.nodup_iff.mpr accounted.once
  below tag member := accounted.below tag (same.mem_iff.mp member)
  known := accounted.known
  covered tag less := (accounted.covered tag less).imp_left same.mem_iff.mpr
  thrown entry member stuck settled := accounted.thrown entry member stuck (same.mem_iff.mp settled)

theorem Accounted.next :
    Accounted (delivered + 1) handled (delivered :: tags) where
  once := List.nodup_cons.mpr
    ⟨fun member => Nat.lt_irrefl _ (accounted.below delivered member), accounted.once⟩
  below tag member := by
    rcases List.mem_cons.mp member with rfl | earlier
    · exact Nat.lt_succ_self _
    · exact Nat.lt_succ_of_lt (accounted.below tag earlier)
  known entry member := Nat.lt_succ_of_lt (accounted.known entry member)
  covered tag less := by
    rcases Nat.lt_succ_iff_lt_or_eq.mp less with earlier | rfl
    · exact (accounted.covered tag earlier).imp_left (List.mem_cons_of_mem _)
    · exact Or.inl List.mem_cons_self
  thrown entry member stuck settled := by
    rcases List.mem_cons.mp settled with same | earlier
    · exact Nat.ne_of_lt (accounted.known entry member) same
    · exact accounted.thrown entry member stuck earlier

theorem Accounted.handle {tag : Nat} (less : tag < delivered) (converts : Convertible content) :
    Accounted delivered (handled ++ [(tag, content)]) tags where
  once := accounted.once
  below := accounted.below
  known entry member := by
    rcases List.mem_append.mp member with earlier | added
    · exact accounted.known entry earlier
    · exact List.mem_singleton.mp added ▸ less
  covered other less := by
    refine (accounted.covered other less).imp_right ?_
    rintro ⟨entry, member, same⟩
    exact ⟨entry, List.mem_append_left _ member, same⟩
  thrown entry member stuck := by
    rcases List.mem_append.mp member with earlier | added
    · exact accounted.thrown entry earlier stuck
    · cases List.mem_singleton.mp added
      exact absurd converts stuck

theorem Accounted.throw (stuck : ¬ Convertible content) :
    Accounted (delivered + 1) (handled ++ [(delivered, content)]) tags where
  once := accounted.once
  below tag member := Nat.lt_succ_of_lt (accounted.below tag member)
  known entry member := by
    rcases List.mem_append.mp member with earlier | added
    · exact Nat.lt_succ_of_lt (accounted.known entry earlier)
    · cases List.mem_singleton.mp added
      exact Nat.lt_succ_self _
  covered tag less := by
    rcases Nat.lt_succ_iff_lt_or_eq.mp less with earlier | rfl
    · refine (accounted.covered tag earlier).imp_right ?_
      rintro ⟨entry, member, same⟩
      exact ⟨entry, List.mem_append_left _ member, same⟩
    · exact Or.inr ⟨_, List.mem_append_right _ List.mem_cons_self, rfl, stuck⟩
  thrown entry member stuck := by
    rcases List.mem_append.mp member with earlier | added
    · exact accounted.thrown entry earlier stuck
    · cases List.mem_singleton.mp added
      exact fun settled => Nat.lt_irrefl _ (accounted.below _ settled)

end

structure Registered (state : RegistryState) : Prop where
  accounted : Accounted state.delivered state.handled state.tags
  active : state.returned = false → ∀ entry ∈ state.pending, entry.active = true
  inactive : state.returned = true → ∀ entry ∈ state.pending, entry.active = false
  logged : state.returned = true → ∀ entry ∈ state.handled, Convertible entry.2

theorem empty_registered : empty.Registered where
  accounted :=
    { once := List.nodup_nil
      below := fun _ member => absurd member List.not_mem_nil
      known := fun _ member => absurd member List.not_mem_nil
      covered := fun _ less => absurd less (Nat.not_lt_zero _)
      thrown := fun _ member => absurd member List.not_mem_nil }
  active _ _ member := absurd member List.not_mem_nil
  inactive returned := absurd returned Bool.false_ne_true
  logged returned := absurd returned Bool.false_ne_true

variable {conversions : Conversions} {state after : RegistryState} {label : RegistryLabel}

theorem Registered.settled (registered : state.Registered) : state.Settled where
  once := (List.nodup_append.mp registered.accounted.once).1
  drained tag drained acked := by
    have same := List.inj_on_of_nodup_map (List.nodup_append.mp registered.accounted.once).1
      drained acked rfl
    cases same
  complete returned tag less := by
    rcases registered.accounted.covered tag less with member | ⟨entry, handled, _, stuck⟩
    · have none : state.pending.filter PendingEntry.active = [] := by
        refine List.filter_eq_nil_iff.mpr fun entry member => ?_
        rw [registered.inactive returned entry member]
        exact Bool.false_ne_true
      unfold RegistryState.tags at member
      rw [none, List.map_nil, List.append_nil] at member
      exact member
    · exact absurd (registered.logged returned entry handled) stuck

/-! ### What a step does to the tags -/

theorem tags_settled (state : RegistryState) (tag : Nat) (settlement : Settlement) :
    (state.settled tag settlement).tags.Perm (tag :: state.tags) := by
  unfold tags settled
  rw [List.map_append, List.append_assoc]
  exact List.perm_middle

theorem Registered.deliver (registered : state.Registered) (opened : state.returned = false)
    (content : MessageContent) : (state.handle content).Registered := by
  have active := registered.active opened
  have returned : ∀ {property : Prop}, state.returned = true → property := fun returned =>
    absurd (opened.symm.trans returned) Bool.false_ne_true
  have next := registered.accounted.next
  have handles := fun converts : Convertible content =>
    next.handle (Nat.lt_succ_self state.delivered) converts
  unfold handle callback
  dsimp only
  split
  · exact ⟨next.perm (tags_settled ..), fun _ => active, returned, returned⟩
  · split
    · rename_i unread
      have converts : Convertible content := fun payload parsed =>
        absurd (unread.symm.trans parsed) (Option.some_ne_none payload).symm
      exact ⟨(handles converts).perm (tags_settled ..), fun _ => active, returned, returned⟩
    · rename_i payload parsed
      split
      · rename_i text
        have converts : Convertible content := by
          intro other same
          cases parsed.symm.trans same
          exact text
        refine ⟨(handles converts).perm ?_, fun _ => ?_, returned, returned⟩
        · unfold tags
          rw [List.filter_append, List.map_append, ← List.append_assoc]
          exact List.perm_append_singleton _ _
        · intro entry member
          rcases List.mem_append.mp member with earlier | added
          · exact active entry earlier
          · cases List.mem_singleton.mp added
            rfl
      · rename_i stuck
        have unconverted : ¬ Convertible content := fun converts => stuck (converts payload parsed)
        exact ⟨registered.accounted.throw unconverted, fun _ => active, returned, returned⟩

theorem settlementOf_text (conversions : Conversions) (entry : PendingEntry) (success : Bool) :
    ∃ settlement, settlementOf conversions entry.payload success = some settlement := by
  unfold settlementOf
  cases success with
  | true => exact ⟨.ack, rfl⟩
  | false =>
      obtain ⟨retry, attempted⟩ := nextAttempt_of_hasText conversions entry.text
      rw [if_neg Bool.false_ne_true, attempted]
      exact ⟨_, rfl⟩

theorem tags_finished (conversions : Conversions) {index : Nat} {entry : PendingEntry}
    (success : Bool)
    (found : state.pending[index]? = some entry) :
    (state.finished conversions index entry success).tags.Perm state.tags := by
  obtain ⟨inside, same⟩ := List.getElem?_eq_some_iff.mp found
  have erased : (entry :: state.pending.eraseIdx index).Perm state.pending := by
    rw [← same]
    exact List.getElem_cons_eraseIdx_perm inside
  have filtered := ((erased.filter PendingEntry.active).map PendingEntry.tag).append_left
    (state.calls.map SettleCall.tag)
  obtain ⟨settlement, decided⟩ := settlementOf_text conversions entry success
  unfold finished
  rw [decided]
  dsimp only
  split
  · rename_i active
    rw [List.filter_cons_of_pos active] at filtered
    exact (tags_settled ..).trans (List.perm_middle.symm.trans filtered)
  · rename_i ended
    rw [List.filter_cons_of_neg ended] at filtered
    exact filtered

theorem Registered.finish {index : Nat} {entry : PendingEntry} (success : Bool)
    (registered : state.Registered) (found : state.pending[index]? = some entry) :
    (state.finished conversions index entry success).Registered := by
  have accounted := registered.accounted.perm (tags_finished conversions success found)
  have frame : ∃ calls, state.finished conversions index entry success =
      { state with pending := state.pending.eraseIdx index, calls := calls } := by
    obtain ⟨settlement, decided⟩ := settlementOf_text conversions entry success
    unfold finished
    rw [decided]
    dsimp only
    split
    · exact ⟨_, rfl⟩
    · exact ⟨state.calls, rfl⟩
  obtain ⟨calls, same⟩ := frame
  rw [same] at accounted ⊢
  refine ⟨accounted, ?_, ?_, registered.logged⟩
  · intro opened other member
    exact registered.active opened other (List.mem_of_mem_eraseIdx member)
  · intro returned other member
    exact registered.inactive returned other (List.mem_of_mem_eraseIdx member)

theorem tags_drainEnds (active : ∀ entry ∈ state.pending, entry.active = true) :
    state.drainEnds.tags = state.tags := by
  unfold tags drainEnds
  rw [List.filter_eq_self.mpr active, List.filter_eq_nil_iff.mpr, List.map_append, List.map_map]
  · exact List.append_nil _
  · intro entry member
    obtain ⟨_, _, rfl⟩ := List.mem_map.mp member
    exact Bool.false_ne_true

theorem Registered.drain (registered : state.Registered) (opened : state.returned = false)
    (logged : ∀ entry ∈ state.handled, Convertible entry.2) : state.drainEnds.Registered := by
  have same := tags_drainEnds (registered.active opened)
  refine ⟨?_, ?_, ?_, fun _ => logged⟩
  · rw [same]
    exact registered.accounted
  · intro opened
    exact absurd opened.symm Bool.false_ne_true
  · intro _ entry member
    obtain ⟨_, _, rfl⟩ := List.mem_map.mp member
    rfl

theorem Registered.step (registered : state.Registered) (logged : state.Logged label)
    (moved : registryStep conversions state label = some after) : after.Registered := by
  cases label with
  | deliver content =>
      obtain ⟨opened, same⟩ := Option.ite_none_left_eq_some.mp moved
      cases same
      exact registered.deliver (eq_false_of_ne_true opened) content
  | finish index success =>
      obtain ⟨entry, found, rfl⟩ := Option.map_eq_some_iff.mp moved
      exact registered.finish success found
  | drainWorkerQueues =>
      cases moved
      exact ⟨registered.accounted, registered.active, registered.inactive, registered.logged⟩
  | drainEnds =>
      obtain ⟨⟨stopping, opened⟩, same⟩ := Option.ite_none_right_eq_some.mp moved
      cases same
      exact registered.drain opened (logged rfl stopping opened)

theorem Registered.settles_iff (registered : state.Registered) :
    state.Settles conversions label ↔ state.Logged label := by
  constructor
  · rintro settles rfl stopping opened entry member
    by_contra stuck
    have moved : registryStep conversions state .drainEnds = some state.drainEnds :=
      if_pos ⟨stopping, opened⟩
    have below := registered.accounted.known entry member
    have complete := (settles _ moved).complete rfl entry.1 below
    have settled : entry.1 ∈ state.tags := by
      rw [← tags_drainEnds (registered.active opened)]
      exact List.mem_append_left _ complete
    exact registered.accounted.thrown entry member stuck settled
  · intro logged after moved
    exact (registered.step logged moved).settled

/-- Whenever the drain ends, every message is settled, and none twice, exactly if no handled
message had an attempt that cannot be converted to a text. -/
theorem registryMachine_settles_iff (conversions : Conversions) (labels : List RegistryLabel) :
    (registryMachine conversions).Permits (Settles conversions) empty labels ↔
      (registryMachine conversions).Permits Logged empty labels := by
  refine Machine.permits_iff Registered (fun _ => True) ?_ ?_ labels empty_registered
    (fun _ _ => trivial)
  · exact fun state label registered _ => registered.settles_iff
  · exact fun before label after registered _ settles moved =>
      registered.step (registered.settles_iff.mp settles) moved

def unconvertible : MessageContent :=
  .job { songId := "s", fileId := "f", attempt := some (.structured none) }

/-- A message that stops its handler is not settled when the drain returns. -/
theorem registryMachine_leaves_unsettled : ¬ (registryMachine
    { numberOf := fun _ => 0, accepts := fun _ => true }).Permits
      (Settles { numberOf := fun _ => 0, accepts := fun _ => true }) empty
      [.deliver unconvertible, .drainWorkerQueues, .drainEnds] := by
  rintro ⟨_, _, last, _⟩
  exact absurd ((last _ rfl).complete rfl 0 Nat.zero_lt_one) List.not_mem_nil

end RegistryState

end AudioBlock.Delivery
