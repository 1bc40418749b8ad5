/-
Webhook subscriptions under deliveries, deletes and edits that interleave.

A delivery comes to its end when it saves its copy, or when it has nothing to save.  The count
of a row is right after that end exactly if the copy was still that of the row.
-/
import AudioBlock.Foundation.CallTable
import AudioBlock.Webhooks.WebhookService

namespace AudioBlock.Webhooks

open AudioBlock.Foundation

/-! ### The law -/

def NoneReturns (before after : WebhookState) : Prop :=
  ∀ row ∈ after.subscriptions, row.id ∈ before.subscriptions.map WebhookSubscription.id

def CountsFailures (state : WebhookState) : Prop :=
  ∀ row ∈ state.subscriptions, row.consecutiveFailures = state.streak row.id

/-- What their failures have disabled stays disabled. -/
def StaysOff (before after : WebhookState) : Prop :=
  ∀ row ∈ before.subscriptions, row.isActive = false → before.struckOff row.id = true →
    ∀ later ∈ after.subscriptions, later.id = row.id → later.isActive = false

def SavesSuccess (state : WebhookState) : WebhookStep → Prop
  | .step index => ∃ copy, state.calls[index]? = some (.saving copy .success)
  | _ => False

structure IntegrityRules (before : WebhookState) (label : WebhookStep) (after : WebhookState) :
    Prop where
  gone : NoneReturns before after
  counted : CountsFailures after
  off : SavesSuccess before label → StaysOff before after

def Lawful (maxFailures : Nat) (state : WebhookState) (label : WebhookStep) : Prop :=
  ∀ after, webhookStep maxFailures state label = some after → IntegrityRules state label after

/-- Nothing is on its way, and the counts are right. -/
structure AtRest (state : WebhookState) : Prop where
  idle : state.calls = []
  ids : (state.subscriptions.map WebhookSubscription.id).Nodup
  counted : CountsFailures state

def webhookMachine (maxFailures : Nat) : Machine WebhookState WebhookStep where
  initial := AtRest
  step := webhookStep maxFailures

/-! ### The condition -/

def MeetsRow (struckOff : String → Bool) (copy row : WebhookSubscription) :
    DeliveryOutcome → Prop
  | .success => row.isActive = false → struckOff row.id = true → copy.isActive = false
  | .failure | .disabling => copy.consecutiveFailures = row.consecutiveFailures + 1

instance (struckOff : String → Bool) (copy row : WebhookSubscription) :
    DecidablePred (MeetsRow struckOff copy row) := fun outcome => by
  unfold MeetsRow
  split <;> infer_instance

def MayEnd (state : WebhookState) (subscriptionId : Option String) (succeeded : Bool) : Prop :=
  ∀ row ∈ state.subscriptions, some row.id = subscriptionId →
    succeeded = true ∧ row.consecutiveFailures = 0

instance (state : WebhookState) (subscriptionId : Option String) (succeeded : Bool) :
    Decidable (MayEnd state subscriptionId succeeded) :=
  inferInstanceAs (Decidable (∀ row ∈ state.subscriptions, _))

def EndsUnsaved (attempt : Nat) (subject : DeliverySubject) : Bool → Prop
  | true => ∀ copy ∈ subject.copy, copy.consecutiveFailures = 0
  | false => maxRetries ≤ attempt ∧ subject.copy = none

instance (attempt : Nat) (subject : DeliverySubject) :
    DecidablePred (EndsUnsaved attempt subject) := fun succeeded => by
  unfold EndsUnsaved
  split <;> infer_instance

def MayPerform (state : WebhookState) : WebhookCall → Prop
  | .recording attempt subject response =>
      EndsUnsaved attempt subject response.ok → MayEnd state subject.subscriptionId response.ok
  | .saving copy outcome =>
      copy.id ∈ state.subscriptions.map WebhookSubscription.id ∧
        ∀ row ∈ state.subscriptions, row.id = copy.id → MeetsRow state.struckOff copy row outcome
  | _ => True

instance (state : WebhookState) : DecidablePred (MayPerform state) := fun call => by
  unfold MayPerform
  split <;> infer_instance

def MayFail (state : WebhookState) : WebhookCall → Prop
  | .recording attempt subject response =>
      EndsUnsaved attempt subject response.ok → MayEnd state subject.subscriptionId response.ok
  | .notifying copy => MayEnd state (some copy.id) false
  | .saving copy outcome => MayEnd state (some copy.id) outcome.succeeded
  | _ => True

instance (state : WebhookState) : DecidablePred (MayFail state) := fun call => by
  unfold MayFail
  split <;> infer_instance

def Guarded (state : WebhookState) : WebhookStep → Prop
  | .step index => ∀ call ∈ state.calls[index]?, MayPerform state call
  | .fails index => ∀ call ∈ state.calls[index]?, MayFail state call
  | .deliver _ _ | .deleteSubscription _ _ | .update _ _ | .respond _ _ => True

instance (state : WebhookState) : DecidablePred (Guarded state)
  | .step index => inferInstanceAs (Decidable (∀ call ∈ state.calls[index]?, _))
  | .fails index => inferInstanceAs (Decidable (∀ call ∈ state.calls[index]?, _))
  | .deliver _ _ | .deleteSubscription _ _ | .update _ _ | .respond _ _ => isTrue trivial

/-! ### The end of a delivery -/

structure Consistent (state : WebhookState) : Prop where
  ids : (state.subscriptions.map WebhookSubscription.id).Nodup
  counted : CountsFailures state
  reset : ∀ copy, .saving copy .success ∈ state.calls → copy.consecutiveFailures = 0

section Endings

variable {state after : WebhookState} {label : WebhookStep}

theorem rules_kept (counted : CountsFailures state)
    (rows : ∀ row ∈ after.subscriptions, row ∈ state.subscriptions)
    (streak : after.streak = state.streak) (notSuccess : ¬SavesSuccess state label) :
    IntegrityRules state label after := by
  refine ⟨?_, ?_, fun saves => absurd saves notSuccess⟩
  · exact fun row member => List.mem_map_of_mem (rows row member)
  · intro row member
    rw [streak]
    exact counted row (rows row member)

theorem rules_counted_iff (rows : after.subscriptions = state.subscriptions)
    (notSuccess : ¬SavesSuccess state label) :
    IntegrityRules state label after ↔ CountsFailures after := by
  constructor
  · exact IntegrityRules.counted
  · intro counted
    refine ⟨?_, counted, fun saves => absurd saves notSuccess⟩
    intro row member
    rw [rows] at member
    exact List.mem_map_of_mem member

theorem finish_counts_iff (counted : CountsFailures state) (subscriptionId : Option String)
    (succeeded : Bool) :
    CountsFailures (state.finish subscriptionId succeeded) ↔
      MayEnd state subscriptionId succeeded := by
  apply forall₂_congr
  intro row member
  have now := counted row member
  change row.consecutiveFailures = (if some row.id = subscriptionId then _ else _) ↔ _
  by_cases own : some row.id = subscriptionId
  · rw [if_pos own]
    cases succeeded with
    | true => simp [own]
    | false =>
        have grows : row.consecutiveFailures ≠ state.streak row.id + 1 := by omega
        simpa [own] using grows
  · rw [if_neg own]
    exact iff_of_true now fun same => absurd same own

end Endings

section Attempts

variable {maxFailures : Nat} {state : WebhookState} {attempt : Nat} {subject : DeliverySubject}
  {succeeded : Bool}

theorem afterAttempt_cases :
    EndsUnsaved attempt subject succeeded ∧
        afterAttempt maxFailures state attempt subject succeeded =
          (state.finish subject.subscriptionId succeeded, .ended) ∨
      ¬EndsUnsaved attempt subject succeeded ∧
        (afterAttempt maxFailures state attempt subject succeeded).1 = state ∧
        ∀ copy, (afterAttempt maxFailures state attempt subject succeeded).2 =
          .saving copy .success → copy.consecutiveFailures = 0 := by
  obtain ⟨payload, subscriptionId, loaded⟩ := subject
  unfold afterAttempt
  cases succeeded with
  | true =>
      rw [if_pos rfl]
      cases loaded with
      | none => exact Or.inl ⟨fun _ member => absurd member (Option.not_mem_none _), rfl⟩
      | some copy =>
          dsimp only
          by_cases counts : 0 < copy.consecutiveFailures
          · rw [if_pos counts]
            refine Or.inr ⟨?_, rfl, ?_⟩
            · intro ends
              exact Nat.ne_of_gt counts (ends copy rfl)
            · intro saved same
              cases same
              rfl
          · rw [if_neg counts]
            refine Or.inl ⟨?_, rfl⟩
            intro other member
            cases member
            exact Nat.eq_zero_of_not_pos counts
  | false =>
      rw [if_neg Bool.false_ne_true]
      by_cases again : attempt < maxRetries
      · rw [if_pos again]
        refine Or.inr ⟨?_, rfl, fun _ same => nomatch same⟩
        intro ends
        exact Nat.not_le.mpr again ends.1
      · rw [if_neg again]
        cases loaded with
        | none => exact Or.inl ⟨⟨Nat.not_lt.mp again, rfl⟩, rfl⟩
        | some copy =>
            refine Or.inr ⟨fun ends => Option.some_ne_none copy ends.2, ?_⟩
            dsimp only
            split
            · exact ⟨rfl, fun _ same => nomatch same⟩
            · exact ⟨rfl, fun _ same => nomatch same⟩

theorem afterAttempt_counts_iff (counted : CountsFailures state) :
    CountsFailures (afterAttempt maxFailures state attempt subject succeeded).1 ↔
      (EndsUnsaved attempt subject succeeded → MayEnd state subject.subscriptionId succeeded) := by
  rcases @afterAttempt_cases maxFailures state attempt subject succeeded with
    ⟨ends, same⟩ | ⟨goesOn, same, _⟩
  · rw [same, finish_counts_iff counted]
    exact ⟨fun may _ => may, fun may => may ends⟩
  · rw [same]
    exact iff_of_true counted fun ends => absurd ends goesOn

end Attempts

/-! ### A copy that is saved -/

section Saves

variable {state after : WebhookState} {label : WebhookStep} {copy : WebhookSubscription}
  {outcome : DeliveryOutcome}

theorem finish_streak_own (subscriptionId : String) (succeeded : Bool) :
    (state.finish (some subscriptionId) succeeded).streak subscriptionId =
      if succeeded then 0 else state.streak subscriptionId + 1 :=
  if_pos rfl

theorem finish_streak_other {subscriptionId id : String} (succeeded : Bool)
    (different : id ≠ subscriptionId) :
    (state.finish (some subscriptionId) succeeded).streak id = state.streak id :=
  if_neg fun same => different (Option.some_inj.mp same)

theorem save_rules_iff (consistent : Consistent state)
    (reset : outcome = .success → copy.consecutiveFailures = 0)
    (saves : SavesSuccess state label ↔ outcome = .success)
    (rows : after.subscriptions = storeRow WebhookSubscription.id copy state.subscriptions)
    (streak : after.streak = (state.finish (some copy.id) outcome.succeeded).streak) :
    IntegrityRules state label after ↔ MayPerform state (.saving copy outcome) := by
  have listed : copy ∈ after.subscriptions := by
    rw [rows]
    exact storeRow_mem copy state.subscriptions
  constructor
  · intro rules
    refine ⟨rules.gone copy listed, ?_⟩
    intro row member own
    have now := rules.counted copy listed
    rw [streak, finish_streak_own] at now
    have earlier := consistent.counted row member
    rw [own] at earlier
    cases outcome with
    | success =>
        intro inactive struck
        exact rules.off (saves.mpr rfl) row member inactive struck copy listed own.symm
    | failure | disabling =>
        change copy.consecutiveFailures = row.consecutiveFailures + 1
        rw [earlier]
        exact now
  · intro guarded
    obtain ⟨stored, meets⟩ := guarded
    obtain ⟨held, heldMember, heldId⟩ := List.mem_map.mp stored
    refine ⟨?_, ?_, ?_⟩
    · intro row member
      rw [rows] at member
      cases mem_storeRow_cases member with
      | inl same => exact same ▸ stored
      | inr other => exact List.mem_map_of_mem other.1
    · intro row member
      rw [rows] at member
      rw [streak]
      cases mem_storeRow_cases member with
      | inl same =>
          subst same
          have meetsHeld := meets held heldMember heldId
          have earlier := consistent.counted held heldMember
          rw [heldId] at earlier
          rw [finish_streak_own, ← earlier]
          cases outcome with
          | success => exact reset rfl
          | failure | disabling => exact meetsHeld
      | inr other =>
          rw [finish_streak_other _ other.2]
          exact consistent.counted row other.1
    · intro saving row member inactive struck later laterMember sameId
      cases saves.mp saving
      rw [rows] at laterMember
      cases mem_storeRow_cases laterMember with
      | inl same =>
          subst same
          exact meets row member sameId.symm inactive struck
      | inr other =>
          have equal := List.inj_on_of_nodup_map consistent.ids other.1 member sameId
          rw [equal]
          exact inactive

end Saves

/-! ### One call -/

section Calls

variable {maxFailures : Nat} {state : WebhookState} {index : Nat} {call : WebhookCall}

theorem recording_rules_iff (consistent : Consistent state) {label : WebhookStep}
    (notSuccess : ¬SavesSuccess state label) {recorded : WebhookState}
    (sameRows : recorded.subscriptions = state.subscriptions)
    (sameStreak : recorded.streak = state.streak) (attempt : Nat) (subject : DeliverySubject)
    (succeeded : Bool) :
    IntegrityRules state label
        ((afterAttempt maxFailures recorded attempt subject succeeded).1.place index
          (afterAttempt maxFailures recorded attempt subject succeeded).2) ↔
      (EndsUnsaved attempt subject succeeded → MayEnd state subject.subscriptionId succeeded) := by
  have counted : CountsFailures recorded := by
    unfold CountsFailures
    rw [sameRows, sameStreak]
    exact consistent.counted
  have rows : (afterAttempt maxFailures recorded attempt subject succeeded).1.subscriptions =
      state.subscriptions := by
    rcases @afterAttempt_cases maxFailures recorded attempt subject succeeded with
      ⟨_, same⟩ | ⟨_, same, _⟩
    · rw [same]
      exact sameRows
    · rw [same]
      exact sameRows
  refine Iff.trans (rules_counted_iff rows notSuccess) ?_
  refine Iff.trans (afterAttempt_counts_iff counted) ?_
  unfold MayEnd
  rw [sameRows]

variable (attempt : Nat) (subject : DeliverySubject) (response : FetchResponse)

theorem record_rows :
    (state.record attempt subject response).subscriptions = state.subscriptions := by
  unfold WebhookState.record
  split <;> rfl

theorem record_calls :
    (state.record attempt subject response).calls = state.calls := by
  unfold WebhookState.record
  split <;> rfl

theorem record_streak :
    (state.record attempt subject response).streak = state.streak := by
  unfold WebhookState.record
  split <;> rfl

theorem perform_rules_iff (consistent : Consistent state)
    (present : state.calls[index]? = some call) :
    (∀ answer ∈ performWebhook maxFailures state call,
        IntegrityRules state (.step index) (answer.1.place index answer.2)) ↔
      MayPerform state call := by
  have saves : SavesSuccess state (.step index) ↔ ∃ copy, call = .saving copy .success := by
    change (∃ copy, _ = _) ↔ _
    rw [present]
    simp only [Option.some_inj]
  cases call with
  | fetching | ended => exact iff_of_true (fun answer none => nomatch none) trivial
  | findSubscription target payload =>
      have notSuccess := mt saves.mp fun ⟨_, same⟩ => nomatch same
      refine Iff.trans (only_answer _) (iff_of_true ?_ trivial)
      exact rules_kept consistent.counted (fun _ member => member) rfl notSuccess
  | notifying copy =>
      have notSuccess := mt saves.mp fun ⟨_, same⟩ => nomatch same
      refine Iff.trans (only_answer _) (iff_of_true ?_ trivial)
      exact rules_kept consistent.counted (fun _ member => member) rfl notSuccess
  | findForDelete userId subscriptionId =>
      have notSuccess := mt saves.mp fun ⟨_, same⟩ => nomatch same
      refine Iff.trans (only_answer _) (iff_of_true ?_ trivial)
      exact rules_kept consistent.counted (fun _ member => member) rfl notSuccess
  | removing copy =>
      have notSuccess := mt saves.mp fun ⟨_, same⟩ => nomatch same
      refine Iff.trans (only_answer _) (iff_of_true ?_ trivial)
      exact rules_kept consistent.counted (fun _ member => (List.mem_filter.mp member).1) rfl
        notSuccess
  | recording attempt subject response =>
      have notSuccess := mt saves.mp fun ⟨_, same⟩ => nomatch same
      refine Iff.trans (only_answer _) ?_
      exact recording_rules_iff consistent notSuccess (record_rows attempt subject response)
        (record_streak attempt subject response) attempt subject response.ok
  | saving copy outcome =>
      refine Iff.trans (only_answer _) ?_
      refine save_rules_iff consistent ?_ ?_ rfl rfl
      · intro success
        subst success
        exact consistent.reset copy (List.mem_of_getElem? present)
      · rw [saves]
        constructor
        · intro ⟨_, same⟩
          cases same
          rfl
        · intro success
          exact ⟨copy, congrArg _ success⟩

theorem respond_rules (consistent : Consistent state) (response : FetchResponse) :
    ∀ answer ∈ respondWebhook maxFailures state response call,
      IntegrityRules state (.respond index response) (answer.1.place index answer.2) := by
  cases call with
  | findSubscription | recording | notifying | saving | findForDelete | removing | ended =>
      exact fun answer none => nomatch none
  | fetching attempt subject =>
      refine Iff.mpr (only_answer _) ?_
      cases named : subject.subscriptionId with
      | some subscriptionId =>
          exact rules_kept consistent.counted (fun _ member => member) rfl id
      | none =>
          refine Iff.mpr (recording_rules_iff consistent id rfl rfl _ _ _) ?_
          intro _ row _ own
          rw [named] at own
          cases own

theorem fail_rules_iff (consistent : Consistent state) :
    (∀ answer ∈ failWebhook maxFailures state call,
        IntegrityRules state (.fails index) (answer.1.place index answer.2)) ↔
      MayFail state call := by
  cases call with
  | fetching | ended => exact iff_of_true (fun answer none => nomatch none) trivial
  | findSubscription | findForDelete | removing =>
      refine Iff.trans (only_answer _) (iff_of_true ?_ trivial)
      exact rules_kept consistent.counted (fun _ member => member) rfl id
  | recording attempt subject response =>
      refine Iff.trans (only_answer _) ?_
      exact recording_rules_iff consistent id rfl rfl attempt subject response.ok
  | notifying copy | saving copy =>
      refine Iff.trans (only_answer _) ?_
      refine Iff.trans (rules_counted_iff rfl id) ?_
      exact finish_counts_iff consistent.counted _ _

end Calls

/-! ### The law over runs -/

section Runs

variable {maxFailures : Nat} {state after : WebhookState} {label : WebhookStep} {index : Nat}

theorem update_rules (consistent : Consistent state) (subscriptionId : String)
    (change : ManualUpdate) :
    IntegrityRules state (.update subscriptionId change) (state.update subscriptionId change) := by
  refine ⟨?_, ?_, fun impossible => absurd impossible id⟩
  · intro later member
    obtain ⟨row, earlier, same⟩ := List.mem_map.mp member
    subst same
    have sameId : (if row.id = subscriptionId then change.apply row else row).id = row.id := by
      split
      · exact change.keepsId row
      · rfl
    rw [sameId]
    exact List.mem_map_of_mem earlier
  · intro later member
    obtain ⟨row, earlier, same⟩ := List.mem_map.mp member
    subst same
    change _ = state.streak _
    split
    · rw [change.keepsFailures, change.keepsId]
      exact consistent.counted row earlier
    · exact consistent.counted row earlier

theorem update_ids (subscriptionId : String) (change : ManualUpdate) :
    (state.update subscriptionId change).subscriptions.map WebhookSubscription.id =
      state.subscriptions.map WebhookSubscription.id := by
  change (state.subscriptions.map _).map _ = _
  rw [List.map_map]
  apply List.map_congr_left
  intro row _
  rw [Function.comp_apply]
  split
  · exact change.keepsId row
  · rfl

theorem lawful_iff_guarded (consistent : Consistent state) :
    Lawful maxFailures state label ↔ Guarded state label := by
  cases label with
  | deliver target payload =>
      refine iff_of_true ?_ trivial
      intro after moved
      cases moved
      exact rules_kept consistent.counted (fun _ member => member) rfl id
  | deleteSubscription userId subscriptionId =>
      refine iff_of_true ?_ trivial
      intro after moved
      cases moved
      exact rules_kept consistent.counted (fun _ member => member) rfl id
  | update subscriptionId change =>
      refine iff_of_true ?_ trivial
      intro after moved
      cases moved
      exact update_rules consistent subscriptionId change
  | step index =>
      refine Iff.trans (lawful_call_iff _) ?_
      exact forall₂_congr fun call present => perform_rules_iff consistent present
  | respond index response =>
      refine iff_of_true ?_ trivial
      refine Iff.mpr (lawful_call_iff _) ?_
      exact fun call _ => respond_rules consistent response
  | fails index =>
      refine Iff.trans (lawful_call_iff _) ?_
      exact forall₂_congr fun call _ => fail_rules_iff consistent

theorem reply_keeps {call : WebhookCall} {answer : WebhookState × WebhookCall}
    (ids : (state.subscriptions.map WebhookSubscription.id).Nodup)
    (answered : state.reply maxFailures label call = some answer) :
    answer.1.calls = state.calls ∧
      (answer.1.subscriptions.map WebhookSubscription.id).Nodup ∧
      ∀ copy, answer.2 = .saving copy .success → copy.consecutiveFailures = 0 := by
  have attempted : ∀ (recorded : WebhookState) (attempt : Nat) (subject : DeliverySubject)
      (succeeded : Bool), recorded.calls = state.calls →
      recorded.subscriptions = state.subscriptions →
      afterAttempt maxFailures recorded attempt subject succeeded = answer →
      answer.1.calls = state.calls ∧
        (answer.1.subscriptions.map WebhookSubscription.id).Nodup ∧
        ∀ copy, answer.2 = .saving copy .success → copy.consecutiveFailures = 0 := by
    intro recorded attempt subject succeeded sameCalls sameRows same
    rcases @afterAttempt_cases maxFailures recorded attempt subject succeeded with
      ⟨_, ended⟩ | ⟨_, unchanged, reset⟩
    · rw [ended] at same
      subst same
      exact ⟨sameCalls, sameRows ▸ ids, fun _ saves => nomatch saves⟩
    · subst same
      rw [unchanged]
      exact ⟨sameCalls, sameRows ▸ ids, reset⟩
  cases label with
  | deliver | deleteSubscription | update => cases answered
  | step index =>
      cases call with
      | fetching | ended => cases answered
      | recording attempt subject response =>
          exact attempted _ attempt subject response.ok (record_calls attempt subject response)
            (record_rows attempt subject response) (Option.some_inj.mp answered)
      | findSubscription | notifying =>
          cases answered
          exact ⟨rfl, ids, fun _ saves => by cases saves⟩
      | findForDelete userId subscriptionId =>
          cases answered
          refine ⟨rfl, ids, ?_⟩
          intro copy saves
          dsimp only at saves
          split at saves
          · cases saves
          · split at saves
            · cases saves
            · cases saves
      | saving copy outcome =>
          cases answered
          exact ⟨rfl, storeRow_nodup ids, fun _ saves => by cases saves⟩
      | removing copy =>
          cases answered
          exact ⟨rfl, ids.sublist (List.filter_sublist.map _), fun _ saves => by cases saves⟩
  | respond index response =>
      cases call with
      | findSubscription | recording | notifying | saving | findForDelete | removing | ended =>
          cases answered
      | fetching attempt subject =>
          have given := Option.some_inj.mp answered
          split at given
          · subst given
            exact ⟨rfl, ids, fun _ saves => by cases saves⟩
          · exact attempted state attempt subject response.ok rfl rfl given
  | fails index =>
      cases call with
      | fetching | ended => cases answered
      | recording attempt subject response =>
          exact attempted state attempt subject response.ok rfl rfl (Option.some_inj.mp answered)
      | findSubscription | notifying | saving | findForDelete | removing =>
          cases answered
          exact ⟨rfl, ids, fun _ saves => by cases saves⟩

theorem Consistent.stepped (consistent : Consistent state)
    (rules : IntegrityRules state label after)
    (moved : webhookStep maxFailures state label = some after) : Consistent after := by
  have called : ∀ index, (webhookStep maxFailures state label = state.calls[index]?.bind fun call =>
      (state.reply maxFailures label call).map fun answer => answer.1.place index answer.2) →
      Consistent after := by
    intro index moves
    rw [moves] at moved
    obtain ⟨call, present, answered⟩ := Option.bind_eq_some_iff.mp moved
    obtain ⟨answer, member, same⟩ := Option.map_eq_some_iff.mp answered
    obtain ⟨calls, ids, reset⟩ := reply_keeps consistent.ids member
    subst same
    refine ⟨ids, rules.counted, ?_⟩
    intro copy saving
    change _ ∈ answer.1.calls.set index answer.2 at saving
    rw [calls] at saving
    cases List.mem_or_eq_of_mem_set saving with
    | inl earlier => exact consistent.reset copy earlier
    | inr same => exact reset copy same.symm
  have begun : ∀ call, (∀ copy, .saving copy .success ≠ call) →
      after = { state with calls := state.calls ++ [call] } → Consistent after := by
    intro call fresh same
    subst same
    refine ⟨consistent.ids, rules.counted, ?_⟩
    intro copy saving
    cases List.mem_append.mp saving with
    | inl earlier => exact consistent.reset copy earlier
    | inr same => exact absurd (List.mem_singleton.mp same) (fresh copy)
  cases label with
  | deliver target payload =>
      exact begun _ (fun _ => WebhookCall.noConfusion) (Option.some_inj.mp moved).symm
  | deleteSubscription userId subscriptionId =>
      exact begun _ (fun _ => WebhookCall.noConfusion) (Option.some_inj.mp moved).symm
  | update subscriptionId change =>
      cases moved
      refine ⟨?_, rules.counted, consistent.reset⟩
      rw [update_ids]
      exact consistent.ids
  | step index => exact called index rfl
  | respond index response => exact called index rfl
  | fails index => exact called index rfl

theorem AtRest.consistent (rest : AtRest state) : Consistent state := by
  refine ⟨rest.ids, rest.counted, ?_⟩
  intro copy saving
  rw [rest.idle] at saving
  cases saving

/-- In a run the three rules hold exactly if each save finds the row of its copy with the count
that the copy had, a success finds no row that failures have disabled since the copy was loaded,
and a delivery that saves nothing leaves no row with the wrong count. -/
theorem webhookMachine_integrity_iff (maxFailures : Nat) (state : WebhookState)
    (rest : AtRest state) (labels : List WebhookStep) :
    (webhookMachine maxFailures).Permits (Lawful maxFailures) state labels ↔
      (webhookMachine maxFailures).Permits Guarded state labels := by
  apply Machine.permits_iff Consistent (fun _ => True) _ _ labels rest.consistent fun _ _ => trivial
  · intro before label consistent _
    exact lawful_iff_guarded consistent
  · intro before label after consistent _ lawful moved
    exact consistent.stepped (lawful after moved) moved

end Runs

/-! One subscription, its deliveries, and a delete. -/

def subscriptionId : String := "5d2c1b0a-8f7e-4d6c-9b5a-4f3e2d1c0b9a"

def subscribed : WebhookState :=
  { subscriptions := [⟨subscriptionId, "user1", "https://hooks.example/mint", "whsec", some ["*"],
      true, 0⟩]
    deliveries := []
    calls := []
    streak := fun _ => 0
    struckOff := fun _ => false }

theorem subscribed_atRest : AtRest subscribed := by
  refine ⟨rfl, List.nodup_singleton _, ?_⟩
  intro row member
  cases List.mem_singleton.mp member
  rfl

def minted : WebhookPayload := ⟨"event1", "song.minted"⟩

/-- Three attempts that the endpoint does not answer. -/
def unanswered (index : Nat) : List WebhookStep :=
  [.respond index (.threw "fetch failed"), .step index,
    .respond index (.threw "fetch failed"), .step index,
    .respond index (.threw "fetch failed"), .step index]

def failsThenSucceeds : List WebhookStep :=
  [.deliver (.byId subscriptionId) minted, .step 0] ++ unanswered 0 ++ [.step 0,
    .deliver (.byId subscriptionId) minted, .step 1, .respond 1 (.answered 200 "OK"), .step 1,
    .step 1]

theorem subscribed_counted :
    (webhookMachine 5).Permits (Lawful 5) subscribed failsThenSucceeds ∧
      ((webhookMachine 5).run subscribed failsThenSucceeds).map (fun state =>
        state.subscriptions.map WebhookSubscription.consecutiveFailures) = some [0] := by
  constructor
  · apply (webhookMachine_integrity_iff 5 subscribed subscribed_atRest _).mpr
    decide +kernel
  · decide +kernel

def deletedMeanwhile : List WebhookStep :=
  [.deliver (.byId subscriptionId) minted, .step 0, .deleteSubscription "user1" subscriptionId,
    .step 1, .step 1] ++ unanswered 0

def listedIds (state : WebhookState) : List String :=
  state.subscriptions.map WebhookSubscription.id

/-- The delivery saves its copy, and the subscription is there again. -/
theorem subscribed_reappears :
    AtRest subscribed ∧
      ¬(webhookMachine 5).Permits (Lawful 5) subscribed (deletedMeanwhile ++ [.step 0]) := by
  refine ⟨subscribed_atRest, ?_⟩
  intro permitted
  have again : ((webhookMachine 5).run subscribed deletedMeanwhile).bind (fun state =>
      (webhookStep 5 state (.step 0)).map fun after => (listedIds state, listedIds after)) =
        some ([], [subscriptionId]) := by decide +kernel
  obtain ⟨state, executed, last⟩ := Option.bind_eq_some_iff.mp again
  obtain ⟨after, moved, both⟩ := Option.map_eq_some_iff.mp last
  have rules := (Machine.Permits.later permitted executed).1 after moved
  obtain ⟨row, isOnly, _⟩ := List.map_eq_singleton_iff.mp (congrArg Prod.snd both)
  have member := rules.gone row (isOnly ▸ List.mem_singleton_self row)
  rw [show state.subscriptions.map WebhookSubscription.id = [] from congrArg Prod.fst both] at member
  cases member

end AudioBlock.Webhooks
