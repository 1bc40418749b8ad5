/-
Find, else insert, from concurrent callers.

A caller looks for a row, inserts its own where it finds none, and looks again where the
insertion is refused by a unique index.  Between these calls other callers act.  `thing`
says what a caller submits.  Rows are never removed; the table lists the submissions whose
rows were inserted.
-/
import AudioBlock.Foundation.Machine
import Mathlib.Data.Set.Defs
import Mathlib.Data.List.Basic

namespace AudioBlock.Foundation

universe u v

structure InsertRules (Submission : Type u) where
  matched : Submission → Submission → Bool
  refused : Submission → Submission → Bool
  refused_matched : ∀ one other, refused one other = true → matched one other = true

/-- A call at what it does next, or its answer. -/
inductive InsertCall (Submission : Type u)
  | finding (own : Submission)
  | inserting (own : Submission)
  | findingAgain (own : Submission)
  | existing (own row : Submission)
  | inserted (own : Submission)
  | failed (own : Submission)

structure InsertState (Submission : Type u) where
  stored : List Submission
  calls : List (InsertCall Submission)

/-- A lookup answers any of the rows that it matches. -/
inductive InsertLabel (Submission : Type u)
  | submit (own : Submission)
  | find (index choice : Nat)
  | insert (index : Nat)
  | fails (index : Nat)

namespace InsertState

variable {Submission : Type u}

def answer (state : InsertState Submission) (index : Nat) (call : InsertCall Submission) :
    InsertState Submission :=
  { state with calls := state.calls.set index call }

/-- The call after a lookup, `missing` where it matches nothing. -/
def lookup (rules : InsertRules Submission) (state : InsertState Submission) (index choice : Nat)
    (own : Submission) (missing : InsertCall Submission) : Option (InsertState Submission) :=
  let rows := state.stored.filter (rules.matched own)
  if rows = [] then some (state.answer index missing)
  else (rows[choice]?).map fun row => state.answer index (.existing own row)

end InsertState

section Definitions

variable {Submission : Type u} (rules : InsertRules Submission)

def insertStep (state : InsertState Submission) :
    InsertLabel Submission → Option (InsertState Submission)
  | .submit own => some { state with calls := state.calls ++ [.finding own] }
  | .find index choice =>
      match state.calls[index]? with
      | some (.finding own) => state.lookup rules index choice own (.inserting own)
      | some (.findingAgain own) => state.lookup rules index choice own (.failed own)
      | _ => none
  | .insert index =>
      match state.calls[index]? with
      | some (.inserting own) =>
          if state.stored.any (rules.refused own) then some (state.answer index (.findingAgain own))
          else some { state.answer index (.inserted own) with stored := state.stored ++ [own] }
      | _ => none
  | .fails index =>
      match state.calls[index]? with
      | some (.finding own) | some (.inserting own) | some (.findingAgain own) =>
          some (state.answer index (.failed own))
      | _ => none

def insertMachine : Machine (InsertState Submission) (InsertLabel Submission) where
  initial state := state = ⟨[], []⟩
  step := insertStep rules

def Submits (submitted : Set Submission) (_ : InsertState Submission) :
    InsertLabel Submission → Prop
  | .submit own => own ∈ submitted
  | _ => True

structure OneRowEach {Thing : Type v} (thing : Submission → Thing)
    (state : InsertState Submission) : Prop where
  answered : ∀ own row, .existing own row ∈ state.calls →
    row ∈ state.stored ∧ thing row = thing own
  kept : ∀ own, .inserted own ∈ state.calls → own ∈ state.stored
  once : (state.stored.map thing).Nodup

structure TellsApart {Thing : Type v} (thing : Submission → Thing) (submitted : Set Submission) :
    Prop where
  same : ∀ one ∈ submitted, ∀ other ∈ submitted, rules.matched one other = true →
    thing one = thing other
  refuses : ∀ one ∈ submitted, ∀ other ∈ submitted, thing one = thing other →
    rules.refused one other = true

end Definitions

section Runs

variable {Submission : Type u} {rules : InsertRules Submission} {submitted : Set Submission}
  {state after : InsertState Submission}

def InsertCall.own : InsertCall Submission → Submission
  | .finding own | .inserting own | .findingAgain own | .existing own _ | .inserted own
  | .failed own => own

/-- What a call knows of the table. -/
def InsertCall.Fits (rules : InsertRules Submission) (stored : List Submission) :
    InsertCall Submission → Prop
  | .existing own row => row ∈ stored ∧ rules.matched own row = true
  | .inserted own => own ∈ stored
  | .finding _ | .inserting _ | .findingAgain _ | .failed _ => True

structure InsertSound (rules : InsertRules Submission) (submitted : Set Submission)
    (state : InsertState Submission) : Prop where
  listed : ∀ row ∈ state.stored, row ∈ submitted
  called : ∀ call ∈ state.calls, call.own ∈ submitted
  fits : ∀ call ∈ state.calls, call.Fits rules state.stored
  unrefused : state.stored.Pairwise fun earlier later => rules.refused later earlier = false

theorem InsertCall.Fits.more {stored : List Submission} {call : InsertCall Submission}
    (fits : call.Fits rules stored) (new : Submission) : call.Fits rules (stored ++ [new]) := by
  cases call with
  | existing own row => exact ⟨List.mem_append_left _ fits.1, fits.2⟩
  | inserted own => exact List.mem_append_left _ fits
  | finding own | inserting own | findingAgain own | failed own => trivial

theorem InsertSound.answer (sound : InsertSound rules submitted state) {index : Nat}
    {call : InsertCall Submission} (own : call.own ∈ submitted)
    (fits : call.Fits rules state.stored) :
    InsertSound rules submitted (state.answer index call) := by
  refine ⟨sound.listed, ?_, ?_, sound.unrefused⟩
  · intro other member
    rcases List.mem_or_eq_of_mem_set member with before | rfl
    · exact sound.called other before
    · exact own
  · intro other member
    rcases List.mem_or_eq_of_mem_set member with before | rfl
    · exact sound.fits other before
    · exact fits

variable {own : Submission} {Thing : Type v}

theorem InsertSound.lookup (sound : InsertSound rules submitted state) {index choice : Nat}
    {missing : InsertCall Submission} (isOwn : own ∈ submitted)
    (moved : state.lookup rules index choice own missing = some after)
    (isMissing : missing.own ∈ submitted) (fits : missing.Fits rules state.stored) :
    InsertSound rules submitted after := by
  unfold InsertState.lookup at moved
  dsimp only at moved
  split at moved
  · cases moved
    exact sound.answer isMissing fits
  · obtain ⟨row, found, rfl⟩ := Option.map_eq_some_iff.mp moved
    obtain ⟨member, isMatch⟩ := List.mem_filter.mp (List.mem_of_getElem? found)
    exact sound.answer isOwn ⟨member, isMatch⟩

theorem InsertSound.submit (sound : InsertSound rules submitted state) (isOwn : own ∈ submitted) :
    InsertSound rules submitted { state with calls := state.calls ++ [.finding own] } := by
  refine ⟨sound.listed, ?_, ?_, sound.unrefused⟩
  · intro other member
    rcases List.mem_append.mp member with before | new
    · exact sound.called other before
    · cases List.mem_singleton.mp new
      exact isOwn
  · intro other member
    rcases List.mem_append.mp member with before | new
    · exact sound.fits other before
    · cases List.mem_singleton.mp new
      trivial

/-- An insert that the index accepts. -/
theorem InsertSound.insert (sound : InsertSound rules submitted state) (index : Nat)
    (isOwn : own ∈ submitted) (accepted : ¬state.stored.any (rules.refused own) = true) :
    InsertSound rules submitted
      { state.answer index (.inserted own) with stored := state.stored ++ [own] } := by
  refine ⟨?_, ?_, ?_, ?_⟩
  · intro row member
    rcases List.mem_append.mp member with before | new
    · exact sound.listed row before
    · exact List.mem_singleton.mp new ▸ isOwn
  · intro other member
    rcases List.mem_or_eq_of_mem_set member with before | rfl
    · exact sound.called other before
    · exact isOwn
  · intro other member
    rcases List.mem_or_eq_of_mem_set member with before | rfl
    · exact (sound.fits other before).more own
    · exact List.mem_append_right _ List.mem_cons_self
  · refine List.pairwise_append.mpr ⟨sound.unrefused, List.pairwise_singleton _ _, ?_⟩
    intro row member new isNew
    rw [List.mem_singleton.mp isNew]
    cases refused : rules.refused own row with
    | false => rfl
    | true => exact absurd (List.any_eq_true.mpr ⟨row, member, refused⟩) accepted

theorem insertStep_sound {label : InsertLabel Submission}
    (sound : InsertSound rules submitted state) (permitted : Submits submitted state label)
    (moved : insertStep rules state label = some after) : InsertSound rules submitted after := by
  have called : ∀ index (call : InsertCall Submission), state.calls[index]? = some call →
      call.own ∈ submitted :=
    fun index call present => sound.called call (List.mem_of_getElem? present)
  cases label with
  | submit own =>
      cases moved
      exact sound.submit permitted
  | find index choice =>
      simp only [insertStep] at moved
      split at moved
      · rename_i own present
        have isOwn : own ∈ submitted := called index _ present
        exact sound.lookup isOwn moved isOwn trivial
      · rename_i own present
        have isOwn : own ∈ submitted := called index _ present
        exact sound.lookup isOwn moved isOwn trivial
      · cases moved
  | insert index =>
      simp only [insertStep] at moved
      split at moved
      · rename_i own present
        have isOwn : own ∈ submitted := called index _ present
        split at moved
        · cases moved
          exact sound.answer isOwn trivial
        · rename_i accepted
          cases moved
          exact sound.insert index isOwn accepted
      · cases moved
  | fails index =>
      simp only [insertStep] at moved
      split at moved
      · rename_i own present
        have isOwn : own ∈ submitted := called index _ present
        cases moved
        exact sound.answer isOwn trivial
      · rename_i own present
        have isOwn : own ∈ submitted := called index _ present
        cases moved
        exact sound.answer isOwn trivial
      · rename_i own present
        have isOwn : own ∈ submitted := called index _ present
        cases moved
        exact sound.answer isOwn trivial
      · cases moved

theorem insertMachine_sound (reached : (insertMachine rules).Reachable (Submits submitted) state) :
    InsertSound rules submitted state := by
  refine reached.invariant (InsertSound rules submitted) ?_ ?_
  · rintro initial rfl
    refine ⟨?_, ?_, ?_, List.Pairwise.nil⟩
    · exact fun row member => absurd member List.not_mem_nil
    · exact fun call member => absurd member List.not_mem_nil
    · exact fun call member => absurd member List.not_mem_nil
  · exact fun before label after sound permitted moved => insertStep_sound sound permitted moved

/-- What the index refuses is stored once. -/
theorem InsertSound.once {thing : Submission → Thing} (sound : InsertSound rules submitted state)
    (refuses : ∀ one ∈ submitted, ∀ other ∈ submitted, thing one = thing other →
      rules.refused one other = true) : (state.stored.map thing).Nodup := by
  rw [List.Nodup, List.pairwise_map]
  refine sound.unrefused.imp_of_mem ?_
  intro earlier later isEarlier isLater unrefused same
  have refused := refuses later (sound.listed later isLater) earlier
    (sound.listed earlier isEarlier) same.symm
  rw [unrefused] at refused
  cases refused

/-! ### What a caller sees of another's row -/

variable {one other : Submission}

theorem reachable_of_labels (labels : List (InsertLabel Submission))
    (permitted : ∀ own, .submit own ∈ labels → own ∈ submitted)
    (ran : (insertMachine rules).run ⟨[], []⟩ labels = some state) :
    (insertMachine rules).Reachable (Submits submitted) state := by
  refine .of_run labels (.start rfl) ?_ ran
  have allowed : ∀ state : InsertState Submission, (insertMachine rules).Permits
      (Submits submitted) state labels := by
    clear ran
    induction labels with
    | nil => exact fun _ => trivial
    | cons label rest ih =>
        intro before
        have later := ih fun own member => permitted own (List.mem_cons_of_mem _ member)
        refine ⟨?_, ?_⟩
        · cases label with
          | submit own => exact permitted own List.mem_cons_self
          | find index choice | insert index | fails index => trivial
        · split
          · trivial
          · exact later _
  exact allowed _

/-- One call stores its row, and another looks. -/
theorem existing_reached (isOne : one ∈ submitted) (isOther : other ∈ submitted)
    (isMatch : rules.matched one other = true) :
    (insertMachine rules).Reachable (Submits submitted)
      ⟨[other], [.inserted other, .existing one other]⟩ := by
  apply reachable_of_labels [.submit other, .find 0 0, .insert 0, .submit one, .find 1 0]
  · intro own member
    simp at member
    rcases member with rfl | rfl
    · exact isOther
    · exact isOne
  · simp [Machine.run, insertMachine, insertStep, InsertState.lookup, InsertState.answer, isMatch]

/-- Two calls that look before either inserts. -/
theorem concurrent_reached (isOne : one ∈ submitted) (isOther : other ∈ submitted)
    (unrefused : rules.refused one other = false) :
    (insertMachine rules).Reachable (Submits submitted)
      ⟨[other, one], [.inserted other, .inserted one]⟩ := by
  apply reachable_of_labels
    [.submit other, .submit one, .find 0 0, .find 1 0, .insert 0, .insert 1]
  · intro own member
    simp at member
    rcases member with rfl | rfl
    · exact isOther
    · exact isOne
  · simp [Machine.run, insertMachine, insertStep, InsertState.lookup, InsertState.answer, unrefused]

variable (rules submitted)

/-- The rows that a caller may be answered with are those that its lookup matches. -/
theorem insertMachine_existing_iff (related : Submission → Submission → Prop) :
    (∀ state, (insertMachine rules).Reachable (Submits submitted) state →
        ∀ own row, .existing own row ∈ state.calls → related own row) ↔
      ∀ one ∈ submitted, ∀ other ∈ submitted, rules.matched one other = true →
        related one other := by
  constructor
  · intro always one isOne other isOther isMatch
    exact always _ (existing_reached isOne isOther isMatch) one other (by simp)
  · intro holds state reached own row member
    have sound := insertMachine_sound reached
    obtain ⟨stored, isMatch⟩ := sound.fits _ member
    have isOwn : own ∈ submitted := sound.called _ member
    exact holds own isOwn row (sound.listed row stored) isMatch

/-- Concurrent callers leave one row for each thing exactly when the index refuses the rest. -/
theorem insertMachine_once_iff (thing : Submission → Thing) :
    (∀ state, (insertMachine rules).Reachable (Submits submitted) state →
        (state.stored.map thing).Nodup) ↔
      ∀ one ∈ submitted, ∀ other ∈ submitted, thing one = thing other →
        rules.refused one other = true := by
  constructor
  · intro always one isOne other isOther same
    cases refused : rules.refused one other with
    | true => rfl
    | false =>
        have once := always _ (concurrent_reached isOne isOther refused)
        simp [same] at once
  · exact fun refuses state reached => (insertMachine_sound reached).once refuses

theorem insertMachine_oneRowEach_iff (thing : Submission → Thing) :
    (∀ state, (insertMachine rules).Reachable (Submits submitted) state → OneRowEach thing state) ↔
      TellsApart rules thing submitted := by
  have existing := insertMachine_existing_iff rules submitted fun own row => thing own = thing row
  have once := insertMachine_once_iff rules submitted thing
  constructor
  · intro always
    refine ⟨existing.mp ?_, once.mp fun state reached => (always state reached).once⟩
    exact fun state reached own row member => ((always state reached).answered own row member).2.symm
  · intro apart state reached
    have sound := insertMachine_sound reached
    refine ⟨?_, fun own member => sound.fits _ member, once.mpr apart.refuses state reached⟩
    intro own row member
    exact ⟨(sound.fits _ member).1, (existing.mpr apart.same state reached own row member).symm⟩

end Runs

end AudioBlock.Foundation
