/-
Deterministic labelled machines.

A label carries every choice that the environment makes in a step: which
process moves, what an external call answers, what a clock reads.  With the
choices in the label the step is a partial function, so a run can be executed
on a concrete list of labels, and an invariant is proved once for every list.

`Reachable allowed` restricts the steps by a condition on the state before the
step and the label.  The unrestricted machine is the case `fun _ _ => True`.
-/

namespace AudioBlock.Foundation

universe u v w

structure Machine (State : Type u) (Label : Type v) where
  initial : State → Prop
  step : State → Label → Option State

namespace Machine

variable {State : Type u} {Label : Type v}

inductive Reachable (machine : Machine State Label)
    (allowed : State → Label → Prop) : State → Prop
  | start {state : State} (begins : machine.initial state) :
      Reachable machine allowed state
  | next {before after : State} {label : Label}
      (earlier : Reachable machine allowed before)
      (permitted : allowed before label)
      (moved : machine.step before label = some after) :
      Reachable machine allowed after

variable {machine : Machine State Label} {allowed : State → Label → Prop} {state after : State}

variable (holds : State → Prop)

/-- The invariant rule: what holds initially and survives every permitted step
holds of every state that permitted steps reach. -/
theorem Reachable.invariant (initially : ∀ state, machine.initial state → holds state)
    (preserved : ∀ before label after, holds before → allowed before label →
      machine.step before label = some after → holds after)
    (reached : machine.Reachable allowed state) : holds state := by
  induction reached with
  | start begins => exact initially _ begins
  | next _earlier permitted moved ih => exact preserved _ _ _ ih permitted moved

/-- The invariant rule above an invariant that is known already. -/
theorem Reachable.invariant_given (known holds : State → Prop)
    (always : ∀ state, machine.Reachable allowed state → known state)
    (initially : ∀ state, machine.initial state → holds state)
    (preserved : ∀ before label after, known before → holds before → allowed before label →
      machine.step before label = some after → holds after)
    (reached : machine.Reachable allowed state) : holds state := by
  induction reached with
  | start begins => exact initially _ begins
  | next earlier permitted moved ih =>
      exact preserved _ _ _ (always _ earlier) ih permitted moved

/-- Execute a list of labels, stopping with `none` at a step that is not enabled. -/
def run (machine : Machine State Label) : State → List Label → Option State
  | state, [] => some state
  | state, label :: rest =>
      match machine.step state label with
      | none => none
      | some after => run machine after rest

theorem run_cons {label : Label} (moved : machine.step state label = some after)
    (rest : List Label) :
    machine.run state (label :: rest) = machine.run after rest := by
  simp only [run, moved]

theorem run_concat {middle : State} (labels : List Label) (label : Label)
    (ran : machine.run state labels = some middle)
    (moved : machine.step middle label = some after) :
    machine.run state (labels ++ [label]) = some after := by
  induction labels generalizing state with
  | nil =>
      cases ran
      simp only [List.nil_append, run, moved]
  | cons first rest ih =>
      simp only [List.cons_append, run] at ran ⊢
      split at ran
      · cases ran
      · exact ih ran

def collect {Observation : Type w} (machine : Machine State Label)
    (observe : State → Label → List Observation) : State → List Label → List Observation
  | _, [] => []
  | state, label :: rest =>
      observe state label ++
        match machine.step state label with
        | none => []
        | some after => machine.collect observe after rest

def Permits (machine : Machine State Label) (allowed : State → Label → Prop) :
    State → List Label → Prop
  | _, [] => True
  | state, label :: rest =>
      allowed state label ∧
        match machine.step state label with
        | none => True
        | some after => machine.Permits allowed after rest

instance decidablePermits (machine : Machine State Label) (allowed : State → Label → Prop)
    [∀ state label, Decidable (allowed state label)] (state : State) (labels : List Label) :
    Decidable (machine.Permits allowed state labels) :=
  match labels with
  | [] => isTrue trivial
  | label :: rest =>
      match moved : machine.step state label with
      | none =>
          decidable_of_iff (allowed state label) (by simp [Permits, moved])
      | some after =>
          have := decidablePermits machine allowed after rest
          decidable_of_iff (allowed state label ∧ machine.Permits allowed after rest)
            (by simp [Permits, moved])

/-- Executing a list of permitted labels is a run. -/
theorem Reachable.of_run (labels : List Label) (reached : machine.Reachable allowed state)
    (permitted : machine.Permits allowed state labels)
    (executed : machine.run state labels = some after) : machine.Reachable allowed after := by
  induction labels generalizing state with
  | nil =>
      cases executed
      exact reached
  | cons label rest ih =>
      obtain ⟨now, later⟩ := permitted
      simp only [run] at executed
      cases moved : machine.step state label with
      | none =>
          rw [moved] at executed
          cases executed
      | some middle =>
          rw [moved] at executed later
          exact ih (.next reached now moved) later executed

/-- What survives every permitted step survives an executed list of them. -/
theorem run_preserves
    (preserved : ∀ before label after, holds before → allowed before label →
      machine.step before label = some after → holds after) (labels : List Label)
    (initially : holds state) (permitted : machine.Permits allowed state labels)
    (executed : machine.run state labels = some after) : holds after := by
  induction labels generalizing state with
  | nil =>
      cases executed
      exact initially
  | cons label rest ih =>
      obtain ⟨now, later⟩ := permitted
      simp only [run] at executed
      cases moved : machine.step state label with
      | none =>
          rw [moved] at executed
          cases executed
      | some middle =>
          rw [moved] at executed later
          exact ih (preserved state label middle initially now moved) later executed

/-- Two conditions that agree wherever the run comes permit the same lists of labels. -/
theorem permits_iff {one other : State → Label → Prop} (considered : Label → Prop)
    (agree : ∀ state label, holds state → considered label → (one state label ↔ other state label))
    (preserved : ∀ before label after, holds before → considered label → one before label →
      machine.step before label = some after → holds after) (labels : List Label)
    (initially : holds state) (all : ∀ label ∈ labels, considered label) :
    machine.Permits one state labels ↔ machine.Permits other state labels := by
  induction labels generalizing state with
  | nil => exact Iff.rfl
  | cons label rest ih =>
      have now := agree state label initially (all label List.mem_cons_self)
      have later := fun next member => all next (List.mem_cons_of_mem _ member)
      unfold Permits
      cases moved : machine.step state label with
      | none => exact and_congr_left' now
      | some after =>
          constructor
          · rintro ⟨first, restPermitted⟩
            have kept := preserved state label after initially (all label List.mem_cons_self) first moved
            exact ⟨now.mp first, (ih kept later).mp restPermitted⟩
          · rintro ⟨first, restPermitted⟩
            have kept := preserved state label after initially (all label List.mem_cons_self)
              (now.mpr first) moved
            exact ⟨now.mpr first, (ih kept later).mpr restPermitted⟩

/-- One condition gives another on a run when it does so under an invariant of the run. -/
theorem Permits.strengthen {machine : Machine State Label} {one other : State → Label → Prop}
    (holds : State → Prop)
    (implied : ∀ state label, holds state → one state label → other state label)
    (preserved : ∀ before label after, holds before → one before label →
      machine.step before label = some after → holds after)
    {state : State} {labels : List Label} (initially : holds state)
    (permitted : machine.Permits one state labels) : machine.Permits other state labels := by
  induction labels generalizing state with
  | nil => trivial
  | cons label rest ih =>
      obtain ⟨now, later⟩ := permitted
      refine ⟨implied state label initially now, ?_⟩
      cases moved : machine.step state label with
      | none => trivial
      | some after =>
          rw [moved] at later
          exact ih (preserved state label after initially now moved) later

/-- What is permitted after an executed list is permitted where the list leads. -/
theorem Permits.later {labels more : List Label}
    (permitted : machine.Permits allowed state (labels ++ more))
    (executed : machine.run state labels = some after) : machine.Permits allowed after more := by
  induction labels generalizing state with
  | nil =>
      cases executed
      exact permitted
  | cons label rest ih =>
      obtain ⟨_, later⟩ := permitted
      simp only [run] at executed
      cases moved : machine.step state label with
      | none =>
          rw [moved] at executed
          cases executed
      | some middle =>
          rw [moved] at executed later
          exact ih later executed

theorem permits_always (machine : Machine State Label) (state : State) (labels : List Label) :
    machine.Permits (fun _ _ => True) state labels := by
  induction labels generalizing state with
  | nil => trivial
  | cons label rest ih =>
      refine ⟨trivial, ?_⟩
      split
      · trivial
      · exact ih _

end Machine

end AudioBlock.Foundation
