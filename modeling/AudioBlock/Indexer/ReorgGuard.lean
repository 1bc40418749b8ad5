/-
Embedding of src/services/Soroban/IndexerReorgGuard.ts.

Ledger numbers are natural numbers; `Math.max(1, ledger - overlapWindow)` is
then the maximum of one and a truncated difference.
-/

namespace AudioBlock.Indexer

structure ReorgGuardConfig where
  overlapWindow : Nat := 10
  gapThreshold : Nat := 5
deriving DecidableEq, Repr

structure IndexerReorgGuard where
  config : ReorgGuardConfig
  cursor : Option Nat
deriving DecidableEq, Repr

namespace IndexerReorgGuard

def setCursor (guard : IndexerReorgGuard) (ledger : Nat) : IndexerReorgGuard :=
  { guard with cursor := some ledger }

def getOverlapStart (guard : IndexerReorgGuard) (latestAvailableLedger : Nat) : Option Nat :=
  match guard.cursor with
  | none => some (max 1 (latestAvailableLedger - guard.config.overlapWindow))
  | some cursor =>
      if latestAvailableLedger < cursor then
        some (max 1 (cursor - guard.config.overlapWindow))
      else if latestAvailableLedger = cursor then none
      else if guard.config.gapThreshold < latestAvailableLedger - cursor then
        some (max 1 (cursor - guard.config.overlapWindow))
      else some (cursor + 1)

def updateCursor (guard : IndexerReorgGuard) (processedLedger : Nat) : IndexerReorgGuard :=
  match guard.cursor with
  | none => { guard with cursor := some processedLedger }
  | some cursor =>
      if cursor < processedLedger then { guard with cursor := some processedLedger } else guard

theorem getOverlapStart_cases (guard : IndexerReorgGuard) (cursor latest : Nat) :
    ((guard.setCursor cursor).getOverlapStart latest = none ∧ latest = cursor) ∨
      ((guard.setCursor cursor).getOverlapStart latest = some (cursor + 1) ∧
        cursor < latest ∧ latest ≤ cursor + guard.config.gapThreshold) ∨
      ∃ start, (guard.setCursor cursor).getOverlapStart latest = some start ∧
        start ≤ max 1 cursor ∧
          (latest < cursor ∨ cursor + guard.config.gapThreshold < latest) := by
  have rollback : max 1 (cursor - guard.config.overlapWindow) ≤ max 1 cursor := by omega
  generalize answer : (guard.setCursor cursor).getOverlapStart latest = start
  change (if latest < cursor then some (max 1 (cursor - guard.config.overlapWindow))
    else if latest = cursor then none
    else if guard.config.gapThreshold < latest - cursor then
      some (max 1 (cursor - guard.config.overlapWindow))
    else some (cursor + 1)) = start at answer
  split at answer
  · rename_i behind
    exact Or.inr (Or.inr ⟨_, answer.symm, rollback, Or.inl behind⟩)
  · rename_i reached
    split at answer
    · rename_i level
      exact Or.inl ⟨answer.symm, level⟩
    · rename_i apart
      split at answer
      · rename_i gap
        exact Or.inr (Or.inr ⟨_, answer.symm, rollback, Or.inr (by omega)⟩)
      · rename_i near
        exact Or.inr (Or.inl ⟨answer.symm, by omega, by omega⟩)

theorem getOverlapStart_bounds {config : ReorgGuardConfig} {cursor tip start : Nat}
    (returned : getOverlapStart { config, cursor := some cursor } tip =
      some start) :
    1 ≤ start ∧ start ≤ cursor + 1 ∧ (cursor ≤ tip → start ≤ tip) ∧
      (tip < cursor ∨ cursor + config.gapThreshold < tip →
        start = max 1 (cursor - config.overlapWindow)) := by
  change (if tip < cursor then some (max 1 (cursor - config.overlapWindow))
    else if tip = cursor then none
    else if config.gapThreshold < tip - cursor then
      some (max 1 (cursor - config.overlapWindow))
    else some (cursor + 1)) = some start at returned
  split at returned
  · cases returned
    refine ⟨by omega, by omega, by omega, fun _ => rfl⟩
  · split at returned
    · cases returned
    · split at returned
      · cases returned
        refine ⟨by omega, by omega, by omega, fun _ => rfl⟩
      · cases returned
        refine ⟨by omega, by omega, by omega, by omega⟩

theorem getOverlapStart_unset {config : ReorgGuardConfig} {tip start : Nat}
    (returned : getOverlapStart { config, cursor := none } tip = some start) :
    1 ≤ start ∧ (1 ≤ tip → start ≤ tip) := by
  cases returned
  constructor <;> omega

theorem getOverlapStart_leap {config : ReorgGuardConfig} {cursor tip : Nat}
    (leaps : cursor + config.gapThreshold < tip) :
    getOverlapStart { config, cursor := some cursor } tip =
      some (max 1 (cursor - config.overlapWindow)) := by
  change (if tip < cursor then _ else if tip = cursor then _
    else if config.gapThreshold < tip - cursor then _ else _) = _
  rw [if_neg (by omega), if_neg (by omega), if_pos (by omega)]

end IndexerReorgGuard

end AudioBlock.Indexer
