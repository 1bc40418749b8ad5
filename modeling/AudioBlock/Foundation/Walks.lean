/-
Walks along a relation that gives every point at most one next point.

A walk lists the points in order.  Where it ends because nothing new would follow, it has
seen every point that can be reached from its beginning.
-/
import Mathlib.Data.List.Chain
import Mathlib.Logic.Relation

namespace AudioBlock.Foundation

universe u

variable {α : Type u} {next : α → α → Prop}

variable {walk : List α} {point : α}

/-- A point of the walk has its next point in the walk, or is the last one. -/
theorem next_or_last (single : ∀ point one other, next point one → next point other → one = other)
    (along : walk.IsChain next) {after : α} (passed : point ∈ walk) (follows : next point after) :
    after ∈ walk ∨ walk.getLast? = some point := by
  induction walk with
  | nil => cases passed
  | cons first rest ih =>
      cases rest with
      | nil =>
          rw [List.mem_singleton.mp passed]
          exact Or.inr rfl
      | cons second rest =>
          obtain ⟨link, along⟩ := List.isChain_cons_cons.mp along
          rcases List.mem_cons.mp passed with same | later
          · subst same
            rw [single point after second follows link]
            exact Or.inl (List.mem_cons_of_mem _ List.mem_cons_self)
          · rcases ih along later with within | last
            · exact Or.inl (List.mem_cons_of_mem _ within)
            · exact Or.inr (List.getLast?_cons_cons.trans last)

/-- What the walk has not seen lies behind a last point that stopped it. -/
theorem reached_of_walk
    (single : ∀ point one other, next point one → next point other → one = other) {first : α}
    (along : walk.IsChain next) (begins : first ∈ walk) (stops : α → Prop)
    (ended : ∀ last, walk.getLast? = some last →
      stops last ∨ ∀ after, next last after → after ∈ walk)
    (reached : Relation.ReflTransGen next first point) :
    point ∈ walk ∨
      ∃ last, walk.getLast? = some last ∧ stops last ∧ Relation.TransGen next last point := by
  induction reached with
  | refl => exact Or.inl begins
  | tail _earlier link ih =>
      rcases ih with within | ⟨last, final, stopped, behind⟩
      · rcases next_or_last single along within link with inside | last
        · exact Or.inl inside
        · rcases ended _ last with stopped | closed
          · exact Or.inr ⟨_, last, stopped, Relation.TransGen.single link⟩
          · exact Or.inl (closed _ link)
      · exact Or.inr ⟨last, final, stopped, behind.tail link⟩

theorem walk_pairwise (along : walk.IsChain next) :
    walk.Pairwise (Relation.TransGen next) :=
  List.isChain_iff_pairwise.mp (along.imp fun _ _ => Relation.TransGen.single)

theorem walk_reached {first : α} (along : walk.IsChain next) (begins : walk.head? = some first)
    (passed : point ∈ walk) :
    Relation.ReflTransGen next first point := by
  cases walk with
  | nil => cases passed
  | cons head rest =>
      cases Option.some.inj begins
      rcases List.mem_cons.mp passed with same | later
      · rw [same]
      · exact ((List.pairwise_cons.mp (walk_pairwise along)).1 point later).to_reflTransGen

end AudioBlock.Foundation
