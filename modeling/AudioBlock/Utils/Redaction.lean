/-
Redaction of what is logged: a copy of a graph of objects with the values under sensitive keys
replaced.

One set of visited objects is threaded through the whole copy, so an object is copied only where it
is met first.  A `__proto__` key is assigned and not defined, so it makes no property of the copy.
-/
import Mathlib.Data.List.Nodup

namespace AudioBlock.Utils

def SENSITIVE_FIELD_NAMES : List String :=
  ["password", "newpassword", "oldpassword", "confirmpassword", "token", "accesstoken",
    "refreshtoken", "authorization", "apikey", "secret", "jwtsecret", "clientsecret", "privatekey",
    "twofactorsecret", "totpsecret", "creditcard", "cardnumber", "cvv", "ssn"]

def REDACTED : String := "[REDACTED]"

def MAX_DEPTH : Nat := 6

/-- `toLowerCase`, as far as ASCII letters come out of it. -/
def lowerCase (char : Char) : Char := if char = '\u212a' then 'k' else char.toLower

def isSensitiveKey (key : String) : Bool :=
  decide (String.ofList ((key.toList.map lowerCase).filter fun char => char != '_' && char != '-') ∈
    SENSITIVE_FIELD_NAMES)

/-! ### Graphs and copies -/

inductive Step
  | index (place : Nat)
  | key (name : String)
deriving DecidableEq, Repr

namespace Step

def isIndex : Step → Bool
  | .index _ => true
  | .key _ => false

def sensitive : Step → Bool
  | .index _ => false
  | .key name => isSensitiveKey name

end Step

inductive Kind
  | array
  | object
deriving DecidableEq, Repr

inductive Value (α : Type)
  | null
  | primitive (value : α)
  | reference (id : Nat)
deriving DecidableEq, Repr

/-- An array with its elements, or an object with its own enumerable properties. -/
structure Node (α : Type) where
  kind : Kind
  children : List (Step × Value α)
  placed : ∀ child ∈ children, child.1.isIndex = decide (kind = .array)
  distinct : (children.map Prod.fst).Nodup

/-- The object of every reference. -/
abbrev Heap (α : Type) := Nat → Node α

inductive Tree (α : Type)
  | null
  | primitive (value : α)
  | marker (text : String)
  | node (kind : Kind) (children : List (Step × Tree α)) (proto : Option (Tree α))

variable {α : Type}

/-- What an assignment to `__proto__` takes as a prototype. -/
def Tree.asPrototype : Tree α → Option (Tree α)
  | .null => some .null
  | .primitive _ => none
  | .marker _ => none
  | .node kind children proto => some (.node kind children proto)

def assigned (kind : Kind) (copies : List (Step × Tree α)) : Tree α :=
  .node kind (copies.filter fun copy => copy.1 != .key "__proto__")
    ((copies.find? fun copy => copy.1 == .key "__proto__").bind fun copy => copy.2.asPrototype)

/-- The loop over the children of a node. -/
def visitAll (visit : Value α → List Nat → Tree α × List Nat) :
    List (Step × Value α) → List Nat → List (Step × Tree α) × List Nat
  | [], seen => ([], seen)
  | (step, value) :: rest, seen =>
      if step.sensitive then
        let later := visitAll visit rest seen
        ((step, .marker REDACTED) :: later.1, later.2)
      else
        let first := visit value seen
        let later := visitAll visit rest first.2
        ((step, first.1) :: later.1, later.2)

/-- The function with `levels` levels left before `MAX_DEPTH`, and the set of visited objects after
it. -/
def redact (heap : Heap α) : Nat → Value α → List Nat → Tree α × List Nat
  | _, .null, seen => (.null, seen)
  | _, .primitive value, seen => (.primitive value, seen)
  | 0, .reference _, seen => (.marker "[Truncated]", seen)
  | levels + 1, .reference id, seen =>
      if id ∈ seen then (.marker "[Circular]", seen)
      else
        let copies := visitAll (redact heap levels) (heap id).children (id :: seen)
        (assigned (heap id).kind copies.1, copies.2)

def redactSensitiveFields (heap : Heap α) (value : Value α) : Tree α :=
  (redact heap MAX_DEPTH value []).1

/-! ### Paths -/

inductive Reaches (heap : Heap α) : Value α → List Step → Value α → Prop
  | here (value : Value α) : Reaches heap value [] value
  | child {id : Nat} {step : Step} {value target : Value α} {path : List Step}
      (member : (step, value) ∈ (heap id).children) (below : Reaches heap value path target) :
      Reaches heap (.reference id) (step :: path) target

inductive Tree.At : Tree α → List Step → Tree α → Prop
  | here (tree : Tree α) : At tree [] tree
  | child {kind : Kind} {children : List (Step × Tree α)} {proto : Option (Tree α)} {step : Step}
      {tree target : Tree α} {path : List Step} (member : (step, tree) ∈ children)
      (below : At tree path target) : At (.node kind children proto) (step :: path) target

def Value.asLeaf : Value α → Option (Tree α)
  | .null => some .null
  | .primitive value => some (.primitive value)
  | .reference _ => none

def Tree.isNode : Tree α → Bool
  | .node _ _ _ => true
  | _ => false

def OpenPath (path : List Step) : Prop := ∀ step ∈ path, step.sensitive = false

/-- No object lies as deep as the number of levels. -/
def NestedBelow (heap : Heap α) : Nat → Value α → Prop
  | _, .null => True
  | _, .primitive _ => True
  | 0, .reference _ => False
  | levels + 1, .reference id =>
      ∀ child ∈ (heap id).children, child.1.sensitive = false → NestedBelow heap levels child.2

def LeavesKept (heap : Heap α) (root : Value α) : Prop :=
  ∀ path value leaf, OpenPath path → Reaches heap root path value → value.asLeaf = some leaf →
    (redactSensitiveFields heap root).At path leaf

/-- No `__proto__` lies on the path of a leaf, and its objects are reached in no other way. -/
def LeavesOwned (heap : Heap α) (root : Value α) : Prop :=
  ∀ path value leaf, OpenPath path → Reaches heap root path value → value.asLeaf = some leaf →
    .key "__proto__" ∉ path ∧
      ∀ front rest id, path = front ++ rest → Reaches heap root front (.reference id) →
        ∀ other, OpenPath other → Reaches heap root other (.reference id) → other = front

/-! ### Graphs that differ under sensitive keys -/

inductive SameValue (related : Nat → Nat → Prop) : Value α → Value α → Prop
  | null : SameValue related .null .null
  | primitive (value : α) : SameValue related (.primitive value) (.primitive value)
  | reference {id id' : Nat} (same : related id id') :
      SameValue related (.reference id) (.reference id')

def SameChild (related : Nat → Nat → Prop) (child child' : Step × Value α) : Prop :=
  child.1 = child'.1 ∧ (child.1.sensitive = false → SameValue related child.2 child'.2)

structure SameButSensitive (related : Nat → Nat → Prop) (heap heap' : Heap α) : Prop where
  identity : ∀ {id other id' other'}, related id id' → related other other' →
    (id = other ↔ id' = other')
  nodes : ∀ {id id'}, related id id' → (heap id).kind = (heap' id').kind ∧
    List.Forall₂ (SameChild related) (heap id).children (heap' id').children

structure RedactsLawfully (heap : Heap α) (root : Value α) : Prop where
  hidden : ∀ heap' root' related, SameButSensitive related heap heap' →
    SameValue related root root' →
      redactSensitiveFields heap' root' = redactSensitiveFields heap root
  kept : NestedBelow heap MAX_DEPTH root → LeavesKept heap root

/-! ### Noninterference -/

section Hidden

variable {related : Nat → Nat → Prop} {heap heap' : Heap α}

theorem seen_iff (same : SameButSensitive related heap heap') {id id' : Nat}
    (pair : related id id') {seen seen' : List Nat} (visited : List.Forall₂ related seen seen') :
    id ∈ seen ↔ id' ∈ seen' := by
  induction visited with
  | nil => exact ⟨fun member => (List.not_mem_nil member).elim,
      fun member => (List.not_mem_nil member).elim⟩
  | cons first rest ih =>
      rw [List.mem_cons, List.mem_cons, ih, same.identity pair first]

theorem visitAll_same {visit visit' : Value α → List Nat → Tree α × List Nat}
    (agree : ∀ value value' seen seen', SameValue related value value' →
      List.Forall₂ related seen seen' →
        (visit value seen).1 = (visit' value' seen').1 ∧
          List.Forall₂ related (visit value seen).2 (visit' value' seen').2)
    {children children' : List (Step × Value α)}
    (paired : List.Forall₂ (SameChild related) children children') :
    ∀ seen seen', List.Forall₂ related seen seen' →
      (visitAll visit children seen).1 = (visitAll visit' children' seen').1 ∧
        List.Forall₂ related (visitAll visit children seen).2
          (visitAll visit' children' seen').2 := by
  induction paired with
  | nil =>
      intro seen seen' visited
      exact ⟨rfl, visited⟩
  | cons first rest ih =>
      rename_i child child' children children'
      obtain ⟨step, value⟩ := child
      obtain ⟨step', value'⟩ := child'
      obtain ⟨place, inside⟩ := first
      have place : step = step' := place
      subst place
      intro seen seen' visited
      unfold visitAll
      by_cases secret : step.sensitive = true
      · rw [if_pos secret, if_pos secret]
        obtain ⟨copies, after⟩ := ih seen seen' visited
        exact ⟨congrArg (List.cons _) copies, after⟩
      · rw [if_neg secret, if_neg secret]
        obtain ⟨copy, between⟩ :=
          agree value value' seen seen' (inside (Bool.eq_false_iff.mpr secret)) visited
        obtain ⟨copies, after⟩ := ih _ _ between
        exact ⟨congrArg₂ List.cons (congrArg (Prod.mk step) copy) copies, after⟩

theorem redact_same (same : SameButSensitive related heap heap') (levels : Nat) :
    ∀ value value' seen seen', SameValue related value value' →
      List.Forall₂ related seen seen' →
        (redact heap levels value seen).1 = (redact heap' levels value' seen').1 ∧
          List.Forall₂ related (redact heap levels value seen).2
            (redact heap' levels value' seen').2 := by
  induction levels with
  | zero =>
      intro value value' seen seen' agree visited
      cases agree with
      | null => exact ⟨rfl, visited⟩
      | primitive value => exact ⟨rfl, visited⟩
      | reference pair => exact ⟨rfl, visited⟩
  | succ levels ih =>
      intro value value' seen seen' agree visited
      cases agree with
      | null => exact ⟨rfl, visited⟩
      | primitive value => exact ⟨rfl, visited⟩
      | reference pair =>
          rename_i id id'
          have known := seen_iff same pair visited
          obtain ⟨kinds, children⟩ := same.nodes pair
          unfold redact
          by_cases met : id ∈ seen
          · rw [if_pos met, if_pos (known.mp met)]
            exact ⟨rfl, visited⟩
          · rw [if_neg met, if_neg (fun met' => met (known.mpr met'))]
            obtain ⟨copies, after⟩ := visitAll_same ih children _ _ (.cons pair visited)
            exact ⟨congrArg₂ assigned kinds copies, after⟩

end Hidden

/-! ### Paths of a graph -/

variable {heap : Heap α}

variable {value : Value α} {front rest : List Step} {step : Step} {path : List Step}
  {tree target : Tree α} {levels id : Nat} {seen : List Nat}

theorem Reaches.append {middle target : Value α} (first : Reaches heap value front middle)
    (second : Reaches heap middle rest target) :
    Reaches heap value (front ++ rest) target := by
  induction first with
  | here value => exact second
  | child member below ih => exact .child member (ih second)

theorem Reaches.split {target : Value α} (whole : Reaches heap value (front ++ rest) target) :
    ∃ middle, Reaches heap value front middle ∧ Reaches heap middle rest target := by
  induction front generalizing value with
  | nil => exact ⟨value, .here value, whole⟩
  | cons step front ih =>
      cases whole with
      | child member below =>
          obtain ⟨middle, first, second⟩ := ih below
          exact ⟨middle, .child member first, second⟩

theorem child_unique {node : Node α} {value' : Value α} (member : (step, value) ∈ node.children)
    (member' : (step, value') ∈ node.children) :
    value = value' := by
  have same := List.inj_on_of_nodup_map node.distinct member member' rfl
  exact (Prod.mk.inj same).2

theorem Reaches.unique {target target' : Value α} (reaches : Reaches heap value path target)
    (reaches' : Reaches heap value path target') :
    target = target' := by
  induction reaches with
  | here value =>
      cases reaches' with
      | here value => rfl
  | child member below ih =>
      cases reaches' with
      | child member' below' =>
          cases child_unique member member'
          exact ih below'

theorem Tree.At.split (whole : tree.At (front ++ rest) target) :
    ∃ middle, tree.At front middle ∧ middle.At rest target := by
  induction front generalizing tree with
  | nil => exact ⟨tree, .here tree, whole⟩
  | cons step front ih =>
      cases whole with
      | child member below =>
          obtain ⟨middle, first, second⟩ := ih below
          exact ⟨middle, .child member first, second⟩

theorem Tree.At.nil_eq (found : tree.At [] target) : tree = target := by
  cases found with
  | here tree => rfl

theorem OpenPath.append (first : OpenPath front) (second : OpenPath rest) :
    OpenPath (front ++ rest) := by
  intro step member
  cases List.mem_append.mp member with
  | inl before => exact first step before
  | inr after => exact second step after

theorem OpenPath.cons (first : step.sensitive = false) (rest : OpenPath path) :
    OpenPath (step :: path) := by
  intro other member
  cases List.mem_cons.mp member with
  | inl here => exact here ▸ first
  | inr later => exact rest other later

theorem OpenPath.tail (whole : OpenPath (step :: path)) :
    OpenPath path := fun other member => whole other (List.mem_cons_of_mem _ member)

/-! ### The loop over the children -/

section Visiting

variable {visit : Value α → List Nat → Tree α × List Nat}

variable {step : Step}

theorem visitAll_secret {value : Value α} (secret : step.sensitive = true)
    (rest : List (Step × Value α)) (seen : List Nat) :
    visitAll visit ((step, value) :: rest) seen =
      ((step, .marker REDACTED) :: (visitAll visit rest seen).1, (visitAll visit rest seen).2) := by
  rw [visitAll, if_pos secret]

theorem visitAll_open {value : Value α} (shown : step.sensitive = false)
    (rest : List (Step × Value α)) (seen : List Nat) :
    visitAll visit ((step, value) :: rest) seen =
      ((step, (visit value seen).1) :: (visitAll visit rest (visit value seen).2).1,
        (visitAll visit rest (visit value seen).2).2) := by
  rw [visitAll, if_neg (Bool.eq_false_iff.mp shown)]

theorem visitAll_append (before after : List (Step × Value α)) :
    ∀ seen, visitAll visit (before ++ after) seen =
      ((visitAll visit before seen).1 ++ (visitAll visit after (visitAll visit before seen).2).1,
        (visitAll visit after (visitAll visit before seen).2).2) := by
  induction before with
  | nil =>
      intro seen
      rfl
  | cons child before ih =>
      obtain ⟨step, value⟩ := child
      intro seen
      cases secret : step.sensitive with
      | true =>
          rw [List.cons_append, visitAll_secret secret, visitAll_secret secret, ih]
          rfl
      | false =>
          rw [List.cons_append, visitAll_open secret, visitAll_open secret, ih]
          rfl

theorem visitAll_copy {tree : Tree α} (shown : step.sensitive = false)
    {children : List (Step × Value α)} :
    ∀ {seen}, (step, tree) ∈ (visitAll visit children seen).1 →
      ∃ before value after, children = before ++ (step, value) :: after ∧
        tree = (visit value (visitAll visit before seen).2).1 := by
  induction children with
  | nil =>
      intro seen member
      cases member
  | cons child rest ih =>
      obtain ⟨place, value⟩ := child
      intro seen member
      cases secret : place.sensitive with
      | true =>
          rw [visitAll_secret secret] at member
          cases List.mem_cons.mp member with
          | inl here =>
              rw [(Prod.mk.inj here).1, secret] at shown
              cases shown
          | inr later =>
              obtain ⟨before, inner, after, split, copied⟩ := ih later
              refine ⟨(place, value) :: before, inner, after, by rw [split, List.cons_append], ?_⟩
              rw [visitAll_secret secret]
              exact copied
      | false =>
          rw [visitAll_open secret] at member
          cases List.mem_cons.mp member with
          | inl here =>
              obtain ⟨same, copied⟩ := Prod.mk.inj here
              exact ⟨[], value, rest, by rw [same]; rfl, copied⟩
          | inr later =>
              obtain ⟨before, inner, after, split, copied⟩ := ih later
              refine ⟨(place, value) :: before, inner, after, by rw [split, List.cons_append], ?_⟩
              rw [visitAll_open secret]
              exact copied

theorem visitAll_mono (grows : ∀ value seen, ∀ id ∈ seen, id ∈ (visit value seen).2)
    (children : List (Step × Value α)) :
    ∀ seen, ∀ id ∈ seen, id ∈ (visitAll visit children seen).2 := by
  induction children with
  | nil =>
      intro seen id member
      exact member
  | cons child rest ih =>
      obtain ⟨step, value⟩ := child
      intro seen id member
      cases secret : step.sensitive with
      | true =>
          rw [visitAll_secret secret]
          exact ih seen id member
      | false =>
          rw [visitAll_open secret]
          exact ih _ id (grows value seen id member)

theorem visitAll_seen {found : Value α → Nat → Prop}
    (only : ∀ value seen, ∀ id ∈ (visit value seen).2, id ∈ seen ∨ found value id)
    (children : List (Step × Value α)) :
    ∀ seen, ∀ id ∈ (visitAll visit children seen).2, id ∈ seen ∨
      ∃ child ∈ children, child.1.sensitive = false ∧ found child.2 id := by
  induction children with
  | nil =>
      intro seen id member
      exact Or.inl member
  | cons child rest ih =>
      obtain ⟨step, value⟩ := child
      intro seen id member
      have later : ∀ between, id ∈ (visitAll visit rest between).2 → id ∈ between ∨
          ∃ child ∈ (step, value) :: rest, child.1.sensitive = false ∧ found child.2 id := by
        intro between after
        cases ih between id after with
        | inl earlier => exact Or.inl earlier
        | inr new =>
            obtain ⟨child, inside, facts⟩ := new
            exact Or.inr ⟨child, List.mem_cons_of_mem _ inside, facts⟩
      cases secret : step.sensitive with
      | true =>
          rw [visitAll_secret secret] at member
          exact later seen member
      | false =>
          rw [visitAll_open secret] at member
          cases later _ member with
          | inl between =>
              cases only value seen id between with
              | inl earlier => exact Or.inl earlier
              | inr new => exact Or.inr ⟨(step, value), List.mem_cons_self, secret, new⟩
          | inr new => exact Or.inr new

end Visiting

/-! ### What a copy visits -/

theorem redact_met (met : id ∈ seen) :
    redact heap (levels + 1) (.reference id) seen = (.marker "[Circular]", seen) := by
  rw [redact, if_pos met]

theorem redact_new (new : id ∉ seen) :
    redact heap (levels + 1) (.reference id) seen =
      (assigned (heap id).kind
        (visitAll (redact heap levels) (heap id).children (id :: seen)).1,
        (visitAll (redact heap levels) (heap id).children (id :: seen)).2) := by
  rw [redact, if_neg new]

theorem redact_mono (levels : Nat) :
    ∀ (value : Value α) seen, ∀ id ∈ seen, id ∈ (redact heap levels value seen).2 := by
  induction levels with
  | zero =>
      intro value seen id member
      cases value with
      | null | primitive _ | reference _ => exact member
  | succ levels ih =>
      intro value seen id member
      cases value with
      | null | primitive _ => exact member
      | reference visited =>
          by_cases met : visited ∈ seen
          · rw [redact_met met]
            exact member
          · rw [redact_new met]
            exact visitAll_mono ih _ _ id (List.mem_cons_of_mem _ member)

theorem redact_seen (levels : Nat) :
    ∀ (value : Value α) seen, ∀ id ∈ (redact heap levels value seen).2, id ∈ seen ∨
      ∃ path, OpenPath path ∧ Reaches heap value path (.reference id) := by
  induction levels with
  | zero =>
      intro value seen id member
      cases value with
      | null | primitive _ | reference _ => exact Or.inl member
  | succ levels ih =>
      intro value seen id member
      cases value with
      | null | primitive _ => exact Or.inl member
      | reference visited =>
          by_cases met : visited ∈ seen
          · rw [redact_met met] at member
            exact Or.inl member
          · rw [redact_new met] at member
            cases visitAll_seen ih _ _ id member with
            | inl earlier =>
                cases List.mem_cons.mp earlier with
                | inl here =>
                    exact Or.inr ⟨[], fun _step none => (List.not_mem_nil none).elim,
                      here ▸ .here _⟩
                | inr before => exact Or.inl before
            | inr new =>
                obtain ⟨⟨step, value⟩, inside, shown, path, opens, reaches⟩ := new
                exact Or.inr ⟨step :: path, opens.cons shown, .child inside reaches⟩

/-! ### Owned leaves are kept -/

theorem mem_assigned {copies : List (Step × Tree α)} :
    (step, tree) ∈ copies.filter (fun copy => copy.1 != .key "__proto__") ↔
      (step, tree) ∈ copies ∧ step ≠ .key "__proto__" := by
  rw [List.mem_filter]
  exact and_congr_right fun _member => bne_iff_ne

theorem not_extends {other : Step} (different : step ≠ other) :
    ¬ front ++ [step] <+: front ++ other :: path := by
  rw [List.prefix_append_right_inj, List.cons_prefix_cons]
  exact fun both => different both.1

theorem redact_keeps {root : Value α} (owned : LeavesOwned heap root) (levels : Nat) :
    ∀ value front seen, OpenPath front → Reaches heap root front value →
      (∀ id ∈ seen, ∃ other, OpenPath other ∧ Reaches heap root other (.reference id) ∧
        ¬ front <+: other) →
      NestedBelow heap levels value →
      ∀ path target leaf, OpenPath path → Reaches heap value path target →
        target.asLeaf = some leaf → (redact heap levels value seen).1.At path leaf := by
  induction levels with
  | zero =>
      intro value front seen _opens _placed _elsewhere nested path target leaf _open reaches isLeaf
      cases reaches with
      | here =>
          cases value with
          | null | primitive _ =>
              cases isLeaf
              exact .here _
          | reference id => cases isLeaf
      | child member below => exact nested.elim
  | succ levels ih =>
      intro value front seen opens placed elsewhere nested path target leaf open_ reaches isLeaf
      cases reaches with
      | here =>
          cases value with
          | null | primitive _ =>
              cases isLeaf
              exact .here _
          | reference id => cases isLeaf
      | child member below =>
          rename_i id step inner path
          have whole := placed.append (Reaches.child member below)
          obtain ⟨noProto, alone⟩ := owned _ target leaf (opens.append open_) whole isLeaf
          have new : id ∉ seen := by
            intro met
            obtain ⟨other, opens', placed', apart⟩ := elsewhere id met
            rw [alone front _ id rfl placed other opens' placed'] at apart
            exact apart (List.prefix_refl front)
          have shown : step.sensitive = false := open_ step List.mem_cons_self
          obtain ⟨before, after, split⟩ := List.append_of_mem member
          rw [redact_new new, split, visitAll_append, visitAll_open shown]
          refine .child (mem_assigned.mpr ⟨List.mem_append_right _ List.mem_cons_self, ?_⟩) ?_
          · intro proto
            rw [← proto] at noProto
            exact noProto (List.mem_append_right _ List.mem_cons_self)
          · have placed' : Reaches heap root (front ++ [step]) inner :=
              placed.append (.child member (.here inner))
            have opens' : OpenPath (front ++ [step]) := by
              refine opens.append ?_
              exact OpenPath.cons shown fun _step none => (List.not_mem_nil none).elim
            refine ih inner (front ++ [step]) _ opens' placed' ?_ ?_ path target leaf open_.tail
              below isLeaf
            · intro visited seenBefore
              cases visitAll_seen (redact_seen levels) before _ visited seenBefore with
              | inl earlier =>
                  cases List.mem_cons.mp earlier with
                  | inl here =>
                      refine ⟨front, opens, here ▸ placed, ?_⟩
                      intro extends_
                      have longer := extends_.length_le
                      rw [List.length_append, List.length_singleton] at longer
                      omega
                  | inr outside =>
                      obtain ⟨other, otherOpen, otherPlaced, apart⟩ := elsewhere visited outside
                      exact ⟨other, otherOpen, otherPlaced,
                        fun extends_ => apart ((List.prefix_append front [step]).trans extends_)⟩
              | inr sibling =>
                  obtain ⟨⟨place, value⟩, inside, placeShown, inward, inwardOpen, found⟩ := sibling
                  refine ⟨front ++ place :: inward, opens.append (inwardOpen.cons placeShown), ?_, ?_⟩
                  · refine placed.append (.child ?_ found)
                    rw [split]
                    exact List.mem_append_left _ inside
                  · apply not_extends
                    intro same
                    have distinct := (heap id).distinct
                    rw [split, List.map_append, List.map_cons] at distinct
                    have apart := (List.nodup_append.mp distinct).2.2
                    exact apart place (List.mem_map_of_mem inside) step List.mem_cons_self same.symm
            · exact nested (step, inner) member shown

/-! ### Kept leaves are owned -/

theorem split_unique {before before' after after' : List (Step × Value α)} {value' : Value α}
    (distinct : ((before ++ (step, value) :: after).map Prod.fst).Nodup)
    (same : before ++ (step, value) :: after = before' ++ (step, value') :: after') :
    before = before' := by
  induction before generalizing before' with
  | nil =>
      cases before' with
      | nil => rfl
      | cons child before' =>
          obtain ⟨here, rest⟩ := List.cons.inj same
          have repeated : step ∈ after.map Prod.fst := by
            rw [rest]
            exact List.mem_map_of_mem (List.mem_append_right before' List.mem_cons_self)
          exact absurd repeated (List.nodup_cons.mp distinct).1
  | cons child before ih =>
      cases before' with
      | nil =>
          obtain ⟨here, rest⟩ := List.cons.inj same
          have repeated : step ∈ (before ++ (step, value) :: after).map Prod.fst :=
            List.mem_map_of_mem (List.mem_append_right before List.mem_cons_self)
          rw [here] at distinct
          exact absurd repeated (List.nodup_cons.mp distinct).1
      | cons child' before' =>
          obtain ⟨here, rest⟩ := List.cons.inj same
          rw [here, ih (List.nodup_cons.mp distinct).2 rest]

theorem at_copy (shown : step.sensitive = false)
    (found : (redact heap (levels + 1) (.reference id) seen).1.At (step :: path) target) :
    id ∉ seen ∧ step ≠ .key "__proto__" ∧
      ∃ before value after, (heap id).children = before ++ (step, value) :: after ∧
        (redact heap levels value
          (visitAll (redact heap levels) before (id :: seen)).2).1.At path target := by
  by_cases met : id ∈ seen
  · rw [redact_met met] at found
    cases found
  · rw [redact_new met] at found
    cases found with
    | child member below =>
        obtain ⟨copied, noProto⟩ := mem_assigned.mp member
        obtain ⟨before, value, after, split, made⟩ := visitAll_copy shown copied
        exact ⟨met, noProto, before, value, after, split, made ▸ below⟩

theorem at_no_proto (levels : Nat) :
    ∀ value seen path (target : Tree α), OpenPath path →
      (redact heap levels value seen).1.At path target → .key "__proto__" ∉ path := by
  induction levels with
  | zero =>
      intro value seen path target _opens found
      cases value with
      | null | primitive _ | reference _ =>
          cases found
          exact List.not_mem_nil
  | succ levels ih =>
      intro value seen path target opens found
      cases value with
      | null | primitive _ =>
          cases found
          exact List.not_mem_nil
      | reference id =>
          cases path with
          | nil => exact List.not_mem_nil
          | cons step path =>
              obtain ⟨_new, noProto, before, value, after, _split, below⟩ :=
                at_copy (opens step List.mem_cons_self) found
              intro member
              cases List.mem_cons.mp member with
              | inl here => exact noProto here.symm
              | inr later => exact ih value _ path target opens.tail below later

theorem visited_after (shown : step.sensitive = false) (before after : List (Step × Value α))
    (seen : List Nat)
    (visited : id ∈ (redact heap levels value (visitAll (redact heap levels) before seen).2).2) :
    id ∈ (visitAll (redact heap levels) (before ++ (step, value) :: after) seen).2 := by
  rw [visitAll_append, visitAll_open shown]
  exact visitAll_mono (redact_mono levels) after _ id visited

theorem at_visited (levels : Nat) :
    ∀ value seen path (tree : Tree α) id, OpenPath path →
      (redact heap levels value seen).1.At path tree → tree.isNode = true →
      Reaches heap value path (.reference id) →
        id ∉ seen ∧ id ∈ (redact heap levels value seen).2 := by
  induction levels with
  | zero =>
      intro value seen path tree id _opens found isNode _reaches
      cases value with
      | null | primitive _ | reference _ =>
          cases found
          cases isNode
  | succ levels ih =>
      intro value seen path tree id opens found isNode reaches
      cases reaches with
      | here =>
          rw [← found.nil_eq] at isNode
          by_cases met : id ∈ seen
          · rw [redact_met met] at isNode
            cases isNode
          · rw [redact_new met]
            exact ⟨met, visitAll_mono (redact_mono levels) _ _ id List.mem_cons_self⟩
      | child member below =>
          rename_i outer step inner path
          have shown := opens step List.mem_cons_self
          obtain ⟨new, _noProto, before, value, after, split, copied⟩ := at_copy shown found
          have same : inner = value := by
            apply child_unique member
            rw [split]
            exact List.mem_append_right _ List.mem_cons_self
          subst same
          obtain ⟨unseen, visited⟩ := ih inner _ path tree id opens.tail copied isNode below
          constructor
          · intro earlier
            exact unseen (visitAll_mono (redact_mono levels) before _ id
              (List.mem_cons_of_mem _ earlier))
          · rw [redact_new new, split]
            exact visited_after shown before after _ visited

theorem at_once (levels : Nat) :
    ∀ value seen path path' (tree tree' : Tree α) id, OpenPath path → OpenPath path' →
      (redact heap levels value seen).1.At path tree →
      (redact heap levels value seen).1.At path' tree' → tree.isNode = true →
      tree'.isNode = true → Reaches heap value path (.reference id) →
      Reaches heap value path' (.reference id) → path = path' := by
  induction levels with
  | zero =>
      intro value seen path path' tree tree' id _opens _opens' found found' _isNode _isNode' _ _
      cases value with
      | null | primitive _ | reference _ =>
          cases found
          cases found'
          rfl
  | succ levels ih =>
      intro value seen path path' tree tree' id opens opens' found found' isNode isNode' reaches
        reaches'
      -- An object is not met again below itself.
      have below : ∀ step (rest : List Step) (inner : Tree α), OpenPath (step :: rest) →
          (redact heap (levels + 1) (.reference id) seen).1.At (step :: rest) inner →
          inner.isNode = true → Reaches heap (.reference id) (step :: rest) (.reference id) →
          False := by
        intro step rest inner opens found isNode reaches
        cases reaches with
        | child member onward =>
            rename_i value
            obtain ⟨_new, _noProto, before, other, after, split, copied⟩ :=
              at_copy (opens step List.mem_cons_self) found
            have same : value = other := by
              apply child_unique member
              rw [split]
              exact List.mem_append_right _ List.mem_cons_self
            subst same
            have unseen := (at_visited levels value _ rest inner id opens.tail copied isNode
              onward).1
            exact unseen (visitAll_mono (redact_mono levels) before _ id List.mem_cons_self)
      cases reaches with
      | here =>
          cases path' with
          | nil => rfl
          | cons step rest => exact (below step rest tree' opens' found' isNode' reaches').elim
      | child member onward =>
          rename_i outer step inner path
          cases reaches' with
          | here => exact (below step path tree opens found isNode (.child member onward)).elim
          | child member' onward' =>
              rename_i step' inner' path'
              have shown := opens step List.mem_cons_self
              have shown' := opens' step' List.mem_cons_self
              obtain ⟨_new, _noProto, before, value, after, split, copied⟩ := at_copy shown found
              obtain ⟨_new', _noProto', before', value', after', split', copied'⟩ :=
                at_copy shown' found'
              have distinct := (heap outer).distinct
              have same : inner = value := by
                apply child_unique member
                rw [split]
                exact List.mem_append_right _ List.mem_cons_self
              have same' : inner' = value' := by
                apply child_unique member'
                rw [split']
                exact List.mem_append_right _ List.mem_cons_self
              subst same same'
              obtain ⟨unseen, visited⟩ :=
                at_visited levels inner _ path tree id opens.tail copied isNode onward
              obtain ⟨unseen', visited'⟩ :=
                at_visited levels inner' _ path' tree' id opens'.tail copied' isNode' onward'
              rw [split'] at member distinct
              cases List.mem_append.mp member with
              | inl earlier =>
                  -- The first path enters a child before that of the second.
                  obtain ⟨front, back, parts⟩ := List.append_of_mem earlier
                  rw [split', parts, List.append_assoc, List.cons_append] at split
                  have start : front = before :=
                    split_unique (by rw [parts, List.append_assoc, List.cons_append] at distinct
                                     exact distinct) split
                  rw [← start] at visited
                  rw [parts] at unseen'
                  exact (unseen' (visited_after shown front back _ visited)).elim
              | inr notEarlier =>
                  cases List.mem_cons.mp notEarlier with
                  | inl here =>
                      obtain ⟨sameStep, sameValue⟩ := Prod.mk.inj here
                      subst sameStep sameValue
                      have start : before' = before := split_unique distinct (split'.symm.trans split)
                      rw [start] at copied'
                      rw [ih inner _ path path' tree tree' id opens.tail opens'.tail copied copied'
                        isNode isNode' onward onward']
                  | inr later =>
                      obtain ⟨front, back, parts⟩ := List.append_of_mem later
                      rw [split', parts, ← List.cons_append, ← List.append_assoc] at split
                      have start : before' ++ (step', inner') :: front = before := by
                        apply split_unique _ split
                        rw [parts, ← List.cons_append, ← List.append_assoc] at distinct
                        exact distinct
                      rw [← start] at unseen
                      exact (unseen (visited_after shown' before' front _ visited')).elim

theorem Tree.At.isNode (found : tree.At (step :: path) target) : tree.isNode = true := by
  cases found with
  | child member below => rfl

theorem owned_of_kept {root : Value α} (kept : LeavesKept heap root) : LeavesOwned heap root := by
  intro path value leaf opens reaches isLeaf
  have found := kept path value leaf opens reaches isLeaf
  refine ⟨at_no_proto MAX_DEPTH root [] path leaf opens found, ?_⟩
  intro front rest id whole placed other opens' placed'
  subst whole
  obtain ⟨middle, first, second⟩ := reaches.split
  cases placed.unique first
  have found' := kept (other ++ rest) value leaf
    (opens'.append fun step member => opens step (List.mem_append_right _ member))
    (placed'.append second) isLeaf
  obtain ⟨tree, above, below⟩ := found.split
  obtain ⟨tree', above', below'⟩ := found'.split
  cases second with
  | here => cases isLeaf
  | child member onward =>
      exact at_once MAX_DEPTH root [] other front tree' tree id opens'
        (fun step member => opens step (List.mem_append_left _ member)) above' above below'.isNode
        below.isNode placed' placed

/-- Redaction never depends on what lies under sensitive keys.  In a graph that is not too deep it
keeps every open leaf exactly if no object on the way to one is reached in another way, and no
`__proto__` lies on the way. -/
theorem redactSensitiveFields_lawful_iff (heap : Heap α) (root : Value α) :
    RedactsLawfully heap root ↔ (NestedBelow heap MAX_DEPTH root → LeavesOwned heap root) := by
  constructor
  · intro lawful nested
    exact owned_of_kept (lawful.kept nested)
  · intro owned
    refine ⟨?_, ?_⟩
    · intro heap' root' related same agree
      exact (redact_same same MAX_DEPTH root root' [] [] agree .nil).1.symm
    · intro nested path value leaf opens reaches isLeaf
      exact redact_keeps (owned nested) MAX_DEPTH root [] []
        (fun _step none => (List.not_mem_nil none).elim) (.here root)
        (fun _id none => (List.not_mem_nil none).elim) nested path value leaf opens reaches isLeaf

/-! ### How far a copy goes -/

/-- No path is longer, and what lies at a sensitive key is the marker. -/
def RedactedWithin (levels : Nat) (tree : Tree α) : Prop :=
  ∀ path target, tree.At path target → path.length ≤ levels ∧
    ∀ front step, path = front ++ [step] → step.sensitive = true → target = .marker REDACTED

theorem mem_visitAll {visit : Value α → List Nat → Tree α × List Nat}
    {children : List (Step × Value α)} {seen : List Nat}
    (member : (step, tree) ∈ (visitAll visit children seen).1) :
    step.sensitive = true ∧ tree = .marker REDACTED ∨
      ¬step.sensitive = true ∧ ∃ value seen, tree = (visit value seen).1 := by
  induction children generalizing seen with
  | nil => cases member
  | cons child rest ih =>
      unfold visitAll at member
      split at member
      · rename_i secret
        rcases List.mem_cons.mp member with same | later
        · cases same
          exact Or.inl ⟨secret, rfl⟩
        · exact ih later
      · rename_i shown
        rcases List.mem_cons.mp member with same | later
        · cases same
          exact Or.inr ⟨shown, _, _, rfl⟩
        · exact ih later

theorem redact_within (heap : Heap α) (levels : Nat) (value : Value α) (seen : List Nat) :
    RedactedWithin levels (redact heap levels value seen).1 := by
  induction levels generalizing value seen with
  | zero =>
      intro path target found
      cases value <;> (cases found; simp)
  | succ levels ih =>
      intro path target found
      cases value with
      | null | primitive value =>
          cases found
          simp
      | reference id =>
          unfold redact at found
          split at found
          · cases found
            simp
          · cases found with
            | here => simp
            | child member below =>
                rcases mem_visitAll (List.mem_of_mem_filter member) with
                  ⟨_, rfl⟩ | ⟨shown, value, seen, rfl⟩
                · cases below
                  simp
                · obtain ⟨short, marked⟩ := ih value seen _ _ below
                  refine ⟨Nat.succ_le_succ short, fun front last same secret => ?_⟩
                  cases front with
                  | nil =>
                      cases same
                      exact absurd secret shown
                  | cons first front =>
                      cases same
                      exact marked front last rfl secret

/-- The copy of any graph, a cyclic one too, ends after six levels, and at whatever depth a
sensitive key lies, its value is the marker. -/
theorem redactSensitiveFields_within (heap : Heap α) (value : Value α) :
    RedactedWithin MAX_DEPTH (redactSensitiveFields heap value) :=
  redact_within heap MAX_DEPTH value []

/-! ### A leaf that is lost -/

def objectOf (children : List (Step × Value String))
    (placed : ∀ child ∈ children, child.1.isIndex = decide (Kind.object = .array))
    (distinct : (children.map Prod.fst).Nodup) : Node String :=
  { kind := .object, children, placed, distinct }

/-- One address is both that of the invoice and that of the delivery. -/
def sharedAddress : Heap String
  | 0 => objectOf [(.key "billing", .reference 1), (.key "shipping", .reference 1)]
      (by decide) (by decide)
  | _ => objectOf [(.key "city", .primitive "Oslo")] (by decide) (by decide)

theorem redactSensitiveFields_drops_sharedAddress :
    NestedBelow sharedAddress MAX_DEPTH (.reference 0) ∧
      ¬ RedactsLawfully sharedAddress (.reference 0) := by
  have nested : NestedBelow sharedAddress MAX_DEPTH (.reference 0) := by
    simp [MAX_DEPTH, NestedBelow, sharedAddress, objectOf]
  refine ⟨nested, ?_⟩
  intro lawful
  have city : Reaches sharedAddress (.reference 1) [.key "city"] (.primitive "Oslo") :=
    .child List.mem_cons_self (.here _)
  have opens : OpenPath [.key "shipping", .key "city"] := by
    unfold OpenPath
    decide +kernel
  have found := lawful.kept nested _ _ _ opens
    (.child (List.mem_cons_of_mem _ List.mem_cons_self) city) rfl
  have copy : redactSensitiveFields sharedAddress (.reference 0) =
      .node .object
        [(.key "billing", .node .object [(.key "city", .primitive "Oslo")] none),
          (.key "shipping", .marker "[Circular]")] none := by
    rfl
  rw [copy] at found
  cases found with
  | child member below =>
      cases below with
      | child inside onward => simp at member

end AudioBlock.Utils
