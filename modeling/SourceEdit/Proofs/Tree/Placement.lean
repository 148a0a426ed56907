import Mathlib.Data.List.Basic
import SourceEdit.Tree

/-!
# Putting a forest into a tree

A `Placement` says where a forest goes with respect to a node: beside the node, among its children,
or in the place of the node or of its children.  `Tree.placing` puts a forest at a placement of every
node whose value satisfies a predicate.  It gives a forest itself, since the root may be one of these
nodes.  The forest that is put in is not gone into, so each node of the tree is looked at once.

Placements that discard what stands below a node discard the nodes there as well, whether the
predicate holds of them or not.  What is left of the nodes that satisfy a predicate when those below
others are left out are the `Tree.outermost` ones.
-/

namespace SourceEdit

/-- Where a forest goes with respect to a node. -/
inductive Placement where
  | before
  | after
  | prepend
  | inside
  /-- In the place of the node. -/
  | instead
  /-- In the place of the children of the node. -/
  | within
deriving DecidableEq, Repr

namespace Placement

variable {β γ : Type}

/-- What stands in the slot of an item that new ones are put at. -/
def around (new : List β) (item : β) : Placement → List β
  | .before => new ++ [item]
  | .after => item :: new
  | .instead => new
  | .prepend | .inside | .within => [item]

/-- What stands below an item that new ones are put at, given what stood there. -/
def among (new old : List β) : Placement → List β
  | .prepend => new ++ old
  | .inside => old ++ new
  | .within => new
  | .before | .after | .instead => old

/-- Whether the nodes below a node are discarded. -/
def discards : Placement → Bool
  | .instead | .within => true
  | _ => false

theorem map_around (f : β → γ) (new : List β) (item : β) (k : Placement) :
    (k.around new item).map f = k.around (new.map f) (f item) := by
  cases k <;> simp [around]

theorem map_among (f : β → γ) (new old : List β) (k : Placement) :
    (k.among new old).map f = k.among (new.map f) (old.map f) := by
  cases k <;> simp [among]

theorem mem_around {new : List β} {item x : β} {k : Placement} (h : x ∈ k.around new item) :
    x ∈ new ∨ x = item := by
  cases k <;> grind [around]

/-- New items that a change does not touch can be put among others before or after it. -/
theorem flatMap_among {f : β → List β} {new : List β} (h : new.flatMap f = new) {old : List β}
    {k : Placement} : (k.among new old).flatMap f = k.among new (old.flatMap f) := by
  cases k <;> simp [among, h]

/-- What was below a node is not seen if it is discarded. -/
theorem around_node_of_discards {k : Placement} (hk : k.discards = true) (new : List (Tree β))
    (v : β) (old old' : List (Tree β)) :
    k.around new (.node v (k.among new old)) = k.around new (.node v (k.among new old')) := by
  cases k with
  | instead | within => rfl
  | _ => cases hk

end Placement

namespace Tree

variable {α : Type}

/-! ### The values of a tree -/

mutual

/-- The values of a tree, each before the values below it. -/
def values : Tree α → List α
  | .node v cs => v :: valuesAll cs

/-- The values of a forest. -/
def valuesAll : List (Tree α) → List α
  | [] => []
  | t :: ts => t.values ++ valuesAll ts

end

theorem valuesAll_eq (ts : List (Tree α)) : valuesAll ts = ts.flatMap values := by
  induction ts with
  | nil => rfl
  | cons t ts ih => rw [valuesAll, ih, List.flatMap_cons]

theorem values_node (v : α) (cs : List (Tree α)) : (node v cs).values = v :: cs.flatMap values := by
  rw [values, valuesAll_eq]

mutual

/-- The values of a tree that satisfy a predicate and do not stand below another one that does. -/
def outermost (p : α → Bool) : Tree α → List α
  | .node v cs => if p v then [v] else outermostAll p cs

/-- The values of a forest that satisfy a predicate and do not stand below another one that does. -/
def outermostAll (p : α → Bool) : List (Tree α) → List α
  | [] => []
  | t :: ts => t.outermost p ++ outermostAll p ts

end

theorem outermostAll_eq (p : α → Bool) (ts : List (Tree α)) :
    outermostAll p ts = ts.flatMap (outermost p) := by
  induction ts with
  | nil => rfl
  | cons t ts ih => rw [outermostAll, ih, List.flatMap_cons]

theorem outermost_node (p : α → Bool) (v : α) (cs : List (Tree α)) :
    (node v cs).outermost p = if p v then [v] else cs.flatMap (outermost p) := by
  rw [outermost, outermostAll_eq]

/-! ### Placing a forest -/

mutual

/-- Puts a forest at a placement of every node whose value satisfies a predicate. -/
def placing (k : Placement) (p : α → Bool) (new : List (Tree α)) : Tree α → List (Tree α)
  | .node v cs =>
    let cs := placingAll k p new cs
    if p v then k.around new (.node v (k.among new cs)) else [.node v cs]

/-- Puts a forest at a placement of every node of a forest whose value satisfies a predicate. -/
def placingAll (k : Placement) (p : α → Bool) (new : List (Tree α)) :
    List (Tree α) → List (Tree α)
  | [] => []
  | t :: ts => placing k p new t ++ placingAll k p new ts

end

section Placing

variable (k : Placement) (p : α → Bool) (new : List (Tree α))

theorem placingAll_eq (ts : List (Tree α)) :
    placingAll k p new ts = ts.flatMap (placing k p new) := by
  induction ts with
  | nil => rfl
  | cons t ts ih => rw [placingAll, ih, List.flatMap_cons]

theorem placing_node (v : α) (cs : List (Tree α)) :
    placing k p new (.node v cs) =
      if p v then k.around new (.node v (k.among new (cs.flatMap (placing k p new))))
      else [.node v (cs.flatMap (placing k p new))] := by
  rw [placing, placingAll_eq]

/-- Nested nodes are worked on one inside the other, and what is put in is not. -/
example : placing .after (· == 1) [leaf 1] (.node 0 [.node 1 [leaf 1]]) =
    [.node 0 [.node 1 [leaf 1, leaf 1], leaf 1]] := rfl

/-- When a forest has taken the place of the nodes whose values satisfy a predicate, no values satisfy
it but those of the forest. -/
theorem eq_false_of_mem_placing_instead (hnew : ∀ v ∈ new.flatMap values, p v = false) (t : Tree α) :
    ∀ v ∈ (placing .instead p new t).flatMap values, p v = false := by
  induction t using Tree.induction with
  | node v cs ih =>
    rw [placing_node]
    by_cases hv : p v = true
    · simpa [hv, Placement.around] using hnew
    · have hbelow : ∀ w ∈ (cs.flatMap (placing .instead p new)).flatMap values, p w = false := by
        intro w hw
        rw [List.flatMap_assoc] at hw
        obtain ⟨c, hc, hw⟩ := List.mem_flatMap.mp hw
        exact ih c hc w hw
      rw [if_neg hv, List.flatMap_singleton, values_node]
      exact List.forall_mem_cons.mpr ⟨by simpa using hv, hbelow⟩

/-- A forest that takes the place of the children of nodes takes it once and for all. -/
theorem flatMap_placing_within (t : Tree α) :
    (placing .within p new t).flatMap (placing .within p new) = placing .within p new t := by
  induction t using Tree.induction with
  | node v cs ih =>
    have hcs : (cs.flatMap (placing .within p new)).flatMap (placing .within p new) =
        cs.flatMap (placing .within p new) := by
      rw [List.flatMap_assoc]
      exact List.flatMap_congr ih
    by_cases hv : p v = true
    · simp [placing_node, hv, Placement.around, Placement.among]
    · simp [placing_node, hv, hcs]

end Placing

end Tree

end SourceEdit
