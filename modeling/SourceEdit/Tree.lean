import SourceEdit.Arena

/-!
# Ordered trees

A `Tree` carries a value and an ordered list of subtrees.  It is the plain form of what an arena
holds: `Arena.graft` copies a tree into an arena as a new detached node, and `Arena.view` reads the
tree below a node back.
-/

namespace SourceEdit

/-- A value with an ordered list of subtrees. -/
inductive Tree (α : Type) where
  | node (value : α) (children : List (Tree α))
deriving Repr

namespace Tree

variable {α : Type}

/-- What holds of a tree whenever it holds of its subtrees holds of every tree. -/
@[elab_as_elim]
theorem induction {motive : Tree α → Prop}
    (node : ∀ v cs, (∀ c ∈ cs, motive c) → motive (.node v cs)) : ∀ t, motive t := by
  intro t
  apply Tree.rec (motive_1 := motive) (motive_2 := fun cs => ∀ c ∈ cs, motive c)
  · exact node
  · simp
  · exact fun c cs hc hcs => List.forall_mem_cons.mpr ⟨hc, hcs⟩

instance [Inhabited α] : Inhabited (Tree α) := ⟨.node default []⟩

/-- The value at the root. -/
def value : Tree α → α
  | .node v _ => v

/-- The subtrees of the root. -/
def children : Tree α → List (Tree α)
  | .node _ cs => cs

/-- A tree without subtrees. -/
def leaf (v : α) : Tree α := .node v []

mutual

/-- The number of nodes. -/
def size : Tree α → Nat
  | .node _ cs => sizeAll cs + 1

/-- The number of nodes of a forest. -/
def sizeAll : List (Tree α) → Nat
  | [] => 0
  | t :: ts => t.size + sizeAll ts

end

mutual

/-- Decides whether trees are equal. -/
def decideEq [DecidableEq α] : (s t : Tree α) → Decidable (s = t)
  | .node v cs, .node w ds =>
    match decEq v w, decideEqAll cs ds with
    | isTrue hvalue, isTrue hchildren => isTrue (by rw [hvalue, hchildren])
    | isFalse hvalue, _ => isFalse fun h => hvalue (Tree.node.inj h).1
    | _, isFalse hchildren => isFalse fun h => hchildren (Tree.node.inj h).2

/-- Decides whether forests are equal. -/
def decideEqAll [DecidableEq α] : (ss ts : List (Tree α)) → Decidable (ss = ts)
  | [], [] => isTrue rfl
  | [], t :: ts => isFalse (List.cons_ne_nil t ts).symm
  | s :: ss, [] => isFalse (List.cons_ne_nil s ss)
  | s :: ss, t :: ts =>
    match decideEq s t, decideEqAll ss ts with
    | isTrue htree, isTrue hforest => isTrue (by rw [htree, hforest])
    | isFalse htree, _ => isFalse fun h => htree (List.cons.inj h).1
    | _, isFalse hforest => isFalse fun h => hforest (List.cons.inj h).2

end

instance [DecidableEq α] : DecidableEq (Tree α) := decideEq

end Tree

namespace Arena

variable {α : Type}

mutual

/-- Copies a tree into the arena; the copy is a detached node. -/
def graft (a : Arena α) : Tree α → Arena α × NodeId
  | .node v cs =>
    let (a, id) := a.alloc v
    (graftChildren a id cs, id)

/-- Copies a forest into the arena, each tree becoming the last child of `parent`. -/
def graftChildren (a : Arena α) (parent : NodeId) : List (Tree α) → Arena α
  | [] => a
  | t :: ts =>
    let (a, id) := graft a t
    graftChildren (a.appendChild parent id) parent ts

end

/-- Copies a forest into the arena; the copies are detached nodes. -/
def graftAll (a : Arena α) : List (Tree α) → Arena α × List NodeId
  | [] => (a, [])
  | t :: ts =>
    let (a, id) := a.graft t
    let (a, ids) := a.graftAll ts
    (a, id :: ids)

/-- The arena that holds a root value above a forest. -/
def ofForest (root : α) (ts : List (Tree α)) : Arena α :=
  (withRoot root).graftChildren 0 ts

/-- The tree below a node, to a given depth. -/
def viewTo [Inhabited α] (a : Arena α) : Nat → NodeId → Tree α
  | 0, id => .leaf ((a.get? id).getD default)
  | n + 1, id => .node ((a.get? id).getD default) ((a.children id).map (a.viewTo n))

/-- The tree below a node. -/
def view [Inhabited α] (a : Arena α) (id : NodeId) : Tree α := a.viewTo a.size id

end Arena

end SourceEdit
