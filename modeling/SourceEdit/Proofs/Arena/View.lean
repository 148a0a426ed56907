import Mathlib.Data.Finset.Card
import Mathlib.Data.Finset.Range
import SourceEdit.Proofs.Arena.WellFormed

/-!
# The tree below a node

`Arena.view` reads a tree off an arena with the size of the arena as its fuel.  That is always
enough in a well-formed arena: the set of nodes strictly below a node gets smaller with every step
down, and `viewTo_of_size_le` shows that more fuel changes nothing.  From it follow the equation
`view_eq`, by which the tree below a node is read off its child list, and the frame rule
`view_congr`: the tree below a node only depends on the nodes below it.

`Arena.Extends` relates an arena to a larger one that keeps all its nodes as they are.
-/

namespace SourceEdit.Arena

variable {α : Type} {a b : Arena α}

/-! ### The nodes below a node -/

open Classical in
/-- The nodes strictly below a node. -/
noncomputable def strictlyBelow (a : Arena α) (x : NodeId) : Finset NodeId :=
  (Finset.range a.size).filter fun y => a.Below y x ∧ y ≠ x

theorem mem_strictlyBelow {x y : NodeId} :
    y ∈ a.strictlyBelow x ↔ y < a.size ∧ a.Below y x ∧ y ≠ x := by
  simp [strictlyBelow]

/-- A child has fewer nodes below it than its parent: the child itself is one of those that it
lacks. -/
theorem WellFormed.card_strictlyBelow_lt (hw : a.WellFormed) {c p : NodeId}
    (hc : c ∈ a.children p) : (a.strictlyBelow c).card < (a.strictlyBelow p).card := by
  have hcp : a.parent? c = some p := (hw.mem_children_iff p c).mp hc
  refine Finset.card_lt_card ((Finset.ssubset_iff_of_subset fun y hy => ?_).mpr ⟨c, ?_, ?_⟩)
  · obtain ⟨hlt, hbelow, hne⟩ := mem_strictlyBelow.mp hy
    refine mem_strictlyBelow.mpr ⟨hlt, hbelow.trans (.of_parent? hcp), ?_⟩
    rintro rfl
    exact hw.not_below_child hcp hbelow
  · refine mem_strictlyBelow.mpr ⟨lt_size_of_parent? hcp, .of_parent? hcp, ?_⟩
    rintro rfl
    exact hw.not_below_child hcp (.refl a c)
  · exact fun h => (mem_strictlyBelow.mp h).2.2 rfl

theorem card_strictlyBelow_le (a : Arena α) (x : NodeId) :
    (a.strictlyBelow x).card ≤ a.size := by
  have hsub : a.strictlyBelow x ⊆ Finset.range a.size := fun y hy =>
    Finset.mem_range.mpr (mem_strictlyBelow.mp hy).1
  exact (Finset.card_le_card hsub).trans_eq (Finset.card_range a.size)

/-! ### Enough fuel -/

section View

variable [Inhabited α]

/-- Fuel beyond the number of nodes below a node is not used. -/
theorem WellFormed.viewTo_succ (hw : a.WellFormed) {n : Nat} {x : NodeId}
    (hn : (a.strictlyBelow x).card ≤ n) : a.viewTo (n + 1) x = a.viewTo n x := by
  induction n generalizing x with
  | zero =>
    have hnil : a.children x = [] := List.eq_nil_iff_forall_not_mem.mpr fun c hc =>
      absurd (hw.card_strictlyBelow_lt hc) (by omega)
    simp [viewTo, hnil, Tree.leaf]
  | succ n ih =>
    have hchildren : (a.children x).map (a.viewTo (n + 1)) = (a.children x).map (a.viewTo n) :=
      List.map_congr_left fun c hc => ih (by have := hw.card_strictlyBelow_lt hc; omega)
    rw [viewTo, hchildren]
    rfl

/-- Every amount of fuel from the size of the arena on gives the same tree. -/
theorem WellFormed.viewTo_of_size_le (hw : a.WellFormed) {n : Nat} (hn : a.size ≤ n)
    (x : NodeId) : a.viewTo n x = a.view x := by
  induction n, hn using Nat.le_induction with
  | base => rfl
  | succ n hn ih =>
    rw [hw.viewTo_succ ((a.card_strictlyBelow_le x).trans hn), ih]

/-- The tree below a node has the trees below its children as its subtrees. -/
theorem WellFormed.view_eq (hw : a.WellFormed) (x : NodeId) :
    a.view x = .node ((a.get? x).getD default) ((a.children x).map a.view) := by
  rw [← hw.viewTo_of_size_le (Nat.le_succ a.size)]
  rfl

/-! ### The frame rule -/

private theorem viewTo_congr {x : NodeId} (hl : a.Linked)
    (h : ∀ y, a.Below y x → b.children y = a.children y ∧ b.get? y = a.get? y) (n : Nat) :
    b.viewTo n x = a.viewTo n x := by
  induction n generalizing x with
  | zero => simp [viewTo, (h x (.refl a x)).2]
  | succ n ih =>
    obtain ⟨hchildren, hvalue⟩ := h x (.refl a x)
    have htrees : (a.children x).map (b.viewTo n) = (a.children x).map (a.viewTo n) :=
      List.map_congr_left fun c hc => ih fun y hy =>
        h y (hy.trans (.of_parent? ((hl.mem_children_iff x c).mp hc)))
    rw [viewTo, viewTo, hchildren, hvalue, htrees]

/-- The tree below a node only depends on the values and children of the nodes below it. -/
theorem WellFormed.view_congr (ha : a.WellFormed) (hb : b.WellFormed) {x : NodeId}
    (h : ∀ y, a.Below y x → b.children y = a.children y ∧ b.get? y = a.get? y) :
    b.view x = a.view x := by
  rw [← ha.viewTo_of_size_le (Nat.le_max_left a.size b.size),
    ← hb.viewTo_of_size_le (Nat.le_max_right a.size b.size), viewTo_congr ha.toLinked h]

end View

/-! ### Larger arenas -/

/-- All nodes of the first arena stand unchanged in the second one. -/
structure Extends (a b : Arena α) : Prop where
  size_le : a.size ≤ b.size
  parent?_eq (x : NodeId) : x < a.size → b.parent? x = a.parent? x
  children_eq (x : NodeId) : x < a.size → b.children x = a.children x
  get?_eq (x : NodeId) : x < a.size → b.get? x = a.get? x

theorem Extends.refl (a : Arena α) : a.Extends a :=
  ⟨Nat.le_refl _, fun _ _ => rfl, fun _ _ => rfl, fun _ _ => rfl⟩

theorem Extends.trans {c : Arena α} (hab : a.Extends b) (hbc : b.Extends c) : a.Extends c where
  size_le := hab.size_le.trans hbc.size_le
  parent?_eq x hx := (hbc.parent?_eq x (hx.trans_le hab.size_le)).trans (hab.parent?_eq x hx)
  children_eq x hx := (hbc.children_eq x (hx.trans_le hab.size_le)).trans (hab.children_eq x hx)
  get?_eq x hx := (hbc.get?_eq x (hx.trans_le hab.size_le)).trans (hab.get?_eq x hx)

theorem Extends.alloc (a : Arena α) (v : α) : a.Extends (a.alloc v).1 where
  size_le := by simp
  parent?_eq x _ := parent?_alloc v x
  children_eq x _ := children_alloc v x
  get?_eq x hx := by rw [get?_alloc, if_neg hx.ne]

/-- The old nodes of a larger arena keep to themselves. -/
theorem Extends.closed (hab : a.Extends b) (hl : a.Linked) : b.Closed a.size := by
  intro c p hc h
  rw [hab.parent?_eq c hc] at h
  exact hl.closed_size c p hc h

/-- Old nodes keep the trees below them. -/
theorem Extends.view_eq [Inhabited α] (hab : a.Extends b) (ha : a.WellFormed)
    (hb : b.WellFormed) {x : NodeId} (hx : x < a.size) : b.view x = a.view x :=
  ha.view_congr hb fun _ hy =>
    have hlt := hy.lt_size hx
    ⟨hab.children_eq _ hlt, hab.get?_eq _ hlt⟩

end SourceEdit.Arena
