import Mathlib.Logic.Relation
import SourceEdit.Proofs.Arena.Operations

/-!
# Well-formed arenas

`Arena.WellFormed` is the invariant of an arena: its links agree, the root has no parent, and the
parent links do not run in circles.  The arena of a single node has it, and every operation keeps
it as long as no node is put under itself, under one of the nodes below it, or away from the root.

`Arena.Below` is the order that the parent links span.  An insertion is the only operation that adds
a link, so it is the only one that could close a circle; `WellFormed.insertChild` shows that it does
not when the new parent is not below the node that moves.

`Arena.Closed` says that the first nodes of an arena keep to themselves.  It is what makes the nodes
of a freshly read text safe to put anywhere among older ones.
-/

namespace SourceEdit.Arena

variable {α : Type} {a : Arena α}

/-! ### The invariant -/

/-- A node is below another one, or is that node. -/
def Below (a : Arena α) : NodeId → NodeId → Prop :=
  Relation.ReflTransGen fun c p => a.parent? c = some p

/-- The invariant of an arena. -/
structure WellFormed (a : Arena α) : Prop extends a.Linked where
  nonempty : 0 < a.size
  parent?_root : a.parent? a.root = none
  acyclic : WellFounded fun p c => a.parent? c = some p

/-- The nodes before the `n`-th one have their parents among themselves. -/
def Closed (a : Arena α) (n : Nat) : Prop := ∀ c p, c < n → a.parent? c = some p → p < n

/-! ### Nodes below others -/

theorem Below.refl (a : Arena α) (id : NodeId) : a.Below id id := Relation.ReflTransGen.refl

theorem Below.trans {x y z : NodeId} (hxy : a.Below x y) (hyz : a.Below y z) : a.Below x z :=
  Relation.ReflTransGen.trans hxy hyz

/-- A child is below its parent. -/
theorem Below.of_parent? {c p : NodeId} (h : a.parent? c = some p) : a.Below c p :=
  Relation.ReflTransGen.single h

/-- A node below another one is that node, or its parent is below the other one. -/
theorem below_iff {x y : NodeId} :
    a.Below x y ↔ x = y ∨ ∃ p, a.parent? x = some p ∧ a.Below p y := by
  constructor
  · intro h
    obtain rfl | ⟨p, hp, h⟩ := Relation.ReflTransGen.cases_head h
    · exact .inl rfl
    · exact .inr ⟨p, hp, h⟩
  · rintro (rfl | ⟨p, hp, h⟩)
    · exact .refl a x
    · exact (Below.of_parent? hp).trans h

/-- Only the root is above the root. -/
theorem WellFormed.eq_root_of_below (hw : a.WellFormed) {x : NodeId} (h : a.Below a.root x) :
    x = a.root := by
  obtain h | ⟨p, hp, -⟩ := below_iff.mp h
  · exact h.symm
  · simp [hw.parent?_root] at hp

/-- A node that has no parent is only below itself. -/
theorem eq_of_below_of_parent?_eq_none {x y : NodeId} (hx : a.parent? x = none)
    (h : a.Below x y) : x = y := by
  obtain h | ⟨p, hp, -⟩ := below_iff.mp h
  · exact h
  · simp [hx] at hp

/-- A parent is not below its child. -/
theorem WellFormed.not_below_child (hw : a.WellFormed) {c p : NodeId} (h : a.parent? c = some p) :
    ¬ a.Below p c := by
  intro hb
  induction c using hw.acyclic.induction generalizing p with
  | _ c ih =>
    obtain rfl | ⟨q, hq, hqc⟩ := below_iff.mp hb
    · exact ih p h h (.refl a p)
    · exact ih p h hq (hqc.trans (.of_parent? h))

/-- Nodes that are below others are in bounds when the others are. -/
theorem Below.lt_size {x y : NodeId} (h : a.Below x y) (hy : y < a.size) : x < a.size := by
  obtain rfl | ⟨p, hp, -⟩ := below_iff.mp h
  · exact hy
  · exact lt_size_of_parent? hp

/-- What is below a node in an arena with fewer links is below it in the full one. -/
theorem Below.mono {b : Arena α} {x y : NodeId}
    (hab : ∀ c p, a.parent? c = some p → b.parent? c = some p) (h : a.Below x y) : b.Below x y :=
  Relation.ReflTransGen.mono (fun c p hcp => hab c p hcp) _ _ h

theorem WellFormed.root_lt_size (hw : a.WellFormed) : a.root < a.size := hw.nonempty

/-! ### Nodes met from the root -/

/-- Working off a list of nodes only meets nodes below them. -/
theorem exists_below_of_mem_drain (hl : a.Linked) {n : Nat} {pending : List NodeId} {x : NodeId}
    (hx : x ∈ a.drain n pending) : ∃ y ∈ pending, a.Below x y := by
  induction n generalizing pending with
  | zero => simp [drain] at hx
  | succ n ih =>
    cases pending with
    | nil => simp [drain] at hx
    | cons id pending =>
      obtain rfl | hx := List.mem_cons.mp hx
      · exact ⟨x, List.mem_cons_self, .refl a x⟩
      · obtain ⟨y, hy, hxy⟩ := ih hx
        obtain hy | hy := List.mem_append.mp hy
        · have hyid : a.Below y id := .of_parent? ((hl.mem_children_iff id y).mp hy)
          exact ⟨id, List.mem_cons_self, hxy.trans hyid⟩
        · exact ⟨y, List.mem_cons_of_mem _ hy, hxy⟩

/-- The descendants of a node are below it. -/
theorem below_of_mem_descendants (hl : a.Linked) {x y : NodeId} (hx : x ∈ a.descendants y) :
    a.Below x y := by
  obtain ⟨z, hz, hxz⟩ := exists_below_of_mem_drain hl hx
  exact List.mem_singleton.mp hz ▸ hxz

/-- What is met from the root is a node. -/
theorem WellFormed.lt_size_of_mem_descendants (hw : a.WellFormed) {x : NodeId}
    (hx : x ∈ a.descendants a.root) : x < a.size :=
  (below_of_mem_descendants hw.toLinked hx).lt_size hw.root_lt_size

/-! ### The operations keep the invariant -/

theorem WellFormed.withRoot (v : α) : (withRoot v).WellFormed where
  toLinked := .withRoot v
  nonempty := Nat.one_pos
  parent?_root := rfl
  acyclic := ⟨fun c => .intro c fun p h => by
    cases c <;> simp [Arena.withRoot, parent?] at h⟩

theorem WellFormed.alloc (hw : a.WellFormed) (v : α) : (a.alloc v).1.WellFormed where
  toLinked := hw.toLinked.alloc v
  nonempty := by simp
  parent?_root := (parent?_alloc v _).trans hw.parent?_root
  acyclic := by simpa using hw.acyclic

theorem WellFormed.modifyValue (hw : a.WellFormed) (id : NodeId) (f : α → α) :
    (a.modifyValue id f).WellFormed where
  toLinked := hw.toLinked.modifyValue id f
  nonempty := by simpa using hw.nonempty
  parent?_root := (parent?_modifyValue id _ f).trans hw.parent?_root
  acyclic := by simpa using hw.acyclic

theorem WellFormed.detach (hw : a.WellFormed) (id : NodeId) : (a.detach id).WellFormed where
  toLinked := hw.toLinked.detach id
  nonempty := by simpa using hw.nonempty
  parent?_root := by
    rw [parent?_detach]
    split
    · rfl
    · exact hw.parent?_root
  acyclic := by
    refine Subrelation.wf ?_ hw.acyclic
    intro p c h
    rw [parent?_detach] at h
    split at h
    · cases h
    · exact h

/-- Several nodes may be detached one by one. -/
theorem WellFormed.foldl_detach (hw : a.WellFormed) (ids : List NodeId) :
    (ids.foldl Arena.detach a).WellFormed := by
  induction ids generalizing a with
  | nil => exact hw
  | cons id ids ih => exact ih (hw.detach id)

theorem WellFormed.clearChildren (hw : a.WellFormed) (id : NodeId) :
    (a.clearChildren id).WellFormed where
  toLinked := hw.toLinked.clearChildren id
  nonempty := by simpa using hw.nonempty
  parent?_root := by
    rw [hw.parent?_clearChildren]
    split
    · rfl
    · exact hw.parent?_root
  acyclic := by
    refine Subrelation.wf ?_ hw.acyclic
    intro p c h
    rw [hw.parent?_clearChildren] at h
    split at h
    · cases h
    · exact h

/-- An insertion closes no circle when the new parent is not below the node that moves: the parent
links from there on up are the old ones, and every other chain of links ends in them. -/
theorem WellFormed.acyclic_insertChild (hw : a.WellFormed) {p c : NodeId} (i : Nat)
    (hc : c < a.size) (hpc : ¬ a.Below p c) :
    WellFounded fun q x => (a.insertChild p i c).parent? x = some q := by
  have hlink (x : NodeId) := parent?_insertChild p i hc x
  -- away from the node that moves, the old chains are the new ones
  have haway (x : NodeId) (hx : ¬ a.Below x c) :
      Acc (fun q x => (a.insertChild p i c).parent? x = some q) x := by
    induction x using hw.acyclic.induction with
    | _ x ih =>
      refine .intro x fun q hq => ?_
      have hne : x ≠ c := fun h => hx (h ▸ .refl a x)
      rw [hlink, if_neg hne] at hq
      exact ih q hq fun h => hx ((Below.of_parent? hq).trans h)
  have hmoved : Acc (fun q x => (a.insertChild p i c).parent? x = some q) c := by
    refine .intro c fun q hq => ?_
    rw [hlink, if_pos rfl] at hq
    exact Option.some.inj hq ▸ haway p hpc
  refine ⟨fun x => ?_⟩
  induction x using hw.acyclic.induction with
  | _ x ih =>
    by_cases hx : x = c
    · exact hx ▸ hmoved
    · refine .intro x fun q hq => ih q ?_
      rwa [hlink, if_neg hx] at hq

/-- A node may be put under any node that is not below it. -/
theorem WellFormed.insertChild (hw : a.WellFormed) {p c : NodeId} (hp : p < a.size) (i : Nat)
    (hc : c < a.size) (hroot : c ≠ a.root) (hpc : ¬ a.Below p c) :
    (a.insertChild p i c).WellFormed where
  toLinked := hw.toLinked.insertChild hp i hc
  nonempty := by simpa using hw.nonempty
  parent?_root := by
    rw [parent?_insertChild p i hc]
    exact (if_neg (Ne.symm hroot)).trans hw.parent?_root
  acyclic := hw.acyclic_insertChild i hc hpc

/-- A node may be put at the end of any node that is not below it. -/
theorem WellFormed.appendChild (hw : a.WellFormed) {p c : NodeId} (hp : p < a.size)
    (hc : c < a.size) (hroot : c ≠ a.root) (hpc : ¬ a.Below p c) :
    (a.appendChild p c).WellFormed :=
  hw.insertChild hp _ hc hroot hpc

/-! ### The first nodes of an arena -/

/-- What is above one of the first nodes is one of them. -/
theorem Closed.lt_of_below {n : Nat} (hn : a.Closed n) {x y : NodeId} (hx : x < n)
    (h : a.Below x y) : y < n := by
  induction h with
  | refl => exact hx
  | tail _ hp ih => exact hn _ _ ih hp

/-- All nodes of an arena keep to themselves. -/
theorem Linked.closed_size (hl : a.Linked) : a.Closed a.size := fun c p _ h =>
  lt_size_of_mem_children ((hl.mem_children_iff p c).mpr h)

/-- A new node comes after the first ones. -/
theorem Closed.alloc {n : Nat} (hn : a.Closed n) (v : α) : (a.alloc v).1.Closed n := by
  simpa [Closed] using hn

theorem Closed.modifyValue {n : Nat} (hn : a.Closed n) (id : NodeId) (f : α → α) :
    (a.modifyValue id f).Closed n := by
  simpa [Closed] using hn

/-- A detached node has no parent. -/
theorem Closed.detach {n : Nat} (hn : a.Closed n) (id : NodeId) : (a.detach id).Closed n := by
  intro c p hc h
  rw [parent?_detach] at h
  split at h
  · cases h
  · exact hn c p hc h

/-- Any node may be put under one of the first ones. -/
theorem Closed.insertChild {n : Nat} (hn : a.Closed n) {p c : NodeId} (hp : p < n) (i : Nat)
    (hc : c < a.size) : (a.insertChild p i c).Closed n := by
  intro x q hx h
  rw [parent?_insertChild p i hc] at h
  split at h
  · exact Option.some.inj h ▸ hp
  · exact hn x q hx h

/-- A later node goes under one of the first nodes without harm. -/
theorem WellFormed.insertChild_of_closed (hw : a.WellFormed) {n : Nat} (hn : a.Closed n)
    {p c : NodeId} (hp : p < n) (i : Nat) (hc : c < a.size) (hnc : n ≤ c) :
    (a.insertChild p i c).WellFormed := by
  have hbelow : ¬ a.Below p c := fun h => absurd (hn.lt_of_below hp h) (Nat.not_lt.mpr hnc)
  refine hw.insertChild (Nat.lt_trans (Nat.lt_of_lt_of_le hp hnc) hc) i hc ?_ hbelow
  rintro rfl
  exact absurd hp (Nat.not_lt.mpr (Nat.le_trans hnc (Nat.zero_le p)))

end SourceEdit.Arena
