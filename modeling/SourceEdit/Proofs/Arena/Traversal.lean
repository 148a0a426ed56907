import Mathlib.Data.List.Pairwise
import SourceEdit.Proofs.Arena.View
import SourceEdit.Proofs.Tree.Placement

/-!
# Going through an arena

`Arena.descendants` works off a list of pending nodes with the size of the arena as its fuel.  In a
well-formed arena that is enough: `Trace` says which nodes are met from a node on and in which order,
and no node is met twice.  So `descendants_eq` gives the descendants of a node by those of its
children, `mem_descendants_iff` says that they are the nodes below it, `pairwise_descendants` that no
node comes after one that is below it, and `values_view` that they carry the values of the tree below
the node, in order.

`isAttached_iff` is the same for the climb along parent links: the size of the arena is enough to
reach the root.
-/

namespace SourceEdit.Arena

variable {α : Type} {a : Arena α}

/-- What holds of a node whenever it holds of its children holds of every node. -/
@[elab_as_elim]
theorem WellFormed.induction_children {motive : NodeId → Prop} (hw : a.WellFormed)
    (step : ∀ x, (∀ c ∈ a.children x, motive c) → motive x) (x : NodeId) : motive x := by
  induction h : (a.strictlyBelow x).card using Nat.strong_induction_on generalizing x with
  | _ n ih =>
    subst h
    exact step x fun c hc => ih _ (hw.card_strictlyBelow_lt hc) c rfl

/-! ### Ancestors -/

/-- Of two nodes that a node is below, one is below the other. -/
theorem Below.total {x y z : NodeId} (hy : a.Below x y) (hz : a.Below x z) :
    a.Below y z ∨ a.Below z y :=
  Relation.ReflTransGen.total_of_right_unique
    (fun _ _ _ hp hq => Option.some.inj (hp.symm.trans hq)) hy hz

/-- A node below another one is that node or below one of its children. -/
theorem below_iff_children (hl : a.Linked) {x y : NodeId} :
    a.Below x y ↔ x = y ∨ ∃ c ∈ a.children y, a.Below x c := by
  constructor
  · intro h
    obtain rfl | ⟨c, hxc, hc⟩ := Relation.ReflTransGen.cases_tail h
    · exact .inl rfl
    · exact .inr ⟨c, (hl.mem_children_iff y c).mpr hc, hxc⟩
  · rintro (rfl | ⟨c, hc, hxc⟩)
    · exact .refl a x
    · exact hxc.trans (.of_parent? ((hl.mem_children_iff y c).mp hc))

/-- Nothing is below two children of one node. -/
theorem WellFormed.eq_of_below_children (hw : a.WellFormed) {p c d x : NodeId}
    (hc : c ∈ a.children p) (hd : d ∈ a.children p) (hxc : a.Below x c) (hxd : a.Below x d) :
    c = d := by
  have hcp := (hw.mem_children_iff p c).mp hc
  have hdp := (hw.mem_children_iff p d).mp hd
  -- the parent of the lower one would be below the other one, its own child
  have hone {c d : NodeId} (hcp : a.parent? c = some p) (hdp : a.parent? d = some p)
      (h : a.Below c d) : c = d := by
    obtain rfl | ⟨q, hq, hqd⟩ := below_iff.mp h
    · rfl
    · obtain rfl : p = q := Option.some.inj (hcp.symm.trans hq)
      exact absurd hqd (hw.not_below_child hdp)
  obtain h | h := hxc.total hxd
  · exact hone hcp hdp h
  · exact (hone hdp hcp h).symm

/-! ### The nodes met from a node on -/

/-- Working off a node meets the nodes of a list, which are below it and none of them below a later
one, and then goes on with the nodes that were pending besides. -/
structure Trace (a : Arena α) (x : NodeId) (met : List NodeId) : Prop where
  drain_eq (n : Nat) (pending : List NodeId) :
    a.drain (met.length + n) (x :: pending) = met ++ a.drain n pending
  below : ∀ y ∈ met, a.Below y x
  pairwise : met.Pairwise fun y z => ¬ a.Below y z

theorem nodup_of_pairwise_not_below {l : List NodeId} (h : l.Pairwise fun y z => ¬ a.Below y z) :
    l.Nodup := by
  refine List.nodup_iff_pairwise_ne.mpr (h.imp fun {y z} hyz => ?_)
  rintro rfl
  exact hyz (.refl a y)

/-- The nodes of a trace are different ones of the arena. -/
theorem Trace.length_le {x : NodeId} {met : List NodeId} (h : a.Trace x met) (hx : x < a.size) :
    met.length ≤ a.size := by
  have hnodup : met.Nodup := nodup_of_pairwise_not_below h.pairwise
  have hsub : met ⊆ List.range a.size := fun y hy =>
    List.mem_range.mpr ((h.below y hy).lt_size hx)
  simpa using (hnodup.subperm hsub).length_le

theorem Trace.descendants_eq {x : NodeId} {met : List NodeId} (h : a.Trace x met)
    (hx : x < a.size) : a.descendants x = met := by
  have hdrain := h.drain_eq (a.size - met.length) []
  rw [Nat.add_sub_cancel' (h.length_le hx)] at hdrain
  rw [descendants, hdrain]
  cases a.size - met.length <;> simp [drain]

/-- The nodes met from a node on are the node and those met from its children on, one child after
the other. -/
theorem WellFormed.trace_of_children (hw : a.WellFormed) {x : NodeId} {met : NodeId → List NodeId}
    (h : ∀ c ∈ a.children x, a.Trace c (met c)) :
    a.Trace x (x :: (a.children x).flatMap met) where
  drain_eq n pending := by
    have hchildren (cs : List NodeId) (hcs : ∀ c ∈ cs, a.Trace c (met c)) :
        a.drain ((cs.flatMap met).length + n) (cs ++ pending) =
          cs.flatMap met ++ a.drain n pending := by
      induction cs with
      | nil => simp
      | cons c cs ih =>
        rw [List.flatMap_cons, List.length_append, Nat.add_assoc, List.cons_append,
          (hcs c List.mem_cons_self).drain_eq, ih fun d hd => hcs d (List.mem_cons_of_mem _ hd),
          List.append_assoc]
    rw [List.length_cons, Nat.add_right_comm, drain, hchildren _ h, List.cons_append]
  below := by
    intro y hy
    obtain rfl | hy := List.mem_cons.mp hy
    · exact .refl a y
    · obtain ⟨c, hc, hy⟩ := List.mem_flatMap.mp hy
      exact ((h c hc).below y hy).trans (.of_parent? ((hw.mem_children_iff x c).mp hc))
  pairwise := by
    refine List.pairwise_cons.mpr ⟨fun y hy hxy => ?_, List.pairwise_flatMap.mpr ⟨fun c hc =>
      (h c hc).pairwise, ?_⟩⟩
    · obtain ⟨c, hc, hy⟩ := List.mem_flatMap.mp hy
      exact hw.not_below_child ((hw.mem_children_iff x c).mp hc) (hxy.trans ((h c hc).below y hy))
    · -- a node below a node of a later child would be below both children
      refine (hw.nodup_children x).imp_of_mem fun hc hd hne y hy z hz hyz => hne ?_
      exact hw.eq_of_below_children hc hd ((h _ hc).below y hy)
        (hyz.trans ((h _ hd).below z hz))

theorem WellFormed.trace_descendants (hw : a.WellFormed) {x : NodeId} (hx : x < a.size) :
    a.Trace x (a.descendants x) := by
  have hexists : ∀ x, ∃ met, a.Trace x met := by
    intro x
    induction x using hw.induction_children with
    | step x ih =>
      choose! met hmet using ih
      exact ⟨_, hw.trace_of_children hmet⟩
  obtain ⟨met, hmet⟩ := hexists x
  rwa [hmet.descendants_eq hx]

/-- The descendants of a node are the node and the descendants of its children. -/
theorem WellFormed.descendants_eq (hw : a.WellFormed) {x : NodeId} (hx : x < a.size) :
    a.descendants x = x :: (a.children x).flatMap a.descendants :=
  (hw.trace_of_children fun c hc => hw.trace_descendants
    (lt_size_of_parent? ((hw.mem_children_iff x c).mp hc))).descendants_eq hx

/-- The descendants of a node are the nodes below it. -/
theorem WellFormed.mem_descendants_iff (hw : a.WellFormed) {x y : NodeId} (hy : y < a.size) :
    x ∈ a.descendants y ↔ a.Below x y := by
  refine ⟨below_of_mem_descendants hw.toLinked, fun h => ?_⟩
  induction y using hw.induction_children with
  | step y ih =>
    rw [hw.descendants_eq hy]
    obtain rfl | ⟨c, hc, hxc⟩ := (below_iff_children hw.toLinked).mp h
    · exact List.mem_cons_self
    · have hlt := lt_size_of_parent? ((hw.mem_children_iff y c).mp hc)
      exact List.mem_cons_of_mem _ (List.mem_flatMap.mpr ⟨c, hc, ih c hc hlt hxc⟩)

/-- No descendant comes after one that is below it. -/
theorem WellFormed.pairwise_descendants (hw : a.WellFormed) {x : NodeId} (hx : x < a.size) :
    (a.descendants x).Pairwise fun y z => ¬ a.Below y z :=
  (hw.trace_descendants hx).pairwise

/-! ### Climbing to the root -/

theorem below_of_climbs {n : Nat} {x : NodeId} (h : a.climbs n x = true) : a.Below x a.root := by
  induction n generalizing x with
  | zero => exact eq_of_beq h ▸ .refl a x
  | succ n ih =>
    rw [climbs, Bool.or_eq_true] at h
    obtain h | h := h
    · exact eq_of_beq h ▸ .refl a x
    · split at h
      · next p hp => exact (Below.of_parent? hp).trans (ih h)
      · cases h

/-- A node is attached exactly if it is below the root. -/
theorem WellFormed.isAttached_iff (hw : a.WellFormed) {x : NodeId} :
    a.isAttached x = true ↔ a.Below x a.root := by
  refine ⟨below_of_climbs, fun h => ?_⟩
  -- every step up leaves more nodes below, and there are never more than the size
  have hclimbs (n : Nat) (hn : a.size ≤ n + (a.strictlyBelow x).card) : a.climbs n x = true := by
    induction h using Relation.ReflTransGen.head_induction_on generalizing n with
    | refl => cases n <;> simp [climbs]
    | @head x p hp _ ih =>
      have hlt := hw.card_strictlyBelow_lt ((hw.mem_children_iff p x).mpr hp)
      have hle := a.card_strictlyBelow_le p
      cases n with
      | zero => omega
      | succ n => simp [climbs, hp, ih n (by omega)]
  exact hclimbs a.size (Nat.le_add_right ..)

/-! ### The tree below a node -/

section View

variable [Inhabited α]

/-- The value that the tree below a node has at its root. -/
def valueAt (a : Arena α) (x : NodeId) : α := (a.get? x).getD default

theorem WellFormed.view_node (hw : a.WellFormed) (x : NodeId) :
    a.view x = .node (a.valueAt x) ((a.children x).map a.view) :=
  hw.view_eq x

/-- The descendants of a node carry the values of the tree below it. -/
theorem WellFormed.values_view (hw : a.WellFormed) {x : NodeId} (hx : x < a.size) :
    (a.view x).values = (a.descendants x).map a.valueAt := by
  induction x using hw.induction_children with
  | step x ih =>
    rw [hw.view_node, Tree.values_node, hw.descendants_eq hx, List.map_cons, List.map_flatMap,
      List.flatMap_map]
    congr 1
    exact List.flatMap_congr fun c hc =>
      ih c hc (lt_size_of_parent? ((hw.mem_children_iff x c).mp hc))

/-- The nodes below the root whose values satisfy a predicate, in document order. -/
def matching (a : Arena α) (p : α → Bool) : List NodeId :=
  (a.descendants a.root).filter fun x => p (a.valueAt x)

section Matching

variable {p : α → Bool}

theorem WellFormed.mem_matching_iff (hw : a.WellFormed) {x : NodeId} :
    x ∈ a.matching p ↔ a.Below x a.root ∧ p (a.valueAt x) = true := by
  rw [matching, List.mem_filter, hw.mem_descendants_iff hw.root_lt_size]

/-- No node that is found comes after one that is below it. -/
theorem WellFormed.pairwise_matching (hw : a.WellFormed) (p : α → Bool) :
    (a.matching p).Pairwise fun x y => ¬ a.Below x y :=
  (hw.pairwise_descendants hw.root_lt_size).filter _

theorem WellFormed.nodup_matching (hw : a.WellFormed) (p : α → Bool) : (a.matching p).Nodup :=
  nodup_of_pairwise_not_below (hw.pairwise_matching p)

theorem WellFormed.lt_size_of_mem_matching (hw : a.WellFormed) {x : NodeId}
    (hx : x ∈ a.matching p) : x < a.size :=
  (hw.mem_matching_iff.mp hx).1.lt_size hw.root_lt_size

/-- As many nodes are found as there are values in the tree. -/
theorem WellFormed.length_matching (hw : a.WellFormed) (p : α → Bool) :
    (a.matching p).length = (a.view a.root).values.countP p := by
  rw [matching, hw.values_view hw.root_lt_size, List.countP_map, List.countP_eq_length_filter]
  rfl

end Matching

/-- A node whose value satisfies a predicate, while the values of no nodes above it do. -/
def IsOutermost (a : Arena α) (p : α → Bool) (x : NodeId) : Prop :=
  p (a.valueAt x) = true ∧ ∀ y, a.Below x y → y ≠ x → p (a.valueAt y) = false

open Classical in
/-- The outermost descendants of the root carry the outermost values of the tree. -/
theorem WellFormed.outermost_view (hw : a.WellFormed) (p : α → Bool) :
    (a.view a.root).outermost p =
      ((a.descendants a.root).filter fun x => a.IsOutermost p x).map a.valueAt := by
  have habove (x : NodeId) (hx : x < a.size)
      (hfree : ∀ y, a.Below x y → y ≠ x → p (a.valueAt y) = false) :
      (a.view x).outermost p =
        ((a.descendants x).filter fun x => a.IsOutermost p x).map a.valueAt := by
    induction x using hw.induction_children with
    | step x ih =>
      have hchild (c : NodeId) (hc : c ∈ a.children x) := (hw.mem_children_iff x c).mp hc
      rw [hw.view_node, Tree.outermost_node, hw.descendants_eq hx]
      by_cases hp : p (a.valueAt x) = true
      · -- `x` itself stands above everything else that is met
        have hbelow : ∀ y ∈ (a.children x).flatMap a.descendants, ¬ a.IsOutermost p y := by
          intro y hy houter
          obtain ⟨c, hc, hy⟩ := List.mem_flatMap.mp hy
          have hyc := below_of_mem_descendants hw.toLinked hy
          have hne : x ≠ y := fun h => hw.not_below_child (hchild c hc) (h ▸ hyc)
          simpa [hp] using houter.2 x (hyc.trans (.of_parent? (hchild c hc))) hne
        have hself : a.IsOutermost p x := ⟨hp, hfree⟩
        rw [if_pos hp, List.filter_cons_of_pos (by simpa using hself),
          List.filter_eq_nil_iff.mpr (by simpa using hbelow), List.map_singleton]
      · have hself : ¬ a.IsOutermost p x := fun h => hp h.1
        rw [if_neg hp, List.filter_cons_of_neg (by simpa using hself), List.filter_flatMap,
          List.map_flatMap, List.flatMap_map]
        refine List.flatMap_congr fun c hc => ih c hc (lt_size_of_parent? (hchild c hc)) ?_
        intro y hcy hne
        obtain rfl | ⟨q, hq, hqy⟩ := below_iff.mp hcy
        · exact absurd rfl hne
        · obtain rfl : x = q := Option.some.inj ((hchild c hc).symm.trans hq)
          by_cases hyx : y = x
          · simpa [hyx] using hp
          · exact hfree y hqy hyx
  refine habove a.root hw.root_lt_size fun y hy hne => ?_
  exact absurd (hw.eq_root_of_below hy) hne

end View

end SourceEdit.Arena
