import SourceEdit.Proofs.Arena.Traversal

/-!
# Document order

`Arena.Precedes` is document order said by links alone: a node comes before the nodes below it, and
what is below one child of a node comes before what is below a later child.  It is a strict order in
a well-formed arena (`WellFormed.not_below_of_precedes`, `WellFormed.not_precedes_of_precedes`), and
the one in which descendants are listed (`WellFormed.pairwise_precedes_descendants`).

`Arena.Lists` says of a list of nodes that it holds the attached ones that satisfy a predicate, each
once and in document order.  There is one such list (`WellFormed.eq_of_lists`), and a search from the
root finds it (`WellFormed.lists_matching`).
-/

namespace SourceEdit.Arena

variable {α : Type} {a : Arena α} {x y : NodeId}

/-- One node comes before another one in document order: the second one is below it, or they are below
an earlier and a later child of one node. -/
inductive Precedes (a : Arena α) (x y : NodeId) : Prop
  | above (hbelow : a.Below y x) (hne : y ≠ x)
  | beside {p c d : NodeId} (hcd : [c, d].Sublist (a.children p)) (hx : a.Below x c)
      (hy : a.Below y d)

/-! ### A strict order -/

/-- Of two nodes that are below each other there is only one. -/
theorem WellFormed.eq_of_below_of_below (hw : a.WellFormed) (hxy : a.Below x y)
    (hyx : a.Below y x) : x = y := by
  obtain rfl | ⟨p, hp, hpy⟩ := below_iff.mp hxy
  · rfl
  · exact absurd (hpy.trans hyx) (hw.not_below_child hp)

/-- An earlier and a later child are two children. -/
private theorem WellFormed.children_of_sublist (hw : a.WellFormed) {p c d : NodeId}
    (hcd : [c, d].Sublist (a.children p)) : c ∈ a.children p ∧ d ∈ a.children p ∧ c ≠ d := by
  have hnodup := (hw.nodup_children p).sublist hcd
  exact ⟨hcd.mem (by simp), hcd.mem (by simp), by simpa using hnodup⟩

/-- No node comes before one that it is below. -/
theorem WellFormed.not_below_of_precedes (hw : a.WellFormed) (h : a.Precedes x y) :
    ¬ a.Below x y := by
  intro hxy
  cases h with
  | above hbelow hne => exact hne (hw.eq_of_below_of_below hbelow hxy)
  | beside hcd hx hy =>
    obtain ⟨hc, hd, hne⟩ := hw.children_of_sublist hcd
    exact hne (hw.eq_of_below_children hc hd hx (hxy.trans hy))

/-- Two nodes in a list without repetitions stand there in one order only. -/
private theorem not_sublist_of_sublist {c d : NodeId} {l : List NodeId} (h : l.Nodup)
    (hcd : [c, d].Sublist l) : ¬ [d, c].Sublist l := by
  intro hdc
  induction l with
  | nil => cases hcd
  | cons e l ih => grind

/-- Nodes that two different children of one node part have no other common ancestor below it. -/
private theorem WellFormed.eq_of_parted (hw : a.WellFormed) {p q c d : NodeId}
    (hc : c ∈ a.children q) (hd : d ∈ a.children q) (hne : c ≠ d) (hxc : a.Below x c)
    (hyd : a.Below y d) (hxp : a.Below x p) (hyp : a.Below y p) (hpq : a.Below p q) : p = q := by
  obtain hpq | ⟨e, he, hpe⟩ := (below_iff_children hw.toLinked).mp hpq
  · exact hpq
  · have hce : c = e := hw.eq_of_below_children hc he hxc (hxp.trans hpe)
    have hde : d = e := hw.eq_of_below_children hd he hyd (hyp.trans hpe)
    exact absurd (hce.trans hde.symm) hne

/-- No two nodes come before each other. -/
theorem WellFormed.not_precedes_of_precedes (hw : a.WellFormed) (h : a.Precedes x y) :
    ¬ a.Precedes y x := by
  intro h'
  cases h with
  | above hbelow _ => exact hw.not_below_of_precedes h' hbelow
  | @beside p c d hcd hxc hyd =>
    cases h' with
    | above hbelow _ => exact hw.not_below_of_precedes (.beside hcd hxc hyd) hbelow
    | @beside q d' c' hdc hyd' hxc' =>
      obtain ⟨hc, hd, hne⟩ := hw.children_of_sublist hcd
      obtain ⟨hd', hc', hne'⟩ := hw.children_of_sublist hdc
      have hbelow {p z e : NodeId} (hz : a.Below z e) (he : e ∈ a.children p) : a.Below z p :=
        hz.trans (.of_parent? ((hw.mem_children_iff p e).mp he))
      -- the two nodes part at one place only, and there they stand in one order
      have hpq : p = q := by
        obtain hpq | hqp := (hbelow hxc hc).total (hbelow hxc' hc')
        · exact hw.eq_of_parted hc' hd' hne'.symm hxc' hyd' (hbelow hxc hc) (hbelow hyd hd) hpq
        · exact (hw.eq_of_parted hc hd hne hxc hyd (hbelow hxc' hc') (hbelow hyd' hd') hqp).symm
      subst hpq
      obtain rfl : c = c' := hw.eq_of_below_children hc hc' hxc hxc'
      obtain rfl : d = d' := hw.eq_of_below_children hd hd' hyd hyd'
      exact not_sublist_of_sublist (hw.nodup_children p) hcd hdc

theorem WellFormed.nodup_of_pairwise_precedes (hw : a.WellFormed) {l : List NodeId}
    (h : l.Pairwise a.Precedes) : l.Nodup :=
  nodup_of_pairwise_not_below (h.imp hw.not_below_of_precedes)

/-- A list in document order is given by its members. -/
theorem WellFormed.eq_of_pairwise_precedes (hw : a.WellFormed) {l l' : List NodeId}
    (h : l.Pairwise a.Precedes) (h' : l'.Pairwise a.Precedes) (hmem : ∀ x, x ∈ l ↔ x ∈ l') :
    l = l' := by
  have hperm : l.Perm l' := (List.perm_ext_iff_of_nodup (hw.nodup_of_pairwise_precedes h)
    (hw.nodup_of_pairwise_precedes h')).mpr hmem
  exact hperm.eq_of_pairwise
    (fun x y _ _ hxy hyx => absurd hyx (hw.not_precedes_of_precedes hxy)) h h'

/-! ### Descendants in order -/

/-- Descendants are listed in document order. -/
theorem WellFormed.pairwise_precedes_descendants (hw : a.WellFormed) (hx : x < a.size) :
    (a.descendants x).Pairwise a.Precedes := by
  induction x using hw.induction_children with
  | step x ih =>
    have hchild (c : NodeId) (hc : c ∈ a.children x) : a.parent? c = some x :=
      (hw.mem_children_iff x c).mp hc
    rw [hw.descendants_eq hx, List.pairwise_cons, List.pairwise_flatMap]
    refine ⟨fun y hy => ?_, fun c hc => ih c hc (lt_size_of_parent? (hchild c hc)), ?_⟩
    · obtain ⟨c, hc, hyc⟩ := List.mem_flatMap.mp hy
      have hbelow : a.Below y c := below_of_mem_descendants hw.toLinked hyc
      refine .above (hbelow.trans (.of_parent? (hchild c hc))) ?_
      rintro rfl
      exact hw.not_below_child (hchild c hc) hbelow
    · refine List.pairwise_iff_forall_sublist.mpr fun {c d} hcd y hy z hz => ?_
      exact .beside hcd (below_of_mem_descendants hw.toLinked hy)
        (below_of_mem_descendants hw.toLinked hz)

/-! ### Searches from the root -/

/-- A list of the attached nodes with a value that satisfies a predicate, each of them once and in
document order. -/
structure Lists (a : Arena α) (q : α → Prop) (ids : List NodeId) : Prop where
  mem_iff (x : NodeId) : x ∈ ids ↔ a.isAttached x = true ∧ ∃ v, a.get? x = some v ∧ q v
  nodup : ids.Nodup
  pairwise : ids.Pairwise a.Precedes

/-- There is one such list. -/
theorem WellFormed.eq_of_lists (hw : a.WellFormed) {q : α → Prop} {l l' : List NodeId}
    (h : a.Lists q l) (h' : a.Lists q l') : l = l' :=
  hw.eq_of_pairwise_precedes h.pairwise h'.pairwise fun x =>
    (h.mem_iff x).trans (h'.mem_iff x).symm

/-- A search from the root lists the attached nodes, however many detached ones there are besides. -/
theorem WellFormed.lists_matching [Inhabited α] (hw : a.WellFormed) {p : α → Bool} {q : α → Prop}
    (hpq : ∀ v, p v = true ↔ q v) : a.Lists q (a.matching p) where
  mem_iff x := by
    rw [hw.mem_matching_iff, hw.isAttached_iff]
    refine and_congr_right fun hx => ?_
    obtain ⟨v, hv⟩ := exists_get?_eq_some (hx.lt_size hw.root_lt_size)
    simp [valueAt, hv, hpq]
  nodup := hw.nodup_matching p
  pairwise := (hw.pairwise_precedes_descendants hw.root_lt_size).filter _

end SourceEdit.Arena
