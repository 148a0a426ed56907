import SourceEdit.Proofs.Arena.Placing
import SourceEdit.Proofs.Arena.Values
import SourceEdit.Proofs.Tree.Rewriting

/-!
# Rewritings of the tree in an arena

What a change of an arena makes of the tree below the root, told by what it does to single nodes.
`WellFormed.mapChildren_view` is for changes of child lists and of the values in them: if they come
out right below every node, the tree has been rewritten by `Tree.mapChildren`.  `Placed.view_inside` is for a
single node that gets more children, and `Placed.replaceFirst?_view` for a single node that is
replaced and has been the first one that was found.
-/

namespace SourceEdit.Arena

variable {α : Type} [Inhabited α] {a b : Arena α} {p : α → Bool}

/-! ### Links -/

/-- The links of the tree below a node are those between the descendants of the node and their
children. -/
theorem WellFormed.links_view (hw : a.WellFormed) {x : NodeId} (hx : x < a.size) :
    (a.view x).links = (a.descendants x).flatMap fun y =>
      (a.children y).map fun c => (a.valueAt y, a.valueAt c) := by
  have hvalue (c : NodeId) : (a.view c).value = a.valueAt c := by
    rw [hw.view_node]
    rfl
  induction x using hw.induction_children with
  | step x ih =>
    rw [hw.view_node, Tree.links_node, hw.descendants_eq hx, List.flatMap_cons, List.flatMap_assoc,
      List.map_map, List.flatMap_map]
    congr 1
    · exact List.map_congr_left fun c _ => by rw [Function.comp, hvalue]
    · exact List.flatMap_congr fun c hc =>
        ih c hc (lt_size_of_parent? ((hw.mem_children_iff x c).mp hc))

/-- The children that satisfy a predicate, counted over all nodes that are found. -/
theorem WellFormed.countP_links_view (hw : a.WellFormed) (p q : α → Bool) :
    (a.view a.root).links.countP (fun link => p link.1 && q link.2) =
      ((a.matching p).flatMap fun x => (a.children x).filter fun c => q (a.valueAt c)).length := by
  have hone (x : NodeId) :
      ((a.children x).map fun c => (a.valueAt x, a.valueAt c)).countP
          (fun link => p link.1 && q link.2) =
        if p (a.valueAt x) then ((a.children x).filter fun c => q (a.valueAt c)).length else 0 := by
    rw [List.countP_map, ← List.countP_eq_length_filter]
    by_cases hp : p (a.valueAt x) = true <;> simp [Function.comp_def, hp]
  rw [hw.links_view hw.root_lt_size, matching]
  induction a.descendants a.root with
  | nil => rfl
  | cons x l ih =>
    rw [List.flatMap_cons, List.countP_append, hone, ih]
    by_cases hp : p (a.valueAt x) = true <;> simp [hp]

/-! ### Child lists -/

/-- If the trees below the children come out as a rewriting of the list of them demands, below every
node, then the tree has been rewritten. The value of a child is as it was in `tree`; whether it changes is a
matter of the rewriting. -/
theorem WellFormed.mapChildren_view (ha : a.WellFormed) {f : List (Tree α) → List (Tree α)}
    (h : let tree := fun x => Tree.node (a.valueAt x) ((b.children x).map b.view)
      ∀ x, a.Below x a.root → (b.children x).map b.view =
        if p (a.valueAt x) then f ((a.children x).map tree) else (a.children x).map tree) :
    (a.view a.root).mapChildren p f =
      .node (a.valueAt a.root) ((b.children a.root).map b.view) := by
  have hbelow (x : NodeId) (hx : a.Below x a.root) :
      (a.view x).mapChildren p f = .node (a.valueAt x) ((b.children x).map b.view) := by
    induction x using ha.induction_children with
    | step x ih =>
      have hchildren : ((a.children x).map a.view).map (Tree.mapChildren p f) =
          (a.children x).map fun c => .node (a.valueAt c) ((b.children c).map b.view) := by
        rw [List.map_map]
        exact List.map_congr_left fun c hc =>
          ih c hc ((Below.of_parent? ((ha.mem_children_iff x c).mp hc)).trans hx)
      rw [ha.view_node, Tree.mapChildren_node, hchildren, h x hx]
  exact hbelow a.root (.refl a _)

section Children

variable {q : α → Bool} {ids : List NodeId}

/-- If the values of those children have been changed that satisfy one predicate, below the nodes that
satisfy another one, then they have been changed in the tree. -/
theorem WellFormed.mapChildren_foldl_modifyValue (ha : a.WellFormed) {f : α → α}
    (hf : ∀ v, f (f v) = f v) (hroot : a.root ∉ ids)
    (hids : ∀ x, a.Below x a.root → ∀ c ∈ a.children x,
      (c ∈ ids ↔ p (a.valueAt x) = true ∧ q (a.valueAt c) = true)) :
    let b := ids.foldl (fun a id => a.modifyValue id f) a
    (a.view a.root).mapChildren p (List.map (Tree.mapValue fun v => if q v then f v else v)) =
      b.view b.root := by
  intro b
  have hb : b.WellFormed := ha.foldl_modifyValue f ids
  have hview (x : NodeId) (hx : x < a.size) : b.view x =
      .node (if x ∈ ids then f (a.valueAt x) else a.valueAt x) ((b.children x).map b.view) := by
    obtain ⟨v, hv⟩ := exists_get?_eq_some hx
    rw [hb.view_node, valueAt, valueAt, get?_foldl_modifyValue hf, hv]
    split <;> rfl
  have hend : b.view b.root = .node (a.valueAt a.root) ((b.children a.root).map b.view) := by
    refine (hview a.root ha.root_lt_size).trans ?_
    rw [if_neg hroot]
  rw [hend]
  refine ha.mapChildren_view fun x hx => ?_
  have hlt (c : NodeId) (hc : c ∈ a.children x) : c < a.size :=
    lt_size_of_parent? ((ha.mem_children_iff x c).mp hc)
  rw [children_foldl_modifyValue]
  by_cases hp : p (a.valueAt x) = true
  · rw [if_pos hp, List.map_map]
    refine List.map_congr_left fun c hc => ?_
    simp only [hview c (hlt c hc), hids x hx c hc, hp, true_and, Function.comp, Tree.mapValue]
  · rw [if_neg hp]
    refine List.map_congr_left fun c hc => ?_
    simp only [hview c (hlt c hc), hids x hx c hc, hp, Bool.false_eq_true, false_and,
      if_false]

/-- If those children have been detached that satisfy one predicate, below the nodes that satisfy
another one, then they are missing from the tree. -/
theorem WellFormed.mapChildren_foldl_detach (ha : a.WellFormed)
    (hids : ∀ x, a.Below x a.root → ∀ c ∈ a.children x,
      (c ∈ ids ↔ p (a.valueAt x) = true ∧ q (a.valueAt c) = true)) :
    let b := ids.foldl Arena.detach a
    (a.view a.root).mapChildren p (List.filter fun t => !q t.value) = b.view b.root := by
  intro b
  have hb : b.WellFormed := ha.foldl_detach ids
  have hview (x : NodeId) : b.view x = .node (a.valueAt x) ((b.children x).map b.view) := by
    rw [hb.view_node, valueAt, get?_foldl_detach, valueAt]
  rw [hview b.root]
  refine ha.mapChildren_view fun x hx => ?_
  simp only [← hview]
  rw [ha.children_foldl_detach]
  by_cases hp : p (a.valueAt x) = true
  · have hvalue (c : NodeId) : (b.view c).value = a.valueAt c := by
      rw [hview]
      rfl
    rw [if_pos hp, List.filter_map]
    refine congrArg _ (List.filter_congr fun c hc => ?_)
    simp [hids x hx c hc, hp, hvalue]
  · rw [if_neg hp, List.filter_eq_self.mpr fun c hc => by simp [hids x hx c hc, hp]]

end Children

/-! ### Single nodes -/

variable {k : Placement} {n : Nat} {new : List (Tree α)}

/-- A node that gets a forest below it keeps the trees that were there. -/
theorem Placed.view_inside {e : NodeId} (h : Placed .inside new n a [e] b) :
    b.view e = .node (a.valueAt e) ((a.children e).map a.view ++ new) := by
  obtain ⟨made, hmade, hchildren⟩ := h.children_eq
  obtain ⟨-, hview⟩ := List.forall_mem_singleton.mp hmade
  have he : e < a.size := (h.lt e (List.mem_singleton.mpr rfl)).trans_le h.start.le_size
  have hkept : (a.children e).map b.view = (a.children e).map a.view := by
    refine List.map_congr_left fun c hc => ?_
    have hparent := (h.start.wellFormed.mem_children_iff e c).mp hc
    refine h.view_of_not_below (lt_size_of_parent? hparent) fun d hd => ?_
    exact List.mem_singleton.mp hd ▸ h.start.wellFormed.not_below_child hparent
  rw [h.grown.wellFormed.view_node, hchildren e he, filled, if_pos (List.mem_singleton.mpr rfl),
    flatMap_slot_of_around fun _ _ => rfl, Placement.among, List.map_append, hkept, hview, valueAt,
    valueAt, h.get?_eq e he]

/-- When a node has been replaced, the nodes above it have other trees below one child each. -/
theorem Placed.view_of_below {e x c : NodeId} {t : Tree α} {before after : List NodeId}
    (h : Placed .instead [t] n a [e] b) (hsplit : a.children x = before ++ c :: after)
    (hec : a.Below e c) :
    b.view x = .node (a.valueAt x)
      (before.map a.view ++ (if c = e then t else b.view c) :: after.map a.view) := by
  obtain ⟨made, hmade, hchildren⟩ := h.children_eq
  obtain ⟨-, hview⟩ := List.forall_mem_singleton.mp hmade
  have ha := h.start.wellFormed
  have hparent (d : NodeId) (hd : d ∈ a.children x) := (ha.mem_children_iff x d).mp hd
  have hcx : c ∈ a.children x := by simp [hsplit]
  have hx : x < a.size := lt_size_of_mem_children hcx
  have hnodup := ha.nodup_children x
  rw [hsplit, List.nodup_middle, List.nodup_cons, List.mem_append, not_or] at hnodup
  obtain ⟨⟨hbefore, hafter⟩, -⟩ := hnodup
  -- the node is below one child only, so the siblings stay as they are
  have hkept {l : List NodeId} (hl : ∀ d ∈ l, d ∈ a.children x) (hc : c ∉ l) :
      (l.flatMap (slot .instead [e] made)).map b.view = l.map a.view := by
    have hnot (d : NodeId) (hd : d ∈ l) : ¬ a.Below e d := fun hed =>
      hc (ha.eq_of_below_children (hl d hd) hcx hed hec ▸ hd)
    rw [flatMap_slot_of_disjoint fun d hd hde =>
      hnot d hd (List.mem_singleton.mp hde ▸ .refl a d)]
    refine List.map_congr_left fun d hd => h.view_of_not_below
      (lt_size_of_parent? (hparent d (hl d hd))) ?_
    exact List.forall_mem_singleton.mpr (hnot d hd)
  have hslot : (slot .instead [e] made c).map b.view = [if c = e then t else b.view c] := by
    by_cases hce : c = e
    · rw [slot, if_pos (List.mem_singleton.mpr hce), Placement.around, hce, hview, if_pos rfl]
    · rw [slot, if_neg (mt List.mem_singleton.mp hce), if_neg hce, List.map_singleton]
  have hvalue : b.valueAt x = a.valueAt x := by rw [valueAt, valueAt, h.get?_eq x hx]
  rw [h.grown.wellFormed.view_node, hchildren x hx, hvalue, filled]
  simp only [Placement.among, ite_self]
  rw [hsplit, List.flatMap_append, List.flatMap_cons, List.map_append, List.map_append, hslot,
    hkept (fun d hd => by simp [hsplit, hd]) hbefore, hkept (fun d hd => by simp [hsplit, hd]) hafter,
    List.singleton_append]

/-- A tree in the place of the first node that is found is in the place of the first such node of
the tree. -/
theorem Placed.replaceFirst?_view {e : NodeId} {t : Tree α} (h : Placed .instead [t] n a [e] b)
    (hfirst : (a.matching p).head? = some e) (he : e ≠ a.root) :
    Tree.replaceFirst? p t (a.view a.root) = some (b.view b.root) := by
  have ha := h.start.wellFormed
  rw [matching, List.head?_filter] at hfirst
  have hreplaced (x : NodeId) (hx : x < a.size)
      (hfirst : (a.descendants x).find? (fun y => p (a.valueAt y)) = some e) :
      Tree.replaceFirst? p t (a.view x) = some (if x = e then t else b.view x) := by
    induction x using ha.induction_children with
    | step x ih =>
      rw [ha.descendants_eq hx, List.find?_cons] at hfirst
      rw [ha.view_node, Tree.replaceFirst?]
      split at hfirst
      · next hp =>
        obtain rfl := Option.some.inj hfirst
        rw [if_pos hp, if_pos rfl]
      · next hp =>
        rw [List.find?_flatMap, List.findSome?_eq_some_iff] at hfirst
        -- the node is below one of the children, and none is found below those before it
        obtain ⟨before, c, after, hsplit, hc, hbefore⟩ := hfirst
        have hparent (d : NodeId) (hd : d ∈ a.children x) := (ha.mem_children_iff x d).mp hd
        have hcx : c ∈ a.children x := by simp [hsplit]
        have hec : a.Below e c :=
          below_of_mem_descendants ha.toLinked (List.mem_of_find?_eq_some hc)
        have hne : x ≠ e := by
          rintro rfl
          exact ha.not_below_child (hparent c hcx) hec
        have hnone : ∀ u ∈ before.map a.view, Tree.replaceFirst? p t u = none := by
          refine List.forall_mem_map.mpr fun d hd => Tree.replaceFirst?_eq_none_iff.mpr ?_
          rw [ha.values_view (lt_size_of_parent? (hparent d (by simp [hsplit, hd])))]
          simpa using hbefore d hd
        have hchild := ih c hcx (lt_size_of_parent? (hparent c hcx)) hc
        rw [if_neg (by simp [hp]), if_neg hne, hsplit, List.map_append, List.map_cons,
          Tree.replaceFirstAll?_append hnone hchild, h.view_of_below hsplit hec]
        rfl
  rw [hreplaced a.root ha.root_lt_size hfirst, if_neg he.symm]
  rfl

end SourceEdit.Arena
