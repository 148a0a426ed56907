import SourceEdit.Proofs.Arena.Graft
import SourceEdit.Proofs.Arena.Traversal

/-!
# Putting copies of a forest into an arena

An edit goes through a list of nodes and works on an arena that changes under its hands.  `Placed`
compares the arena after some steps with the one before: at every node that has been worked on there
is a copy of the forest, made of new nodes, and otherwise the old nodes have the children they had.
`Placed.trans` adds up such steps, and `placed_foldl` carries them through a loop that skips nodes
and counts the others.

`Placed.view_root` leads back to trees.  If the nodes worked on are those whose values satisfy a
predicate, the tree at the end is the one that `Tree.placing` makes of the tree at the beginning.
Nodes that are discarded along with a node above them may be worked on or not.
-/

namespace SourceEdit.Arena

variable {α : Type} {a b c : Arena α} {k : Placement} {n : Nat}

/-! ### Children lists -/

/-- What stands in the slot of a node when new nodes have been put at the nodes of a list. -/
def slot (k : Placement) (done : List NodeId) (made : NodeId → List NodeId) (x : NodeId) :
    List NodeId :=
  if x ∈ done then k.around (made x) x else [x]

/-- The children of a node when new nodes have been put at the nodes of a list. -/
def filled (a : Arena α) (k : Placement) (done : List NodeId) (made : NodeId → List NodeId)
    (x : NodeId) : List NodeId :=
  let slots := (a.children x).flatMap (slot k done made)
  if x ∈ done then k.among (made x) slots else slots

section Slots

variable {done more : List NodeId} {made made' : NodeId → List NodeId}

/-- Lists that hold no node that is worked on stay as they are. -/
theorem flatMap_slot_of_disjoint {l : List NodeId} (h : ∀ x ∈ l, x ∉ done) :
    l.flatMap (slot k done made) = l := by
  have hslot : ∀ x ∈ l, slot k done made x = [x] := fun x hx => by rw [slot, if_neg (h x hx)]
  rw [List.flatMap_congr hslot, List.flatMap_singleton']

/-- Lists stay as they are if nothing is put beside a node or in its place. -/
theorem flatMap_slot_of_around
    (hk : ∀ (new : List NodeId) (item : NodeId), k.around new item = [item]) (l : List NodeId) :
    l.flatMap (slot k done made) = l := by
  have hslot : slot k done made = fun x => [x] := funext fun x => by simp [slot, hk]
  rw [hslot, List.flatMap_singleton']

theorem filled_of_disjoint {x : NodeId} (hx : x ∉ done) (h : ∀ c ∈ a.children x, c ∉ done) :
    a.filled k done made x = a.children x := by
  rw [filled, if_neg hx, flatMap_slot_of_disjoint h]

/-- The old nodes among the children of a node are the children that it had, less those that have
been discarded. -/
theorem mem_filled_iff {x y : NodeId} (hmade : ∀ e ∈ done, x ∉ made e) :
    x ∈ a.filled k done made y ↔
      x ∈ a.children y ∧ ¬ (k = .within ∧ y ∈ done) ∧ ¬ (k = .instead ∧ x ∈ done) := by
  have hslots : x ∈ (a.children y).flatMap (slot k done made) ↔
      x ∈ a.children y ∧ ¬ (k = .instead ∧ x ∈ done) := by
    have hslot (c : NodeId) :
        x ∈ slot k done made c ↔ x = c ∧ ¬ (k = .instead ∧ x ∈ done) := by
      by_cases hc : c ∈ done
      · have hnew := hmade c hc
        cases k <;> simp only [slot, hc, if_true, Placement.around] <;> grind
      · simp only [slot, hc, if_false, List.mem_singleton]
        grind
    simp only [List.mem_flatMap, hslot]
    grind
  by_cases hy : y ∈ done
  · have hnew := hmade y hy
    simp only [filled, hy, if_true]
    cases k <;> simp only [Placement.among, List.mem_append, hslots] <;> grind
  · simp only [filled, hy, if_false, hslots]
    grind

/-- Work on some nodes and then on others is work on both. -/
theorem flatMap_slot_filled {x : NodeId} (hdisjoint : ∀ e ∈ done, e ∉ more)
    (hmade : ∀ e ∈ done, ∀ i ∈ made e, i ∉ more) :
    let both := fun e => if e ∈ done then made e else made' e
    (let slots := (a.filled k done made x).flatMap (slot k more made')
      if x ∈ more then k.among (made' x) slots else slots) =
      a.filled k (done ++ more) both x := by
  intro both
  -- what has been worked on, or put there, is not worked on again
  have hslot (c : NodeId) : (slot k done made c).flatMap (slot k more made') =
      slot k (done ++ more) both c := by
    by_cases hc : c ∈ done
    · have hkept : ∀ x ∈ k.around (made c) c, x ∉ more := by
        intro x hx
        obtain hx | rfl := Placement.mem_around hx
        · exact hmade c hc x hx
        · exact hdisjoint x hc
      simp [slot, hc, both, flatMap_slot_of_disjoint hkept]
    · simp [slot, hc, both]
  have hslots : ((a.children x).flatMap (slot k done made)).flatMap (slot k more made') =
      (a.children x).flatMap (slot k (done ++ more) both) := by
    rw [List.flatMap_assoc]
    exact List.flatMap_congr fun c _ => hslot c
  by_cases hx : x ∈ done
  · have hkept : (made x).flatMap (slot k more made') = made x :=
      flatMap_slot_of_disjoint (hmade x hx)
    simp only [filled, hx, if_true, hdisjoint x hx, if_false, List.mem_append, true_or, both,
      Placement.flatMap_among hkept, hslots]
  · simp only [filled, hx, if_false, List.mem_append, false_or, both, hslots]

end Slots

/-! ### New nodes -/

section View

variable [Inhabited α] {new : List (Tree α)} {done more : List NodeId}

/-- The trees below new nodes only depend on new nodes. -/
theorem Grown.view_congr (ha : a.Grown n) (hb : b.WellFormed)
    (h : ∀ y, n ≤ y → y < a.size → b.children y = a.children y ∧ b.get? y = a.get? y)
    {x : NodeId} (hx : n ≤ x) (hlt : x < a.size) : b.view x = a.view x := by
  refine ha.wellFormed.view_congr hb fun y hy => h y ?_ (hy.lt_size hlt)
  exact Nat.le_of_not_lt fun hyn => absurd (ha.closed.lt_of_below hyn hy) (Nat.not_lt.mpr hx)

/-- At every node of a list there is a copy of a forest, made of new nodes. Otherwise the nodes of an
arena are as they were. -/
structure Placed (k : Placement) (new : List (Tree α)) (n : Nat) (a : Arena α)
    (done : List NodeId) (b : Arena α) : Prop where
  start : a.Grown n
  grown : b.Grown n
  size_le : a.size ≤ b.size
  lt : ∀ e ∈ done, e < n
  get?_eq (x : NodeId) : x < a.size → b.get? x = a.get? x
  children_eq : ∃ made : NodeId → List NodeId,
    (∀ e ∈ done, (∀ i ∈ made e, a.size ≤ i ∧ i < b.size) ∧ (made e).map b.view = new) ∧
    ∀ x < a.size, b.children x = a.filled k done made x

theorem Grown.placed_nil (ha : a.Grown n) : Placed k new n a [] a where
  start := ha
  grown := ha
  size_le := Nat.le_refl _
  lt := List.forall_mem_nil _
  get?_eq _ _ := rfl
  children_eq := ⟨fun _ => [], List.forall_mem_nil _, fun _ _ =>
    (filled_of_disjoint List.not_mem_nil fun _ _ => List.not_mem_nil).symm⟩

/-- Nodes that are above none of those worked on keep the trees below them. -/
theorem Placed.view_of_not_below (h : Placed k new n a done b) {x : NodeId} (hlt : x < a.size)
    (hfree : ∀ e ∈ done, ¬ a.Below e x) : b.view x = a.view x := by
  obtain ⟨made, -, hchildren⟩ := h.children_eq
  refine h.start.wellFormed.view_congr h.grown.wellFormed fun y hy => ?_
  have hylt := hy.lt_size hlt
  refine ⟨?_, h.get?_eq y hylt⟩
  rw [hchildren y hylt, filled_of_disjoint (fun hdone => hfree y hdone hy) fun c hc hdone => ?_]
  have hcy : a.Below c y := .of_parent? ((h.start.wellFormed.mem_children_iff y c).mp hc)
  exact hfree c hdone (hcy.trans hy)

/-- Nodes that stand beside the old ones keep the trees below them. -/
theorem Placed.view_eq (h : Placed k new n a done b) {x : NodeId} (hx : n ≤ x) (hlt : x < a.size) :
    b.view x = a.view x :=
  h.view_of_not_below hlt fun e he hbelow =>
    absurd (h.start.closed.lt_of_below (h.lt e he) hbelow) (Nat.not_lt.mpr hx)

theorem Placed.trans (hab : Placed k new n a done b) (hbc : Placed k new n b more c)
    (hdisjoint : ∀ e ∈ done, e ∉ more) : Placed k new n a (done ++ more) c where
  start := hab.start
  grown := hbc.grown
  size_le := hab.size_le.trans hbc.size_le
  lt e he := (List.mem_append.mp he).elim (hab.lt e) (hbc.lt e)
  get?_eq x hx := (hbc.get?_eq x (hx.trans_le hab.size_le)).trans (hab.get?_eq x hx)
  children_eq := by
    obtain ⟨made, hmade, hb⟩ := hab.children_eq
    obtain ⟨made', hmade', hc⟩ := hbc.children_eq
    refine ⟨fun e => if e ∈ done then made e else made' e, fun e he => ?_, fun x hx => ?_⟩
    · by_cases hdone : e ∈ done
      · obtain ⟨hnew, hview⟩ := hmade e hdone
        simp only [hdone, if_true]
        refine ⟨fun i hi => ⟨(hnew i hi).1, (hnew i hi).2.trans_le hbc.size_le⟩, ?_⟩
        rw [← hview]
        exact List.map_congr_left fun i hi =>
          hbc.view_eq (hab.start.le_size.trans (hnew i hi).1) (hnew i hi).2
      · obtain ⟨hnew, hview⟩ := hmade' e ((List.mem_append.mp he).resolve_left hdone)
        simp only [hdone, if_false]
        exact ⟨fun i hi => ⟨hab.size_le.trans (hnew i hi).1, (hnew i hi).2⟩, hview⟩
    · -- the copies made before are too new to be worked on
      have hapart : ∀ e ∈ done, ∀ i ∈ made e, i ∉ more := fun e he i hi hmore =>
        absurd (hbc.lt i hmore)
          (Nat.not_lt.mpr (hab.start.le_size.trans ((hmade e he).1 i hi).1))
      rw [← flatMap_slot_filled hdisjoint hapart, ← hb x hx]
      exact hc x (hx.trans_le hab.size_le)

/-! ### Links between old nodes -/

/-- The parent of an old node is the one that it had, unless the node has been discarded. -/
theorem Placed.parent?_iff (h : Placed k new n a done b) {x y : NodeId} (hx : x < n) :
    b.parent? x = some y ↔
      a.parent? x = some y ∧ ¬ (k = .within ∧ y ∈ done) ∧ ¬ (k = .instead ∧ x ∈ done) := by
  obtain ⟨made, hmade, hchildren⟩ := h.children_eq
  have hold : ∀ e ∈ done, x ∉ made e := fun e he hi =>
    absurd (hx.trans_le h.start.le_size) (Nat.not_lt.mpr ((hmade e he).1 x hi).1)
  have hmem (hy : y < a.size) : b.parent? x = some y ↔
      a.parent? x = some y ∧ ¬ (k = .within ∧ y ∈ done) ∧ ¬ (k = .instead ∧ x ∈ done) := by
    rw [← h.grown.wellFormed.mem_children_iff, hchildren y hy, mem_filled_iff hold,
      h.start.wellFormed.mem_children_iff]
  constructor
  · intro hb
    exact (hmem ((h.grown.closed x y hx hb).trans_le h.start.le_size)).mp hb
  · rintro ⟨ha, hkept⟩
    exact (hmem ((h.start.closed x y hx ha).trans_le h.start.le_size)).mpr ⟨ha, hkept⟩

/-- If what is below a node is discarded, then a node that has not been worked on is still below the
root exactly if no node above it has been worked on. -/
theorem Placed.below_root_iff (h : Placed k new n a done b) (hk : k.discards = true)
    (hroot : a.root ∉ done) {x : NodeId} (hx : x < n) (hxdone : x ∉ done) :
    b.Below x b.root ↔ a.Below x a.root ∧ ∀ y, a.Below x y → y ∉ done := by
  constructor
  · intro hb
    induction hb using Relation.ReflTransGen.head_induction_on with
    | refl =>
      refine ⟨.refl a _, fun y hy => ?_⟩
      rwa [h.start.wellFormed.eq_root_of_below hy]
    | @head x p hp hpb ih =>
      obtain ⟨hap, hwithin, -⟩ := (h.parent?_iff hx).mp hp
      have hpn := h.start.closed x p hx hap
      -- a parent that has been worked on has lost its children, or has no parent itself
      have hpdone : p ∉ done := by
        intro hdone
        cases k with
        | within => exact hwithin ⟨rfl, hdone⟩
        | instead =>
          have hnone : b.parent? p = none := Option.eq_none_iff_forall_ne_some.mpr fun q hq =>
            ((h.parent?_iff hpn).mp hq).2.2 ⟨rfl, hdone⟩
          exact hroot (eq_of_below_of_parent?_eq_none hnone hpb ▸ hdone)
        | _ => cases hk
      obtain ⟨hproot, hpfree⟩ := ih hpn hpdone
      refine ⟨(Below.of_parent? hap).trans hproot, fun y hy => ?_⟩
      obtain rfl | ⟨q, hq, hqy⟩ := below_iff.mp hy
      · exact hxdone
      · obtain rfl : p = q := Option.some.inj (hap.symm.trans hq)
        exact hpfree y hqy
  · rintro ⟨ha, hfree⟩
    induction ha using Relation.ReflTransGen.head_induction_on with
    | refl => exact .refl b _
    | @head x p hp hpa ih =>
      have hpdone := hfree p (.of_parent? hp)
      have hbp : b.parent? x = some p := (h.parent?_iff hx).mpr
        ⟨hp, fun hdone => hpdone hdone.2, fun hdone => hxdone hdone.2⟩
      exact (Below.of_parent? hbp).trans (ih (h.start.closed x p hx hp) hpdone
        fun y hy => hfree y ((Below.of_parent? hp).trans hy))

/-! ### Loops -/

/-- A loop that works on all nodes of a list. -/
theorem Grown.placed_foldl (ha : a.Grown n) {f : Arena α → NodeId → Arena α} {l : List NodeId}
    (hl : l.Nodup) (hstep : ∀ b : Arena α, b.Grown n → ∀ e ∈ l, Placed k new n b [e] (f b e)) :
    Placed k new n a l (l.foldl f a) := by
  induction l generalizing a with
  | nil => exact ha.placed_nil
  | cons e l ih =>
    obtain ⟨hfresh, hl⟩ := List.nodup_cons.mp hl
    have hfirst := hstep a ha e List.mem_cons_self
    have hrest := ih hfirst.grown hl fun b hb d hd => hstep b hb d (List.mem_cons_of_mem e hd)
    exact hfirst.trans hrest fun d hd => List.mem_singleton.mp hd ▸ hfresh

variable (new) in
/-- A loop that works on some of the nodes of a list, skips the others and counts. -/
theorem placed_foldl (todo : NodeId → Bool) {f : Arena α × Nat → NodeId → Arena α × Nat}
    {l : List NodeId} (hl : l.Nodup) (ha : a.Grown n)
    (hstep : ∀ before e after, l = before ++ e :: after → ∀ b count,
      Placed k new n a (before.filter todo) b →
      if todo e then Placed k new n b [e] (f (b, count) e).1 ∧ (f (b, count) e).2 = count + 1
      else f (b, count) e = (b, count)) :
    Placed k new n a (l.filter todo) (l.foldl f (a, 0)).1 ∧
      (l.foldl f (a, 0)).2 = (l.filter todo).length := by
  -- from the right, so that what stands before a node is what the loop has been through
  induction l using List.reverseRecOn with
  | nil => exact ⟨ha.placed_nil, rfl⟩
  | append_singleton l e ih =>
    obtain ⟨hb, hcount⟩ := ih (hl.sublist (List.sublist_append_left l [e]))
      fun before d after hsplit => hstep before d (after ++ [e]) (by simp [hsplit])
    have he := hstep l e [] rfl _ (l.foldl f (a, 0)).2 hb
    rw [List.foldl_append, List.foldl_cons, List.foldl_nil, List.filter_append]
    by_cases htodo : todo e = true
    · rw [if_pos htodo] at he
      obtain ⟨hplaced, hnext⟩ := he
      have hapart : ∀ d ∈ l.filter todo, d ∉ [e] := fun d hd hde =>
        List.disjoint_of_nodup_append hl (List.mem_of_mem_filter hd) hde
      rw [List.filter_cons_of_pos htodo, List.filter_nil]
      exact ⟨hb.trans hplaced hapart, by rw [hnext, hcount, List.length_append]; rfl⟩
    · rw [if_neg htodo] at he
      rw [List.filter_cons_of_neg htodo, List.filter_nil, List.append_nil, he]
      exact ⟨hb, hcount⟩

/-! ### The tree at the end -/

/-- If the nodes worked on are those whose values satisfy a predicate, a copy of the forest has been
put into the tree below the root at each of them. -/
theorem Placed.view_root (h : Placed k new n a done b) {p : α → Bool}
    (hroot : p (a.valueAt a.root) = false)
    (hdone : ∀ x, a.Below x a.root →
      (k.discards = true → ∀ y, a.Below x y → y ≠ x → p (a.valueAt y) = false) →
      (x ∈ done ↔ p (a.valueAt x) = true)) :
    (a.view a.root).placing k p new = [b.view b.root] := by
  obtain ⟨made, hmade, hchildren⟩ := h.children_eq
  have ha := h.start.wellFormed
  have hslot (x : NodeId) (hx : a.Below x a.root)
      (hfree : k.discards = true → ∀ y, a.Below x y → y ≠ x → p (a.valueAt y) = false) :
      (a.view x).placing k p new = (slot k done made x).map b.view := by
    induction x using ha.induction_children with
    | step x ih =>
      have hlt := hx.lt_size ha.root_lt_size
      have hvalue : b.valueAt x = a.valueAt x := by rw [valueAt, valueAt, h.get?_eq x hlt]
      -- unless they are discarded, the children come out right
      have hslots (hlive : k.discards = true → p (a.valueAt x) = false) :
          ((a.children x).map a.view).flatMap (Tree.placing k p new) =
            ((a.children x).flatMap (slot k done made)).map b.view := by
        rw [List.flatMap_map, List.map_flatMap]
        refine List.flatMap_congr fun c hc => ?_
        have hparent := (ha.mem_children_iff x c).mp hc
        refine ih c hc ((Below.of_parent? hparent).trans hx) fun hk y hy hne => ?_
        obtain rfl | ⟨q, hq, hqy⟩ := below_iff.mp hy
        · exact absurd rfl hne
        · obtain rfl : x = q := Option.some.inj (hparent.symm.trans hq)
          by_cases hyx : y = x
          · exact hyx ▸ hlive hk
          · exact hfree hk y hqy hyx
      rw [ha.view_node, Tree.placing_node]
      by_cases hp : p (a.valueAt x) = true
      · -- the copies go around the node and among its children, on both sides alike
        have hxdone := (hdone x hx hfree).mpr hp
        obtain ⟨-, hview⟩ := hmade x hxdone
        rw [if_pos hp, slot, if_pos hxdone, Placement.map_around, hview,
          h.grown.wellFormed.view_node, hchildren x hlt, filled, if_pos hxdone,
          Placement.map_among, hview, hvalue]
        by_cases hk : k.discards = true
        · exact Placement.around_node_of_discards hk ..
        · rw [hslots fun hk' => absurd hk' hk]
      · have hxdone := mt (hdone x hx hfree).mp hp
        rw [if_neg hp, slot, if_neg hxdone, List.map_singleton, h.grown.wellFormed.view_node,
          hchildren x hlt, filled, if_neg hxdone, hvalue, hslots fun _ => by simpa using hp]
  have habove : k.discards = true →
      ∀ y, a.Below a.root y → y ≠ a.root → p (a.valueAt y) = false := fun _ y hy hne =>
    absurd (ha.eq_root_of_below hy) hne
  have hnot : a.root ∉ done := fun hmem => by
    simpa [hroot] using (hdone a.root (.refl a _) habove).mp hmem
  rw [hslot a.root (.refl a _) habove, slot, if_neg hnot]
  rfl

end View

end SourceEdit.Arena
