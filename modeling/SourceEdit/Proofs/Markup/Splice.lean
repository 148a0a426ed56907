import SourceEdit.Proofs.Arena.Steps
import SourceEdit.Proofs.Markup.Edit

/-!
# Single steps of the edits of markup

An insertion, a replacement, a deletion and a new text each work on one element after the other.
Every such step is shown to be `Arena.Placed` at its element: `exists_splice?`, `exists_replacement`
and `placed_setText`.  For a step beside an element, the element needs a parent.

Nodes are moved one at a time, with an index that is counted up.  `children_insertAll` says where
they come to stand.
-/

namespace SourceEdit

/-- The placement of a position. -/
def Position.placement : Position → Placement
  | .before => .before
  | .after => .after
  | .inside => .inside
  | .prepend => .prepend

namespace Markup

variable {tree grown : Markup} {n : Nat} {fragment : List (Tree Node)} {nodes : List NodeId}

/-! ### Moving nodes -/

/-- Detached nodes come to stand in order where the list of children is split. -/
theorem children_insertAll (hl : tree.Linked) {parent : NodeId} (hp : parent < tree.size)
    (before after : List NodeId) (hsplit : tree.children parent = before ++ after)
    (hnodes : ∀ m ∈ nodes, m < tree.size ∧ tree.parent? m = none) (hnodup : nodes.Nodup)
    (x : NodeId) :
    (insertAll tree parent before.length nodes).children x =
      if x = parent then before ++ nodes ++ after else tree.children x := by
  induction nodes generalizing tree before with
  | nil =>
    split
    · next h => simpa [insertAll, h] using hsplit
    · rfl
  | cons m ms ih =>
    obtain ⟨⟨hm, hdetached⟩, hms⟩ := List.forall_mem_cons.mp hnodes
    obtain ⟨hfresh, hnodup⟩ := List.nodup_cons.mp hnodup
    have hfilter (y : NodeId) : (tree.children y).filter (· != m) = tree.children y :=
      hl.filter_children_of_ne (by simp [hdetached])
    have hchildren (y : NodeId) : (tree.insertChild parent before.length m).children y =
        if y = parent then before ++ m :: after else tree.children y := by
      rw [hl.children_insertChild hp, hfilter]
      split
      · next h => rw [h, hsplit, Nat.min_eq_left (by simp), Arena.insertIdx_length]
      · rfl
    -- the node just moved ends the first part of the list for those that follow
    have hrest := ih (hl.insertChild hp before.length hm) (by simpa using hp)
      (before ++ [m]) (by simp [hchildren])
      (fun y hy => by
        obtain ⟨hlt, hnone⟩ := hms y hy
        have hne : y ≠ m := fun h => hfresh (h ▸ hy)
        rw [Arena.parent?_insertChild parent before.length hm, if_neg hne]
        exact ⟨by simpa using hlt, hnone⟩)
      hnodup
    rw [List.length_append, List.length_singleton] at hrest
    rw [insertAll, hrest, hchildren]
    split <;> simp

theorem get?_insertAll (parent index : Nat) (x : NodeId) :
    (insertAll tree parent index nodes).get? x = tree.get? x := by
  induction nodes generalizing tree index with
  | nil => rfl
  | cons m ms ih => rw [insertAll, ih, Arena.get?_insertChild]

theorem size_insertAll (parent index : Nat) :
    (insertAll tree parent index nodes).size = tree.size := by
  induction nodes generalizing tree index with
  | nil => rfl
  | cons m ms ih => rw [insertAll, ih, Arena.size_insertChild]

/-! ### Fragments -/

/-- Copies of a fragment are put at a node if they come to stand where the placement says. -/
theorem placed_insertAll {k : Placement} (ht : tree.Grown n)
    (hg : Arena.GraftedAll tree fragment grown nodes) {parent e : NodeId} (hp : parent < n)
    (he : e < n) (before after : List NodeId) (hsplit : tree.children parent = before ++ after)
    (hfilled : ∀ x, tree.filled k [e] (fun _ => nodes) x =
      if x = parent then before ++ nodes ++ after else tree.children x) :
    Arena.Placed k fragment n tree [e] (insertAll grown parent before.length nodes) := by
  have hgrown := ht.of_extends hg.wellFormed hg.extends_
  have hsplit' : grown.children parent = before ++ after :=
    (hg.extends_.children_eq parent (hp.trans_le ht.le_size)).trans hsplit
  have hchildren (x : NodeId) := children_insertAll hg.wellFormed.toLinked
    (hp.trans_le hgrown.le_size) before after hsplit' (fun m hm => ⟨hg.lt_size m hm, hg.parent?_eq m hm⟩)
    hg.nodup x
  have hend : (insertAll grown parent before.length nodes).Grown n :=
    insertAll_grown hgrown hp _ fun m hm => ⟨ht.le_size.trans (hg.size_le m hm), hg.lt_size m hm⟩
  rw [← hg.view_eq]
  refine Arena.placed_of_extends ht hg.extends_ hg.wellFormed
    (fun i hi => ⟨hg.size_le i hi, hg.lt_size i hi⟩) hend (size_insertAll parent _)
    (get?_insertAll parent _) (fun x hx => ?_) he fun x hx => ?_
  · rw [hchildren, if_neg (hp.trans_le hx).ne']
  · rw [hchildren, hfilled, hg.extends_.children_eq x hx]

/-- An element with a parent has a place for copies of a fragment at every position. -/
theorem exists_splice? (ht : tree.Grown n) {e parent : NodeId} (he : e < n)
    (hparent : tree.parent? e = some parent) (fragment : List (Tree Node)) (position : Position) :
    ∃ spliced, splice? (tree.graftAll fragment).1 e (tree.graftAll fragment).2 position =
        some spliced ∧ Arena.Placed position.placement fragment n tree [e] spliced := by
  have hg := Arena.graftAll_spec ht.wellFormed fragment
  generalize tree.graftAll fragment = grafted at hg
  obtain ⟨grown, nodes⟩ := grafted
  dsimp only at hg ⊢
  have hw := ht.wellFormed
  have hp := ht.closed e parent he hparent
  have hlt := he.trans_le ht.le_size
  obtain ⟨before, after, hsplit, -⟩ :=
    List.eq_append_cons_of_mem ((hw.mem_children_iff parent e).mpr hparent)
  have hparent' : grown.parent? e = some parent := (hg.extends_.parent?_eq e hlt).trans hparent
  have hsplit' : grown.children parent = before ++ e :: after :=
    (hg.extends_.children_eq parent (hp.trans_le ht.le_size)).trans hsplit
  -- grafting the fragment leaves the element where it was
  have hindex := hg.wellFormed.indexInParent?_eq hsplit'
  cases position with
  | before =>
    refine ⟨insertAll grown parent before.length nodes, by simp [splice?, hparent', hindex], ?_⟩
    refine placed_insertAll (k := .before) ht hg hp he _ _ hsplit fun x => ?_
    rw [Arena.filled_beside (fun _ _ => rfl) hw hsplit]
    simp [Placement.around]
  | after =>
    have hplaced := placed_insertAll (k := .after) ht hg hp he (before ++ [e]) after
      (by simp [hsplit]) fun x => by
        rw [Arena.filled_beside (fun _ _ => rfl) hw hsplit]
        simp [Placement.around]
    rw [List.length_append, List.length_singleton] at hplaced
    exact ⟨_, by simp [splice?, hparent', hindex], hplaced⟩
  | inside => exact ⟨_, rfl, Arena.placed_appendChildren ht hg he⟩
  | prepend =>
    refine ⟨insertAll grown e 0 nodes, rfl, ?_⟩
    refine placed_insertAll (k := .prepend) ht hg he he [] (tree.children e) rfl fun x => ?_
    rw [Arena.filled_among fun _ _ => rfl]
    split
    · next h => simp [h, Placement.among]
    · rfl

/-! ### Taking nodes out -/

/-- Taking out a node beside which copies of a fragment stand puts them in its place. -/
theorem placed_detach_of_before {spliced : Markup} {e : NodeId}
    (h : Arena.Placed .before fragment n tree [e] spliced) :
    Arena.Placed .instead fragment n tree [e] (spliced.detach e) := by
  obtain ⟨made, hmade, hchildren⟩ := h.children_eq
  obtain ⟨hnew, hview⟩ := List.forall_mem_singleton.mp hmade
  have he : e < n := h.lt e (List.mem_singleton.mpr rfl)
  have hdetach (x : NodeId) := h.grown.wellFormed.children_detach e x
  refine ⟨h.start, h.grown.detach e, by simpa using h.size_le, h.lt,
    fun x hx => (Arena.get?_detach e x).trans (h.get?_eq x hx), made,
    List.forall_mem_singleton.mpr ⟨by simpa using hnew, ?_⟩, fun x hx => ?_⟩
  · rw [← hview]
    refine List.map_congr_left fun i hi => ?_
    refine h.grown.view_congr (h.grown.detach e).wellFormed (fun y hy _ => ⟨?_, by simp⟩)
      (h.start.le_size.trans (hnew i hi).1) (hnew i hi).2
    exact (hdetach y).trans (h.grown.wellFormed.filter_children_of_ne fun hey =>
      absurd (h.grown.closed e y he hey) (Nat.not_lt.mpr hy))
  · have hkept : (made e).filter (· != e) = made e := List.filter_eq_self.mpr fun i hi => by
      simpa using ((he.trans_le h.start.le_size).trans_le (hnew i hi).1).ne'
    have hslot (c : NodeId) : (Arena.slot .before [e] made c).filter (· != e) =
        Arena.slot .instead [e] made c := by
      by_cases hc : c = e
      · simp [Arena.slot, hc, Placement.around, hkept]
      · simp [Arena.slot, hc]
    rw [hdetach, hchildren x hx]
    simp only [Arena.filled, Placement.among, ite_self, List.filter_flatMap, hslot]

/-- An element with a parent has a place for copies of a fragment when it is taken out. -/
theorem exists_replacement (ht : tree.Grown n) {e parent : NodeId} (he : e < n)
    (hparent : tree.parent? e = some parent) (fragment : List (Tree Node)) :
    ∃ spliced, splice? (tree.graftAll fragment).1 e (tree.graftAll fragment).2 .before =
        some spliced ∧ Arena.Placed .instead fragment n tree [e] (spliced.detach e) := by
  obtain ⟨spliced, hspliced, hplaced⟩ := exists_splice? ht he hparent fragment .before
  exact ⟨spliced, hspliced, placed_detach_of_before hplaced⟩

/-! ### Texts -/

/-- A new text takes the place of the children of a node. -/
theorem placed_setText (ht : tree.Grown n) {e : NodeId} (he : e < n) (text : String) :
    Arena.Placed .within [.leaf (.text text)] n tree [e] (setText text tree e) := by
  have hlt := he.trans_le ht.le_size
  have hcleared := (ht.clearChildren e).alloc (.text text)
  have hend := setText_grown ht text he
  -- the new node is the last one of the arena, so it is among no children yet
  have hchildren (x : NodeId) :
      (setText text tree e).children x = if x = e then [tree.size] else tree.children x := by
    have hfilter : (tree.children x).filter (· != tree.size) = tree.children x :=
      ht.wellFormed.filter_children_of_ne
        (by simp [Arena.parent?_eq_none_of_size_le (Nat.le_refl tree.size)])
    simp only [setText]
    rw [hcleared.wellFormed.children_appendChild (by simpa using hlt.trans (Nat.lt_succ_self _)),
      Arena.children_alloc, Arena.children_clearChildren, Arena.alloc_snd, Arena.size_clearChildren]
    split
    · rfl
    · exact hfilter
  have hget (x : NodeId) (hx : x < tree.size) : (setText text tree e).get? x = tree.get? x := by
    simp [setText, Arena.get?_alloc, hx.ne]
  have hsize : (setText text tree e).size = tree.size + 1 := by simp [setText]
  refine ⟨ht, hend, by omega, by simpa using he, hget, fun _ => [tree.size],
    List.forall_mem_singleton.mpr ⟨by simp [hsize], ?_⟩, fun x _ => ?_⟩
  · have hleaf : (setText text tree e).children tree.size = [] := by
      rw [hchildren, if_neg hlt.ne', Arena.children_eq_nil_of_size_le (Nat.le_refl _)]
    have hvalue : (setText text tree e).get? tree.size = some (.text text) := by
      simp [setText, Arena.get?_alloc]
    rw [List.map_singleton, hend.wellFormed.view_eq, hleaf, hvalue]
    rfl
  · have haround (new : List NodeId) (item : NodeId) :
        Placement.around new item .within = [item] := rfl
    simp [hchildren, Arena.filled, Arena.flatMap_slot_of_around haround, Placement.among]

end Markup

end SourceEdit
