import SourceEdit.Proofs.Arena.Placing

/-!
# Single steps that put copies into an arena

`placed_of_extends` says what makes a step one that is `Placed` at a node: a copy has been grafted
into the arena, and then old nodes have got the children that the placement asks for.  So it is for a
node that is taken out (`placed_detach`), for copies that become the first or the last children of a
node (`placed_insertChild`, `placed_appendChildren`) and for a copy that takes the place of a node
(`exists_replace?`).
-/

namespace SourceEdit.Arena

variable {α : Type} {a b grown : Arena α} {k : Placement} {n : Nat} {e parent : NodeId}
  {before after : List NodeId}

/-! ### Children lists -/

/-- Where a node stands beside which others are put. -/
private theorem flatMap_slot_append {made : NodeId → List NodeId} (hbefore : e ∉ before)
    (hafter : e ∉ after) :
    (before ++ e :: after).flatMap (slot k [e] made) = before ++ k.around (made e) e ++ after := by
  have hapart {l : List NodeId} (hl : e ∉ l) : ∀ x ∈ l, x ∉ [e] := fun x hx hxe =>
    hl (List.mem_singleton.mp hxe ▸ hx)
  rw [List.flatMap_append, List.flatMap_cons, flatMap_slot_of_disjoint (hapart hbefore),
    flatMap_slot_of_disjoint (hapart hafter), slot, if_pos (List.mem_singleton.mpr rfl),
    List.append_assoc]

/-- The children lists when nodes are put beside a child or in its place. -/
theorem filled_beside (hk : ∀ new old : List NodeId, k.among new old = old) (hw : a.WellFormed)
    (hsplit : a.children parent = before ++ e :: after) (nodes : List NodeId) (x : NodeId) :
    a.filled k [e] (fun _ => nodes) x =
      if x = parent then before ++ k.around nodes e ++ after else a.children x := by
  have hparent : a.parent? e = some parent :=
    (hw.mem_children_iff parent e).mp (by simp [hsplit])
  have hnodup := hw.nodup_children parent
  rw [hsplit] at hnodup
  simp only [filled, hk, ite_self]
  split
  · next h =>
    rw [h, hsplit, flatMap_slot_append]
    · exact fun he => List.disjoint_of_nodup_append hnodup he List.mem_cons_self
    · exact (List.nodup_cons.mp hnodup.of_append_right).1
  · next h =>
    refine flatMap_slot_of_disjoint fun c hc hce => h ?_
    obtain rfl := List.mem_singleton.mp hce
    exact Option.some.inj (((hw.mem_children_iff x c).mp hc).symm.trans hparent)

/-- The children lists when nodes are put among the children of a node. -/
theorem filled_among
    (hk : ∀ (new : List NodeId) (item : NodeId), k.around new item = [item]) (a : Arena α)
    (e : NodeId) (nodes : List NodeId) (x : NodeId) :
    a.filled k [e] (fun _ => nodes) x =
      if x = e then k.among nodes (a.children x) else a.children x := by
  simp [filled, flatMap_slot_of_around hk]

/-- The index of a child in the list of the children. -/
theorem Linked.indexInParent?_eq (hl : a.Linked)
    (hsplit : a.children parent = before ++ e :: after) : a.indexInParent? e = some before.length := by
  have hparent : a.parent? e = some parent := (hl.mem_children_iff parent e).mp (by simp [hsplit])
  have hnodup := hl.nodup_children parent
  rw [hsplit] at hnodup
  have hbefore : e ∉ before := fun he => List.disjoint_of_nodup_append hnodup he List.mem_cons_self
  have hindex : (before ++ e :: after).idxOf? e = some before.length := by
    refine List.idxOf?_eq_some_iff.mpr ⟨by simp, by simp, fun j hj => ?_⟩
    rw [List.getElem_append_left hj]
    exact fun h => hbefore (h ▸ List.getElem_mem hj)
  simpa [indexInParent?, hparent, hsplit] using hindex

/-- Nodes that have no parent yet become the last children of a node. -/
theorem Linked.children_appendChildren (hl : a.Linked) (hp : parent < a.size)
    {nodes : List NodeId} (hnodes : ∀ m ∈ nodes, m < a.size ∧ a.parent? m = none)
    (hnodup : nodes.Nodup) (x : NodeId) :
    (a.appendChildren parent nodes).children x =
      if x = parent then a.children x ++ nodes else a.children x := by
  induction nodes generalizing a with
  | nil => simp [appendChildren]
  | cons m ms ih =>
    obtain ⟨⟨hm, hdetached⟩, hms⟩ := List.forall_mem_cons.mp hnodes
    obtain ⟨hfresh, hnodup⟩ := List.nodup_cons.mp hnodup
    refine (ih (hl.insertChild hp _ hm) (by simpa using hp) (fun y hy => ?_) hnodup).trans ?_
    · obtain ⟨hlt, hnone⟩ := hms y hy
      have hne : y ≠ m := fun h => hfresh (h ▸ hy)
      rw [parent?_insertChild parent _ hm, if_neg hne]
      exact ⟨by simpa using hlt, hnone⟩
    · have hone := hl.children_appendChild hp m x
      rw [hl.filter_children_of_ne (by simp [hdetached])] at hone
      rw [appendChild] at hone
      rw [hone]
      split <;> simp

@[simp]
theorem size_appendChildren (parent : NodeId) (nodes : List NodeId) (a : Arena α) :
    (a.appendChildren parent nodes).size = a.size := by
  induction nodes generalizing a with
  | nil => rfl
  | cons m ms ih => exact (ih _).trans (size_appendChild parent m)

@[simp]
theorem get?_appendChildren (parent : NodeId) (nodes : List NodeId) (a : Arena α) (x : NodeId) :
    (a.appendChildren parent nodes).get? x = a.get? x := by
  induction nodes generalizing a with
  | nil => rfl
  | cons m ms ih => exact (ih _).trans (get?_appendChild parent m x)

/-! ### Steps -/

section View

variable [Inhabited α] {t : Tree α} {ts : List (Tree α)} {id : NodeId} {made : List NodeId}

/-- Copies have been put at a node if the arena has been made larger and then the old nodes have got
the children that the placement asks for. -/
theorem placed_of_extends (ha : a.Grown n) (hext : a.Extends grown) (hw : grown.WellFormed)
    (hmade : ∀ i ∈ made, a.size ≤ i ∧ i < grown.size) (hb : b.Grown n)
    (hsize : b.size = grown.size) (hget : ∀ x, b.get? x = grown.get? x)
    (hnew : ∀ x, n ≤ x → b.children x = grown.children x) (he : e < n)
    (hold : ∀ x < a.size, b.children x = a.filled k [e] (fun _ => made) x) :
    Placed k (made.map grown.view) n a [e] b where
  start := ha
  grown := hb
  size_le := hext.size_le.trans_eq hsize.symm
  lt := by simpa using he
  get?_eq x hx := (hget x).trans (hext.get?_eq x hx)
  children_eq := by
    refine ⟨fun _ => made, List.forall_mem_singleton.mpr ⟨fun i hi => ?_, ?_⟩, hold⟩
    · exact ⟨(hmade i hi).1, (hmade i hi).2.trans_eq hsize.symm⟩
    · -- the trees below the copies stay, since only old nodes have got other children
      have hgrown := ha.of_extends hw hext
      exact List.map_congr_left fun i hi => hgrown.view_congr hb.wellFormed
        (fun y hy _ => ⟨hnew y hy, hget y⟩) (ha.le_size.trans (hmade i hi).1) (hmade i hi).2

/-- Taking out a node puts nothing in its place. -/
theorem placed_detach (ha : a.Grown n) (he : e < n) :
    Placed .instead [] n a [e] (a.detach e) := by
  refine ⟨ha, ha.detach e, by simp, by simpa using he, fun x _ => get?_detach e x,
    fun _ => [], by simp, fun x _ => ?_⟩
  rw [ha.wellFormed.children_detach]
  simp only [filled, Placement.among, ite_self]
  induction a.children x with
  | nil => rfl
  | cons c cs ih =>
    rw [List.flatMap_cons, ← ih]
    by_cases hc : c = e <;> simp [slot, Placement.around, hc]

/-- The copies of a forest become the last children of a node. -/
theorem placed_appendChildren (ha : a.Grown n) (hg : GraftedAll a ts grown made) (he : e < n) :
    Placed .inside ts n a [e] (grown.appendChildren e made) := by
  have hgrown := ha.of_extends hg.wellFormed hg.extends_
  have hlt : e < grown.size := he.trans_le hgrown.le_size
  have hchildren := hg.wellFormed.children_appendChildren hlt
    (fun m hm => ⟨hg.lt_size m hm, hg.parent?_eq m hm⟩) hg.nodup
  rw [← hg.view_eq]
  refine placed_of_extends ha hg.extends_ hg.wellFormed
    (fun i hi => ⟨hg.size_le i hi, hg.lt_size i hi⟩) (hgrown.appendChildren he fun i hi =>
      ⟨ha.le_size.trans (hg.size_le i hi), hg.lt_size i hi⟩) (by simp) (by simp)
    (fun x hx => ?_) he fun x hx => ?_
  · rw [hchildren, if_neg (he.trans_le hx).ne']
  · rw [hchildren, filled_among (fun _ _ => rfl), hg.extends_.children_eq x hx]
    rfl

/-- The copy of a tree becomes the first child of a node. -/
theorem placed_insertChild (ha : a.Grown n) (hg : Grafted a t grown id) (he : e < n) :
    Placed .prepend [t] n a [e] (grown.insertChild e 0 id) := by
  have hgrown := ha.of_extends hg.wellFormed hg.extends_
  have hlt : e < grown.size := he.trans_le hgrown.le_size
  have hchildren (x : NodeId) : (grown.insertChild e 0 id).children x =
      if x = e then id :: grown.children x else grown.children x := by
    rw [hg.wellFormed.children_insertChild hlt,
      hg.wellFormed.filter_children_of_ne (by simp [hg.parent?_eq])]
    simp
  rw [← hg.view_eq, ← List.map_singleton]
  refine placed_of_extends ha hg.extends_ hg.wellFormed
    (List.forall_mem_singleton.mpr ⟨hg.id_eq.ge, hg.id_lt⟩)
    (hgrown.insertChild he 0 (ha.le_size.trans_eq hg.id_eq.symm) hg.id_lt) (by simp) (by simp)
    (fun x hx => ?_) he fun x hx => ?_
  · rw [hchildren, if_neg (he.trans_le hx).ne']
  · rw [hchildren, filled_among (fun _ _ => rfl), hg.extends_.children_eq x hx]
    rfl

/-- A copy takes the place of a node that has a parent. -/
theorem exists_replace? (ha : a.Grown n) (hg : GraftedAll a ts grown made) (hid : id ∈ made)
    (he : e < n) (hparent : a.parent? e = some parent) :
    ∃ b, grown.replace? e id = some b ∧ Placed .instead [grown.view id] n a [e] b := by
  have hgrown := ha.of_extends hg.wellFormed hg.extends_
  have hp : parent < n := ha.closed e parent he hparent
  obtain ⟨before, after, hsplit, -⟩ :=
    List.eq_append_cons_of_mem ((ha.wellFormed.mem_children_iff parent e).mpr hparent)
  have hsplit' : grown.children parent = before ++ e :: after :=
    (hg.extends_.children_eq parent (hp.trans_le ha.le_size)).trans hsplit
  have hparent' : grown.parent? e = some parent :=
    (hg.wellFormed.mem_children_iff parent e).mp (by simp [hsplit'])
  have hreplace : grown.replace? e id =
      some ((grown.detach e).insertChild parent before.length id) := by
    simp [replace?, hparent', hg.wellFormed.indexInParent?_eq hsplit']
  have hnew : n ≤ id := ha.le_size.trans (hg.size_le id hid)
  have hend := hgrown.replace? he hnew (hg.lt_size id hid) hreplace
  have hchildren (x : NodeId) :
      ((grown.detach e).insertChild parent before.length id).children x =
        if x = parent then before ++ id :: after else grown.children x := by
    have hdetached : (grown.detach e).parent? id ≠ some x := by
      simp [parent?_detach, hg.parent?_eq id hid]
    rw [(hgrown.detach e).wellFormed.children_insertChild (by simpa using hp.trans_le hgrown.le_size),
      (hgrown.detach e).wellFormed.filter_children_of_ne hdetached,
      hg.wellFormed.children_detach]
    split
    · next h =>
      -- the old child goes from where it stood, and the new one comes there
      have hnodup := hg.wellFormed.nodup_children parent
      rw [hsplit'] at hnodup
      have hout : (before ++ e :: after).filter (· != e) = before ++ after := by
        have hbefore : e ∉ before := fun he =>
          List.disjoint_of_nodup_append hnodup he List.mem_cons_self
        have hafter : e ∉ after := (List.nodup_cons.mp hnodup.of_append_right).1
        rw [List.filter_append, List.filter_cons_of_neg (by simp),
          List.filter_eq_self.mpr fun x hx => by simpa using ne_of_mem_of_not_mem hx hbefore,
          List.filter_eq_self.mpr fun x hx => by simpa using ne_of_mem_of_not_mem hx hafter]
      rw [h, hsplit', hout, Nat.min_eq_left (by simp), insertIdx_length]
    · next h => exact hg.wellFormed.filter_children_of_ne (by simpa [hparent'] using Ne.symm h)
  refine ⟨_, hreplace, ?_⟩
  rw [← List.map_singleton]
  refine placed_of_extends ha hg.extends_ hg.wellFormed
    (List.forall_mem_singleton.mpr ⟨hg.size_le id hid, hg.lt_size id hid⟩) hend (by simp) (by simp)
    (fun x hx => ?_) he fun x hx => ?_
  · rw [hchildren, if_neg (hp.trans_le hx).ne']
  · rw [hchildren, filled_beside (fun _ _ => rfl) ha.wellFormed hsplit, hg.extends_.children_eq x hx]
    simp [Placement.around]

end View

end SourceEdit.Arena
