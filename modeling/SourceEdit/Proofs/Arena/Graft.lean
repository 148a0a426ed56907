import SourceEdit.Proofs.Arena.Layout

/-!
# Copying trees into an arena

A grafted tree is made of new nodes only.  `graft_spec` says all that a graft does to a well-formed
arena: the arena stays well-formed, its old nodes stay as they are, the new node has no parent, and
the tree below it is the tree that was copied.  `graftAll_spec` is the same for a forest, and
`view_ofForest` says that an arena made from a forest holds it.

An edit first finds nodes and then works on the arena, which gets new nodes on the way.  `Grown a k`
is what holds in between: the arena is well-formed and its first `k` nodes, those that were there
when the edit began, have their parents among themselves.  Then a new node may be put under any of
the first `k` ones, and that is all that an edit does besides taking nodes out.
-/

namespace SourceEdit.Arena

variable {α : Type}

mutual

/-- A graft leaves an arena well-formed. -/
theorem WellFormed.graft {a : Arena α} (ha : a.WellFormed) :
    (t : Tree α) → (a.graft t).1.WellFormed
  | .node v cs => by
    have hnew : a.size < (a.alloc v).1.size := by simp
    exact (ha.alloc v).graftChildren hnew cs

theorem WellFormed.graftChildren {a : Arena α} (ha : a.WellFormed) {p : NodeId} (hp : p < a.size) :
    (ts : List (Tree α)) → (a.graftChildren p ts).WellFormed
  | [] => ha
  | t :: ts => by
    have h := laid_graft a t
    have hclosed : (a.graft t).1.Closed a.size := h.extends_.closed ha.toLinked
    have happended : ((a.graft t).1.appendChild p (a.graft t).2).WellFormed := by
      rw [graft_snd]
      exact (ha.graft t).insertChild_of_closed hclosed hp _ h.size_lt (Nat.le_refl _)
    exact happended.graftChildren (by simpa using hp.trans h.size_lt) ts

end

theorem WellFormed.graftAll {a : Arena α} (ha : a.WellFormed) (ts : List (Tree α)) :
    (a.graftAll ts).1.WellFormed := by
  induction ts generalizing a with
  | nil => exact ha
  | cons t ts ih => exact ih (ha.graft t)

/-! ### Arenas that grow under editing -/

section Growth

variable {a b : Arena α} {k : Nat}

/-- An arena is well-formed, and its first `k` nodes keep to themselves. -/
structure Grown (a : Arena α) (k : Nat) : Prop where
  wellFormed : a.WellFormed
  closed : a.Closed k
  le_size : k ≤ a.size

theorem WellFormed.grown (hw : a.WellFormed) : a.Grown a.size :=
  ⟨hw, hw.closed_size, Nat.le_refl _⟩

theorem Grown.detach (h : a.Grown k) (id : NodeId) : (a.detach id).Grown k :=
  ⟨h.wellFormed.detach id, h.closed.detach id, by simpa using h.le_size⟩

theorem Grown.alloc (h : a.Grown k) (v : α) : (a.alloc v).1.Grown k :=
  ⟨h.wellFormed.alloc v, h.closed.alloc v, by simpa using h.le_size.trans (Nat.le_succ _)⟩

theorem Grown.clearChildren (h : a.Grown k) (id : NodeId) : (a.clearChildren id).Grown k := by
  refine ⟨h.wellFormed.clearChildren id, fun c p hc hp => ?_, by simpa using h.le_size⟩
  rw [h.wellFormed.parent?_clearChildren] at hp
  split at hp
  · cases hp
  · exact h.closed c p hc hp

/-- A larger arena that is well-formed is grown where the smaller one is. -/
theorem Grown.of_extends (h : a.Grown k) (hb : b.WellFormed) (hab : a.Extends b) : b.Grown k := by
  refine ⟨hb, fun c p hc hp => ?_, h.le_size.trans hab.size_le⟩
  rw [hab.parent?_eq c (hc.trans_le h.le_size)] at hp
  exact h.closed c p hc hp

/-- A new node goes under an old one. -/
theorem Grown.insertChild (h : a.Grown k) {p c : NodeId} (hp : p < k) (i : Nat) (hkc : k ≤ c)
    (hc : c < a.size) : (a.insertChild p i c).Grown k :=
  ⟨h.wellFormed.insertChild_of_closed h.closed hp i hc hkc, h.closed.insertChild hp i hc,
    by simpa using h.le_size⟩

theorem Grown.appendChild (h : a.Grown k) {p c : NodeId} (hp : p < k) (hkc : k ≤ c)
    (hc : c < a.size) : (a.appendChild p c).Grown k :=
  h.insertChild hp _ hkc hc

/-- New nodes go under an old one, one after the other. -/
theorem Grown.appendChildren (h : a.Grown k) {p : NodeId} (hp : p < k) {ids : List NodeId}
    (hids : ∀ id ∈ ids, k ≤ id ∧ id < a.size) : (a.appendChildren p ids).Grown k := by
  induction ids generalizing a with
  | nil => exact h
  | cons id ids ih =>
    obtain ⟨hk, hlt⟩ := hids id List.mem_cons_self
    refine ih (h.appendChild hp hk hlt) fun x hx => ?_
    simpa using hids x (List.mem_cons_of_mem _ hx)

/-- A new node takes the place of an old one. -/
theorem Grown.replace? (h : a.Grown k) {old new : NodeId} (hold : old < k) (hk : k ≤ new)
    (hnew : new < a.size) (hb : a.replace? old new = some b) : b.Grown k := by
  obtain ⟨p, i, hp, -, rfl⟩ := replace?_eq_some hb
  exact (h.detach old).insertChild (h.closed old p hold hp) i hk (by simpa using hnew)

end Growth

variable [Inhabited α]

/-- A tree has been copied from outside into an arena and has become the node `id`. -/
structure Grafted (a : Arena α) (t : Tree α) (b : Arena α) (id : NodeId) : Prop where
  wellFormed : b.WellFormed
  extends_ : a.Extends b
  id_eq : id = a.size
  id_lt : id < b.size
  parent?_eq : b.parent? id = none
  view_eq : b.view id = t

/-- A forest has been copied from outside into an arena and its trees have become the last children
of the node `p`. -/
structure GraftedUnder (a : Arena α) (p : NodeId) (ts : List (Tree α)) (b : Arena α) : Prop where
  wellFormed : b.WellFormed
  size_le : a.size ≤ b.size
  parent?_eq (x : NodeId) : x < a.size → b.parent? x = a.parent? x
  children_eq (x : NodeId) : x < a.size → x ≠ p → b.children x = a.children x
  get?_eq (x : NodeId) : x < a.size → b.get? x = a.get? x
  children_parent : ∃ ids, b.children p = a.children p ++ ids ∧ ids.map b.view = ts

/-- A tree that has been copied becomes the last child of a node. -/
theorem Grafted.appendChild {a b : Arena α} {t : Tree α} {p id : NodeId}
    (h : Grafted a t b id) (ha : a.WellFormed) (hp : p < a.size) :
    GraftedUnder a p [t] (b.appendChild p id) := by
  have hclosed : b.Closed a.size := h.extends_.closed ha.toLinked
  have hpb : p < b.size := hp.trans_le h.extends_.size_le
  have hwf : (b.appendChild p id).WellFormed :=
    h.wellFormed.insertChild_of_closed hclosed hp _ h.id_lt h.id_eq.ge
  have hfilter (x : NodeId) : (b.children x).filter (· != id) = b.children x :=
    h.wellFormed.filter_children_of_ne (by simp [h.parent?_eq])
  have hchildren (x : NodeId) :
      (b.appendChild p id).children x = if x = p then b.children x ++ [id] else b.children x := by
    rw [h.wellFormed.children_appendChild hpb, hfilter]
  have hne (x : NodeId) (hx : x < a.size) : x ≠ id := (hx.trans_eq h.id_eq.symm).ne
  have hview : (b.appendChild p id).view id = t := by
    refine (h.wellFormed.view_congr hwf fun y hy => ⟨?_, by simp⟩).trans h.view_eq
    rw [hchildren, if_neg]
    rintro rfl
    exact absurd (hclosed.lt_of_below hp hy) (h.id_eq.ge.not_gt)
  refine ⟨hwf, by simpa using h.extends_.size_le, ?_, ?_, ?_, [id], ?_, ?_⟩
  · intro x hx
    rw [parent?_appendChild p h.id_lt, if_neg (hne x hx), h.extends_.parent?_eq x hx]
  · intro x hx hxp
    rw [hchildren, if_neg hxp, h.extends_.children_eq x hx]
  · intro x hx
    rw [get?_appendChild, h.extends_.get?_eq x hx]
  · rw [hchildren, if_pos rfl, h.extends_.children_eq p hp]
  · simp [hview]

/-- Forests that are copied under a node one after the other come to stand side by side. -/
theorem GraftedUnder.trans {a b c : Arena α} {p : NodeId} {ts us : List (Tree α)}
    (hab : GraftedUnder a p ts b) (hbc : GraftedUnder b p us c) :
    GraftedUnder a p (ts ++ us) c := by
  have hlt {x : NodeId} (hx : x < a.size) : x < b.size := hx.trans_le hab.size_le
  refine ⟨hbc.wellFormed, hab.size_le.trans hbc.size_le, ?_, ?_, ?_, ?_⟩
  · exact fun x hx => (hbc.parent?_eq x (hlt hx)).trans (hab.parent?_eq x hx)
  · exact fun x hx hxp => (hbc.children_eq x (hlt hx) hxp).trans (hab.children_eq x hx hxp)
  · exact fun x hx => (hbc.get?_eq x (hlt hx)).trans (hab.get?_eq x hx)
  · obtain ⟨ids, hids, rfl⟩ := hab.children_parent
    obtain ⟨more, hmore, rfl⟩ := hbc.children_parent
    refine ⟨ids ++ more, by rw [hmore, hids, List.append_assoc], ?_⟩
    -- the first copies are children of `p`, so `p` is not below them
    have hkept : ∀ id ∈ ids, c.view id = b.view id := by
      intro id hid
      have hparent : b.parent? id = some p :=
        (hab.wellFormed.mem_children_iff p id).mp (hids ▸ List.mem_append_right _ hid)
      refine hab.wellFormed.view_congr hbc.wellFormed fun y hy => ?_
      have hy' : y < b.size := hy.lt_size (lt_size_of_parent? hparent)
      refine ⟨hbc.children_eq y hy' ?_, hbc.get?_eq y hy'⟩
      rintro rfl
      exact hab.wellFormed.not_below_child hparent hy
    rw [List.map_append, List.map_congr_left hkept]

/-- A graft copies a tree into new nodes and leaves the old ones alone. -/
theorem graft_spec {a : Arena α} (ha : a.WellFormed) (t : Tree α) :
    Grafted a t (a.graft t).1 (a.graft t).2 := by
  have h := laid_graft a t
  have hroom : t.size ≤ (a.graft t).1.size := by
    rw [h.size_eq]
    exact Nat.le_add_left t.size a.size
  rw [graft_snd]
  exact ⟨ha.graft t, h.extends_, rfl, h.size_lt, h.parent?_eq, h.laidOut.viewTo_eq hroom⟩

/-- Grafting a forest under a node copies it into new nodes below that node. -/
theorem graftChildren_spec {a : Arena α} (ha : a.WellFormed) {p : NodeId} (hp : p < a.size)
    (ts : List (Tree α)) : GraftedUnder a p ts (a.graftChildren p ts) := by
  have h := laidUnder_graftChildren a hp ts
  have hsize : (a.graftChildren p ts).size = a.size + Tree.sizeAll ts := h.size_eq
  exact ⟨ha.graftChildren hp ts, by omega, h.parent?_eq, h.children_eq, h.get?_eq,
    rootsFrom a.size ts, h.children_parent, h.laidOut.map_viewTo (by omega)⟩

/-! ### Trees that grow at their end -/

section Growing

variable {a c : Arena α} {p : NodeId} {v : α} {ts : List (Tree α)}

theorem GraftedUnder.refl (ha : a.WellFormed) (p : NodeId) : GraftedUnder a p [] a :=
  ⟨ha, Nat.le_refl _, fun _ _ => rfl, fun _ _ _ => rfl, fun _ _ => rfl, [],
    (List.append_nil _).symm, rfl⟩

/-- A new node at the end of another one is a tree of its own. -/
theorem GraftedUnder.of_alloc (ha : a.WellFormed) (hp : p < a.size) (v : α) :
    GraftedUnder a p [.node v []] ((a.alloc v).1.appendChild p a.size) :=
  (graft_spec ha (.node v [])).appendChild ha hp

omit [Inhabited α] in
/-- A new node has no children. -/
theorem children_appendChild_alloc (ha : a.WellFormed) (hp : p < a.size) (v : α) :
    ((a.alloc v).1.appendChild p a.size).children a.size = [] := by
  rw [(ha.alloc v).children_appendChild (by simpa using Nat.lt_succ_of_lt hp), if_neg hp.ne',
    children_alloc, children_eq_nil_of_size_le (Nat.le_refl _)]
  rfl

/-- What is put under a new node becomes a tree with it. -/
theorem GraftedUnder.node (ha : a.WellFormed) (hp : p < a.size)
    (h : GraftedUnder ((a.alloc v).1.appendChild p a.size) a.size ts c) :
    GraftedUnder a p [.node v ts] c := by
  have hnew := GraftedUnder.of_alloc ha hp v
  have hsize : a.size < ((a.alloc v).1.appendChild p a.size).size := by simp
  have hlt {x : NodeId} (hx : x < a.size) : x < ((a.alloc v).1.appendChild p a.size).size :=
    hx.trans hsize
  refine ⟨h.wellFormed, hnew.size_le.trans h.size_le, ?_, ?_, ?_, ?_⟩
  · exact fun x hx => (h.parent?_eq x (hlt hx)).trans (hnew.parent?_eq x hx)
  · exact fun x hx hxp => (h.children_eq x (hlt hx) hx.ne).trans (hnew.children_eq x hx hxp)
  · exact fun x hx => (h.get?_eq x (hlt hx)).trans (hnew.get?_eq x hx)
  · obtain ⟨ids, hids, rfl⟩ := h.children_parent
    have hview : c.view a.size = .node v (ids.map c.view) := by
      rw [h.wellFormed.view_eq, h.get?_eq _ hsize, get?_appendChild, get?_alloc, if_pos rfl, hids,
        children_appendChild_alloc ha hp]
      rfl
    refine ⟨[a.size], ?_, by rw [List.map_singleton, hview]⟩
    rw [h.children_eq p (hlt hp) hp.ne,
      (ha.alloc v).children_appendChild (by simpa using Nat.lt_succ_of_lt hp), if_pos rfl,
      children_alloc, List.filter_eq_self.mpr]
    intro x hx
    exact bne_iff_ne.mpr (lt_size_of_parent? ((ha.mem_children_iff p x).mp hx)).ne

end Growing

/-! ### Forests -/

/-- A forest has been copied from outside into an arena; its trees have become detached nodes. -/
structure GraftedAll (a : Arena α) (ts : List (Tree α)) (b : Arena α) (ids : List NodeId) :
    Prop where
  wellFormed : b.WellFormed
  extends_ : a.Extends b
  size_le : ∀ id ∈ ids, a.size ≤ id
  lt_size : ∀ id ∈ ids, id < b.size
  parent?_eq : ∀ id ∈ ids, b.parent? id = none
  nodup : ids.Nodup
  view_eq : ids.map b.view = ts

/-- A tree that has been copied is a forest of one that has been. -/
theorem Grafted.graftedAll {a b : Arena α} {t : Tree α} {id : NodeId} (h : Grafted a t b id) :
    GraftedAll a [t] b [id] where
  wellFormed := h.wellFormed
  extends_ := h.extends_
  size_le := List.forall_mem_singleton.mpr h.id_eq.ge
  lt_size := List.forall_mem_singleton.mpr h.id_lt
  parent?_eq := List.forall_mem_singleton.mpr h.parent?_eq
  nodup := List.nodup_singleton id
  view_eq := by rw [List.map_singleton, h.view_eq]

theorem graftAll_spec {a : Arena α} (ha : a.WellFormed) (ts : List (Tree α)) :
    GraftedAll a ts (a.graftAll ts).1 (a.graftAll ts).2 := by
  have h := laid_graftAll a ts
  exact ⟨ha.graftAll ts, h.extends_, fun id hid => (h.bounds id hid).1,
    fun id hid => (h.bounds id hid).2, h.parent?_eq, h.nodup, h.view_eq⟩

theorem length_graftAll {a : Arena α} (ha : a.WellFormed) (ts : List (Tree α)) :
    (a.graftAll ts).2.length = ts.length := by
  rw [← congrArg List.length (graftAll_spec ha ts).view_eq, List.length_map]

/-! ### Arenas of forests -/

omit [Inhabited α] in
private theorem children_withRoot (v : α) : (withRoot v).children 0 = [] := rfl

omit [Inhabited α] in
private theorem get?_withRoot (v : α) : (withRoot v).get? 0 = some v := rfl

theorem WellFormed.ofForest (v : α) (ts : List (Tree α)) : (ofForest v ts).WellFormed :=
  (graftChildren_spec (.withRoot v) Nat.one_pos ts).wellFormed

theorem get?_root_ofForest (v : α) (ts : List (Tree α)) :
    (ofForest v ts).get? (ofForest v ts).root = some v :=
  (graftChildren_spec (.withRoot v) Nat.one_pos ts).get?_eq 0 Nat.one_pos

/-- An arena made from a forest holds it below its root. -/
theorem view_ofForest (v : α) (ts : List (Tree α)) :
    (ofForest v ts).view (ofForest v ts).root = .node v ts := by
  have h := graftChildren_spec (WellFormed.withRoot v) Nat.one_pos ts
  obtain ⟨ids, hids, hview⟩ := h.children_parent
  rw [children_withRoot, List.nil_append] at hids
  refine (h.wellFormed.view_eq 0).trans ?_
  rw [h.get?_eq 0 Nat.one_pos, get?_withRoot, hids, hview]
  rfl

/-- A forest that is read into the arena consists of new nodes. -/
theorem Grown.graftAll {a : Arena α} {k : Nat} (h : a.Grown k) (ts : List (Tree α)) :
    (a.graftAll ts).1.Grown k ∧ a.Extends (a.graftAll ts).1 ∧
      ∀ id ∈ (a.graftAll ts).2, k ≤ id ∧ id < (a.graftAll ts).1.size := by
  have hs := graftAll_spec h.wellFormed ts
  exact ⟨h.of_extends hs.wellFormed hs.extends_, hs.extends_, fun id hid =>
    ⟨h.le_size.trans (hs.size_le id hid), hs.lt_size id hid⟩⟩

end SourceEdit.Arena
