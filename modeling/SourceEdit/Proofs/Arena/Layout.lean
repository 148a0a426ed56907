import SourceEdit.Proofs.Arena.View

/-!
# Where the nodes of a copy stand

`Arena.graft` makes the node of a tree first, and then copies one subtree after the other.  So the nodes
of a copy are consecutive ones, and they are numbered in document order: `LaidOut` says this of a tree
and an arena.

A graft looks at no node but those that it makes and, if the copies go under a node, at that one.  This is
why `laid_graft` and `laid_graftAll` ask nothing of the arena that is copied into.  Whatever links it
holds, the nodes that were there stay as they are, and the new ones hold the copy.
-/

namespace SourceEdit

/-! ### Sizes -/

namespace Tree

variable {α : Type}

@[simp]
theorem size_node (v : α) (cs : List (Tree α)) : (node v cs).size = sizeAll cs + 1 := rfl

@[simp]
theorem sizeAll_nil : sizeAll ([] : List (Tree α)) = 0 := rfl

@[simp]
theorem sizeAll_cons (t : Tree α) (ts : List (Tree α)) : sizeAll (t :: ts) = t.size + sizeAll ts :=
  rfl

theorem size_pos : (t : Tree α) → 0 < t.size
  | node _ cs => Nat.succ_pos (sizeAll cs)

end Tree

namespace Arena

variable {α : Type} {a b c : Arena α} {n p : Nat}

/-! ### Layouts -/

/-- The roots of trees that stand one after the other from a node on. -/
def rootsFrom (n : Nat) : List (Tree α) → List NodeId
  | [] => []
  | t :: ts => n :: rootsFrom (n + t.size) ts

mutual

/-- The nodes from `n` on are those of a tree, in document order. -/
def LaidOut (a : Arena α) (n : Nat) : Tree α → Prop
  | .node v cs =>
    a.get? n = some v ∧ a.children n = rootsFrom (n + 1) cs ∧ LaidOutUnder a n (n + 1) cs

/-- The nodes from `n` on are those of trees that stand side by side under the node `p`. -/
def LaidOutUnder (a : Arena α) (p n : Nat) : List (Tree α) → Prop
  | [] => True
  | t :: ts => a.parent? n = some p ∧ LaidOut a n t ∧ LaidOutUnder a p (n + t.size) ts

end

mutual

/-- A layout only depends on its nodes, and not on the parent of the first one. -/
theorem LaidOut.congr {n : Nat} : {t : Tree α} → a.LaidOut n t →
    (∀ x : Nat, n ≤ x → x < n + t.size → b.get? x = a.get? x ∧ b.children x = a.children x ∧
      (x ≠ n → b.parent? x = a.parent? x)) → b.LaidOut n t
  | .node v cs, ⟨hvalue, hchildren, hunder⟩, h => by
    rw [Tree.size_node] at h
    obtain ⟨hvalue', hchildren', -⟩ := h n (Nat.le_refl n) (by omega)
    refine ⟨hvalue'.trans hvalue, hchildren'.trans hchildren, hunder.congr fun x hx hlt => ?_⟩
    obtain ⟨hv, hc, hp⟩ := h x (by omega) (by omega)
    exact ⟨hv, hc, hp (by omega)⟩

theorem LaidOutUnder.congr {p n : Nat} : {ts : List (Tree α)} → a.LaidOutUnder p n ts →
    (∀ x : Nat, n ≤ x → x < n + Tree.sizeAll ts → b.get? x = a.get? x ∧
      b.children x = a.children x ∧ b.parent? x = a.parent? x) → b.LaidOutUnder p n ts
  | [], _, _ => trivial
  | t :: ts, ⟨hparent, htree, hrest⟩, h => by
    rw [Tree.sizeAll_cons] at h
    have hpos := t.size_pos
    refine ⟨?_, htree.congr fun x hx hlt => ?_, hrest.congr fun x hx hlt => ?_⟩
    · exact (h n (Nat.le_refl n) (by omega)).2.2.trans hparent
    · obtain ⟨hv, hc, hp⟩ := h x hx (by omega)
      exact ⟨hv, hc, fun _ => hp⟩
    · exact h x (by omega) (by omega)

end

/-- A layout stays in a larger arena. -/
theorem LaidOut.of_extends {t : Tree α} (ht : a.LaidOut n t) (hab : a.Extends b)
    (hsize : n + t.size ≤ a.size) : b.LaidOut n t :=
  ht.congr fun x _ hlt =>
    have hx : x < a.size := hlt.trans_le hsize
    ⟨hab.get?_eq x hx, hab.children_eq x hx, fun _ => hab.parent?_eq x hx⟩

/-! ### What is read off a layout -/

mutual

/-- When a laid out tree is pending, its nodes are listed in their order before the others. -/
theorem LaidOut.drain_eq {n : Nat} (k : Nat) (pending : List NodeId) : {t : Tree α} → a.LaidOut n t →
    a.drain (t.size + k) (n :: pending) = List.range' n t.size ++ a.drain k pending
  | .node v cs, ⟨_, hchildren, hunder⟩ => by
    have hturn : Tree.sizeAll cs + 1 + k = Tree.sizeAll cs + k + 1 := by omega
    rw [Tree.size_node, hturn, drain, hchildren, hunder.drain_eq k pending, List.range'_succ,
      List.cons_append]

theorem LaidOutUnder.drain_eq {p n : Nat} (k : Nat) (pending : List NodeId) :
    {ts : List (Tree α)} → a.LaidOutUnder p n ts →
    a.drain (Tree.sizeAll ts + k) (rootsFrom n ts ++ pending) =
      List.range' n (Tree.sizeAll ts) ++ a.drain k pending
  | [], _ => by
    rw [Tree.sizeAll_nil, Nat.zero_add]
    rfl
  | t :: ts, ⟨_, htree, hrest⟩ => by
    rw [Tree.sizeAll_cons, rootsFrom, List.cons_append, Nat.add_assoc, htree.drain_eq,
      hrest.drain_eq, ← List.append_assoc, List.range'_append_1]

end

/-- The descendants of a node from which a tree is laid out are the nodes of the layout. -/
theorem LaidOut.descendants_eq {t : Tree α} (ht : a.LaidOut n t) (hsize : t.size ≤ a.size) :
    a.descendants n = List.range' n t.size := by
  obtain ⟨k, hk⟩ := Nat.exists_eq_add_of_le hsize
  have hnil : a.drain k [] = [] := by cases k <;> rfl
  rw [descendants, hk, ht.drain_eq, hnil, List.append_nil]

mutual

/-- The tree below a node from which it is laid out is read with its size as a bound on its depth. -/
theorem LaidOut.viewTo_eq [Inhabited α] {n k : Nat} : {t : Tree α} → a.LaidOut n t → t.size ≤ k →
    a.viewTo k n = t
  | .node v cs, ⟨hvalue, hchildren, hunder⟩, hk => by
    obtain ⟨k, rfl⟩ : ∃ m, k = m + 1 := Nat.exists_eq_add_one.mpr (Nat.zero_lt_of_lt hk)
    have hcs : Tree.sizeAll cs ≤ k := Nat.le_of_succ_le_succ hk
    rw [viewTo, hvalue, hchildren, hunder.map_viewTo hcs, Option.getD_some]

theorem LaidOutUnder.map_viewTo [Inhabited α] {p n k : Nat} : {ts : List (Tree α)} →
    a.LaidOutUnder p n ts → Tree.sizeAll ts ≤ k → (rootsFrom n ts).map (a.viewTo k) = ts
  | [], _, _ => rfl
  | t :: ts, ⟨_, htree, hrest⟩, hk => by
    rw [Tree.sizeAll_cons] at hk
    rw [rootsFrom, List.map_cons, htree.viewTo_eq (by omega), hrest.map_viewTo (by omega)]

end

/-! ### Grafts -/

/-- A tree has been copied into new nodes, and its root has no parent. -/
structure Laid (a : Arena α) (t : Tree α) (b : Arena α) : Prop where
  size_eq : b.size = a.size + t.size
  extends_ : a.Extends b
  parent?_eq : b.parent? a.size = none
  laidOut : b.LaidOut a.size t

/-- Trees have been copied into new nodes and have become the last children of a node. -/
structure LaidUnder (a : Arena α) (p : Nat) (ts : List (Tree α)) (b : Arena α) : Prop where
  size_eq : b.size = a.size + Tree.sizeAll ts
  parent?_eq (x : Nat) : x < a.size → b.parent? x = a.parent? x
  children_eq (x : Nat) : x < a.size → x ≠ p → b.children x = a.children x
  get?_eq (x : Nat) : x < a.size → b.get? x = a.get? x
  children_parent : b.children p = a.children p ++ rootsFrom a.size ts
  laidOut : b.LaidOutUnder p a.size ts

theorem Laid.size_lt {t : Tree α} (h : Laid a t b) : a.size < b.size := by
  rw [h.size_eq]
  exact Nat.lt_add_of_pos_right t.size_pos

/-- A node without a parent that is appended to another one is taken out of no list. -/
private theorem children_appendChild_of_parent?_eq_none {id : Nat} (hp : p < a.size)
    (hid : a.parent? id = none) (x : Nat) :
    (a.appendChild p id).children x = if x = p then a.children x ++ [id] else a.children x := by
  have hdetach : a.detach id = a := by rw [detach, hid]
  simp only [appendChild, insertChild, hdetach, children_setParent]
  rw [children_modifyChildren hp]
  by_cases hx : x = p
  · subst hx
    rw [if_pos rfl, if_pos rfl, Nat.min_self, List.insertIdx_length_self]
  · rw [if_neg hx, if_neg hx]

/-- A copy is appended to a node that was there before. -/
theorem Laid.appendChild {t : Tree α} (h : Laid a t b) (hp : p < a.size) :
    LaidUnder a p [t] (b.appendChild p a.size) := by
  have hnew := h.size_lt
  have hpb : p < b.size := hp.trans hnew
  have hchildren (x : Nat) : (b.appendChild p a.size).children x =
      if x = p then b.children x ++ [a.size] else b.children x :=
    children_appendChild_of_parent?_eq_none hpb h.parent?_eq x
  have hparent (x : Nat) : (b.appendChild p a.size).parent? x =
      if x = a.size then some p else b.parent? x :=
    parent?_appendChild p hnew x
  refine ⟨?_, fun x hx => ?_, fun x hx hxp => ?_, fun x hx => ?_, ?_, ?_, ?_, trivial⟩
  · rw [size_appendChild, h.size_eq]
    rfl
  · rw [hparent, if_neg hx.ne, h.extends_.parent?_eq x hx]
  · rw [hchildren, if_neg hxp, h.extends_.children_eq x hx]
  · rw [get?_appendChild, h.extends_.get?_eq x hx]
  · rw [hchildren, if_pos rfl, h.extends_.children_eq p hp]
    rfl
  · rw [hparent, if_pos rfl]
  · refine h.laidOut.congr fun x hx _ => ⟨get?_appendChild p a.size x, ?_, fun hne => ?_⟩
    · rw [hchildren, if_neg (by omega)]
    · rw [hparent, if_neg hne]

/-- Copies that are made after another one come behind it. -/
theorem LaidUnder.cons {t : Tree α} {ts : List (Tree α)} (hab : LaidUnder a p [t] b)
    (hp : p < a.size) (hbc : LaidUnder b p ts c) : LaidUnder a p (t :: ts) c := by
  have hpos := t.size_pos
  have hsize : b.size = a.size + t.size := hab.size_eq
  obtain ⟨hparent, htree, -⟩ := hab.laidOut
  refine ⟨?_, fun x hx => ?_, fun x hx hxp => ?_, fun x hx => ?_, ?_, ?_, ?_, hsize ▸ hbc.laidOut⟩
  · rw [hbc.size_eq, hsize, Tree.sizeAll_cons, Nat.add_assoc]
  · rw [hbc.parent?_eq x (by omega), hab.parent?_eq x hx]
  · rw [hbc.children_eq x (by omega) hxp, hab.children_eq x hx hxp]
  · rw [hbc.get?_eq x (by omega), hab.get?_eq x hx]
  · rw [hbc.children_parent, hab.children_parent, hsize, List.append_assoc]
    rfl
  · rw [hbc.parent?_eq a.size (by omega), hparent]
  · refine htree.congr fun x hx hlt => ⟨?_, ?_, fun _ => ?_⟩
    · exact hbc.get?_eq x (by omega)
    · exact hbc.children_eq x (by omega) (by omega)
    · exact hbc.parent?_eq x (by omega)

/-- The node that a graft gives is the first new one. -/
theorem graft_snd (a : Arena α) : (t : Tree α) → (a.graft t).2 = a.size
  | .node _ _ => rfl

mutual

/-- A graft copies a tree into new nodes, whatever the arena holds. -/
theorem laid_graft (a : Arena α) : (t : Tree α) → Laid a t (a.graft t).1
  | .node v cs => by
    have hnew : a.size < (a.alloc v).1.size := by simp
    have h : LaidUnder (a.alloc v).1 a.size cs (a.graft (.node v cs)).1 :=
      laidUnder_graftChildren (a.alloc v).1 hnew cs
    have hold := Extends.alloc a v
    have hsize := h.size_eq
    rw [size_alloc] at hsize
    have hlt {x : Nat} (hx : x < a.size) : x < (a.alloc v).1.size := hx.trans hnew
    refine ⟨?_, ⟨?_, fun x hx => ?_, fun x hx => ?_, fun x hx => ?_⟩, ?_, ?_, ?_, ?_⟩
    · rw [hsize, Tree.size_node]
      omega
    · omega
    · rw [h.parent?_eq x (hlt hx), hold.parent?_eq x hx]
    · rw [h.children_eq x (hlt hx) (Nat.ne_of_lt hx), hold.children_eq x hx]
    · rw [h.get?_eq x (hlt hx), hold.get?_eq x hx]
    · rw [h.parent?_eq a.size hnew, parent?_alloc, parent?_eq_none_of_size_le (Nat.le_refl _)]
    · rw [h.get?_eq a.size hnew, get?_alloc, if_pos rfl]
    · rw [h.children_parent, children_alloc, children_eq_nil_of_size_le (Nat.le_refl _),
        List.nil_append, size_alloc]
    · simpa using h.laidOut

/-- Grafting trees under a node copies them into new nodes behind its children. -/
theorem laidUnder_graftChildren (a : Arena α) {p : Nat} (hp : p < a.size) :
    (ts : List (Tree α)) → LaidUnder a p ts (a.graftChildren p ts)
  | [] => ⟨rfl, fun _ _ => rfl, fun _ _ _ => rfl, fun _ _ => rfl, (List.append_nil _).symm, trivial⟩
  | t :: ts => by
    have hfirst : LaidUnder a p [t] ((a.graft t).1.appendChild p (a.graft t).2) := by
      rw [graft_snd]
      exact (laid_graft a t).appendChild hp
    have hsize := hfirst.size_eq
    have hrest := laidUnder_graftChildren ((a.graft t).1.appendChild p (a.graft t).2)
      (hp.trans_le (by omega)) ts
    exact hfirst.cons hp hrest

end

/-- Trees have been copied into new nodes one after the other, and no root has a parent. -/
structure LaidAll (a : Arena α) (ts : List (Tree α)) (b : Arena α) (ids : List NodeId) : Prop where
  size_eq : b.size = a.size + Tree.sizeAll ts
  extends_ : a.Extends b
  bounds : ∀ id ∈ ids, a.size ≤ id ∧ id < b.size
  nodup : ids.Nodup
  parent?_eq : ∀ id ∈ ids, b.parent? id = none
  laidOut : List.Forall₂ b.LaidOut ids ts
  descendants_eq : ids.flatMap b.descendants = List.range' a.size (Tree.sizeAll ts)
  view_eq [Inhabited α] : ids.map b.view = ts

/-- Grafting several trees copies each of them into new nodes of its own. -/
theorem laid_graftAll (a : Arena α) (ts : List (Tree α)) :
    LaidAll a ts (a.graftAll ts).1 (a.graftAll ts).2 := by
  induction ts generalizing a with
  | nil =>
    exact ⟨rfl, .refl a, List.forall_mem_nil _, List.nodup_nil, List.forall_mem_nil _, .nil, rfl, rfl⟩
  | cons t ts ih =>
    have h := laid_graft a t
    have hs := ih (a.graft t).1
    have hsize := h.size_eq
    have hnew := h.size_lt
    have hroom : t.size ≤ ((a.graft t).1.graftAll ts).1.size := by
      rw [hs.size_eq, hsize]
      omega
    -- the later grafts leave the first tree where it is
    have htree : ((a.graft t).1.graftAll ts).1.LaidOut a.size t :=
      h.laidOut.of_extends hs.extends_ hsize.ge
    have hlist := hs.descendants_eq
    rw [hsize] at hlist
    simp only [graftAll, graft_snd]
    refine ⟨?_, h.extends_.trans hs.extends_, ?_, ?_, ?_, .cons htree hs.laidOut, ?_, ?_⟩
    · rw [hs.size_eq, hsize, Tree.sizeAll_cons, Nat.add_assoc]
    · refine List.forall_mem_cons.mpr ⟨⟨Nat.le_refl _, hnew.trans_le hs.extends_.size_le⟩, ?_⟩
      intro id hid
      obtain ⟨hle, hlt⟩ := hs.bounds id hid
      exact ⟨hnew.le.trans hle, hlt⟩
    · exact List.nodup_cons.mpr ⟨fun hid => hnew.not_ge (hs.bounds a.size hid).1, hs.nodup⟩
    · refine List.forall_mem_cons.mpr ⟨?_, hs.parent?_eq⟩
      exact (hs.extends_.parent?_eq a.size hnew).trans h.parent?_eq
    · rw [List.flatMap_cons, htree.descendants_eq hroom, hlist, Tree.sizeAll_cons,
        List.range'_append_1]
    · intro _
      rw [List.map_cons, view, htree.viewTo_eq hroom, hs.view_eq]

end Arena

end SourceEdit
