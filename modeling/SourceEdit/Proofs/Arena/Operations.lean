import Mathlib.Data.List.Perm.Basic
import SourceEdit.Tree

/-!
# What the operations of an arena do to its links

Every operation is described by what it does to the parent link and to the child list of an
arbitrary node.  The primitive ones change one entry; `detach`, `insertChild` and `clearChildren`
change two entries or more, and their effect on child lists is only this simple in an arena whose
links agree in both directions.  `Arena.Linked` is that agreement, and all that later proofs need
from the operations is stated here in terms of it.
-/

namespace SourceEdit.Arena

variable {α : Type} {a : Arena α}

/-- Child lists and parent links say the same, and no child list holds a node twice. -/
structure Linked (a : Arena α) : Prop where
  mem_children_iff (p c : NodeId) : c ∈ a.children p ↔ a.parent? c = some p
  nodup_children (p : NodeId) : (a.children p).Nodup

/-! ### Nodes in bounds -/

/-- What has a parent is a node. -/
theorem lt_size_of_parent? {p c : NodeId} (h : a.parent? c = some p) : c < a.size := by
  by_contra hc
  simp [parent?, Array.getElem?_eq_none (Nat.le_of_not_lt hc)] at h

/-- What has children is a node. -/
theorem lt_size_of_mem_children {p c : NodeId} (h : c ∈ a.children p) : p < a.size := by
  by_contra hp
  simp [children, Array.getElem?_eq_none (Nat.le_of_not_lt hp)] at h

/-- What is no node yet has no children. -/
theorem children_eq_nil_of_size_le {p : NodeId} (h : a.size ≤ p) : a.children p = [] := by
  simp [children, Array.getElem?_eq_none h]

/-- What is no node yet has no parent. -/
theorem parent?_eq_none_of_size_le {c : NodeId} (h : a.size ≤ c) : a.parent? c = none := by
  simp [parent?, Array.getElem?_eq_none h]

theorem exists_get?_eq_some {x : NodeId} (h : x < a.size) : ∃ v, a.get? x = some v :=
  ⟨_, by rw [get?, Array.getElem?_eq_getElem (show x < a.entries.size from h), Option.map_some]⟩

/-! ### Changes to one entry -/

/-- Changes to entries make no nodes. -/
@[simp]
theorem size_modifyEntry (id : NodeId) (f : Entry α → Entry α) :
    (a.modifyEntry id f).size = a.size := by
  simp [modifyEntry, size]

@[simp]
theorem size_modifyValue (id : NodeId) (f : α → α) : (a.modifyValue id f).size = a.size :=
  size_modifyEntry ..

@[simp]
theorem parent?_modifyValue (id x : NodeId) (f : α → α) :
    (a.modifyValue id f).parent? x = a.parent? x := by
  by_cases h : id = x
  · subst h
    cases hx : a.entries[id]? <;>
      simp [modifyValue, modifyEntry, parent?, Array.getElem?_modify, hx]
  · simp [modifyValue, modifyEntry, parent?, Array.getElem?_modify, h]

@[simp]
theorem children_modifyValue (id x : NodeId) (f : α → α) :
    (a.modifyValue id f).children x = a.children x := by
  by_cases h : id = x
  · subst h
    cases hx : a.entries[id]? <;>
      simp [modifyValue, modifyEntry, children, Array.getElem?_modify, hx]
  · simp [modifyValue, modifyEntry, children, Array.getElem?_modify, h]

/-- The value of one node changes. -/
theorem get?_modifyValue (id x : NodeId) (f : α → α) :
    (a.modifyValue id f).get? x = if x = id then (a.get? x).map f else a.get? x := by
  by_cases h : id = x
  · subst h
    simp [modifyValue, modifyEntry, get?, Array.getElem?_modify, Function.comp_def]
  · simp [modifyValue, modifyEntry, get?, Array.getElem?_modify, h, Ne.symm h]

/-- Changing a value into itself changes nothing. -/
theorem modifyValue_eq_self {id : NodeId} {f : α → α}
    (h : ∀ v, a.get? id = some v → f v = v) : a.modifyValue id f = a := by
  have hentry : ∀ e, a.entries[id]? = some e → ({ e with value := f e.value } : Entry α) = e :=
    fun e he => by simp [h e.value (by simp [get?, he])]
  rw [modifyValue, modifyEntry]
  congr 1
  refine Array.ext_getElem? fun i => ?_
  rw [Array.getElem?_modify]
  split
  · next hi =>
    subst hi
    cases hx : a.entries[id]? with
    | none => rfl
    | some e => exact congrArg some (hentry e hx)
  · rfl

@[simp]
theorem size_setParent (id : NodeId) (p : Option NodeId) : (a.setParent id p).size = a.size :=
  size_modifyEntry ..

@[simp]
theorem children_setParent (id x : NodeId) (p : Option NodeId) :
    (a.setParent id p).children x = a.children x := by
  by_cases h : id = x
  · subst h
    cases hx : a.entries[id]? <;>
      simp [setParent, modifyEntry, children, Array.getElem?_modify, hx]
  · simp [setParent, modifyEntry, children, Array.getElem?_modify, h]

@[simp]
theorem get?_setParent (id x : NodeId) (p : Option NodeId) :
    (a.setParent id p).get? x = a.get? x := by
  by_cases h : id = x <;>
    simp [setParent, modifyEntry, get?, Array.getElem?_modify, h, Function.comp_def]

/-- The parent of one node changes. -/
theorem parent?_setParent {id : NodeId} (h : id < a.size) (p : Option NodeId) (x : NodeId) :
    (a.setParent id p).parent? x = if x = id then p else a.parent? x := by
  by_cases hx : x = id
  · subst hx
    simp [setParent, modifyEntry, parent?, Array.getElem?_modify,
      Array.getElem?_eq_getElem (show x < a.entries.size from h)]
  · simp [setParent, modifyEntry, parent?, Array.getElem?_modify, Ne.symm hx, hx]

@[simp]
theorem size_modifyChildren (id : NodeId) (f : List NodeId → List NodeId) :
    (a.modifyChildren id f).size = a.size :=
  size_modifyEntry ..

@[simp]
theorem parent?_modifyChildren (id x : NodeId) (f : List NodeId → List NodeId) :
    (a.modifyChildren id f).parent? x = a.parent? x := by
  by_cases h : id = x
  · subst h
    cases hx : a.entries[id]? <;>
      simp [modifyChildren, modifyEntry, parent?, Array.getElem?_modify, hx]
  · simp [modifyChildren, modifyEntry, parent?, Array.getElem?_modify, h]

@[simp]
theorem get?_modifyChildren (id x : NodeId) (f : List NodeId → List NodeId) :
    (a.modifyChildren id f).get? x = a.get? x := by
  by_cases h : id = x <;>
    simp [modifyChildren, modifyEntry, get?, Array.getElem?_modify, h, Function.comp_def]

/-- The children of one node change. -/
theorem children_modifyChildren {id : NodeId} (h : id < a.size)
    (f : List NodeId → List NodeId) (x : NodeId) :
    (a.modifyChildren id f).children x = if x = id then f (a.children x) else a.children x := by
  by_cases hx : x = id
  · subst hx
    simp [modifyChildren, modifyEntry, children, Array.getElem?_modify,
      Array.getElem?_eq_getElem (show x < a.entries.size from h)]
  · simp [modifyChildren, modifyEntry, children, Array.getElem?_modify, Ne.symm hx, hx]

/-! ### New nodes -/

/-- There is one more node. -/
@[simp]
theorem size_alloc (v : α) : (a.alloc v).1.size = a.size + 1 := by
  simp [alloc, size]

@[simp]
theorem alloc_snd (v : α) : (a.alloc v).2 = a.size := rfl

/-- The new node has neither a parent nor children. -/
theorem getElem?_entries_alloc (v : α) (x : NodeId) :
    (a.alloc v).1.entries[x]? = if x = a.size then some { value := v } else a.entries[x]? := by
  simp only [alloc, Array.getElem?_push]
  rfl

/-- The new node has no parent, and no other node gets another one. -/
@[simp]
theorem parent?_alloc (v : α) (x : NodeId) : (a.alloc v).1.parent? x = a.parent? x := by
  simp only [parent?, getElem?_entries_alloc]
  split
  · next h => simp [h, size]
  · rfl

/-- The new node has no children, and no other node gets others. -/
@[simp]
theorem children_alloc (v : α) (x : NodeId) : (a.alloc v).1.children x = a.children x := by
  simp only [children, getElem?_entries_alloc]
  by_cases h : x = a.size
  · simp [h, size]
  · simp [h]

/-- The new node has the value that it is made with. -/
theorem get?_alloc (v : α) (x : NodeId) :
    (a.alloc v).1.get? x = if x = a.size then some v else a.get? x := by
  simp only [get?, getElem?_entries_alloc]
  split <;> rfl

/-! ### Detaching -/

@[simp]
theorem size_detach (id : NodeId) : (a.detach id).size = a.size := by
  unfold detach
  split <;> simp

@[simp]
theorem get?_detach (id x : NodeId) : (a.detach id).get? x = a.get? x := by
  unfold detach
  split <;> simp

/-- A detached node has no parent; the other nodes keep theirs. -/
theorem parent?_detach (id x : NodeId) :
    (a.detach id).parent? x = if x = id then none else a.parent? x := by
  unfold detach
  split
  · next h => by_cases hx : x = id <;> simp [hx, h]
  · next p h => simp [parent?_setParent (lt_size_of_parent? h)]

/-- A node only stands in the child list of its parent. -/
theorem Linked.filter_children_of_ne (hl : a.Linked) {id x : NodeId}
    (hx : a.parent? id ≠ some x) : (a.children x).filter (· != id) = a.children x := by
  refine List.filter_eq_self.mpr fun c hc => ?_
  have hc := (hl.mem_children_iff x c).mp hc
  simp only [bne_iff_ne, ne_eq]
  rintro rfl
  exact hx hc

/-- Detaching a node takes it out of every child list. -/
theorem Linked.children_detach (hl : a.Linked) (id x : NodeId) :
    (a.detach id).children x = (a.children x).filter (· != id) := by
  unfold detach
  split
  · next h => exact (hl.filter_children_of_ne (by simp [h])).symm
  · next p h =>
    have hp : p < (a.setParent id none).size := by
      simpa using lt_size_of_mem_children ((hl.mem_children_iff p id).mpr h)
    rw [children_modifyChildren hp, children_setParent]
    split
    · rfl
    · next hx => exact (hl.filter_children_of_ne (by rw [h]; simpa using Ne.symm hx)).symm

/-- Detaching removes both links between a node and its parent. -/
theorem Linked.detach (hl : a.Linked) (id : NodeId) : (a.detach id).Linked where
  mem_children_iff p c := by
    rw [hl.children_detach, parent?_detach, List.mem_filter, hl.mem_children_iff]
    by_cases h : c = id <;> simp [h]
  nodup_children p := by
    rw [hl.children_detach]
    exact (hl.nodup_children p).filter _

/-- Detaching nodes one after the other takes them out of every child list. -/
theorem Linked.children_foldl_detach (hl : a.Linked) (ids : List NodeId) (x : NodeId) :
    (ids.foldl Arena.detach a).children x = (a.children x).filter (· ∉ ids) := by
  induction ids generalizing a with
  | nil => simp
  | cons id ids ih =>
    rw [List.foldl_cons, ih (hl.detach id), hl.children_detach, List.filter_filter]
    exact List.filter_congr fun c _ => by by_cases hc : c = id <;> simp [hc]

/-- Detaching nodes one by one changes no value. -/
@[simp]
theorem get?_foldl_detach (ids : List NodeId) (a : Arena α) (x : NodeId) :
    (ids.foldl detach a).get? x = a.get? x := by
  induction ids generalizing a with
  | nil => rfl
  | cons id ids ih => exact (ih _).trans (get?_detach id x)

/-! ### Inserting -/

/-- The index after the first part of a list. -/
theorem insertIdx_length (before after : List NodeId) (x : NodeId) :
    (before ++ after).insertIdx before.length x = before ++ x :: after := by
  induction before with
  | nil => simp
  | cons y before ih => simp [ih]

@[simp]
theorem size_insertChild (p : NodeId) (i : Nat) (c : NodeId) :
    (a.insertChild p i c).size = a.size := by
  simp [insertChild]

@[simp]
theorem get?_insertChild (p : NodeId) (i : Nat) (c x : NodeId) :
    (a.insertChild p i c).get? x = a.get? x := by
  simp [insertChild]

/-- An inserted node has its new parent; the other nodes keep theirs. -/
theorem parent?_insertChild (p : NodeId) (i : Nat) {c : NodeId} (hc : c < a.size) (x : NodeId) :
    (a.insertChild p i c).parent? x = if x = c then some p else a.parent? x := by
  simp only [insertChild]
  rw [parent?_setParent (by simpa using hc), parent?_modifyChildren, parent?_detach]
  split <;> simp_all

/-- The child list of the new parent, without the child that moves, gets the child at the index or
at its end; every other child list only loses the child. -/
theorem Linked.children_insertChild (hl : a.Linked) {p : NodeId} (hp : p < a.size) (i : Nat)
    (c x : NodeId) :
    (a.insertChild p i c).children x =
      if x = p then
        ((a.children x).filter (· != c)).insertIdx (min i ((a.children x).filter (· != c)).length) c
      else (a.children x).filter (· != c) := by
  simp only [insertChild]
  rw [children_setParent, children_modifyChildren (by simpa using hp), hl.children_detach]

/-- Inserting removes the links to the old parent and makes those to the new one. -/
theorem Linked.insertChild (hl : a.Linked) {p : NodeId} (hp : p < a.size) (i : Nat) {c : NodeId}
    (hc : c < a.size) : (a.insertChild p i c).Linked where
  mem_children_iff q x := by
    rw [hl.children_insertChild hp, parent?_insertChild p i hc]
    by_cases hq : q = p
    · subst hq
      rw [if_pos rfl, List.mem_insertIdx (Nat.min_le_right ..), List.mem_filter,
        hl.mem_children_iff]
      by_cases hx : x = c <;> simp [hx]
    · rw [if_neg hq, List.mem_filter, hl.mem_children_iff]
      by_cases hx : x = c <;> simp [hx, Ne.symm hq]
  nodup_children q := by
    have hfilter : ((a.children q).filter (· != c)).Nodup := (hl.nodup_children q).filter _
    rw [hl.children_insertChild hp]
    split
    · rw [(List.perm_insertIdx c _ (Nat.min_le_right ..)).nodup_iff]
      exact List.nodup_cons.mpr ⟨by simp, hfilter⟩
    · exact hfilter

@[simp]
theorem size_appendChild (p c : NodeId) : (a.appendChild p c).size = a.size :=
  size_insertChild ..

@[simp]
theorem get?_appendChild (p c x : NodeId) : (a.appendChild p c).get? x = a.get? x :=
  get?_insertChild ..

theorem parent?_appendChild (p : NodeId) {c : NodeId} (hc : c < a.size) (x : NodeId) :
    (a.appendChild p c).parent? x = if x = c then some p else a.parent? x :=
  parent?_insertChild p _ hc x

/-- An appended node is the last child of its new parent, and the child of no other node. -/
theorem Linked.children_appendChild (hl : a.Linked) {p : NodeId} (hp : p < a.size) (c x : NodeId) :
    (a.appendChild p c).children x =
      if x = p then (a.children x).filter (· != c) ++ [c]
      else (a.children x).filter (· != c) := by
  rw [appendChild, hl.children_insertChild hp]
  split
  · next h =>
    subst h
    rw [Nat.min_eq_right (List.length_filter_le ..), List.insertIdx_length_self]
  · rfl

/-! ### Clearing -/

private theorem size_foldl_setParent (cs : List NodeId) (a : Arena α) :
    (cs.foldl (fun a c => a.setParent c none) a).size = a.size := by
  induction cs generalizing a with
  | nil => rfl
  | cons c cs ih => simp [ih]

/-- Setting parents changes no list of children. -/
private theorem children_foldl_setParent (cs : List NodeId) (a : Arena α) (x : NodeId) :
    (cs.foldl (fun a c => a.setParent c none) a).children x = a.children x := by
  induction cs generalizing a with
  | nil => rfl
  | cons c cs ih => simp [ih]

private theorem get?_foldl_setParent (cs : List NodeId) (a : Arena α) (x : NodeId) :
    (cs.foldl (fun a c => a.setParent c none) a).get? x = a.get? x := by
  induction cs generalizing a with
  | nil => rfl
  | cons c cs ih => simp [ih]

/-- The nodes of the list lose their parent. -/
private theorem parent?_foldl_setParent {cs : List NodeId} {a : Arena α}
    (hcs : ∀ c ∈ cs, c < a.size) (x : NodeId) :
    (cs.foldl (fun a c => a.setParent c none) a).parent? x =
      if x ∈ cs then none else a.parent? x := by
  induction cs generalizing a with
  | nil => rfl
  | cons c cs ih =>
    rw [List.foldl_cons, ih fun d hd => by simpa using hcs d (List.mem_cons_of_mem _ hd),
      parent?_setParent (hcs c List.mem_cons_self)]
    by_cases hx : x = c <;> simp [hx]

@[simp]
theorem size_clearChildren (id : NodeId) : (a.clearChildren id).size = a.size := by
  simp [clearChildren, size_foldl_setParent]

@[simp]
theorem get?_clearChildren (id x : NodeId) : (a.clearChildren id).get? x = a.get? x := by
  simp [clearChildren, get?_foldl_setParent]

/-- One node loses its children. -/
theorem children_clearChildren (id x : NodeId) :
    (a.clearChildren id).children x = if x = id then [] else a.children x := by
  rw [clearChildren, children_foldl_setParent]
  by_cases h : id < a.size
  · rw [children_modifyChildren h]
  · have hid : a.size ≤ id := Nat.le_of_not_lt h
    split
    · next hx =>
      rw [children_eq_nil_of_size_le (by simpa [hx] using hid)]
    · next hx => simp [modifyChildren, modifyEntry, children, Array.getElem?_modify, Ne.symm hx]

/-- The children that a node loses have no parent afterwards. -/
theorem Linked.parent?_clearChildren (hl : a.Linked) (id x : NodeId) :
    (a.clearChildren id).parent? x = if a.parent? x = some id then none else a.parent? x := by
  rw [clearChildren, parent?_foldl_setParent fun c hc => by
    simpa using lt_size_of_parent? ((hl.mem_children_iff id c).mp hc)]
  simp [hl.mem_children_iff]

/-- Clearing removes both links between a node and each of its children. -/
theorem Linked.clearChildren (hl : a.Linked) (id : NodeId) : (a.clearChildren id).Linked where
  mem_children_iff p c := by
    rw [children_clearChildren, hl.parent?_clearChildren]
    by_cases hp : p = id
    · subst hp
      by_cases hc : a.parent? c = some p <;> simp [hc]
    · by_cases hc : a.parent? c = some id <;>
        simp [hp, Ne.symm hp, hc, hl.mem_children_iff]
  nodup_children p := by
    rw [children_clearChildren]
    split
    · exact List.nodup_nil
    · exact hl.nodup_children p

/-! ### The other operations -/

/-- A single node has no links. -/
theorem Linked.withRoot (v : α) : (withRoot v).Linked where
  mem_children_iff p c := by
    cases p <;> cases c <;> simp [Arena.withRoot, children, parent?]
  nodup_children p := by
    cases p <;> simp [Arena.withRoot, children]

/-- A new node has no links. -/
theorem Linked.alloc (hl : a.Linked) (v : α) : (a.alloc v).1.Linked where
  mem_children_iff p c := by simpa using hl.mem_children_iff p c
  nodup_children p := by simpa using hl.nodup_children p

theorem Linked.modifyValue (hl : a.Linked) (id : NodeId) (f : α → α) :
    (a.modifyValue id f).Linked where
  mem_children_iff p c := by simpa using hl.mem_children_iff p c
  nodup_children p := by simpa using hl.nodup_children p

/-- A replacement detaches the old node and puts the new one under its parent. -/
theorem replace?_eq_some {old new : NodeId} {b : Arena α} (h : a.replace? old new = some b) :
    ∃ p i, a.parent? old = some p ∧ (a.children p).idxOf? old = some i ∧
      b = (a.detach old).insertChild p i new := by
  unfold replace? at h
  cases hp : a.parent? old with
  | none => simp [hp] at h
  | some p =>
    cases hi : (a.children p).idxOf? old with
    | none => simp [indexInParent?, hp, hi] at h
    | some i =>
      refine ⟨p, i, rfl, hi, ?_⟩
      simpa [indexInParent?, hp, hi] using h.symm

end SourceEdit.Arena
