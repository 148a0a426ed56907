import SourceEdit.Proofs.Arena.Graft

/-!
# Moving a node

`Arena.insertChild` takes the child out of the list in which it stands before it looks at the list that
it goes into.  These may be the same list, and then an index or a length that was read before is that
of a longer list; `Arena.appendChild` reads one.  `Moved` says what comes of it: the child stands where
the index points among the *other* children of its new parent, or behind all of them.

Everything below the child moves along.  A node that is neither the new parent nor the former one keeps
its children, and it keeps the tree below it if neither of them stands in that tree.
-/

namespace SourceEdit.Arena

variable {α : Type} {a b : Arena α} {p c : NodeId} {before after : List NodeId}

/-- A node `c` has come under `p`, between two parts of what are the other children of `p`. What is
below it has moved along, and nothing else has changed. -/
structure Moved [Inhabited α] (a : Arena α) (p c : NodeId) (before after : List NodeId)
    (b : Arena α) : Prop where
  wellFormed : b.WellFormed
  others_eq : (a.children p).erase c = before ++ after
  children_parent : b.children p = before ++ c :: after
  children_former (q : NodeId) : a.parent? c = some q → q ≠ p →
    b.children q = (a.children q).erase c
  children_other (q : NodeId) : q ≠ p → a.parent? c ≠ some q → b.children q = a.children q
  parent?_eq (x : NodeId) : b.parent? x = if x = c then some p else a.parent? x
  get?_eq (x : NodeId) : b.get? x = a.get? x
  view_child : b.view c = a.view c
  /-- A node keeps the tree below it if neither parent of the child stands there. -/
  view_other (x : NodeId) : ¬ a.Below p x → (∀ q, a.parent? c = some q → ¬ a.Below q x) →
    b.view x = a.view x
  /-- Every node keeps below it what is there besides the child and the nodes below the child. -/
  below_iff (x y : NodeId) : ¬ a.Below y c → (b.Below y x ↔ a.Below y x)

/-- If one node gets another parent, what is not below it stays below the same nodes: the links from
there on up do not meet it. -/
private theorem below_iff_of_parent?_eq (hparent : ∀ x, x ≠ c → b.parent? x = a.parent? x)
    {x y : NodeId} (hy : ¬ a.Below y c) : b.Below y x ↔ a.Below y x := by
  have hkept (z : NodeId) (hz : ¬ a.Below z c) : b.parent? z = a.parent? z := by
    refine hparent z ?_
    rintro rfl
    exact hz (.refl a z)
  have hup (z q : NodeId) (hz : ¬ a.Below z c) (hq : a.parent? z = some q) : ¬ a.Below q c :=
    fun hqc => hz ((Below.of_parent? hq).trans hqc)
  constructor
  · intro h
    induction h using Relation.ReflTransGen.head_induction_on with
    | refl => exact .refl a x
    | @head y q hq _ ih =>
      rw [hkept y hy] at hq
      exact (Below.of_parent? hq).trans (ih (hup y q hy hq))
  · intro h
    induction h using Relation.ReflTransGen.head_induction_on with
    | refl => exact .refl b x
    | @head y q hq _ ih =>
      have hq' : b.parent? y = some q := (hkept y hy).trans hq
      exact (Below.of_parent? hq').trans (ih (hup y q hy hq))

/-! ### Moves -/

section Moves

variable [Inhabited α]

/-- An insertion moves the child to the place that the index has among the other children. -/
theorem WellFormed.moved (hw : a.WellFormed) (hp : p < a.size) (hc : c < a.size) (hroot : c ≠ a.root)
    (hpc : ¬ a.Below p c) {i : Nat} (hothers : (a.children p).erase c = before ++ after)
    (hbefore : before.length = min i ((a.children p).erase c).length) :
    Moved a p c before after (a.insertChild p i c) := by
  have hb : (a.insertChild p i c).WellFormed := hw.insertChild hp i hc hroot hpc
  have herase (q : NodeId) : (a.children q).filter (· != c) = (a.children q).erase c :=
    ((hw.nodup_children q).erase_eq_filter c).symm
  have hchildren (q : NodeId) := hw.children_insertChild hp i c q
  have hother (q : NodeId) (hq : q ≠ p) (hparent : a.parent? c ≠ some q) :
      (a.insertChild p i c).children q = a.children q := by
    rw [hchildren, if_neg hq, hw.filter_children_of_ne hparent]
  -- below a node that neither parent is in, no list of children changes
  have hview (x : NodeId) (hx : ¬ a.Below p x)
      (hformer : ∀ q, a.parent? c = some q → ¬ a.Below q x) :
      (a.insertChild p i c).view x = a.view x := by
    refine hw.view_congr hb fun y hy => ⟨hother y ?_ ?_, get?_insertChild p i c y⟩
    · rintro rfl
      exact hx hy
    · exact fun hparent => hformer y hparent hy
  refine ⟨hb, hothers, ?_, ?_, hother, parent?_insertChild p i hc, get?_insertChild p i c, ?_, hview,
    ?_⟩
  · rw [hchildren, if_pos rfl, herase, ← hbefore, hothers, insertIdx_length]
  · intro q _ hq
    rw [hchildren, if_neg hq, herase]
  · exact hview c hpc fun q hparent => hw.not_below_child hparent
  · intro x y hy
    refine below_iff_of_parent?_eq (fun z hz => ?_) hy
    rw [parent?_insertChild p i hc, if_neg hz]

/-- A node that is put under another one comes to stand where the index points among the other children
there, or last if it is appended, whether or not it was one of the children before. Its former parent
loses it, every other node keeps its children, and a node keeps the tree below it if neither of the two
parents is in it. -/
theorem moved_of_insertion (hw : a.WellFormed) (hp : p < a.size) (hc : c < a.size)
    (hroot : c ≠ a.root) (hpc : ¬ a.Below p c) (i : Nat) :
    (∃ before after, before.length = min i ((a.children p).erase c).length ∧
        Moved a p c before after (a.insertChild p i c)) ∧
      Moved a p c ((a.children p).erase c) [] (a.appendChild p c) := by
  constructor
  · refine ⟨((a.children p).erase c).take i, ((a.children p).erase c).drop i, List.length_take, ?_⟩
    exact hw.moved hp hc hroot hpc (List.take_append_drop i _).symm List.length_take
  · have hle : ((a.children p).erase c).length ≤ (a.children p).length := List.length_erase_le
    exact hw.moved hp hc hroot hpc (List.append_nil _).symm (Nat.min_eq_right hle).symm

end Moves

/-- The first of three children, with a node below it, is put at an index after its own and then behind
the other two. -/
theorem moved_of_insertion_forward :
    let a := ofForest () [.node () [.leaf ()], .leaf (), .leaf ()]
    a.WellFormed ∧ 0 < a.size ∧ 1 < a.size ∧ 1 ≠ a.root ∧ ¬ a.Below 0 1 ∧
      a.children 0 = [1, 3, 4] ∧ (a.insertChild 0 1 1).children 0 = [3, 1, 4] ∧
      (a.appendChild 0 1).children 0 = [3, 4, 1] ∧
      (a.insertChild 0 1 1).view 1 = .node () [.leaf ()] := by
  intro a
  have hw : a.WellFormed := .ofForest () _
  have hnot : ¬ a.Below 0 1 := fun h => absurd (hw.eq_root_of_below h) (by decide)
  have hchildren : (a.children 0).erase 1 = [3, 4] := by decide
  obtain ⟨⟨before, after, hbefore, hmoved⟩, happended⟩ :=
    moved_of_insertion hw (show 0 < a.size by decide) (show 1 < a.size by decide) (by decide) hnot 1
  have hothers : before ++ after = [3, 4] := hmoved.others_eq.symm.trans hchildren
  rw [hchildren] at hbefore
  obtain ⟨rfl, rfl⟩ : before = [3] ∧ after = [4] :=
    List.append_inj hothers (hbefore.trans (by decide))
  have hlast := happended.children_parent
  rw [hchildren] at hlast
  exact ⟨hw, by decide, by decide, by decide, hnot, by decide, hmoved.children_parent, hlast,
    hmoved.view_child.trans (by rfl)⟩

/-- A node above the new parent keeps its children, but not the tree below it: the child is a part of
that tree now. -/
theorem view_of_insertion_above :
    let a := ((ofForest () [.leaf ()]).alloc ()).1
    let b := a.insertChild 1 0 2
    a.WellFormed ∧ 1 < a.size ∧ 2 < a.size ∧ 2 ≠ a.root ∧ ¬ a.Below 1 2 ∧
      a.root ≠ 1 ∧ a.root ≠ 2 ∧ a.parent? 2 ≠ some a.root ∧
      b.children a.root = a.children a.root ∧
      a.descendants a.root = [0, 1] ∧ b.descendants a.root = [0, 1, 2] ∧
      b.view a.root ≠ a.view a.root := by
  intro a b
  have hw : a.WellFormed := (WellFormed.ofForest () _).alloc ()
  have hnot : ¬ a.Below 1 2 := by
    intro h
    obtain h | ⟨q, hq, h⟩ := below_iff.mp h
    · cases h
    · obtain rfl : 0 = q := Option.some.inj hq
      exact absurd (hw.eq_root_of_below h) (by decide)
  exact ⟨hw, by decide, by decide, by decide, hnot, by decide, by decide, by decide, by decide,
    by decide, by decide, by decide⟩

end SourceEdit.Arena
