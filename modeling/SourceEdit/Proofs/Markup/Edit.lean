import SourceEdit.Markup.Edit
import SourceEdit.Proofs.Arena.Values
import SourceEdit.Proofs.EditOutcome

/-!
# Edits of markup keep it in shape

Every operation on markup is shown to be `Edited.Sound`, and `edit_sound` puts them together: an
edit keeps the arena well-formed, and one that fails or edits nothing leaves the tree as it was.

Insertions and replacements read a copy of the fragment for every element, so the arena grows even
when an element turns out to have no place for it.  `Arena.Grown` carries them through the loop.
-/

namespace SourceEdit

/-- A selector has been read from the target. -/
def Target.Selects (target : Target) (s : SimpleSelector) : Prop :=
  ∃ selector, target.selector = some selector ∧ SimpleSelector.ofText selector = .ok s

namespace Markup

variable {tree : Markup} {k : Nat}

/-- The elements that are located are those that the selector of the target matches. -/
theorem locate_eq_ok_iff {target : Target} {elements : List NodeId} :
    locate tree target = .ok elements ↔
      ∃ s, target.Selects s ∧ elementsMatching tree s = elements := by
  unfold locate Target.Selects
  cases target.selector with
  | none => simp
  | some selector =>
    cases hs : SimpleSelector.ofText selector with
    | error e => simp [hs, bind, Except.bind]
    | ok s => simp [hs, bind, Except.bind, pure, Except.pure]

/-- An edit works on the elements that the selector matches. -/
theorem edit_eq {m : Modification} {s : SimpleSelector} (hs : m.target.Selects s) :
    edit tree m = editElements tree m (elementsMatching tree s) := by
  rw [edit, locate_eq_ok_iff.mpr ⟨s, hs, rfl⟩]
  rfl

theorem lt_size_of_mem_locate (hw : tree.WellFormed) {target : Target} {elements : List NodeId}
    (h : locate tree target = .ok elements) : ∀ id ∈ elements, id < tree.size := by
  obtain ⟨s, -, rfl⟩ := locate_eq_ok_iff.mp h
  exact fun id hid => hw.lt_size_of_mem_descendants (List.mem_of_mem_filter hid)

/-! ### Attributes -/

theorem setAttributes_sound (hw : tree.WellFormed) (elements : List NodeId)
    (name value : String) : Edited.Sound tree (setAttributes tree elements name value) := by
  refine .done (hw.foldl_modifyValue _ elements) fun hcount => ?_
  rw [List.eq_nil_of_length_eq_zero hcount]
  rfl

/-- An element without an attribute of a name has nothing to lose. -/
theorem mapAttributes_filter_eq_self {name : String} {n : Node}
    (h : n.attributes.any (·.isNamed name) = false) :
    n.mapAttributes (·.filter (!·.isNamed name)) = n := by
  rw [List.any_eq_false] at h
  cases n with
  | element elementName attributes =>
    have hkept : attributes.filter (!·.isNamed name) = attributes :=
      List.filter_eq_self.mpr fun x hx => by simpa using h x hx
    simp [Node.mapAttributes, hkept]
  | _ => rfl

theorem removeAttributes_sound (hw : tree.WellFormed) (elements : List NodeId) (name : String) :
    Edited.Sound tree (removeAttributes tree elements name) := by
  refine .done (hw.foldl_modifyValue _ elements) fun hcount => ?_
  have hnone : ∀ id ∈ elements, hasAttribute tree name id = false := by
    simpa [List.filter_eq_nil_iff] using List.eq_nil_of_length_eq_zero hcount
  refine Arena.foldl_modifyValue_eq_self fun id hid n hn => mapAttributes_filter_eq_self ?_
  simpa [hasAttribute, hn] using hnone id hid

/-! ### Elements -/

theorem setText_grown (h : tree.Grown k) (text : String) {id : NodeId} (hid : id < k) :
    (setText text tree id).Grown k := by
  have hcleared := h.clearChildren id
  exact (hcleared.alloc _).appendChild hid hcleared.le_size
    ((Nat.lt_succ_self _).trans_eq (Arena.size_alloc _).symm)

theorem editAttached_sound (hw : tree.WellFormed) {elements : List NodeId}
    (hlt : ∀ id ∈ elements, id < tree.size) {f : Markup → NodeId → Markup}
    (hf : ∀ t : Markup, t.Grown tree.size → ∀ id < tree.size, (f t id).Grown tree.size) :
    Edited.Sound tree (editAttached tree elements f) := by
  obtain ⟨hend, -, hsame⟩ := foldl_counted (P := fun t : Markup => t.Grown tree.size) (R := Eq)
    (f := fun (tree, count) id =>
      if Arena.isAttached tree id then (f tree id, count + 1) else (tree, count))
    (fun _ => rfl) Eq.trans (l := elements) (fun t n id hid ht => by
      by_cases hattached : t.isAttached id
      · simpa [hattached] using hf t ht id (hlt id hid)
      · simpa [hattached] using ht) 0 hw.grown
  exact .done hend.wellFormed fun hcount => (hsame hcount).symm

/-! ### Fragments -/

theorem insertAll_grown (h : tree.Grown k) {parent : NodeId} (hp : parent < k) (index : Nat)
    {nodes : List NodeId} (hnodes : ∀ n ∈ nodes, k ≤ n ∧ n < tree.size) :
    (insertAll tree parent index nodes).Grown k := by
  induction nodes generalizing tree index with
  | nil => exact h
  | cons n ns ih =>
    obtain ⟨hk, hlt⟩ := hnodes n List.mem_cons_self
    refine ih (h.insertChild hp index hk hlt) (index + 1) fun x hx => ?_
    simpa using hnodes x (List.mem_cons_of_mem _ hx)

theorem splice?_grown (h : tree.Grown k) {id : NodeId} (hid : id < k) {nodes : List NodeId}
    (hnodes : ∀ n ∈ nodes, k ≤ n ∧ n < tree.size) {position : Position} {spliced : Markup}
    (hs : splice? tree id nodes position = some spliced) : spliced.Grown k := by
  have hbeside (index : Nat → Nat) (hs : (do
      let parent ← tree.parent? id
      let i ← tree.indexInParent? id
      return insertAll tree parent (index i) nodes) = some spliced) : spliced.Grown k := by
    cases hp : tree.parent? id with
    | none => simp [hp] at hs
    | some p =>
      cases hi : tree.indexInParent? id with
      | none => simp [hp, hi] at hs
      | some i =>
        have hs : insertAll tree p (index i) nodes = spliced := by simpa [hp, hi] using hs
        exact hs ▸ insertAll_grown h (h.closed id p hid hp) _ hnodes
  cases position with
  | before => exact hbeside (fun i => i) hs
  | after => exact hbeside (· + 1) hs
  | inside => exact Option.some.inj hs ▸ h.appendChildren hid hnodes
  | prepend => exact Option.some.inj hs ▸ insertAll_grown h hid 0 hnodes

/-- A loop over elements that puts copies of a fragment somewhere and then does something more.  An
element that is passed over leaves its copy behind, detached. -/
private theorem foldl_fragment_sound (hw : tree.WellFormed) {elements : List NodeId}
    (hlt : ∀ id ∈ elements, id < tree.size) (fragment : List (Tree Node)) (position : Position)
    {f : Markup → NodeId → Markup}
    (hf : ∀ t : Markup, t.Grown tree.size → ∀ id < tree.size, (f t id).Grown tree.size) :
    let (edited, count) := elements.foldl (fun (tree, count) id =>
      let (grown, nodes) := Arena.graftAll tree fragment
      match splice? grown id nodes position with
      | some tree => (f tree id, count + 1)
      | none => (grown, count)) (tree, 0)
    Edited.Sound tree (.done edited count) := by
  obtain ⟨hend, -, hsame⟩ := foldl_counted (P := fun t : Markup => t.Grown tree.size)
    (R := Arena.Extends)
    (f := fun (tree, count) id =>
      match splice? (Arena.graftAll tree fragment).1 id (Arena.graftAll tree fragment).2 position
      with
      | some tree => (f tree id, count + 1)
      | none => ((Arena.graftAll tree fragment).1, count))
    Arena.Extends.refl Arena.Extends.trans (l := elements) (fun t n id hid ht => by
      obtain ⟨hgrown, hextends, hnew⟩ := ht.graftAll fragment
      dsimp only
      split
      · next spliced hs =>
        have hspliced := splice?_grown hgrown (hlt id hid) hnew hs
        exact ⟨hf spliced hspliced id (hlt id hid), Nat.le_succ n, fun h => by simp at h⟩
      · exact ⟨hgrown, Nat.le_refl n, fun _ => hextends⟩) 0 hw.grown
  exact .of_extends hw hend.wellFormed fun hidle => hsame ((Edited.idle_done _ _).mp hidle)

theorem insertFragment_sound (hw : tree.WellFormed) {elements : List NodeId}
    (hlt : ∀ id ∈ elements, id < tree.size) (fragment : List (Tree Node)) (position : Position) :
    Edited.Sound tree (insertFragment tree elements fragment position) :=
  foldl_fragment_sound hw hlt fragment position (f := fun t _ => t) fun _ ht _ _ => ht

theorem replaceElements_sound (hw : tree.WellFormed) {elements : List NodeId}
    (hlt : ∀ id ∈ elements, id < tree.size) (fragment : List (Tree Node)) :
    Edited.Sound tree (replaceElements tree elements fragment) :=
  foldl_fragment_sound hw hlt fragment .before fun _ ht id _ => ht.detach id

/-! ### Modifications -/

/-- Every edit of markup keeps the arena well-formed, and one that is idle leaves the tree as it
was. -/
theorem edit_sound (hw : tree.WellFormed) (m : Modification) :
    Edited.Sound tree (edit tree m) := by
  refine .needing hw fun elements hlocate => ?_
  have hlt := lt_size_of_mem_locate hw hlocate
  unfold editElements
  split
  · exact .needing hw fun value _ => setAttributes_sound hw elements _ value
  · exact .needing hw fun value _ =>
      editAttached_sound hw hlt fun _ ht _ hid => setText_grown ht value hid
  · exact removeAttributes_sound hw elements _
  · exact editAttached_sound hw hlt fun _ ht id _ => ht.detach id
  · refine .needing hw fun value _ => ?_
    dsimp only
    split
    · exact .failed hw _
    · exact insertFragment_sound hw hlt _ _
  · exact .needing hw fun value _ => replaceElements_sound hw hlt _

end Markup

end SourceEdit
