import SourceEdit.Proofs.Markup.Splice
import SourceEdit.Proofs.Reached

/-!
# Edits of markup as rewritings of the tree

The elements that a selector matches are found once and then worked on one after the other, in an
arena that changes.  Seen as trees, this comes to one rewriting: an edit puts a forest at a placement
of every element that matches, in the sense of `Tree.placing`.

Insertions and replacements work on all elements that match.  Deletions and new texts skip those that
are no longer attached; since no element comes after one that is below it, the elements that are left
are the outermost ones (`isAttached_iff_isOutermost`).
-/

namespace SourceEdit.Markup

variable {tree : Markup} {s : SimpleSelector}

/-! ### Documents -/

/-- A well-formed arena of markup with a document at its root. -/
structure IsDocument (tree : Markup) : Prop extends Arena.WellFormed tree where
  get?_root : tree.get? tree.root = some .document

theorem isDocument_ofForest (ts : List (Tree Node)) :
    IsDocument (Arena.ofForest .document ts) :=
  ⟨.ofForest _ ts, Arena.get?_root_ofForest _ ts⟩

theorem isDocument_ofText (options : MarkupOptions) (text : String) :
    (ofText options text).IsDocument :=
  isDocument_ofForest _

theorem IsDocument.isMatch_root (h : tree.IsDocument) (s : SimpleSelector) :
    (tree.valueAt tree.root).isMatch s = false := by
  rw [Arena.valueAt, h.get?_root]
  rfl

/-- What is below the root and matches a selector has a parent. -/
theorem IsDocument.exists_parent (h : tree.IsDocument) {x : NodeId}
    (hx : tree.Below x tree.root) (hmatch : (tree.valueAt x).isMatch s = true) :
    ∃ parent, tree.parent? x = some parent := by
  obtain rfl | ⟨parent, hparent, -⟩ := Arena.below_iff.mp hx
  · simp [h.isMatch_root] at hmatch
  · exact ⟨parent, hparent⟩

/-! ### The elements that match -/

theorem elementsMatching_eq (tree : Markup) (s : SimpleSelector) :
    elementsMatching tree s = tree.matching (Node.isMatch s) := by
  refine List.filter_congr fun x _ => ?_
  rw [Arena.valueAt]
  cases tree.get? x <;> rfl

/-! ### Loops over the elements that match -/

/-- A loop that puts copies of a fragment somewhere at every element and then does something more. -/
private theorem placed_foldl_fragment (h : tree.IsDocument) (s : SimpleSelector)
    (fragment : List (Tree Node)) (position : Position) {k : Placement} (hk : k ≠ .within)
    {f : Markup → NodeId → Markup}
    (hf : ∀ t : Markup, t.Grown tree.size → ∀ e < tree.size, ∀ parent, t.parent? e = some parent →
      ∃ spliced, splice? (t.graftAll fragment).1 e (t.graftAll fragment).2 position =
          some spliced ∧ Arena.Placed k fragment tree.size t [e] (f spliced e)) :
    let result := (elementsMatching tree s).foldl (fun (tree, count) id =>
      let (grown, nodes) := Arena.graftAll tree fragment
      match splice? grown id nodes position with
      | some tree => (f tree id, count + 1)
      | none => (grown, count)) (tree, 0)
    Arena.Placed k fragment tree.size tree (elementsMatching tree s) result.1 ∧
      result.2 = (elementsMatching tree s).length := by
  rw [elementsMatching_eq]
  have hplaced := Arena.placed_foldl (k := k) fragment (fun _ => true)
    (f := fun (tree, count) id =>
      match splice? (Arena.graftAll tree fragment).1 id (Arena.graftAll tree fragment).2 position
      with
      | some tree => (f tree id, count + 1)
      | none => ((Arena.graftAll tree fragment).1, count))
    (h.nodup_matching (Node.isMatch s)) h.toWellFormed.grown
    (fun before e after hsplit t count ht => by
      have he : e ∈ tree.matching (Node.isMatch s) := by simp [hsplit]
      have hlt := h.lt_size_of_mem_matching he
      have hnodup := h.nodup_matching (Node.isMatch s)
      rw [hsplit] at hnodup
      have hfresh : e ∉ before.filter fun _ => true := fun hmem =>
        List.disjoint_of_nodup_append hnodup (List.mem_of_mem_filter hmem) List.mem_cons_self
      obtain ⟨hbelow, hmatch⟩ := h.mem_matching_iff.mp he
      obtain ⟨parent, hparent⟩ := h.exists_parent hbelow hmatch
      -- an element keeps its parent until it is worked on, attached or not
      have hkept : t.parent? e = some parent :=
        (ht.parent?_iff hlt).mpr ⟨hparent, fun hw => hk hw.1, fun hi => hfresh hi.2⟩
      obtain ⟨spliced, hspliced, hplaced⟩ := hf t ht.grown e hlt parent hkept
      dsimp only
      rw [hspliced, if_pos rfl]
      exact ⟨hplaced, rfl⟩)
  simpa using hplaced

theorem placed_insertFragment (h : tree.IsDocument) (s : SimpleSelector)
    (fragment : List (Tree Node)) (position : Position) :
    let edited := insertFragment tree (elementsMatching tree s) fragment position
    Arena.Placed position.placement fragment tree.size tree (elementsMatching tree s) edited.tree ∧
      edited.result = .ok (elementsMatching tree s).length := by
  obtain ⟨hplaced, hcount⟩ := placed_foldl_fragment h s fragment position
    (by cases position <;> nofun) (f := fun t _ => t)
    fun t ht e he parent hparent => exists_splice? ht he hparent fragment position
  exact ⟨hplaced, congrArg Except.ok hcount⟩

theorem placed_replaceElements (h : tree.IsDocument) (s : SimpleSelector)
    (fragment : List (Tree Node)) :
    let edited := replaceElements tree (elementsMatching tree s) fragment
    Arena.Placed .instead fragment tree.size tree (elementsMatching tree s) edited.tree ∧
      edited.result = .ok (elementsMatching tree s).length := by
  obtain ⟨hplaced, hcount⟩ := placed_foldl_fragment h s fragment .before (k := .instead) nofun
    (f := Arena.detach)
    fun t ht e he parent hparent => exists_replacement ht he hparent fragment
  exact ⟨hplaced, congrArg Except.ok hcount⟩

/-! ### Loops that skip what is not attached -/

/-- Above a node that matches, or at it, there is an outermost one. -/
theorem exists_isOutermost (hw : tree.WellFormed) {p : Node → Bool} {x : NodeId}
    (hx : ∃ y, tree.Below x y ∧ p (tree.valueAt y) = true) :
    ∃ y, tree.Below x y ∧ tree.IsOutermost p y := by
  induction x using hw.acyclic.induction with
  | _ x ih =>
    by_cases habove : ∃ q, tree.parent? x = some q ∧
        ∃ y, tree.Below q y ∧ p (tree.valueAt y) = true
    · obtain ⟨q, hq, hy⟩ := habove
      obtain ⟨y, hqy, houter⟩ := ih q hq hy
      exact ⟨y, (Arena.Below.of_parent? hq).trans hqy, houter⟩
    · obtain ⟨y, hxy, hy⟩ := hx
      have hfree : ∀ z, tree.Below x z → z ≠ x → p (tree.valueAt z) = false := by
        intro z hz hne
        obtain rfl | ⟨q, hq, hqz⟩ := Arena.below_iff.mp hz
        · exact absurd rfl hne
        · exact Bool.eq_false_iff.mpr fun hp => habove ⟨q, hq, z, hqz, hp⟩
      obtain rfl : y = x := by
        by_contra hne
        simp [hfree y hxy hne] at hy
      exact ⟨y, .refl tree y, hy, hfree⟩

section Attached

open Classical

variable {k : Placement} {new : List (Tree Node)}

/-- When the elements before an element have been worked on that were attached, the element is
attached exactly if it is an outermost one. -/
theorem isAttached_iff_isOutermost (h : tree.IsDocument) (hk : k.discards = true)
    {before after : List NodeId} {e : NodeId} (hsplit : elementsMatching tree s = before ++ e :: after)
    {t : Markup} (ht : Arena.Placed k new tree.size tree
      (before.filter fun x => tree.IsOutermost (Node.isMatch s) x) t) :
    t.isAttached e = true ↔ tree.IsOutermost (Node.isMatch s) e := by
  have hw := h.toWellFormed
  rw [elementsMatching_eq] at hsplit
  have he : e ∈ tree.matching (Node.isMatch s) := by simp [hsplit]
  obtain ⟨hbelow, hmatch⟩ := hw.mem_matching_iff.mp he
  have hordered := hw.pairwise_matching (Node.isMatch s)
  have hnodup := hw.nodup_matching (Node.isMatch s)
  rw [hsplit] at hordered hnodup
  have hfresh : e ∉ before := fun hmem =>
    List.disjoint_of_nodup_append hnodup hmem List.mem_cons_self
  have hroot : tree.root ∉ before.filter fun x => tree.IsOutermost (Node.isMatch s) x := by
    intro hmem
    have houter : tree.IsOutermost (Node.isMatch s) tree.root := by
      simpa using (List.mem_filter.mp hmem).2
    simpa [h.isMatch_root] using houter.1
  rw [ht.grown.wellFormed.isAttached_iff, ht.below_root_iff hk hroot
    (hw.lt_size_of_mem_matching he) fun hmem => hfresh (List.mem_of_mem_filter hmem)]
  constructor
  · rintro ⟨-, hfree⟩
    -- the outermost element above another one comes first, so it has been worked on
    obtain ⟨w, hew, houter⟩ := exists_isOutermost hw ⟨e, .refl tree e, hmatch⟩
    by_cases hwe : w = e
    · exact hwe ▸ houter
    have hwroot : tree.Below w tree.root := by
      obtain h | h := hew.total hbelow
      · exact h
      · exact hw.eq_root_of_below h ▸ .refl tree _
    have hmem : w ∈ before ++ e :: after :=
      hsplit ▸ hw.mem_matching_iff.mpr ⟨hwroot, houter.1⟩
    obtain hmem | hmem := List.mem_append.mp hmem
    · exact absurd (List.mem_filter.mpr ⟨hmem, by simpa using houter⟩) (hfree w hew)
    · obtain rfl | hmem := List.mem_cons.mp hmem
      · exact absurd rfl hwe
      · have hlater := (List.pairwise_append.mp hordered).2.1
        exact absurd hew (List.rel_of_pairwise_cons hlater hmem)
  · intro houter
    refine ⟨hbelow, fun y hy hmem => ?_⟩
    obtain ⟨hmem, hyouter⟩ := List.mem_filter.mp hmem
    have hyouter : tree.IsOutermost (Node.isMatch s) y := by simpa using hyouter
    by_cases hye : y = e
    · exact hfresh (hye ▸ hmem)
    · simpa [houter.2 y hy hye] using hyouter.1

theorem placed_editAttached (h : tree.IsDocument) (s : SimpleSelector)
    (hk : k.discards = true) {f : Markup → NodeId → Markup}
    (hf : ∀ t : Markup, t.Grown tree.size → ∀ e < tree.size,
      Arena.Placed k new tree.size t [e] (f t e)) :
    let edited := editAttached tree (elementsMatching tree s) f
    let outermost := (elementsMatching tree s).filter fun x => tree.IsOutermost (Node.isMatch s) x
    Arena.Placed k new tree.size tree outermost edited.tree ∧
      edited.result = .ok outermost.length := by
  have hw := h.toWellFormed
  have hplaced := Arena.placed_foldl (k := k) new
    (fun x => tree.IsOutermost (Node.isMatch s) x)
    (f := fun (tree, count) id =>
      if Arena.isAttached tree id then (f tree id, count + 1) else (tree, count))
    (elementsMatching_eq tree s ▸ hw.nodup_matching _) hw.grown
    (fun before e after hsplit t count ht => by
      have hattached := isAttached_iff_isOutermost h hk hsplit ht
      have he : e < tree.size := by
        rw [elementsMatching_eq] at hsplit
        exact hw.lt_size_of_mem_matching (p := Node.isMatch s) (by simp [hsplit])
      by_cases houter : tree.IsOutermost (Node.isMatch s) e
      · simpa [houter, hattached] using hf t ht.grown e he
      · simp [houter, hattached])
  exact ⟨hplaced.1, congrArg Except.ok hplaced.2⟩

/-- As many elements are outermost ones as there are in the tree. -/
theorem length_outermost (hw : tree.WellFormed) (s : SimpleSelector) :
    ((elementsMatching tree s).filter fun x => tree.IsOutermost (Node.isMatch s) x).length =
      ((tree.view tree.root).outermost (Node.isMatch s)).length := by
  rw [hw.outermost_view, List.length_map, elementsMatching_eq, Arena.matching,
    List.filter_filter]
  congr 1
  refine List.filter_congr fun x _ => ?_
  by_cases houter : tree.IsOutermost (Node.isMatch s) x
  · simp [houter, houter.1]
  · simp [houter]

end Attached

/-! ### The tree at the end -/

/-- An edit has put a forest at a placement of every element that matches a selector, and counted so
many edits. -/
structure Places (tree : Markup) (s : SimpleSelector) (k : Placement) (new : List (Tree Node))
    (count : Nat) (e : Edited Markup) : Prop where
  isDocument : e.tree.IsDocument
  view_eq : (tree.view tree.root).placing k (Node.isMatch s) new = [e.tree.view e.tree.root]
  result_eq : e.result = .ok count

theorem IsDocument.of_placed (h : tree.IsDocument) {k : Placement} {new : List (Tree Node)}
    {done : List NodeId} {t : Markup} (ht : Arena.Placed k new tree.size tree done t) :
    t.IsDocument :=
  ⟨ht.grown.wellFormed, (ht.get?_eq _ h.root_lt_size).trans h.get?_root⟩

/-- What has been put at all elements that match has been put into the tree. -/
theorem places_of_placed (h : tree.IsDocument) {k : Placement} {new : List (Tree Node)}
    {e : Edited Markup}
    (he : Arena.Placed k new tree.size tree (elementsMatching tree s) e.tree ∧
      e.result = .ok (elementsMatching tree s).length) :
    Places tree s k new ((tree.view tree.root).values.countP (Node.isMatch s)) e where
  isDocument := h.of_placed he.1
  view_eq := he.1.view_root (h.isMatch_root s) fun x hx _ => by
    simp [elementsMatching_eq, h.mem_matching_iff, hx]
  result_eq := he.2.trans (by rw [elementsMatching_eq, h.length_matching])

theorem places_insertFragment (h : tree.IsDocument) (s : SimpleSelector)
    (fragment : List (Tree Node)) (position : Position) :
    Places tree s position.placement fragment
      ((tree.view tree.root).values.countP (Node.isMatch s))
      (insertFragment tree (elementsMatching tree s) fragment position) :=
  places_of_placed h (placed_insertFragment h s fragment position)

theorem places_replaceElements (h : tree.IsDocument) (s : SimpleSelector)
    (fragment : List (Tree Node)) :
    Places tree s .instead fragment ((tree.view tree.root).values.countP (Node.isMatch s))
      (replaceElements tree (elementsMatching tree s) fragment) :=
  places_of_placed h (placed_replaceElements h s fragment)

/-- What has been put at the outermost elements that match has been put into the tree, if it
discards what is below them. -/
theorem places_editAttached (h : tree.IsDocument) (s : SimpleSelector) {k : Placement}
    (hk : k.discards = true) {new : List (Tree Node)} {f : Markup → NodeId → Markup}
    (hf : ∀ t : Markup, t.Grown tree.size → ∀ e < tree.size,
      Arena.Placed k new tree.size t [e] (f t e)) :
    Places tree s k new ((tree.view tree.root).outermost (Node.isMatch s)).length
      (editAttached tree (elementsMatching tree s) f) := by
  have hw := h.toWellFormed
  obtain ⟨hplaced, hresult⟩ := placed_editAttached h s hk hf
  refine ⟨h.of_placed hplaced, hplaced.view_root (h.isMatch_root s) fun x hx hfree => ?_,
    hresult.trans (by rw [length_outermost hw])⟩
  simp only [List.mem_filter, elementsMatching_eq, hw.mem_matching_iff, decide_eq_true_eq]
  exact ⟨fun hmem => hmem.1.2, fun hp => ⟨⟨hx, hp⟩, hp, hfree hk⟩⟩

theorem places_delete (h : tree.IsDocument) (s : SimpleSelector) :
    Places tree s .instead [] ((tree.view tree.root).outermost (Node.isMatch s)).length
      (editAttached tree (elementsMatching tree s) Arena.detach) :=
  places_editAttached h s rfl fun _ ht _ he => Arena.placed_detach ht he

/-- When a forest without elements that match has taken the place of those that match, none are found
any more. -/
theorem Places.elementsMatching_eq_nil {new : List (Tree Node)} {count : Nat} {e : Edited Markup}
    (h : Places tree s .instead new count e)
    (hnew : ∀ n ∈ new.flatMap Tree.values, n.isMatch s = false) :
    elementsMatching e.tree s = [] := by
  have hvalues := Tree.eq_false_of_mem_placing_instead (Node.isMatch s) new hnew
    (tree.view tree.root)
  rw [h.view_eq, List.flatMap_singleton] at hvalues
  refine List.eq_nil_of_length_eq_zero ?_
  rw [elementsMatching_eq, h.isDocument.length_matching, List.countP_eq_zero]
  exact fun n hn => by simp [hvalues n hn]

theorem places_setText (h : tree.IsDocument) (s : SimpleSelector) (text : String) :
    Places tree s .within [.leaf (.text text)]
      ((tree.view tree.root).outermost (Node.isMatch s)).length
      (editAttached tree (elementsMatching tree s) (setText text)) :=
  places_editAttached h s rfl fun _ ht _ he => placed_setText ht he text

end SourceEdit.Markup
