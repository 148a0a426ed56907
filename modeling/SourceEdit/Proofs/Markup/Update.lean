import SourceEdit.Proofs.Markup.Placement

/-!
# Updates of markup done twice

Setting an attribute may change which elements match, since selectors look at attributes.  But only
elements that matched at first have been changed, so the elements that match afterwards are some of
these (`elementsMatching_foldl_subset`), and their attribute is set already.

A new text takes the place of whatever is below an outermost element, matched or not.  The tree after
a second update is that of a second rewriting, and `Tree.flatMap_placing_within` says that this
changes nothing.
-/

namespace SourceEdit.Markup

variable {tree : Markup} {s : SimpleSelector}

/-! ### Setting an attribute twice -/

theorem isNamed_new (name value : String) : Attribute.isNamed name ⟨.none, name, value⟩ = true :=
  beq_self_eq_true _

theorem setAttribute_setAttribute (name value : String) (attributes : List Attribute) :
    setAttribute name value (setAttribute name value attributes) =
      setAttribute name value attributes := by
  induction attributes with
  | nil => simp [setAttribute, isNamed_new]
  | cons a rest ih =>
    by_cases ha : a.isNamed name = true
    · have hset : Attribute.isNamed name { a with value } = true := ha
      simp [setAttribute, ha, hset]
    · simp [setAttribute, ha, ih]

theorem mapAttributes_setAttribute_idem (name value : String) (n : Node) :
    Node.mapAttributes (setAttribute name value) (n.mapAttributes (setAttribute name value)) =
      n.mapAttributes (setAttribute name value) := by
  cases n <;> simp [Node.mapAttributes, setAttribute_setAttribute]

/-- When only elements that match have been changed, no others match. -/
theorem elementsMatching_foldl_subset {f : Node → Node} (hf : ∀ n, f (f n) = f n)
    (tree : Markup) (s : SimpleSelector) :
    elementsMatching ((elementsMatching tree s).foldl (fun tree id => Arena.modifyValue tree id f) tree)
      s ⊆ elementsMatching tree s := by
  intro x hx
  by_contra hnot
  rw [elementsMatching_eq, Arena.matching, List.mem_filter, Arena.valueAt,
    Arena.get?_foldl_modifyValue hf, if_neg hnot] at hx
  refine hnot ?_
  rw [elementsMatching_eq, Arena.matching, List.mem_filter]
  exact ⟨(Arena.descendants_foldl_modifyValue f _ tree _) ▸ hx.1, hx.2⟩

/-! ### Updates -/

/-- An update that succeeds on one tree updates every one alike. -/
theorem exists_of_update {m : Modification} (hm : m.operation = .update) {n : Nat}
    (h : (edit tree m).result = .ok n) :
    ∃ s value, (∃ name, ∀ tree : Markup,
        edit tree m = setAttributes tree (elementsMatching tree s) name value) ∨
      ∀ tree : Markup, edit tree m = editAttached tree (elementsMatching tree s) (setText value) := by
  obtain ⟨elements, hlocate, h⟩ := Edited.exists_of_needing h
  obtain ⟨s, hs, -⟩ := locate_eq_ok_iff.mp hlocate
  cases hname : m.target.attributeName with
  | some name =>
    simp only [editElements, hm, hname] at h
    obtain ⟨value, hvalue, -⟩ := Edited.exists_of_needing h
    refine ⟨s, value, .inl ⟨name, fun tree => ?_⟩⟩
    simp only [edit_eq hs, editElements, hm, hname, hvalue, Edited.needing]
  | none =>
    simp only [editElements, hm, hname] at h
    obtain ⟨value, hvalue, -⟩ := Edited.exists_of_needing h
    refine ⟨s, value, .inr fun tree => ?_⟩
    simp only [edit_eq hs, editElements, hm, hname, hvalue, Edited.needing]

theorem idempotentAt_update {m : Modification} (hm : m.operation = .update)
    (h : tree.IsDocument) : IdempotentAt (edit · m) Arena.Alike tree := by
  intro n hn
  obtain ⟨s, value, ⟨name, hedit⟩ | hedit⟩ := exists_of_update hm hn
  · have hidem := mapAttributes_setAttribute_idem name value
    simp only [hedit, setAttributes, Edited.done,
      Arena.foldl_modifyValue_of_subset hidem (elementsMatching_foldl_subset hidem tree s)]
    exact ⟨_, rfl, refl_of Arena.Alike _⟩
  · simp only [hedit]
    have hfirst := places_setText h s value
    have hsecond := places_setText hfirst.isDocument s value
    refine ⟨_, hsecond.result_eq, ?_⟩
    -- on both sides there is one tree, since the root is no element
    have htwice := Tree.flatMap_placing_within (Node.isMatch s) [.leaf (.text value)]
      (tree.view tree.root)
    rw [hfirst.view_eq, List.flatMap_singleton, hsecond.view_eq] at htwice
    exact (List.singleton_inj.mp htwice)

end SourceEdit.Markup
