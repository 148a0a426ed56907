import SourceEdit.Proofs.Markup.Builder.Rules
import SourceEdit.Proofs.Markup.Placement

/-!
# The elements of a tree that has been read

Reading keeps the state of building sound, so every element of ordinary markup in a tree that has been
read has the name and the attributes that a tag can have (`isSound_of_ofText`): names in small letters
without a prefix, none of them twice.
-/

namespace SourceEdit.Markup

namespace Builder

/-! ### Building -/

theorem keeps_readText (n : Nat) (cs : List Char) : Keeps (readText n cs) := by
  induction n generalizing cs with
  | zero => exact .pure trivial
  | succ n ih =>
    cases cs with
    | nil => exact keeps_take (Lexer.isSound_endOfText.mpr trivial)
    | cons c cs =>
      unfold readText
      refine .bind .get fun b hb => ?_
      exact .bind (.forM (fun t ht => keeps_take ht) (Lexer.isSound_next hb.2.2 _ _)) fun _ _ => ih _

theorem isSound_read {b : Builder} (hb : IsSound b) (text : String) : IsSound (b.read text) :=
  (keeps_readText _ _ b hb).2.1

theorem isSound_withRoot : IsSound (Arena.withRoot Node.document) := by
  rintro (_ | id) n hn
  · cases hn
    trivial
  · cases hn

theorem isSound_ofDocument : IsSound ofDocument :=
  isSound_builder.mpr ⟨isSound_withRoot, isSound_nil.mpr trivial, isSound_markupReading.mpr trivial⟩

theorem isSound_ofFragment : IsSound ofFragment := by
  refine (keeps_insertRoot .nil _ (isSound_builder.mpr ⟨isSound_withRoot, ?_, ?_⟩)).2
  · exact isSound_nil.mpr trivial
  · exact isSound_markupReading.mpr trivial

end Builder

/-! ### Trees -/

theorem isSound_values_viewTo {tree : Markup} (h : IsSound tree) (n : Nat) (id : NodeId) :
    IsSound (tree.viewTo n id).values := by
  have hvalue (id : NodeId) : IsSound ((tree.get? id).getD default) := by
    cases hid : tree.get? id with
    | none => trivial
    | some v => exact h id v hid
  induction n generalizing id with
  | zero => exact isSound_cons.mpr ⟨hvalue id, isSound_nil.mpr trivial⟩
  | succ n ih =>
    rw [Arena.viewTo, Tree.values_node, isSound_cons]
    refine ⟨hvalue id, fun v hv => ?_⟩
    obtain ⟨t, ht, hv⟩ := List.mem_flatMap.mp hv
    obtain ⟨c, -, rfl⟩ := List.mem_map.mp ht
    exact ih c v hv

/-- The trees under a node of a tree that has been built. -/
theorem isSound_values_children {tree : Markup} (h : IsSound tree) (id : NodeId) :
    IsSound ((tree.view id).children.flatMap Tree.values) := by
  have hvalues := isSound_values_viewTo h tree.size id
  cases hview : tree.view id with
  | node v cs =>
    rw [← Arena.view, hview, Tree.values_node] at hvalues
    exact (isSound_cons.mp hvalues).2

theorem isSound_values_documentOf (text : String) :
    IsSound ((documentOf text).flatMap Tree.values) := by
  rw [documentOf_eq]
  exact isSound_values_children (Builder.isSound_read Builder.isSound_ofDocument text) _

theorem isSound_values_fragmentOf (text : String) :
    IsSound ((fragmentOf text).flatMap Tree.values) := by
  have hvalues := isSound_values_children (Builder.isSound_read Builder.isSound_ofFragment text)
    (Builder.ofFragment.read text).root
  rw [fragmentOf_eq]
  split
  · next root rest hchildren =>
    rw [hchildren, List.flatMap_cons, isSound_append] at hvalues
    cases root with
    | node v cs =>
      rw [Tree.values_node, isSound_cons] at hvalues
      exact hvalues.1.2
  · exact isSound_nil.mpr trivial

/-- The nodes of a tree that has been read are sound. -/
theorem isSound_of_ofText {options : MarkupOptions} {text : String} {id : NodeId}
    (hid : id ∈ (ofText options text).descendants (ofText options text).root) {n : Node}
    (hn : (ofText options text).get? id = some n) : IsSound n := by
  have hw : (ofText options text).WellFormed := (isDocument_ofText options text).toWellFormed
  have hmem : n ∈ ((ofText options text).view (ofText options text).root).values := by
    rw [hw.values_view hw.root_lt_size]
    exact List.mem_map.mpr ⟨id, hid, by rw [Arena.valueAt, hn]; rfl⟩
  unfold ofText at hmem
  rw [Arena.view_ofForest, Tree.values_node, List.mem_cons] at hmem
  obtain rfl | hmem := hmem
  · trivial
  · split at hmem
    · exact isSound_values_documentOf text n hmem
    · exact isSound_values_fragmentOf text n hmem

end SourceEdit.Markup
