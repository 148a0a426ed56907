import SourceEdit.Proofs.Markup.Placement

/-!
# What the edits of markup make of the tree

Every tree of markup that reading and editing lead to is a document (`isDocument_of_reached`).  On
documents, an insertion puts the fragment at its position with respect to every element that matches
(`places_of_insert`), a deletion prunes these elements and a new text replaces what is below the
outermost of them (`places_of_delete_or_setText`), and a replacement puts the fragment in the place of
the outermost of them (`places_of_replace`).

A replacement works on all elements that match, those included that are gone with an element around
them.  This does not show in the tree, but in the count: deletions and new texts count the outermost
elements only, while a replacement counts every one (`count_of_replace_nested`).
-/

namespace SourceEdit.Markup

variable {tree : Markup} {s : SimpleSelector} {m : Modification}

/-! ### Edits of documents -/

/-- A change of attributes leaves the document at the root. -/
theorem IsDocument.mapAttributes (h : tree.IsDocument) (f : List Attribute → List Attribute)
    (id : NodeId) : IsDocument (tree.modifyValue id (.mapAttributes f)) where
  toWellFormed := h.toWellFormed.modifyValue id _
  get?_root := by
    refine (Arena.get?_modifyValue id _ _).trans ?_
    split
    · exact congrArg (Option.map (Node.mapAttributes f)) h.get?_root
    · exact h.get?_root

private theorem IsDocument.foldl_mapAttributes (h : tree.IsDocument)
    (f : List Attribute → List Attribute) (ids : List NodeId) :
    IsDocument (ids.foldl (fun tree id => Arena.modifyValue tree id (.mapAttributes f)) tree) := by
  induction ids generalizing tree with
  | nil => exact h
  | cons id ids ih => exact ih (h.mapAttributes f id)

/-- Every edit of a document leaves a document. -/
theorem IsDocument.edit (h : tree.IsDocument) (m : Modification) : (edit tree m).tree.IsDocument := by
  have hneeding {β : Type} {needed : Except EditError β} {next : β → Edited Markup}
      (hnext : ∀ x, needed = .ok x → (next x).tree.IsDocument) :
      (Edited.needing tree needed next).tree.IsDocument := by
    cases needed with
    | ok x => exact hnext x rfl
    | error e => exact h
  refine hneeding fun elements hlocate => ?_
  obtain ⟨s, -, rfl⟩ := locate_eq_ok_iff.mp hlocate
  unfold editElements
  split
  · exact hneeding fun value _ => h.foldl_mapAttributes _ _
  · exact hneeding fun value _ => (places_setText h s value).isDocument
  · exact h.foldl_mapAttributes _ _
  · exact (places_delete h s).isDocument
  · refine hneeding fun value _ => ?_
    dsimp only
    split
    · exact h
    · exact (places_insertFragment h s _ _).isDocument
  · exact hneeding fun value _ => (places_replaceElements h s _).isDocument

/-- The trees that reading and editing lead to are documents. -/
theorem isDocument_of_reached {options : MarkupOptions} (h : options.editor.Reached tree) :
    tree.IsDocument := by
  refine Editor.Reached.invariant (e := options.editor) (I := IsDocument) (R := fun _ _ => True) ?_
    (fun tree m hdocument => ⟨hdocument.edit m, fun _ => trivial⟩) h
  intro _ source tree hread
  obtain rfl : ofText options source = tree := Except.ok.inj hread
  exact isDocument_ofText options source

/-! ### Insertions -/

/-- An insertion puts a copy of the fragment at its position with respect to every element that
matches, and counts these elements. -/
theorem places_of_insert (h : tree.IsDocument) (s : SimpleSelector) :
    let count := (tree.view tree.root).values.countP (Node.isMatch s)
    (∀ fragment position, Places tree s position.placement fragment count
      (insertFragment tree (elementsMatching tree s) fragment position)) ∧
    ∀ (m : Modification) (value : String), m.operation = .insert → m.target.Selects s →
      m.valueText? = some value → fragmentOf value ≠ [] →
      Places tree s (m.position.getD .inside).placement (fragmentOf value) count (edit tree m) := by
  refine ⟨fun fragment position => places_insertFragment h s fragment position,
    fun m value hm hs hvalue hfragment => ?_⟩
  have hedit : edit tree m = insertFragment tree (elementsMatching tree s) (fragmentOf value)
      (m.position.getD .inside) := by
    rw [edit_eq hs]
    simp [editElements, hm, requiredValue_eq hvalue, Edited.needing, hfragment]
  exact hedit ▸ places_insertFragment h s (fragmentOf value) _

/-- A fragment that matches itself, after an element that is below another one. -/
theorem places_of_insert_nested :
    let name : Node := .element { localName := "p" } []
    let tree : Markup := .ofForest .document [.node name [.node name []]]
    let m : Modification :=
      { path := "a", operation := .insert, target := { selector := some "p" },
        value := some (.text "<p>"), position := some .after }
    (edit tree m).result = .ok 2 ∧
      [(edit tree m).tree.view (edit tree m).tree.root] =
        [.node .document ([.node name ([.node name []] ++ fragmentOf "<p>")] ++ fragmentOf "<p>")] := by
  intro name tree m
  have hs : m.target.Selects (.tag ['p']) := ⟨"p", rfl, rfl⟩
  have hmatch : name.isMatch (.tag ['p']) = true := by decide
  have hroot : Node.document.isMatch (.tag ['p']) = false := rfl
  have hfragment : fragmentOf "<p>" ≠ [] := by decide +kernel
  have hview : tree.view tree.root = .node .document [.node name [.node name []]] :=
    Arena.view_ofForest ..
  have h := (places_of_insert (isDocument_ofForest [.node name [.node name []]])
    (.tag ['p'])).2 m "<p>" rfl hs rfl hfragment
  refine ⟨h.result_eq.trans ?_, h.view_eq.symm.trans ?_⟩
  · simp [tree, hview, Tree.values_node, hmatch, hroot]
  · simp [tree, hview, Tree.placing_node, hmatch, hroot, m, Position.placement, Placement.around,
      Placement.among]

/-! ### Deletions and new texts -/

/-- A deletion takes every element that matches out of the tree, with all that is below it, and then
none is found any more. A new text takes the place of what is below every outermost element that
matches. Both count the outermost elements. -/
theorem places_of_delete_or_setText (h : tree.IsDocument) (hs : m.target.Selects s)
    (hname : m.target.attributeName = none) :
    let count := ((tree.view tree.root).outermost (Node.isMatch s)).length
    (m.operation = .delete → Places tree s .instead [] count (edit tree m) ∧
      locate (edit tree m).tree m.target = .ok []) ∧
    ∀ value, m.operation = .update → m.valueText? = some value →
      Places tree s .within [.leaf (.text value)] count (edit tree m) := by
  refine ⟨fun hm => ?_, fun value hm hvalue => ?_⟩
  · have hedit : edit tree m = editAttached tree (elementsMatching tree s) Arena.detach := by
      simp only [edit_eq hs, editElements, hm, hname]
    rw [hedit]
    have hplaces := places_delete h s
    exact ⟨hplaces, locate_eq_ok_iff.mpr ⟨s, hs, hplaces.elementsMatching_eq_nil nofun⟩⟩
  · have hedit : edit tree m = editAttached tree (elementsMatching tree s) (setText value) := by
      simp only [edit_eq hs, editElements, hm, hname, requiredValue_eq hvalue, Edited.needing]
    rw [hedit]
    exact places_setText h s value

/-- Two nested elements, of which one is deleted or gets a text, and one beside them. -/
theorem places_of_delete_or_setText_nested :
    let name : Node := .element { localName := "p" } []
    let tree : Markup := .ofForest .document [.node name [.node name []], .node name []]
    let delete : Modification :=
      { path := "a", operation := .delete, target := { selector := some "p" } }
    let update : Modification := { delete with operation := .update, value := some (.bool true) }
    ((edit tree delete).result = .ok 2 ∧
      [(edit tree delete).tree.view (edit tree delete).tree.root] = [.leaf .document] ∧
      locate (edit tree delete).tree delete.target = .ok []) ∧
    (edit tree update).result = .ok 2 ∧
      [(edit tree update).tree.view (edit tree update).tree.root] =
        [.node .document (List.replicate 2 (.node name [.leaf (.text "true")]))] := by
  intro name tree delete update
  have hs : delete.target.Selects (.tag ['p']) := ⟨"p", rfl, rfl⟩
  have hmatch : name.isMatch (.tag ['p']) = true := by decide
  have hroot : Node.document.isMatch (.tag ['p']) = false := rfl
  have hview : tree.view tree.root =
      .node .document [.node name [.node name []], .node name []] := Arena.view_ofForest ..
  have hdocument := isDocument_ofForest [.node name [.node name []], .node name []]
  have hcount : ((tree.view tree.root).outermost (Node.isMatch (.tag ['p']))).length = 2 := by
    simp [hview, Tree.outermost_node, hmatch, hroot]
  obtain ⟨hdelete, hnone⟩ :=
    (places_of_delete_or_setText (m := delete) hdocument hs rfl).1 rfl
  have hupdate := (places_of_delete_or_setText (m := update) hdocument hs rfl).2 "true" rfl rfl
  refine ⟨⟨hdelete.result_eq.trans (congrArg Except.ok hcount), hdelete.view_eq.symm.trans ?_, hnone⟩,
    hupdate.result_eq.trans (congrArg Except.ok hcount), hupdate.view_eq.symm.trans ?_⟩
  · simp [tree, hview, Tree.placing_node, hmatch, hroot, Placement.around, Tree.leaf]
  · simp [tree, hview, Tree.placing_node, hmatch, hroot, Placement.around, Placement.among]

/-! ### Replacements -/

/-- A replacement puts a copy of the fragment in the place of every outermost element that matches.
It counts all elements that match, while a deletion and a new text count the outermost ones. -/
theorem places_of_replace (h : tree.IsDocument) (s : SimpleSelector) :
    let count := (tree.view tree.root).values.countP (Node.isMatch s)
    let outermost := (tree.view tree.root).outermost (Node.isMatch s)
    (∀ fragment, Places tree s .instead fragment count
      (replaceElements tree (elementsMatching tree s) fragment)) ∧
    (∀ (m : Modification) (value : String), m.operation = .replace → m.target.Selects s →
      m.valueText? = some value →
      Places tree s .instead (fragmentOf value) count (edit tree m)) ∧
    ∀ m : Modification, m.target.Selects s → m.target.attributeName = none →
      m.operation = .delete ∨ m.operation = .update ∧ m.valueText?.isSome = true →
      (edit tree m).result = .ok outermost.length := by
  refine ⟨places_replaceElements h s, fun m value hm hs hvalue => ?_, fun m hs hname hm => ?_⟩
  · have hedit : edit tree m =
        replaceElements tree (elementsMatching tree s) (fragmentOf value) := by
      rw [edit_eq hs]
      simp [editElements, hm, requiredValue_eq hvalue, Edited.needing]
    exact hedit ▸ places_replaceElements h s (fragmentOf value)
  · rw [edit_eq hs]
    obtain hm | ⟨hm, hvalue⟩ := hm
    · simp only [editElements, hm, hname]
      exact (places_delete h s).result_eq
    · obtain ⟨value, hvalue⟩ := Option.isSome_iff_exists.mp hvalue
      simp only [editElements, hm, hname, requiredValue_eq hvalue, Edited.needing]
      exact (places_setText h s value).result_eq

/-- Two nested elements are replaced by one fragment. -/
theorem places_of_replace_nested :
    let name : Node := .element { localName := "p" } []
    let tree : Markup := .ofForest .document [.node name [.node name []]]
    let m : Modification :=
      { path := "a", operation := .replace, target := { selector := some "p" },
        value := some (.text "x") }
    (edit tree m).result = .ok 2 ∧
      [(edit tree m).tree.view (edit tree m).tree.root] = [.node .document (fragmentOf "x")] := by
  intro name tree m
  have hs : m.target.Selects (.tag ['p']) := ⟨"p", rfl, rfl⟩
  have hmatch : name.isMatch (.tag ['p']) = true := by decide
  have hroot : Node.document.isMatch (.tag ['p']) = false := rfl
  have hview : tree.view tree.root = .node .document [.node name [.node name []]] :=
    Arena.view_ofForest ..
  have h := (places_of_replace (isDocument_ofForest [.node name [.node name []]])
    (.tag ['p'])).2.1 m "x" rfl hs rfl
  refine ⟨h.result_eq.trans ?_, h.view_eq.symm.trans ?_⟩
  · simp [tree, hview, Tree.values_node, hmatch, hroot]
  · simp [tree, hview, Tree.placing_node, hmatch, hroot, Placement.around]

/-- A replacement counts an element that is gone with the one around it, and a deletion does not. -/
theorem count_of_replace_nested :
    let tree := ofText {} "<div><div>x</div></div>"
    let m : Modification :=
      { path := "a.html", operation := .replace, target := { selector := some "div" },
        value := some (.text "<p>n</p>") }
    let s : SimpleSelector := .tag "div".toList
    m.target.Selects s ∧ (edit tree m).result.toOption = some 2 ∧
      ((tree.view tree.root).outermost (Node.isMatch s)).length = 1 ∧
      (edit tree { m with operation := .delete }).result.toOption = some 1 := by
  refine ⟨⟨"div", rfl, rfl⟩, ?_, ?_, ?_⟩ <;> decide +kernel

end SourceEdit.Markup
