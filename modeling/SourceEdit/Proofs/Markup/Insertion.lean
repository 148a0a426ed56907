import SourceEdit.Proofs.Markup.Flow.Reading
import SourceEdit.Proofs.Markup.Rewriting

/-!
# Insertions put in what has been written

A value is read once, as the content of a body, wherever its nodes go then.  So what an insertion puts
into an element is the forest that the value has been written for if, and only if, this forest comes
back as the content of a body; all flow content does (`receives_of_insert`).  It is not enough that the
forest comes back at the place it goes to: a row does so in a table, and only its text arrives
(`receives_of_insert_row`).
-/

namespace SourceEdit.Markup

variable {tree edited : Markup} {s : SimpleSelector} {m : Modification} {ts us : List (Tree Node)}
  {k : Placement} {id : NodeId}

/-! ### What a node receives -/

/-- New nodes have come to stand among the children of a node, and the trees below them are those of a
forest. -/
def Receives (k : Placement) (ts : List (Tree Node)) (tree : Markup) (id : NodeId)
    (edited : Markup) : Prop :=
  ∃ ids : List NodeId, (∀ i ∈ ids, tree.size ≤ i) ∧
    edited.children id = k.among ids (tree.children id) ∧ ids.map edited.view = ts

/-- A node does not receive two forests at once. -/
theorem Receives.unique (hk : k = .inside ∨ k = .prepend) (h : Receives k ts tree id edited)
    (h' : Receives k us tree id edited) : ts = us := by
  obtain ⟨ids, -, hids, rfl⟩ := h
  obtain ⟨ids', -, hids', rfl⟩ := h'
  have heq : k.among ids (tree.children id) = k.among ids' (tree.children id) :=
    hids.symm.trans hids'
  obtain rfl | rfl := hk
  · rw [List.append_cancel_left heq]
  · rw [List.append_cancel_right heq]

/-- A node that has been left alone has received nothing. -/
theorem receives_nil (hk : k = .inside ∨ k = .prepend) (tree : Markup) (id : NodeId) :
    Receives k [] tree id tree := by
  refine ⟨[], List.forall_mem_nil _, ?_, rfl⟩
  obtain rfl | rfl := hk
  · exact (List.append_nil _).symm
  · rfl

/-- What has been placed inside nodes has been received by them. -/
theorem receives_of_placed {done : List NodeId} (hk : k = .inside ∨ k = .prepend)
    (h : Arena.Placed k ts tree.size tree done edited) (hid : id ∈ done) :
    Receives k ts tree id edited := by
  obtain ⟨made, hmade, hchildren⟩ := h.children_eq
  obtain ⟨hfresh, hview⟩ := hmade id hid
  have hslot (x : NodeId) : Arena.slot k done made x = [x] := by
    rw [Arena.slot]
    obtain rfl | rfl := hk <;> simp [Placement.around]
  refine ⟨made id, fun i hi => (hfresh i hi).1, ?_, hview⟩
  rw [hchildren id (h.lt id hid), Arena.filled, if_pos hid]
  have hslots : (tree.children id).flatMap (Arena.slot k done made) = tree.children id := by
    simp [funext hslot]
  rw [hslots]

/-! ### Insertions -/

/-- Every element that matches receives what the value is read as. -/
theorem receives_fragmentOf (h : tree.IsDocument) (hs : m.target.Selects s)
    (hm : m.operation = .insert) {value : String} (hvalue : m.valueText? = some value)
    (hk : (m.position.getD .inside).placement = .inside ∨
      (m.position.getD .inside).placement = .prepend) {e : NodeId}
    (he : e ∈ elementsMatching tree s) :
    Receives (m.position.getD .inside).placement (fragmentOf value) tree e (edit tree m).tree := by
  rw [edit_eq hs]
  by_cases hfragment : fragmentOf value = []
  · rw [hfragment]
    simp only [editElements, hm, requiredValue_eq hvalue, Edited.needing, hfragment, List.isEmpty_nil,
      if_true]
    exact receives_nil hk tree e
  · have hedit : editElements tree m (elementsMatching tree s) = insertFragment tree
        (elementsMatching tree s) (fragmentOf value) (m.position.getD .inside) := by
      simp [editElements, hm, requiredValue_eq hvalue, Edited.needing, hfragment]
    rw [hedit]
    exact receives_of_placed hk (placed_insertFragment h s _ _).1 he

/-- An insertion at the start or at the end of the content of the elements that match puts copies of
what has been written as its value into each of them, and nothing else, if and only if the value comes
back as the content of a body. All flow content does. -/
theorem receives_of_insert (h : tree.IsDocument) (hs : m.target.Selects s)
    (hm : m.operation = .insert) (hne : ts ≠ [])
    (hvalue : m.valueText? = some (String.ofList (writeForest {} ts)))
    (hposition : m.position.getD .inside = .inside ∨ m.position.getD .inside = .prepend) :
    let k := (m.position.getD .inside).placement
    let count := (tree.view tree.root).values.countP (Node.isMatch s)
    let value := String.ofList (writeForest {} ts)
    (isFlow ts = true → fragmentOf value = ts) ∧
      (fragmentOf value = ts → Places tree s k ts count (edit tree m)) ∧
      ∀ e ∈ elementsMatching tree s,
        Receives k ts tree e (edit tree m).tree ↔ fragmentOf value = ts := by
  intro k count value
  have hk : k = .inside ∨ k = .prepend :=
    hposition.imp (congrArg Position.placement) (congrArg Position.placement)
  refine ⟨fragmentOf_write, fun hback => ?_, fun e he => ?_⟩
  · have hfragment : fragmentOf value ≠ [] := fun hnil => hne (hback.symm.trans hnil)
    have hplaces := (places_of_insert h s).2 m value hm hs hvalue hfragment
    rwa [hback] at hplaces
  · have hreceives := receives_fragmentOf h hs hm hvalue hk he
    exact ⟨hreceives.unique hk, fun hback => hback ▸ hreceives⟩

/-- An item with a link, put at the end of a list. -/
theorem receives_of_insert_item :
    let list : Node := .element { localName := "ul" } []
    let item : Tree Node := .node (.element { localName := "li" } [])
      [.node (.element { localName := "a" } [{ localName := "href", value := "\"&" }])
        [.leaf (.text "<x>")]]
    let tree : Markup := .ofForest .document [.node list [item]]
    let m : Modification :=
      { path := "a", operation := .insert, target := { selector := some "ul" },
        value := some (.text "<li><a href=\"&quot;&amp;\">&lt;x&gt;</a></li>") }
    String.ofList (writeForest {} [item]) = "<li><a href=\"&quot;&amp;\">&lt;x&gt;</a></li>" ∧
      elementsMatching tree (.tag ['u', 'l']) = [1] ∧
      Receives .inside [item] tree 1 (edit tree m).tree ∧
      [(edit tree m).tree.view (edit tree m).tree.root] =
        [.node .document [.node list [item, item]]] := by
  intro list item tree m
  have hs : m.target.Selects (.tag ['u', 'l']) := ⟨"ul", rfl, rfl⟩
  have hwritten : String.ofList (writeForest {} [item]) =
      "<li><a href=\"&quot;&amp;\">&lt;x&gt;</a></li>" := by decide +kernel
  have hvalue : m.valueText? = some (String.ofList (writeForest {} [item])) := by
    rw [hwritten]
    rfl
  have hflow : isFlow [item] = true := by decide +kernel
  have hmatching : elementsMatching tree (.tag ['u', 'l']) = [1] := by decide +kernel
  obtain ⟨hback, hplaces, hreceives⟩ := receives_of_insert (isDocument_ofForest [.node list [item]])
    hs rfl (List.cons_ne_nil item []) hvalue (.inl rfl)
  refine ⟨hwritten, hmatching, ?_, (hplaces (hback hflow)).view_eq.symm.trans ?_⟩
  · exact (hreceives 1 (hmatching ▸ List.mem_cons_self)).mpr (hback hflow)
  · decide +kernel

/-- A row that comes back where it stands in a table is lost up to its text when it is inserted there,
and a table that comes back in a paragraph, as it does in a document without a type, is put after the
paragraph. -/
theorem receives_of_insert_row :
    let standing (tree : Markup) (s : SimpleSelector) (t : Tree Node) : List (Tree Node) :=
      (tree.view tree.root).placing .inside (Node.isMatch s) [t]
    let inserted (tree : Markup) (selector value : String) : List (Tree Node) :=
      let edited := (edit tree
        { path := "a.html", operation := .insert, target := { selector := some selector },
          value := some (.text value) }).tree
      [edited.view edited.root]
    let comesBack (ts : List (Tree Node)) : Prop :=
      let tree := ofText {} (String.ofList (writeForest {} ts))
      [tree.view tree.root] = ts
    let table := ofText {} "<table><tbody></tbody></table>"
    let row : Tree Node := .node (.element { localName := "tr" } [])
      [.node (.element { localName := "td" } []) [.leaf (.text "x")]]
    let page := ofText {} "<body><div></div></body>"
    let paragraph : Tree Node := .node (.element { localName := "p" } [])
      [.leaf (.element { localName := "table" } [])]
    (writeForest {} [row] = "<tr><td>x</td></tr>".toList ∧
        comesBack (standing table (.tag "tbody".toList) row) ∧
        inserted table "tbody" "<tr><td>x</td></tr>" =
          (table.view table.root).placing .inside (Node.isMatch (.tag "tbody".toList))
            [.leaf (.text "x")] ∧
        inserted table "tbody" "<tr><td>x</td></tr>" ≠ standing table (.tag "tbody".toList) row) ∧
      writeForest {} [paragraph] = "<p><table></table></p>".toList ∧
      comesBack (standing page (.tag "div".toList) paragraph) ∧
      inserted page "div" "<p><table></table></p>" ≠
        standing page (.tag "div".toList) paragraph := by
  decide +kernel

end SourceEdit.Markup
