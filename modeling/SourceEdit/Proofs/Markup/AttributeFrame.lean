import SourceEdit.Proofs.Markup.Attributes

/-!
# What an edit of attributes changes

An edit of attributes goes through the elements that matched before it, so it does not matter that a
changed class or id may make an element match no more, or another one match.  It changes the attributes
of these elements and nothing else: all links, and the values of all other nodes, stay as they are
(`ChangesAttributes`).

After an update, the attribute that the locator finds under the name has the new value; it is the first
one of that name, or a new last one.  After a deletion nothing is found under the name, since all
attributes of that name are gone, repeated ones included (`changesAttributes_of_edit`).
-/

namespace SourceEdit.Markup

variable {tree : Markup} {s : SimpleSelector} {name value : String} {attributes : List Attribute}

/-- The attributes of the elements that match have been changed by `f`, and nothing else. -/
structure ChangesAttributes (tree : Markup) (s : SimpleSelector)
    (f : List Attribute → List Attribute) (edited : Markup) : Prop where
  size_eq : edited.size = tree.size
  children_eq : ∀ id, edited.children id = tree.children id
  parent?_eq : ∀ id, edited.parent? id = tree.parent? id
  kept : ∀ id, id ∉ elementsMatching tree s → edited.get? id = tree.get? id
  changed : ∀ id ∈ elementsMatching tree s, ∃ e attributes,
    tree.get? id = some (.element e attributes) ∧ edited.get? id = some (.element e (f attributes))

/-- What matches is an element. -/
theorem exists_of_mem_elementsMatching {id : NodeId} (hid : id ∈ elementsMatching tree s) :
    ∃ e attributes, tree.get? id = some (.element e attributes) := by
  have hmatch := (List.mem_filter.mp hid).2
  cases hn : tree.get? id with
  | none => simp [hn] at hmatch
  | some n =>
    cases n with
    | element e attributes => exact ⟨e, attributes, rfl⟩
    | _ => simp [hn, Node.isMatch] at hmatch

theorem changesAttributes_foldl {f : List Attribute → List Attribute} (hf : ∀ l, f (f l) = f l)
    (tree : Markup) (s : SimpleSelector) :
    ChangesAttributes tree s f ((elementsMatching tree s).foldl
      (fun tree id => Arena.modifyValue tree id (.mapAttributes f)) tree) := by
  have hidem (n : Node) :
      Node.mapAttributes f (n.mapAttributes f) = n.mapAttributes f := by
    cases n <;> simp [Node.mapAttributes, hf]
  refine ⟨Arena.size_foldl_modifyValue .., Arena.children_foldl_modifyValue _ _ _,
    Arena.parent?_foldl_modifyValue _ _ _, fun id hid => ?_, fun id hid => ?_⟩
  · rw [Arena.get?_foldl_modifyValue hidem, if_neg hid]
  · obtain ⟨e, attributes, hn⟩ := exists_of_mem_elementsMatching hid
    refine ⟨e, attributes, hn, ?_⟩
    rw [Arena.get?_foldl_modifyValue hidem, if_pos hid, hn]
    rfl

/-! ### Looking an attribute up -/

theorem attributeValue?_setAttribute (name value : String) (attributes : List Attribute) :
    attributeValue? (setAttribute name value attributes) name = some value := by
  obtain ⟨before, a, after, -, hbefore, ha, hset⟩ | ⟨hnone, hset⟩ :=
    setAttribute_cases name value attributes
  · have hnot : before.find? (·.isNamed name) = none :=
      List.find?_eq_none.mpr fun b hb => by simp [hbefore b hb]
    have hfound : Attribute.isNamed name { a with value } = true := ha
    rw [attributeValue?, hset, List.find?_append, hnot, Option.none_or,
      List.find?_cons_of_pos hfound, Option.map_some]
  · have hnot : attributes.find? (·.isNamed name) = none :=
      List.find?_eq_none.mpr fun b hb => by simp [hnone b hb]
    rw [attributeValue?, hset, List.find?_append, hnot, Option.none_or,
      List.find?_cons_of_pos (isNamed_new name value), Option.map_some]

theorem attributeValue?_filter (name : String) (attributes : List Attribute) :
    attributeValue? (attributes.filter (!·.isNamed name)) name = none := by
  rw [attributeValue?, Option.map_eq_none_iff, List.find?_eq_none]
  exact fun a ha => by simpa using (List.mem_filter.mp ha).2

/-! ### Counts -/

theorem IsDocument.length_elementsMatching (h : tree.IsDocument) (s : SimpleSelector) :
    (elementsMatching tree s).length = (tree.view tree.root).values.countP (Node.isMatch s) := by
  rw [elementsMatching_eq, h.length_matching]

/-- The elements that match and have an attribute of a name. -/
theorem IsDocument.length_filter_hasAttribute (h : tree.IsDocument) (s : SimpleSelector)
    (name : String) :
    ((elementsMatching tree s).filter (hasAttribute tree name)).length =
      (tree.view tree.root).values.countP
        fun n => n.isMatch s && n.attributes.any (·.isNamed name) := by
  rw [← h.length_matching, elementsMatching_eq, Arena.matching, Arena.matching, List.filter_filter]
  congr 1
  refine List.filter_congr fun id _ => ?_
  rw [hasAttribute, Arena.valueAt, Bool.and_comm]
  cases tree.get? id <;> rfl

/-! ### Edits -/

/-- An update sets an attribute of every element that matches and counts these elements: under the
name, its value is found. The first attribute of the name gets it, or there was none and a last one has
been added. A deletion takes away the attributes of a name and counts the elements that had one: under
the name, nothing is found. -/
theorem changesAttributes_of_edit {m : Modification} (h : tree.IsDocument)
    (hs : m.target.Selects s) (hname : m.target.attributeName = some name) :
    (∀ value, m.operation = .update → m.valueText? = some value →
      ChangesAttributes tree s (setAttribute name value) (edit tree m).tree ∧
      (edit tree m).result = .ok ((tree.view tree.root).values.countP (Node.isMatch s)) ∧
      ∀ attributes : List Attribute,
        attributeValue? (setAttribute name value attributes) name = some value ∧
        ((∃ before a after, attributes = before ++ a :: after ∧
            (∀ b ∈ before, b.isNamed name = false) ∧ a.isNamed name = true ∧
            setAttribute name value attributes = before ++ { a with value } :: after) ∨
          ((∀ a ∈ attributes, a.isNamed name = false) ∧
            setAttribute name value attributes = attributes ++ [{ localName := name, value }]))) ∧
    (m.operation = .delete →
      ChangesAttributes tree s (·.filter (!·.isNamed name)) (edit tree m).tree ∧
      (edit tree m).result = .ok ((tree.view tree.root).values.countP
        fun n => n.isMatch s && n.attributes.any (·.isNamed name)) ∧
      ∀ attributes : List Attribute,
        attributeValue? (attributes.filter (!·.isNamed name)) name = none) := by
  refine ⟨fun value hm hvalue => ?_, fun hm => ?_⟩
  · rw [edit_eq_setAttributes hs hname hm hvalue, ← h.length_elementsMatching]
    exact ⟨changesAttributes_foldl (setAttribute_setAttribute name value) tree s, rfl,
      fun attributes => ⟨attributeValue?_setAttribute name value attributes,
        setAttribute_cases name value attributes⟩⟩
  · rw [edit_eq_removeAttributes hs hname hm, ← h.length_filter_hasAttribute]
    exact ⟨changesAttributes_foldl (fun l => by simp) tree s, rfl,
      attributeValue?_filter name⟩

/-- Two elements of a class, one inside the other, lose the class by an update, and one that has been
repeated loses it by a deletion. -/
theorem changesAttributes_of_edit_class :
    let item (value : String) (more : List Attribute) : Node :=
      .element { localName := "p" } ({ localName := "Class", value } :: more)
    let more : List Attribute := [{ localName := "class", value := "c" }]
    let tree : Markup := .ofForest .document [.node (item "ab" more) [.node (item "a" []) []]]
    let delete : Modification :=
      { path := "a.html", operation := .delete,
        target := { selector := some ".a", attributeName := some "class" } }
    let update : Modification := { delete with operation := .update, value := some (.text "b") }
    ((edit tree update).result = .ok 2 ∧
      (edit tree update).tree.get? 1 = some (item "b" more) ∧
      (edit tree update).tree.get? 2 = some (item "b" [])) ∧
    (edit tree delete).result = .ok 2 ∧
      (edit tree delete).tree.get? 1 = some (.element { localName := "p" } []) := by
  intro item more tree delete update
  have hs : delete.target.Selects (.class ['a']) := ⟨".a", rfl, rfl⟩
  have hdocument := isDocument_ofForest [.node (item "ab" more) [.node (item "a" []) []]]
  have hcount : (tree.view tree.root).values.countP (Node.isMatch (.class ['a'])) = 2 ∧
      ((tree.view tree.root).values.countP fun n =>
        n.isMatch (.class ['a']) && n.attributes.any (·.isNamed "class")) = 2 := by
    decide +kernel
  obtain ⟨hupdate, hupdated, -⟩ :=
    (changesAttributes_of_edit (m := update) hdocument hs rfl).1 "b" rfl rfl
  obtain ⟨hdelete, hdeleted, -⟩ := (changesAttributes_of_edit (m := delete) hdocument hs rfl).2 rfl
  have hmem : 1 ∈ elementsMatching tree (.class ['a']) ∧ 2 ∈ elementsMatching tree (.class ['a']) := by
    decide +kernel
  have hget : tree.get? 1 = some (item "ab" more) ∧ tree.get? 2 = some (item "a" []) := by
    decide +kernel
  obtain ⟨_, _, hfirst, hfirst'⟩ := hupdate.changed 1 hmem.1
  obtain ⟨_, _, hsecond, hsecond'⟩ := hupdate.changed 2 hmem.2
  obtain ⟨_, _, hthird, hthird'⟩ := hdelete.changed 1 hmem.1
  cases hget.1.symm.trans hfirst
  cases hget.2.symm.trans hsecond
  cases hget.1.symm.trans hthird
  exact ⟨⟨hupdated.trans (congrArg Except.ok hcount.1), hfirst', hsecond'⟩,
    hdeleted.trans (congrArg Except.ok hcount.2), hthird'⟩

end SourceEdit.Markup
