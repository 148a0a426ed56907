import SourceEdit.Proofs.Markup.Insertion

/-!
# Updates that are written and read again

What has been written of flow content is read as the tree that it was written from, with its texts
`joined`: an empty text leaves no trace in what is written, and texts side by side are written as one
(`view_ofText_of_isFlow`).  Where flow content has neither, it is joined already
(`joinedAll_of_isFlowForest`).

*Attributes.* An attribute that an element does not have yet is created under the name that is given,
while names are read in small letters.  So the start tag that is written after an update is read back
as it is in the tree if the name has no capitals, or if the element had the attribute before
(`readBack_of_update`).  Otherwise no element of the text that is read again has these attributes, since
the new one comes back under another name (`readBack_of_update_capital`).

*Texts.* What an update without an attribute puts into elements is text, whatever its characters.  So
two updates that differ in their values only give the same elements when what they have written is read
again: `bare` is what is left of a tree without its texts, and `bare_of_setText` says that it does not
depend on the value, for trees that are flow content then.  Elements whose content is written as it is
are not flow content.  A value with an end tag ends such an element, and what comes after it is read as
markup (`elements_of_setText_style`).
-/

namespace SourceEdit.Markup

variable {tree : Markup} {s : SimpleSelector} {name value value' : String} {m m' : Modification}

/-! ### Joined texts -/

/-- Puts a text before a forest. It is joined to a text that the forest starts with, and left out if it
is empty. -/
def joinText (s : String) : List (Tree Node) → List (Tree Node)
  | .node (.text s') _ :: ts => .leaf (.text (s ++ s')) :: ts
  | ts => if s.toList.isEmpty then ts else .leaf (.text s) :: ts

/-- Puts a tree before a forest. -/
def joinTo (t : Tree Node) (ts : List (Tree Node)) : List (Tree Node) :=
  match t.value with
  | .text s => joinText s ts
  | _ => t :: ts

mutual

/-- A tree whose texts are as a reader gives them: none is empty, and none stands beside another. -/
def joined : Tree Node → Tree Node
  | .node v cs => .node v (joinedAll cs)

/-- A forest whose texts are as a reader gives them. -/
def joinedAll : List (Tree Node) → List (Tree Node)
  | [] => []
  | t :: ts => joinTo (joined t) (joinedAll ts)

end

theorem writeForest_joinText (around : Surrounding) (s : String) (ts : List (Tree Node)) :
    writeForest around (joinText s ts) =
      writeTree around (.leaf (.text s)) ++ writeForest around ts := by
  have hother : writeForest around (if s.toList.isEmpty then ts else .leaf (.text s) :: ts) =
      writeTree around (.leaf (.text s)) ++ writeForest around ts := by
    cases hs : s.toList with
    | nil => simp [Tree.leaf, writeTree_text, hs]
    | cons c cs => rfl
  cases ts with
  | nil => exact hother
  | cons t ts =>
    obtain ⟨v, cs⟩ := t
    cases v with
    | text s' =>
      show writeTree around (.node (.text (s ++ s')) []) ++ writeForest around ts =
        writeTree around (.node (.text s) []) ++
          (writeTree around (.node (.text s') cs) ++ writeForest around ts)
      cases hraw : around.isRaw <;> simp [writeTree_text, hraw]
    | _ => exact hother

theorem writeForest_joinTo (around : Surrounding) (t : Tree Node) (ts : List (Tree Node)) :
    writeForest around (joinTo t ts) = writeTree around t ++ writeForest around ts := by
  obtain ⟨v, cs⟩ := t
  cases v with
  | text s => exact writeForest_joinText around s ts
  | _ => rfl

mutual

/-- A tree is written like the tree with joined texts. -/
theorem writeTree_joined (around : Surrounding) :
    (t : Tree Node) → writeTree around (joined t) = writeTree around t
  | .node (.document) cs => writeForest_joinedAll around cs
  | .node (.doctype _) _ | .node (.text _) _ | .node (.comment _) _ => rfl
  | .node (.element name attributes) cs => by
    rw [joined, writeTree_element, writeTree_element, writeForest_joinedAll _ cs]

theorem writeForest_joinedAll (around : Surrounding) :
    (ts : List (Tree Node)) → writeForest around (joinedAll ts) = writeForest around ts
  | [] => rfl
  | t :: ts => by
    rw [joinedAll, writeForest_joinTo, writeTree_joined around t, writeForest_joinedAll around ts,
      writeForest]

end

mutual

/-- The texts of flow content are joined already. -/
theorem joined_of_isFlowTree {around : List ElementName} :
    {t : Tree Node} → isFlowTree around t = true → joined t = t
  | .node (.text s) cs, h | .node (.comment s) cs, h => by
    obtain ⟨-, hcs⟩ := Bool.and_eq_true_iff.mp h
    rw [List.isEmpty_iff.mp hcs, joined, joinedAll]
  | .node (.element name attributes) cs, h => by
    obtain ⟨-, hkind⟩ := Bool.and_eq_true_iff.mp h
    cases hname : flowKind? name.localName with
    | none => simp [hname] at hkind
    | some kind =>
      simp only [hname, Bool.and_eq_true] at hkind
      obtain ⟨-, hcs⟩ := hkind
      rw [joined]
      split at hcs
      · rw [List.isEmpty_iff.mp hcs, joinedAll]
      · rw [joinedAll_of_isFlowForest hcs]
  | .node .document cs, h => by cases h
  | .node (.doctype s) cs, h => by cases h

theorem joinedAll_of_isFlowForest {around : List ElementName} :
    {ts : List (Tree Node)} → isFlowForest around ts = true → joinedAll ts = ts
  | [], _ => rfl
  | t :: ts, h => by
    simp only [isFlowForest, Bool.and_eq_true, Bool.not_eq_true'] at h
    obtain ⟨⟨ht, halone⟩, hts⟩ := h
    rw [joinedAll, joined_of_isFlowTree ht, joinedAll_of_isFlowForest hts]
    obtain ⟨v, cs⟩ := t
    cases v with
    | text s =>
      obtain ⟨hs, hcs⟩ := Bool.and_eq_true_iff.mp ht
      obtain rfl := List.isEmpty_iff.mp hcs
      have hnext : ts.head?.any isTextTree = false := halone
      show joinText s ts = _
      unfold joinText
      split
      · cases hnext
      · rw [if_neg (by simpa using hs)]
        rfl
    | _ => rfl

end

/-- A document of flow content that does not look like a whole document comes back, with its texts
joined, when it is written and read again. -/
theorem view_ofText_of_isFlow {options : MarkupOptions} (h : tree.IsDocument)
    (hflow : isFlow (joinedAll (tree.view tree.root).children) = true)
    (hfragment : (options.preserveDocument && isDocument tree.write.toList) = false) :
    (ofText options tree.write).view (ofText options tree.write).root =
      joined (tree.view tree.root) := by
  have hroot := h.view_eq tree.root
  rw [h.get?_root, Option.getD_some] at hroot
  have hwrite : tree.write =
      String.ofList (writeForest {} (joinedAll (tree.view tree.root).children)) := by
    rw [writeForest_joinedAll, Markup.write, hroot]
    rfl
  rw [ofText, hfragment, if_neg Bool.false_ne_true, Arena.view_ofForest, hwrite,
    fragmentOf_write hflow, hroot]
  rfl

/-! ### Attributes -/

/-- The start tag that is written for an element of ordinary markup after an update has the attributes
that are in the tree, in their order. They are read back the same if the name that has been given has
no capitals or the element had an attribute of that name before, and no value holds a zero. If it is
neither of the two, no element of ordinary markup in the text that is read again has them. A tree of flow
content comes back as a whole, with all its attributes. -/
theorem readBack_of_update {options : MarkupOptions} {source : String} {m : Modification}
    (hs : m.target.Selects s) (hname : m.target.attributeName = some name)
    (hm : m.operation = .update) (hvalue : m.valueText? = some value) (hne : name.toList ≠ [])
    (hletters : ∀ c ∈ name.toList, isAsciiLetter c = true) :
    let tree := ofText options source
    let edited := (edit tree m).tree
    let reread := ofText options edited.write
    (∀ id ∈ elementsMatching tree s, ∀ e attributes,
      tree.get? id = some (.element e attributes) → e.space = .html →
      ∃ new, edited.get? id = some (.element e new) ∧
        (∀ allowsCdata rest, Lexer.next allowsCdata .markup (startTag e new ++ rest) =
          ([.tag { name := e.localName, attributes := new.map Attribute.readBack }], rest)) ∧
        (Builder.plainAttributes (new.map Attribute.readBack) = new ↔
          (isSmall name.toList = true ∨ attributes.any (·.isNamed name) = true) ∧
            ∀ a ∈ new, '\x00' ∉ a.value.toList) ∧
        (∀ other ∈ reread.descendants reread.root, ∀ e',
          reread.get? other = some (.element e' new) → e'.space = .html →
          isSmall name.toList = true ∨ attributes.any (·.isNamed name) = true)) ∧
      (isFlow (joinedAll (edited.view edited.root).children) = true →
        (options.preserveDocument && isDocument edited.write.toList) = false →
        reread.view reread.root = joined (edited.view edited.root)) := by
  intro tree edited reread
  refine ⟨?_, view_ofText_of_isFlow ((isDocument_ofText options source).edit m)⟩
  intro id hid e attributes hn hspace
  have hsound : IsSound (Node.element e attributes) := isSound_of_ofText (List.mem_of_mem_filter hid) hn
  obtain ⟨⟨hisTagName, hsmall⟩, l, hl, rfl⟩ := hsound hspace
  have hisName := isAttributeName_of_letters hne hletters
  have hdistinct := (areDistinct_plainAttributes hl).setAttribute hisName value
  have hsmalls := @forall_isSmall_setAttribute_iff name _ (isSmall_plainAttributes hl) value
  refine ⟨setAttribute name value (Builder.plainAttributes l), ?_, fun allowsCdata rest => ?_, ?_, ?_⟩
  · show (edit tree m).tree.get? id = _
    rw [edit_eq_setAttributes hs hname hm hvalue, get?_setAttributes hid hn]
  · rw [Lexer.next_startTag hisTagName hsmall hdistinct.isWritable, hdistinct.withoutRepeats_eq]
  · rw [hdistinct.plainAttributes_eq_iff, ← hsmalls]
    exact forall₂_and
  · -- Whatever tag the other element has been read from, its names are in small letters.
    intro other hother e' hn' hspace'
    obtain ⟨-, l', hl', hnew⟩ := (isSound_of_ofText hother hn' : IsSound (Node.element e' _)) hspace'
    exact hsmalls.mp (hnew ▸ isSmall_plainAttributes hl')

/-- A new attribute in small letters is read back. -/
theorem readBack_of_update_small :
    let tree := ofText {} "<p id=\"a\"></p>"
    let m : Modification :=
      { path := "a.html", operation := .update, value := some (.text "1"),
        target := { selector := some "p", attributeName := some "foo" } }
    let new : List Attribute :=
      [{ localName := "id", value := "a" }, { localName := "foo", value := "1" }]
    (edit tree m).tree.get? 1 = some (.element { localName := "p" } new) ∧
      Builder.plainAttributes (new.map Attribute.readBack) = new := by
  intro tree m new
  have hnew : (edit tree m).tree.get? 1 = some (.element { localName := "p" } new) := by
    decide +kernel
  obtain ⟨hread, -⟩ := @readBack_of_update (.tag ['p']) "foo" "1" {} "<p id=\"a\"></p>" m
    ⟨"p", rfl, rfl⟩ rfl rfl rfl (by decide) (List.all_eq_true.mp rfl)
  obtain ⟨read, hread, -, hiff, -⟩ := hread 1 (by decide +kernel) { localName := "p" }
    [{ localName := "id", value := "a" }] (by decide +kernel) rfl
  obtain rfl : new = read := by
    rw [hnew] at hread
    exact (Node.element.inj (Option.some.inj hread)).2
  exact ⟨hnew, hiff.mpr ⟨.inl (by decide), by decide⟩⟩

/-- A new attribute with a capital is read again under another name. -/
theorem readBack_of_update_capital :
    let tree := ofText {} "<p></p>"
    let m : Modification :=
      { path := "a.html", operation := .update, value := some (.text "1"),
        target := { selector := some "p", attributeName := some "Foo" } }
    let edited := (edit tree m).tree
    (tree.write = "<p></p>" ∧ elementsMatching tree (.tag ['p']) = [1]) ∧
      edited.get? 1 = some (.element { localName := "p" } [{ localName := "Foo", value := "1" }]) ∧
      (ofText {} edited.write).get? 1 =
        some (.element { localName := "p" } [{ localName := "foo", value := "1" }]) := by
  decide +kernel

/-! ### Texts -/

mutual

/-- A tree without its texts; a text leaves nothing. -/
def bare : Tree Node → List (Tree Node)
  | .node v cs => if v.text?.isSome then [] else [.node v (bareAll cs)]

/-- A forest without its texts. -/
def bareAll : List (Tree Node) → List (Tree Node)
  | [] => []
  | t :: ts => bare t ++ bareAll ts

end

theorem bareAll_eq (ts : List (Tree Node)) : bareAll ts = ts.flatMap bare := by
  induction ts with
  | nil => rfl
  | cons t ts ih => rw [bareAll, ih, List.flatMap_cons]

theorem bare_node (v : Node) (cs : List (Tree Node)) :
    bare (.node v cs) = if v.text?.isSome then [] else [.node v (cs.flatMap bare)] := by
  rw [bare, bareAll_eq]

/-- A text in the place of the content of nodes leaves no trace of what it says. -/
theorem flatMap_bare_placing (p : Node → Bool) (value value' : String) (t : Tree Node) :
    (t.placing .within p [.leaf (.text value)]).flatMap bare =
      (t.placing .within p [.leaf (.text value')]).flatMap bare := by
  induction t using Tree.induction with
  | node v cs ih =>
    have hcs : (cs.flatMap (Tree.placing .within p [.leaf (.text value)])).flatMap bare =
        (cs.flatMap (Tree.placing .within p [.leaf (.text value')])).flatMap bare := by
      rw [List.flatMap_assoc, List.flatMap_assoc]
      exact List.flatMap_congr ih
    by_cases hv : p v = true
    · simp [Tree.placing_node, hv, Placement.around, Placement.among, bare_node, Tree.leaf, Node.text?]
    · simp [Tree.placing_node, hv, bare_node, hcs]

/-- Joining texts leaves what is not a text as it is. -/
theorem bareAll_joinTo (t : Tree Node) (ts : List (Tree Node)) :
    bareAll (joinTo t ts) = bare t ++ bareAll ts := by
  have hother (s : String) :
      bareAll (if s.toList.isEmpty then ts else .leaf (.text s) :: ts) = bareAll ts := by
    cases s.toList <;> rfl
  obtain ⟨v, cs⟩ := t
  cases v with
  | text s =>
    cases ts with
    | nil => exact hother s
    | cons u us =>
      obtain ⟨v, ds⟩ := u
      cases v with
      | text _ => rfl
      | _ => exact hother s
  | _ => rfl

mutual

theorem bare_joined (t : Tree Node) : bare (joined t) = bare t := by
  obtain ⟨v, cs⟩ := t
  rw [joined, bare, bare, bareAll_joinedAll]

theorem bareAll_joinedAll (ts : List (Tree Node)) : bareAll (joinedAll ts) = bareAll ts := by
  match ts with
  | [] => rfl
  | t :: ts => rw [joinedAll, bareAll_joinTo, bare_joined, bareAll_joinedAll ts, bareAll]

end

/-- Two updates without an attribute, of the same elements and with different values, give the same
elements with the same attributes in the same nesting when their texts are read again, if the trees are
flow content of a body. -/
theorem bare_of_setText {options : MarkupOptions} (h : tree.IsDocument)
    (hs : m.target.Selects s) (hs' : m'.target.Selects s)
    (hm : m.operation = .update) (hm' : m'.operation = .update)
    (hname : m.target.attributeName = none) (hname' : m'.target.attributeName = none)
    (hvalue : m.valueText? = some value) (hvalue' : m'.valueText? = some value')
    (hflow : ∀ e ∈ [(edit tree m).tree, (edit tree m').tree],
      isFlow (joinedAll (e.view e.root).children) = true ∧
        (options.preserveDocument && isDocument e.write.toList) = false) :
    let reread (m : Modification) := ofText options (edit tree m).tree.write
    bare ((reread m).view (reread m).root) = bare ((reread m').view (reread m').root) := by
  intro reread
  have hplaces := (places_of_delete_or_setText h hs hname).2 value hm hvalue
  have hplaces' := (places_of_delete_or_setText h hs' hname').2 value' hm' hvalue'
  obtain ⟨hflow, hflow'⟩ := List.forall_mem_cons.mp hflow
  obtain ⟨hflow', -⟩ := List.forall_mem_cons.mp hflow'
  have hbare := flatMap_bare_placing (Node.isMatch s) value value' (tree.view tree.root)
  rw [hplaces.view_eq, hplaces'.view_eq, List.flatMap_singleton, List.flatMap_singleton] at hbare
  rw [view_ofText_of_isFlow hplaces.isDocument hflow.1 hflow.2,
    view_ofText_of_isFlow hplaces'.isDocument hflow'.1 hflow'.2, bare_joined, bare_joined, hbare]

/-- A value with tags, and one without, as the text of a paragraph. -/
theorem bare_of_setText_paragraph :
    let tree := ofText {} "<p class=c><b>x</b></p>"
    let update (value : String) : Modification :=
      { path := "a.html", operation := .update, target := { selector := some "p" },
        value := some (.text value) }
    let reread (value : String) : Markup := ofText {} (edit tree (update value)).tree.write
    bare ((reread "</p><b>y</b>").view (reread "</p><b>y</b>").root) =
      bare ((reread "y").view (reread "y").root) := by
  intro tree update reread
  have hs : (update "y").target.Selects (.tag ['p']) := ⟨"p", rfl, rfl⟩
  exact @bare_of_setText tree (.tag ['p']) "</p><b>y</b>" "y" (update "</p><b>y</b>") (update "y") {}
    (isDocument_ofText ..) hs hs rfl rfl rfl rfl rfl rfl (by decide +kernel)

/-- The value of an update ends the element that it has been put into, and its tags are read as tags.
-/
theorem elements_of_setText_style :
    let tree := ofText {} "<style></style>"
    let update (value : String) : Modification :=
      { path := "a.html", operation := .update, target := { selector := some "style" },
        value := some (.text value) }
    let reread (value : String) : Markup := ofText {} (edit tree (update value)).tree.write
    let elements (value : String) : List String :=
      (((reread value).view (reread value).root).values.filterMap Node.name?).map (·.localName)
    (edit tree (update "</style><b>x</b>")).tree.write = "<style></style><b>x</b></style>" ∧
      elements "</style><b>x</b>" = ["style", "b"] ∧ elements "x" = ["style"] := by
  decide +kernel

end SourceEdit.Markup
