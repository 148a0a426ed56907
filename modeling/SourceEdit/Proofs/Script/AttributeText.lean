import SourceEdit.Proofs.Script.Elements.Scripts
import SourceEdit.Proofs.Script.Elements.Setting
import SourceEdit.Proofs.Script.Parser.Statements

/-!
# Texts of attributes, read back

An attribute that an update has set is written between quotes, as it is: there is no way to write a
quote inside.  So its text reads back if it lacks the quotes of one kind, wherever the attribute
stands, and whole scripts of elements do.  A text with quotes of both kinds never reads back, and
what is written then is not even a script in general.
-/

namespace SourceEdit.Script

namespace Node

variable {identifier name : Name} {raw : List Char} {n m e : Node}

/-- The first attribute of its name that an element has is a text. -/
def HasText (name : Name) (raw : List Char) (e : Node) : Prop :=
  ∃ a value : Node, e.attributes.find? (isAttribute name) = some a ∧ a.children = [value] ∧
    value.shape = .attributeText raw

/-- All elements of an identifier, which are so many, have a text as an attribute. -/
structure TextsSet (identifier name : Name) (raw : List Char) (n : Node) (count : Nat) : Prop where
  given : ∀ e ∈ n.preorder, e.isAddressed identifier .element = true → e.HasText name raw
  counted : count = n.preorder.countP (isAddressed identifier .element)

theorem AttributesSet.textsSet {count : Nat}
    (h : AttributesSet identifier name (.ofShape (.attributeText raw) 0 0) n m count) :
    TextsSet identifier name raw m count := by
  refine ⟨fun e he haddressed => ?_, h.counted⟩
  obtain ⟨a, ha, hvalue⟩ := h.given e he haddressed
  exact ⟨a, _, ha, hvalue, rfl⟩

/-! ### Trees of the same shapes -/

theorem map_shapes_attributes (h : n.shapes = m.shapes) :
    n.attributes.map shapes = m.attributes.map shapes := by
  have hattributes (k : Node) : k.attributes.map shapes =
      (k.shapes.children[1]?.map Tree.children).getD [] := by
    rw [attributes, children_shapes, List.getElem?_map]
    cases k.children[1]? with
    | none => rfl
    | some group => exact (children_shapes group).symm
  rw [hattributes, hattributes, h]

theorem HasText.of_shapes (h : m.HasText name raw) (heq : n.shapes = m.shapes) :
    n.HasText name raw := by
  obtain ⟨a, value, ha, hvalue, hraw⟩ := h
  have hfind (k : Node) : (k.attributes.find? (isAttribute name)).map shapes =
      (k.attributes.map shapes).find? fun t => t.value == .attribute name := by
    rw [List.find?_map]
    refine congrArg (Option.map shapes) (congrArg (List.find? · k.attributes) (funext fun part => ?_))
    rw [Function.comp_apply, value_shapes, isAttribute]
  have hfound := hfind n
  rw [map_shapes_attributes heq, ← hfind m, ha, Option.map_some] at hfound
  obtain ⟨b, hb, hshapes⟩ := Option.map_eq_some_iff.mp hfound
  have hchildren := congrArg Tree.children hshapes
  rw [children_shapes, children_shapes, hvalue] at hchildren
  obtain ⟨v, hv, hvshapes⟩ := List.map_eq_singleton_iff.mp hchildren
  exact ⟨b, v, hb, hv, (shape_eq_of_shapes hvshapes).trans hraw⟩

/-- Whether an identifier addresses an element shows in the shapes. -/
theorem isAddressed_element_eq (identifier : Name) (n : Node) : n.isAddressed identifier .element =
    match n.shapes.value with
    | .element tag _ => tag == identifier
    | _ => false := by
  rw [Bool.eq_iff_iff, isAddressed_element_iff, value_shapes]
  split
  · next heq => simp [heq]
  · next hother => simpa using fun isClosed heq => hother identifier isClosed heq

theorem TextsSet.of_shapes {count : Nat} (h : TextsSet identifier name raw m count)
    (heq : n.shapes = m.shapes) : TextsSet identifier name raw n count := by
  refine ⟨fun e he haddressed => ?_, ?_⟩
  · obtain ⟨e', he', hshapes⟩ := exists_mem_preorder heq he
    rw [isAddressed_element_eq, hshapes, ← isAddressed_element_eq] at haddressed
    exact (h.given e' he' haddressed).of_shapes hshapes
  · have hcount (k : Node) : k.preorder.countP (isAddressed identifier .element) =
        (k.preorder.map shapes).countP fun t => match t.value with
          | .element tag _ => tag == identifier
          | _ => false := by
      rw [List.countP_map]
      exact congrArg (List.countP · k.preorder) (funext (isAddressed_element_eq identifier))
    rw [hcount, map_shapes_preorder heq, ← hcount]
    exact h.counted

/-! ### What can be read -/

theorem Everywhere.of_mem_preorder {suits : Shape → List Node → Prop} (h : n.Everywhere suits)
    (hm : m ∈ n.preorder) : m.Everywhere suits := by
  induction h with
  | @node head parts hs hp ih =>
    obtain rfl | ⟨part, hpart, hm⟩ := mem_preorder_node.mp hm
    · exact .node hs hp
    · exact ih part hpart hm

/-- A text of an attribute that is read lacks the quotes of one kind. -/
theorem HasText.isQuotable (h : e.HasText name raw) (he : e.Everywhere Shape.Quotes) :
    IsQuotable raw := by
  obtain ⟨a, value, ha, hvalue, hraw⟩ := h
  obtain ⟨i, hi⟩ := List.mem_iff_getElem?.mp (List.mem_of_find?_eq_some ha)
  have hpart : a.children[0]? = some value := by rw [hvalue, List.getElem?_cons_zero]
  have hquotes := everywhere_children (everywhere_attributes he hi) hpart
  obtain ⟨head, parts⟩ := value
  exact (everywhere_node.mp hquotes).1 raw hraw

/-! ### Attributes on their own -/

/-- What is written of an attribute is read as that attribute, whatever is around it. -/
def ReadsBack (a : Node) : Prop :=
  ∃ cs, (∀ depth above mode style (o : Output),
      (Printer.emitTask (depth + 2) (.node a above mode) style o).2.text = cs.reverse ++ o.text) ∧
    ∀ parse c rest, Parser.ReadsTo (Parser.attribute? parse) c ⟨.plain, ' ' :: cs ++ rest⟩
      ⟨.plain, rest⟩ fun o => ∃ b, o = some b ∧ b.shapes = a.shapes

theorem readsBack_attribute (hname : Lexer.isDashedName name = true) (hraw : IsQuotable raw)
    (start stop : Nat) :
    ReadsBack (.node ⟨.attribute name, start, stop⟩ [ofShape (.attributeText raw) 0 0]) := by
  refine ⟨name ++ '=' :: Markup.quoted raw, fun depth above mode style o => ?_,
    fun parse c rest => ?_⟩
  · have hwritten : (Printer.emitTask (depth + 2) (.node (.node ⟨.attribute name, start, stop⟩
        [ofShape (.attributeText raw) 0 0]) above mode) style o).2.text =
          (if raw.contains '"' then '\'' else '"') :: (raw.reverse ++
            (if raw.contains '"' then '\'' else '"') :: '=' :: (name.reverse ++ o.text)) := rfl
    rw [hwritten, Markup.quoted]
    simp
  · have hvalue : Parser.ReadsTo (Parser.attributeValue parse) c
        ⟨.attributeValue, Markup.quoted raw ++ rest⟩ ⟨.plain, rest⟩
        (·.shapes = .node (.attributeText raw) []) := Parser.attributeValue_quoted hraw
    have hattribute := Parser.attribute?_value hname (Markup.gives_eq_quoted raw rest) hvalue
    simpa [ofShape] using hattribute

end Node

namespace Program

variable {p : Program}

/-- A script of elements stays one when the text of an attribute is set in it. -/
theorem IsSpelledBy.setAttributes {cs : List Char} (h : p.IsSpelledBy cs) {name : Name}
    (hname : Markup.isAttributeName name = true) {raw : List Char} (hraw : IsQuotable raw)
    (identifier : Name) :
    ∃ ds, IsSpelledBy { p with root := Markup.withText identifier name raw p.root } ds := by
  obtain ⟨a, b, directives, statements, items, hroot, hdirectives, hstatements, hspells⟩ := h.root
  obtain ⟨ds, hspells⟩ := hspells.stays hname hraw
  refine ⟨ds, h.comments, a, b, directives, statements, _, ?_, hdirectives, hstatements, hspells⟩
  rw [hroot, Markup.withText_of_not_element rfl, List.map_cons, List.map_singleton,
    Markup.withText_of_not_element (by rw [hdirectives]; rfl),
    Markup.withText_of_not_element (by rw [hstatements]; rfl), List.map_nil]

/-- An update with an attribute sets its text on the elements of a name. If the text lacks the quotes
of one kind, it reads back: wherever the attribute stands in what is written, it is read as that
attribute, and a script of elements is read back as a whole. Otherwise the text is in no script that
is read. -/
theorem attributeText_of_update {options : ScriptOptions} (hp : options.editor.Reached p)
    {m : Modification} (hm : m.operation = .update) {identifier name value : String}
    (hid : m.target.identifier = some identifier) (hname : m.target.attributeName = some name)
    (hvalue : m.valueText? = some value)
    (helement : p.root.holdsLocated identifier.toList .element = true) (quote : Char) :
    ∃ root count, p.edit m = .done { p with root } count ∧
      Node.AttributesSet identifier.toList name.toList
        (.ofShape (.attributeText value.toList) 0 0) p.root root count ∧
      -- wherever the attribute stands
      (Lexer.isDashedName name.toList = true → IsQuotable value.toList →
        ∀ e ∈ root.preorder, e.isAddressed identifier.toList .element = true →
          ∃ a, e.attributes.find? (Node.isAttribute name.toList) = some a ∧
            a.children = [Node.ofShape (.attributeText value.toList) 0 0] ∧ a.ReadsBack) ∧
      -- a script of elements
      (∀ cs, p.IsSpelledBy cs → Markup.isAttributeName name.toList = true →
        IsQuotable value.toList → ∀ dialect : Dialect, dialect.elements = true →
          ∃ q, parse? dialect (text quote { p with root }) = some q ∧
            q.root.shapes = root.shapes ∧
            Node.TextsSet identifier.toList name.toList value.toList q.root count) ∧
      -- quotes of both kinds
      (¬IsQuotable value.toList → ∀ dialect q,
        parse? dialect (text quote { p with root }) = some q →
          ∀ e ∈ q.root.preorder, ¬e.HasText name.toList value.toList) := by
  have hedit : p.edit m = p.withRoot (Node.setAttributes identifier.toList name.toList
      (.ofShape (.attributeText value.toList) 0 0) p.root) := by
    simp only [edit, hid, editNamed, hm, update_attribute (settled_of_reached hp) hname helement,
      requiredValue_eq hvalue, Edited.needing]
  have hlacks : (Node.ofShape (.attributeText value.toList) 0 0).holdsLocated identifier.toList
      .element = false := rfl
  have hset := Node.attributesSet_setAttributes hlacks (settled_of_reached hp).furnished
    name.toList
  refine ⟨_, _, hedit, hset, ?_, ?_, ?_⟩
  · intro hdashed hquotable e he haddressed
    obtain ⟨⟨⟨shape, start, stop⟩, parts⟩, ha, hparts⟩ := hset.given e he haddressed
    have hattribute := List.find?_some ha
    obtain rfl : shape = .attribute name.toList := eq_of_beq hattribute
    obtain rfl : parts = [_] := hparts
    exact ⟨_, ha, rfl, Node.readsBack_attribute hdashed hquotable start stop⟩
  · intro cs hspelled hplain hquotable dialect helements
    obtain ⟨ds, hafter⟩ := hspelled.setAttributes hplain hquotable identifier.toList
    obtain ⟨q, hq, hshapes⟩ := hafter.parse? helements
    have htext := congrArg (parse? dialect) (hafter.text quote)
    exact ⟨q, htext.trans hq, hshapes, hset.textsSet.of_shapes hshapes⟩
  · intro hquotes dialect q hq e he htext
    exact hquotes (htext.isQuotable ((isSound_parse? hq).1.quoted.of_mem_preorder he))

/-- A text with quotes of one kind, set on an element inside another one. -/
theorem attributeText_of_update_quoted :
    let update : Modification :=
      { path := "a.jsx", operation := .update,
        target := { identifier := some "C", attributeName := some "b" },
        value := some (.text "say \"hi\"") }
    ∃ p q r, parse? (.ofPath "a.jsx") "<p><C/></p>;".toList = some p ∧ p.edit update = .done q 1 ∧
      parse? (.ofPath "a.jsx") (q.text '"') = some r ∧
      Node.TextsSet "C".toList "b".toList "say \"hi\"".toList r.root 1 := by
  intro update
  let inner : Node := .ofShape (.element ['C'] true) 3 7 [.absent, .group [], .ofShape .children 0 0]
  let outer : Node :=
    .ofShape (.element ['p'] false) 0 11 [.absent, .group [], .ofShape .children 0 0 [inner]]
  let root : Node := .ofShape (.program none) 0 12
    [.group [], .statements [.ofShape .expressionStatement 0 12 [outer]]]
  -- The whole run is evaluated at once, as the program that is read is known by its text only.
  have hreads : ((parse? (.ofPath "a.jsx") "<p><C/></p>;".toList).any fun p =>
      decide (p.comments = []) && (decide (p.root = root) &&
        (p.edit update).result.toOption == some 1)) = true := by
    decide +kernel
  obtain ⟨p, hp, hread⟩ := (Option.any_eq_true _ _).mp hreads
  obtain ⟨hcomments, hread⟩ := Bool.and_eq_true_iff.mp hread
  obtain ⟨hroot, hcount⟩ := Bool.and_eq_true_iff.mp hread
  have hroot : p.root = root := of_decide_eq_true hroot
  have helement : p.root.holdsLocated "C".toList .element = true := by
    rw [hroot]
    decide
  have hspelled : p.IsSpelledBy "<p><C /></p>;\n".toList := by
    have hinner : Markup.Spells .element [inner] _ :=
      .closed (by decide) rfl rfl rfl .noAttributes
    have houter : Markup.Spells .element [outer] _ :=
      .element (by decide) rfl rfl rfl .noAttributes (.child hinner .noContent)
    exact ⟨of_decide_eq_true hcomments, 0, 12, _, _, _, hroot, rfl, rfl, .cons houter .nil⟩
  have hreached : (ScriptOptions.editor {}).Reached p := reached_of_parse? hp
  obtain ⟨new, count, hedit, -, -, hback, -⟩ :=
    attributeText_of_update (m := update) hreached rfl rfl rfl rfl helement '"'
  obtain ⟨r, hr, -, htexts⟩ := hback _ hspelled (by decide) (by decide) (.ofPath "a.jsx")
    (by decide +kernel)
  obtain rfl : count = 1 := by
    rw [hedit] at hcount
    exact Option.some.inj (eq_of_beq hcount)
  exact ⟨p, _, r, hp, hedit, hr, htexts⟩

/-- A text with quotes of both kinds is written between quotes that it holds. -/
theorem attributeText_of_update_quotes :
    let update : Modification :=
      { path := "a.jsx", operation := .update,
        target := { identifier := some "C", attributeName := some "b" },
        value := some (.text "\"'") }
    ∃ p q, parse? (.ofPath "a.jsx") "<C/>;".toList = some p ∧
      p.root.holdsLocated "C".toList .element = true ∧
      Markup.isAttributeName "b".toList = true ∧ p.edit update = .done q 1 ∧
      q.text '"' = "<C b='\"'' />;\n".toList ∧ (parse? (.ofPath "a.jsx") (q.text '"')).isNone := by
  intro update
  have hreads : ((parse? (.ofPath "a.jsx") "<C/>;".toList).any fun p =>
      let q := (p.edit update).tree
      p.root.holdsLocated "C".toList .element && ((p.edit update).result.toOption == some 1 &&
        (decide (q.text '"' = "<C b='\"'' />;\n".toList) &&
          (parse? (.ofPath "a.jsx") (q.text '"')).isNone))) = true := by
    decide +kernel
  obtain ⟨p, hp, hread⟩ := (Option.any_eq_true _ _).mp hreads
  obtain ⟨helement, hread⟩ := Bool.and_eq_true_iff.mp hread
  obtain ⟨hcount, hread⟩ := Bool.and_eq_true_iff.mp hread
  obtain ⟨htext, hnone⟩ := Bool.and_eq_true_iff.mp hread
  have hedit : p.edit update = .done (p.edit update).tree 1 := by
    cases hresult : (p.edit update).result with
    | error err =>
      rw [hresult] at hcount
      cases hcount
    | ok count =>
      rw [hresult] at hcount
      obtain rfl : count = 1 := Option.some.inj (eq_of_beq hcount)
      rw [Edited.done, ← hresult]
  exact ⟨p, _, hp, helement, by decide, hedit, of_decide_eq_true htext, hnone⟩

end Program

end SourceEdit.Script
