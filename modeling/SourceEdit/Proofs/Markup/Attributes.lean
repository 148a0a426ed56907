import SourceEdit.Proofs.Markup.Reading
import SourceEdit.Proofs.Markup.Update

/-!
# Attributes by the name that they are written with

An edit of an attribute goes by its name without the prefix, the case of letters ignored, so it reaches
what is written under a name only if no other attribute has that name.  The attributes of an element
of ordinary markup that has been read have no prefix, and their names are in small letters and differ:
there an edit always reaches the attribute that is written under its name, and no other
(`attributes_of_edit`).  For graphics and formulas this is a condition: an attribute with a prefix is
not found by the name that it is written with, and goes along with one that has the same name without
it (`written_of_edit_prefixed`).
-/

namespace SourceEdit.Markup

variable {tree : Markup} {s : SimpleSelector} {name value : String}

/-! ### Lists of attributes -/

/-- Of the attributes of an element, this one has a name, and no other one has it. -/
structure IsAddressed (name : String) (before : List Attribute) (a : Attribute)
    (after : List Attribute) : Prop where
  isNamed : a.isNamed name = true
  other : ∀ b ∈ before ++ after, b.isNamed name = false

section Lists

variable {before after : List Attribute} {a : Attribute}

theorem setAttribute_append (hbefore : ∀ b ∈ before, b.isNamed name = false)
    (ha : a.isNamed name = true) (value : String) :
    setAttribute name value (before ++ a :: after) = before ++ { a with value } :: after := by
  induction before with
  | nil => simp [setAttribute, ha]
  | cons b before ih =>
    obtain ⟨hb, hbefore⟩ := List.forall_mem_cons.mp hbefore
    simp [setAttribute, hb, ih hbefore]

theorem setAttribute_of_none {attributes : List Attribute}
    (h : ∀ a ∈ attributes, a.isNamed name = false) (value : String) :
    setAttribute name value attributes = attributes ++ [{ localName := name, value }] := by
  induction attributes with
  | nil => rfl
  | cons b attributes ih =>
    obtain ⟨hb, hattributes⟩ := List.forall_mem_cons.mp h
    simp [setAttribute, hb, ih hattributes]

/-- An attribute is set where it is for the first time, or at the end. -/
theorem setAttribute_cases (name value : String) (attributes : List Attribute) :
    (∃ before a after, attributes = before ++ a :: after ∧
      (∀ b ∈ before, b.isNamed name = false) ∧ a.isNamed name = true ∧
      setAttribute name value attributes = before ++ { a with value } :: after) ∨
    ((∀ a ∈ attributes, a.isNamed name = false) ∧
      setAttribute name value attributes = attributes ++ [{ localName := name, value }]) := by
  cases hfind : attributes.find? (·.isNamed name) with
  | some a =>
    obtain ⟨ha, before, after, rfl, hbefore⟩ := List.find?_eq_some_iff_append.mp hfind
    have hbefore : ∀ b ∈ before, b.isNamed name = false := fun b hb => by simpa using hbefore b hb
    exact .inl ⟨before, a, after, rfl, hbefore, ha, setAttribute_append hbefore ha value⟩
  | none =>
    have hnone : ∀ a ∈ attributes, a.isNamed name = false := by simpa using hfind
    exact .inr ⟨hnone, setAttribute_of_none hnone value⟩

theorem IsAddressed.setAttribute_eq (h : IsAddressed name before a after) (value : String) :
    setAttribute name value (before ++ a :: after) = before ++ { a with value } :: after :=
  setAttribute_append (fun b hb => h.other b (List.mem_append_left after hb)) h.isNamed value

theorem IsAddressed.filter_eq (h : IsAddressed name before a after) :
    (before ++ a :: after).filter (!·.isNamed name) = before ++ after := by
  have hkept : (before ++ after).filter (!·.isNamed name) = before ++ after :=
    List.filter_eq_self.mpr fun b hb => by rw [h.other b hb]; rfl
  rw [List.filter_append, List.filter_cons_of_neg (by simp [h.isNamed]), ← List.filter_append, hkept]

theorem isNamed_iff {localName : String} (h : isSmall localName.toList = true)
    (hname : isSmall name.toList = true) (value : String) :
    Attribute.isNamed name { localName, value } = true ↔ localName = name := by
  rw [Attribute.isNamed, eqIgnoringCase_iff, beq_iff_eq.mp h, beq_iff_eq.mp hname,
    String.toList_inj]

/-- The attributes of a tag are told apart by the names that they are written with. -/
theorem isAddressed_of_areAttributes {l : List (String × String)} (hl : AreAttributes l)
    (h : before ++ a :: after = Builder.plainAttributes l) (ha : a.writtenName = name.toList) :
    IsAddressed name before a after ∧ ∀ b ∈ before ++ after, b.writtenName ≠ name.toList := by
  obtain ⟨lbefore, rest, rfl, rfl, hrest⟩ := List.map_eq_append_iff.mp h.symm
  obtain ⟨⟨k, v⟩, lafter, rfl, rfl, rfl⟩ := List.map_eq_cons_iff.mp hrest
  obtain rfl : k = name := String.toList_inj.mp ha
  have hsmall : isSmall k.toList = true := (hl.isName (k, v) (by simp)).2
  have hother : ∀ p ∈ lbefore ++ lafter, p.1 ≠ k ∧ isSmall p.1.toList = true := by
    intro p hp
    have hnodup := hl.nodup
    rw [List.map_append, List.map_cons, List.nodup_middle, List.nodup_cons, ← List.map_append]
      at hnodup
    refine ⟨fun heq => hnodup.1 (List.mem_map.mpr ⟨p, hp, heq⟩), (hl.isName p ?_).2⟩
    simp only [List.mem_append, List.mem_cons] at hp ⊢
    exact hp.imp_right .inr
  refine ⟨⟨(isNamed_iff hsmall hsmall v).mpr rfl, fun b hb => ?_⟩, fun b hb => ?_⟩ <;>
    rw [← List.map_append] at hb <;> obtain ⟨p, hp, rfl⟩ := List.mem_map.mp hb
  · exact Bool.eq_false_iff.mpr fun h =>
      (hother p hp).1 ((isNamed_iff (hother p hp).2 hsmall p.2).mp h)
  · exact fun h => (hother p hp).1 (String.toList_inj.mp h)

end Lists

/-! ### Edits -/

/-- An update of an attribute that is carried out sets it for the elements that match. -/
theorem edit_eq_setAttributes {m : Modification} (hs : m.target.Selects s)
    (hname : m.target.attributeName = some name) (hm : m.operation = .update)
    (hvalue : m.valueText? = some value) :
    edit tree m = setAttributes tree (elementsMatching tree s) name value := by
  simp only [edit_eq hs, editElements, hm, hname, requiredValue_eq hvalue, Edited.needing]

theorem edit_eq_removeAttributes {m : Modification} (hs : m.target.Selects s)
    (hname : m.target.attributeName = some name) (hm : m.operation = .delete) :
    edit tree m = removeAttributes tree (elementsMatching tree s) name := by
  simp only [edit_eq hs, editElements, hm, hname]

theorem get?_setAttributes {id : NodeId} {e : ElementName} {attributes : List Attribute}
    {elements : List NodeId} (hid : id ∈ elements)
    (hn : tree.get? id = some (.element e attributes)) (name value : String) :
    (setAttributes tree elements name value).tree.get? id =
      some (.element e (setAttribute name value attributes)) := by
  have hidem := mapAttributes_setAttribute_idem name value
  rw [setAttributes, Edited.done, Arena.get?_foldl_modifyValue hidem, if_pos hid, hn]
  rfl

theorem get?_removeAttributes {id : NodeId} {e : ElementName} {attributes : List Attribute}
    {elements : List NodeId} (hid : id ∈ elements)
    (hn : tree.get? id = some (.element e attributes)) (name : String) :
    (removeAttributes tree elements name).tree.get? id =
      some (.element e (attributes.filter (!·.isNamed name))) := by
  have hidem (n : Node) : Node.mapAttributes (·.filter (!·.isNamed name))
      (n.mapAttributes (·.filter (!·.isNamed name))) = n.mapAttributes (·.filter (!·.isNamed name)) := by
    cases n <;> simp [Node.mapAttributes]
  rw [removeAttributes, Edited.done, Arena.get?_foldl_modifyValue hidem, if_pos hid, hn]
  rfl

/-- An edit of an attribute that is addressed by its name changes it in its place, or takes it away. -/
theorem edit_of_isAddressed {m : Modification} (hs : m.target.Selects s)
    (hname : m.target.attributeName = some name) {id : NodeId} (hid : id ∈ elementsMatching tree s)
    {e : ElementName} {before after : List Attribute} {a : Attribute}
    (hn : tree.get? id = some (.element e (before ++ a :: after)))
    (h : IsAddressed name before a after) :
    (∀ value, m.operation = .update → m.valueText? = some value →
      (∃ count, (edit tree m).result = .ok count ∧ 0 < count) ∧
      (edit tree m).tree.get? id = some (.element e (before ++ { a with value } :: after))) ∧
    (m.operation = .delete →
      (∃ count, (edit tree m).result = .ok count ∧ 0 < count) ∧
      (edit tree m).tree.get? id = some (.element e (before ++ after))) := by
  refine ⟨fun value hm hvalue => ?_, fun hm => ?_⟩
  · rw [edit_eq_setAttributes hs hname hm hvalue, get?_setAttributes hid hn, h.setAttribute_eq]
    exact ⟨⟨_, rfl, List.length_pos_of_mem hid⟩, rfl⟩
  · rw [edit_eq_removeAttributes hs hname hm, get?_removeAttributes hid hn, h.filter_eq]
    refine ⟨⟨_, rfl, List.length_pos_of_mem (List.mem_filter.mpr ⟨hid, ?_⟩)⟩, rfl⟩
    simp [hasAttribute, hn, Node.attributes, h.isNamed]

/-- An attribute of an element that has been read is addressed by the name that it is written with, if
the element is ordinary markup or no other attribute has the name. An update changes its value in its
place and adds none, and a deletion takes away this attribute and no other. In ordinary markup, no
other attribute is written with the name. -/
theorem attributes_of_edit {options : MarkupOptions} {source : String} {m : Modification}
    (hs : m.target.Selects s) (hname : m.target.attributeName = some name) :
    let tree := ofText options source
    ∀ id ∈ elementsMatching tree s, ∀ e before a after,
      tree.get? id = some (.element e (before ++ a :: after)) → a.writtenName = name.toList →
      (e.space ≠ .html → IsAddressed name before a after) →
      (e.space = .html → ∀ b ∈ before ++ after, b.writtenName ≠ name.toList) ∧
      (∀ value, m.operation = .update → m.valueText? = some value →
        (∃ count, (edit tree m).result = .ok count ∧ 0 < count) ∧
        (edit tree m).tree.get? id = some (.element e (before ++ { a with value } :: after))) ∧
      (m.operation = .delete →
        (∃ count, (edit tree m).result = .ok count ∧ 0 < count) ∧
        (edit tree m).tree.get? id = some (.element e (before ++ after))) := by
  intro tree id hid e before a after hn ha hforeign
  have hhtml : e.space = .html →
      IsAddressed name before a after ∧ ∀ b ∈ before ++ after, b.writtenName ≠ name.toList := by
    have hsound : IsSound (Node.element e (before ++ a :: after)) :=
      isSound_of_ofText (List.mem_of_mem_filter hid) hn
    intro hspace
    obtain ⟨-, l, hl, hattributes⟩ := hsound hspace
    exact isAddressed_of_areAttributes hl hattributes ha
  have haddressed : IsAddressed name before a after := by
    by_cases hspace : e.space = .html
    · exact (hhtml hspace).1
    · exact hforeign hspace
  exact ⟨fun hspace => (hhtml hspace).2, edit_of_isAddressed hs hname hid hn haddressed⟩

/-- The title of a paragraph is updated, and an attribute of a formula is deleted beside one that has a
prefix. -/
theorem attributes_of_edit_plain :
    let page := ofText {} "<p id=\"a\" title=\"b\"></p>"
    let update : Modification :=
      { path := "a.html", operation := .update, value := some (.text "c"),
        target := { selector := some "p", attributeName := some "title" } }
    let formula := ofText {} "<math id=\"a\" xml:lang=\"en\"></math>"
    let delete : Modification :=
      { path := "a.html", operation := .delete,
        target := { selector := some "math", attributeName := some "id" } }
    (edit page update).tree.get? 1 = some (.element { localName := "p" }
        [{ localName := "id", value := "a" }, { localName := "title", value := "c" }]) ∧
      (edit formula delete).tree.get? 1 = some (.element { space := .math, localName := "math" }
        [{ space := .xml, localName := "lang", value := "en" }]) := by
  intro page update formula delete
  have hupdate := @attributes_of_edit (.tag ['p']) "title" {} "<p id=\"a\" title=\"b\"></p>" update
    ⟨"p", rfl, rfl⟩ rfl 1 (by decide +kernel) { localName := "p" }
    [{ localName := "id", value := "a" }] { localName := "title", value := "b" } []
    (by decide +kernel) (by decide) (fun h => absurd rfl h)
  have hdelete := @attributes_of_edit (.tag ['m', 'a', 't', 'h']) "id" {}
    "<math id=\"a\" xml:lang=\"en\"></math>" delete ⟨"math", rfl, rfl⟩ rfl 1 (by decide +kernel)
    { space := .math, localName := "math" } [] { localName := "id", value := "a" }
    [{ space := .xml, localName := "lang", value := "en" }] (by decide +kernel) (by decide)
    (fun _ => ⟨by decide, by decide⟩)
  exact ⟨(hupdate.2.1 "c" rfl rfl).2, (hdelete.2.2 rfl).2⟩

/-- An attribute with a prefix is not found by the name that it is written with, so an update adds
another one that is written so; and it is deleted along with one that has no prefix. -/
theorem written_of_edit_prefixed :
    let link := ofText {} "<svg xlink:href=\"#a\"></svg>"
    let update : Modification :=
      { path := "a.html", operation := .update, value := some (.text "#b"),
        target := { selector := some "svg", attributeName := some "xlink:href" } }
    let links := ofText {} "<svg xlink:href=\"#a\" href=\"#c\"></svg>"
    let delete : Modification :=
      { path := "a.html", operation := .delete,
        target := { selector := some "svg", attributeName := some "href" } }
    (link.write = "<svg xlink:href=\"#a\"></svg>" ∧
        (edit link update).tree.write = "<svg xlink:href=\"#a\" xlink:href=\"#b\"></svg>") ∧
      links.write = "<svg xlink:href=\"#a\" href=\"#c\"></svg>" ∧
        (edit links delete).tree.write = "<svg></svg>" := by
  decide +kernel

end SourceEdit.Markup
