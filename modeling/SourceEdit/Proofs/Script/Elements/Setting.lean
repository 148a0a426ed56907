import SourceEdit.Proofs.Script.Attributes
import SourceEdit.Proofs.Script.Elements.Spelling

/-!
# Attributes that are set in markup

Markup stays markup when an attribute is set in it, if a text can spell the attribute.
-/

namespace SourceEdit.Script.Markup

open Node (setAttributes setAttributesOfParts)

variable {identifier name : Name} {raw : List Char} {ns : List Node} {cs : List Char}

/-- The tree with an attribute set to a text on the elements of an identifier. -/
def withText (identifier name : Name) (raw : List Char) (n : Node) : Node :=
  (setAttributes identifier name (.ofShape (.attributeText raw) 0 0) n).1

/-- The attributes of an element of the identifier, with one of them set to a text. -/
def attributesWithText (identifier name : Name) (raw : List Char) (ns : List Node) : List Node :=
  (setAttributesOfParts identifier name (.ofShape (.attributeText raw) 0 0) true ns).1

theorem withText_of_not_element {head : Head} (h : head.shape.isElement = false)
    (parts : List Node) : withText identifier name raw (.node head parts) =
      .node head (parts.map (withText identifier name raw)) := by
  rw [withText, Node.setAttributes_of_not_element h]
  rfl

theorem withText_element (tag : Name) (isClosed : Bool) (a b : Nat) {absent group children : Head}
    (habsent : absent.shape = .absent) (hchildren : children.shape = .children)
    (attributes items : List Node) :
    withText identifier name raw (.node ⟨.element tag isClosed, a, b⟩
        [.node absent [], .node group attributes, .node children items]) =
      .node ⟨.element tag isClosed, a, b⟩
        [.node absent [], .node group (if tag == identifier then
            attributesWithText identifier name raw attributes
          else attributes.map (withText identifier name raw)),
          .node children (items.map (withText identifier name raw))] := by
  have hnone : withText identifier name raw (.node absent []) = .node absent [] :=
    withText_of_not_element (by rw [habsent]; rfl) []
  have hitems : withText identifier name raw (.node children items) =
      .node children (items.map (withText identifier name raw)) :=
    withText_of_not_element (by rw [hchildren]; rfl) items
  rw [withText, Node.setAttributes_element, ← withText, ← withText, hnone, hitems]
  cases tag == identifier with
  | true => rfl
  | false =>
    rw [Node.setAttributesOfParts_false]
    rfl

theorem attributesWithText_cons (n : Node) (rest : List Node) :
    attributesWithText identifier name raw (n :: rest) =
      if n.isAttribute name then
        .node n.value [Node.ofShape (.attributeText raw) 0 0] ::
          rest.map (withText identifier name raw)
      else withText identifier name raw n :: attributesWithText identifier name raw rest := by
  cases h : n.isAttribute name with
  | true =>
    rw [attributesWithText, Node.setAttributesOfParts_of_isAttribute h,
      Node.setAttributesOfParts_false]
    rfl
  | false =>
    rw [attributesWithText, Node.setAttributesOfParts_of_not_isAttribute h]
    rfl

/-- What is still spelled when a text is set. -/
def StaysSpelled (identifier name : Name) (raw : List Char) : Kind → List Node → Prop
  | .attributes, ns => (∃ cs, Spells .attributes (ns.map (withText identifier name raw)) cs) ∧
      ∃ cs, Spells .attributes (attributesWithText identifier name raw ns) cs
  | kind, ns => ∃ cs, Spells kind (ns.map (withText identifier name raw)) cs

section Stays

variable (hname : isAttributeName name = true) (hraw : IsQuotable raw)

include hname hraw

/-- An attribute that can be spelled before others still can, or it is the one that is set. -/
theorem StaysSpelled.cons {other : Name} {a b : Nat} {parts : List Node}
    (h : StaysSpelled identifier name raw .attributes ns)
    (hstep : ∀ rest cs, Spells .attributes rest cs → ∃ cs', Spells .attributes
      (withText identifier name raw (.node ⟨.attribute other, a, b⟩ parts) :: rest) cs') :
    StaysSpelled identifier name raw .attributes (.node ⟨.attribute other, a, b⟩ parts :: ns) := by
  obtain ⟨⟨cs, hkept⟩, cs', hset⟩ := h
  refine ⟨hstep _ _ hkept, ?_⟩
  rw [attributesWithText_cons]
  split
  · next hisAttribute =>
    obtain rfl : other = name := by simpa [Node.isAttribute, Node.shape, Tree.value] using hisAttribute
    have hspells : Spells .attributes (.node ⟨.attribute other, a, b⟩
        [Node.ofShape (.attributeText raw) 0 0] :: ns.map (withText identifier other raw)) _ :=
      .quoted hname hraw hkept
    exact ⟨_, hspells⟩
  · exact hstep _ _ hset

theorem Spells.stays {kind : Kind} (h : Spells kind ns cs) :
    StaysSpelled identifier name raw kind ns := by
  induction h with
  | @element tag a b absent group children attributes items _ _ htag habsent hgroup hchildren _ _
      ihattributes ihitems =>
    obtain ⟨⟨as, hkept⟩, as', hset⟩ := ihattributes
    obtain ⟨ds, hitems⟩ := ihitems
    rw [StaysSpelled, List.map_singleton, withText_element tag false a b habsent hchildren]
    split
    · exact ⟨_, .element htag habsent hgroup hchildren hset hitems⟩
    · exact ⟨_, .element htag habsent hgroup hchildren hkept hitems⟩
    · nofun
  | @closed tag a b absent group children attributes _ htag habsent hgroup hchildren _ ih =>
    obtain ⟨⟨as, hkept⟩, as', hset⟩ := ih
    rw [StaysSpelled, List.map_singleton, withText_element tag true a b habsent hchildren]
    split
    · exact ⟨_, .closed htag habsent hgroup hchildren hset⟩
    · exact ⟨_, .closed htag habsent hgroup hchildren hkept⟩
    · nofun
  | @fragment a b children items _ hchildren _ ih =>
    obtain ⟨ds, hitems⟩ := ih
    rw [StaysSpelled, List.map_singleton, withText_of_not_element rfl, List.map_singleton,
      withText_of_not_element (by rw [hchildren]; rfl)]
    · exact ⟨_, .fragment hchildren hitems⟩
    · nofun
  | noContent => exact ⟨[], .noContent⟩
  | @text text a b rest _ hne hchars halone _ ih =>
    obtain ⟨cs, hrest⟩ := ih
    rw [StaysSpelled, List.map_cons, withText_of_not_element rfl]
    · -- what follows a text keeps its shape, so it is no text either
      refine ⟨_, .text hne hchars (fun other n hn => ?_) hrest⟩
      rw [List.head?_map] at hn
      obtain ⟨old, hold, rfl⟩ := Option.map_eq_some_iff.mp hn
      rw [withText, Node.shape_setAttributes]
      exact halone other old hold
    · nofun
  | child _ _ ihn ihrest =>
    obtain ⟨cs, hn⟩ := ihn
    obtain ⟨ds, hrest⟩ := ihrest
    exact ⟨_, .child hn hrest⟩
  | noAttributes => exact ⟨⟨[], .noAttributes⟩, _, .quoted hname hraw .noAttributes⟩
  | @flag other a b absent _ _ hother habsent _ ih =>
    refine ih.cons hname hraw fun rest cs hrest => ?_
    rw [withText_of_not_element rfl, List.map_singleton,
      withText_of_not_element (by rw [habsent]; rfl)]
    exact ⟨_, .flag hother habsent hrest⟩
  | quoted hother hold _ ih =>
    refine ih.cons hname hraw fun rest cs hrest => ?_
    rw [withText_of_not_element rfl, List.map_singleton, withText_of_not_element rfl]
    exact ⟨_, .quoted hother hold hrest⟩
  | holding hother _ _ ihn ih =>
    refine ih.cons hname hraw fun rest cs hrest => ?_
    obtain ⟨ds, hn⟩ := ihn
    rw [withText_of_not_element rfl]
    exact ⟨_, .holding hother hn hrest⟩

theorem SpellsStatements.stays (h : SpellsStatements ns cs) :
    ∃ ds, SpellsStatements (ns.map (withText identifier name raw)) ds := by
  induction h with
  | nil => exact ⟨[], .nil⟩
  | cons he _ ih =>
    obtain ⟨cs, he⟩ := he.stays hname hraw
    obtain ⟨ds, hrest⟩ := ih
    rw [List.map_cons, withText_of_not_element rfl]
    exact ⟨_, .cons he hrest⟩

end Stays

end SourceEdit.Script.Markup
