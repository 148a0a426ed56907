import SourceEdit.Proofs.Script.Parser.Tokens
import SourceEdit.Proofs.Script.WellFormed
import SourceEdit.Script.Locate

/-!
# How elements are spelled

Markup is made of elements, fragments and texts, whose attributes have no value, a text, or an
element; there are no expressions in it.  `Spells` says which text spells what: an element without
its opening angle bracket, what stands between tags, and what follows the name of an element.  The
text of an attribute stands between the quotes that it does not hold.
-/

namespace SourceEdit.Script

namespace Node

mutual

/-- The shapes of a tree, without the places that it was read from. -/
def shapes : Node → Tree Shape
  | .node head parts => .node head.shape (shapesOf parts)

/-- The shapes of a forest. -/
def shapesOf : List Node → List (Tree Shape)
  | [] => []
  | n :: rest => shapes n :: shapesOf rest

end

theorem shapesOf_eq_map (parts : List Node) : shapesOf parts = parts.map shapes := by
  induction parts with
  | nil => rfl
  | cons n rest ih => rw [shapesOf, ih, List.map_cons]

@[simp]
theorem shapes_node (head : Head) (parts : List Node) :
    shapes (.node head parts) = .node head.shape (parts.map shapes) := by
  rw [shapes, shapesOf_eq_map]

theorem value_shapes (n : Node) : n.shapes.value = n.shape := by
  obtain ⟨head, parts⟩ := n
  rfl

theorem children_shapes (n : Node) : n.shapes.children = n.children.map shapes := by
  obtain ⟨head, parts⟩ := n
  exact shapesOf_eq_map parts

section Shapes

variable {n m : Node}

theorem shape_eq_of_shapes (h : n.shapes = m.shapes) : n.shape = m.shape := by
  rw [← n.value_shapes, h, m.value_shapes]

theorem map_shapes_preorderOf {parts others : List Node} (h : parts.map shapes = others.map shapes)
    (ih : ∀ n ∈ parts, ∀ m : Node, n.shapes = m.shapes →
      n.preorder.map shapes = m.preorder.map shapes) :
    (preorderOf parts).map shapes = (preorderOf others).map shapes := by
  induction parts generalizing others with
  | nil => rw [List.map_eq_nil_iff.mp h.symm]
  | cons n rest ihrest =>
    obtain ⟨m, others, rfl, hm, hothers⟩ := List.map_eq_cons_iff.mp h.symm
    obtain ⟨ihn, ih⟩ := List.forall_mem_cons.mp ih
    rw [preorderOf, preorderOf, List.map_append, List.map_append, ihn m hm.symm,
      ihrest hothers.symm ih]

/-- Trees of the same shapes have the same shapes all over. -/
theorem map_shapes_preorder (h : n.shapes = m.shapes) :
    n.preorder.map shapes = m.preorder.map shapes := by
  induction n using induction generalizing m with
  | node head parts ih =>
    obtain ⟨head', others⟩ := m
    have hparts : parts.map shapes = others.map shapes := by
      rw [shapes_node, shapes_node] at h
      exact (Tree.node.inj h).2
    rw [preorder, preorder, List.map_cons, List.map_cons, h,
      map_shapes_preorderOf hparts fun n hn m hm => ih n hn hm]

/-- A node of one of the trees is as one of the other. -/
theorem exists_mem_preorder (h : n.shapes = m.shapes) {part : Node} (hpart : part ∈ n.preorder) :
    ∃ other ∈ m.preorder, part.shapes = other.shapes := by
  have hmem : part.shapes ∈ m.preorder.map shapes :=
    map_shapes_preorder h ▸ List.mem_map_of_mem hpart
  obtain ⟨other, hother, heq⟩ := List.mem_map.mp hmem
  exact ⟨other, hother, heq.symm⟩

mutual

theorem anyShape_eq_any (p : Shape → Bool) : (n : Node) →
    n.anyShape p = n.preorder.any fun part => p part.shape
  | .node head parts => by
    rw [anyShape, preorder, List.any_cons, anyShapeOf_eq_any p parts]
    rfl

theorem anyShapeOf_eq_any (p : Shape → Bool) : (parts : List Node) →
    anyShapeOf p parts = (preorderOf parts).any fun part => p part.shape
  | [] => rfl
  | n :: rest => by
    rw [anyShapeOf, preorderOf, List.any_append, anyShape_eq_any p n, anyShapeOf_eq_any p rest]

end

theorem anyShape_eq_of_shapes (p : Shape → Bool) (h : n.shapes = m.shapes) :
    n.anyShape p = m.anyShape p := by
  have hany (k : Node) : k.anyShape p = (k.preorder.map shapes).any fun t => p t.value := by
    rw [anyShape_eq_any, List.any_map]
    exact congrArg k.preorder.any (funext fun part => congrArg p part.value_shapes.symm)
  rw [hany, hany, map_shapes_preorder h]

end Shapes

end Node

namespace Markup

open Lexer (isDashedName firstWord)

/-- A name that stands after an opening angle bracket and can be nothing but that of an element. -/
def isTag (name : Name) : Bool :=
  isDashedName name && !name.contains '-' && Word.ofName? name != some .const_

/-- A name that stands after that of an element and can be nothing but that of an attribute. -/
def isAttributeName (name : Name) : Bool :=
  isDashedName name && Word.ofName? (firstWord name) != some .extends_

/-- Characters of the text between tags. -/
def isTextChar (c : Char) : Bool := !(['<', '>', '\x7b', '\x7d'].contains c)

/-- A text between the quotes that are chosen for it. -/
def quoted (raw : List Char) : List Char :=
  let quote := if raw.contains '"' then '\'' else '"'
  quote :: raw ++ [quote]

/-- What a text can spell. -/
inductive Kind where
  /-- An element, after its opening angle bracket. -/
  | element
  /-- What stands between tags. -/
  | content
  /-- What follows the name of an element. -/
  | attributes
deriving DecidableEq

/-- A text spells nodes of markup. -/
inductive Spells : Kind → List Node → List Char → Prop
  | element {tag : Name} {a b : Nat} {absent group children : Head} {attributes items : List Node}
      {cs ds : List Char} : isTag tag = true → absent.shape = .absent → group.shape = .group →
      children.shape = .children → Spells .attributes attributes cs → Spells .content items ds →
      Spells .element [.node ⟨.element tag false, a, b⟩
          [.node absent [], .node group attributes, .node children items]]
        (tag ++ cs ++ '>' :: ds ++ '<' :: '/' :: tag ++ ['>'])
  | closed {tag : Name} {a b : Nat} {absent group children : Head} {attributes : List Node}
      {cs : List Char} : isTag tag = true → absent.shape = .absent → group.shape = .group →
      children.shape = .children → Spells .attributes attributes cs →
      Spells .element [.node ⟨.element tag true, a, b⟩
          [.node absent [], .node group attributes, .node children []]]
        (tag ++ cs ++ [' ', '/', '>'])
  | fragment {a b : Nat} {children : Head} {items : List Node} {ds : List Char} :
      children.shape = .children → Spells .content items ds →
      Spells .element [.node ⟨.fragment, a, b⟩ [.node children items]]
        ('>' :: ds ++ ['<', '/', '>'])
  | noContent : Spells .content [] []
  /-- Two texts never follow each other. -/
  | text {raw : List Char} {a b : Nat} {rest : List Node} {cs : List Char} : raw ≠ [] →
      raw.all isTextChar = true → (∀ other n, rest.head? = some n → n.shape ≠ .elementText other) →
      Spells .content rest cs →
      Spells .content (.node ⟨.elementText raw, a, b⟩ [] :: rest) (raw ++ cs)
  | child {n : Node} {rest : List Node} {cs ds : List Char} : Spells .element [n] cs →
      Spells .content rest ds → Spells .content (n :: rest) ('<' :: cs ++ ds)
  | noAttributes : Spells .attributes [] []
  | flag {name : Name} {a b : Nat} {absent : Head} {rest : List Node} {cs : List Char} :
      isAttributeName name = true → absent.shape = .absent → Spells .attributes rest cs →
      Spells .attributes (.node ⟨.attribute name, a, b⟩ [.node absent []] :: rest)
        (' ' :: name ++ cs)
  | quoted {name : Name} {a b a' b' : Nat} {raw : List Char} {rest : List Node} {cs : List Char} :
      isAttributeName name = true → IsQuotable raw → Spells .attributes rest cs →
      Spells .attributes
        (.node ⟨.attribute name, a, b⟩ [.node ⟨.attributeText raw, a', b'⟩ []] :: rest)
        (' ' :: name ++ '=' :: quoted raw ++ cs)
  | holding {name : Name} {a b : Nat} {n : Node} {rest : List Node} {cs ds : List Char} :
      isAttributeName name = true → Spells .element [n] cs → Spells .attributes rest ds →
      Spells .attributes (.node ⟨.attribute name, a, b⟩ [n] :: rest)
        (' ' :: name ++ '=' :: '<' :: cs ++ ds)

/-- A text spells statements, each of which is an element. -/
inductive SpellsStatements : List Node → List Char → Prop
  | nil : SpellsStatements [] []
  | cons {e : Node} {a b : Nat} {rest : List Node} {cs ds : List Char} : Spells .element [e] cs →
      SpellsStatements rest ds →
      SpellsStatements (.node ⟨.expressionStatement, a, b⟩ [e] :: rest)
        ('<' :: cs ++ ';' :: '\n' :: ds)

/-- Markup holds no part that only a pattern may hold. -/
theorem Spells.anyShape {kind : Kind} {ns : List Node} {cs : List Char} (h : Spells kind ns cs) :
    Node.anyShapeOf (· == .propertyWithDefault) ns = false := by
  induction h
  all_goals simp_all [Node.anyShapeOf, Node.anyShape]

theorem SpellsStatements.anyShape {ns : List Node} {cs : List Char} (h : SpellsStatements ns cs) :
    Node.anyShapeOf (· == .propertyWithDefault) ns = false := by
  induction h with
  | nil => rfl
  | cons he _ ih =>
    have he := he.anyShape
    simp_all [Node.anyShapeOf, Node.anyShape]

end Markup

end SourceEdit.Script
