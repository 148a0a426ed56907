import SourceEdit.Tree

/-!
# Markup trees

A markup document is an arena of nodes.  Elements and attributes carry the namespace that they
belong to: ordinary markup, vector graphics or formulas for elements, and for attributes those with
a well-known prefix.

A text that is read is handed over as `Dom` nodes.  There the element of a template keeps its content
apart from its children.  In a markup document there is no such difference: `Dom.tree` lets the content
of a template take the place of its children.
-/

namespace SourceEdit.Markup

/-- The namespaces of elements. -/
inductive Namespace where
  | html
  | svg
  | math
deriving DecidableEq, Repr, Inhabited

/-- The name of an element. -/
structure ElementName where
  space : Namespace := .html
  localName : String
deriving DecidableEq, Repr, Inhabited

/-- The namespaces of attributes. -/
inductive AttributeSpace where
  | none
  | xlink
  | xml
  | xmlns
deriving DecidableEq, Repr, Inhabited

/-- An attribute of an element. -/
structure Attribute where
  space : AttributeSpace := .none
  localName : String
  value : String
deriving DecidableEq, Repr, Inhabited

/-- What a node of markup is. -/
inductive Node where
  | document
  | doctype (name : String)
  | element (name : ElementName) (attributes : List Attribute)
  | text (s : String)
  | comment (s : String)
deriving DecidableEq, Repr, Inhabited

/-- The name of an element. -/
def Node.name? : Node → Option ElementName
  | .element name _ => some name
  | _ => none

/-- The attributes of an element. -/
def Node.attributes : Node → List Attribute
  | .element _ as => as
  | _ => []

/-- The text of a text node. -/
def Node.text? : Node → Option String
  | .text s => some s
  | _ => none

/-- The name and the attributes of a template's element. -/
def Node.template? : Node → Option (ElementName × List Attribute)
  | .element name attributes =>
    if name = { localName := "template" } then some (name, attributes) else none
  | _ => none

/-! ### Nodes that are handed over -/

/-- A node as it is handed over by the reader of a text, with its children. The element of a template has
a content besides, which is kept apart from its children. -/
inductive Dom where
  | node (value : Node) (children : List Dom)
  | template (name : ElementName) (attributes : List Attribute) (content children : List Dom)
deriving Repr

namespace Dom

mutual

/-- The tree that a node stands for. The content of a template takes the place of its children. -/
def tree : Dom → Tree Node
  | .node value children => .node value (trees children)
  | .template name attributes content _ => .node (.element name attributes) (trees content)

/-- The trees that several nodes stand for. -/
def trees : List Dom → List (Tree Node)
  | [] => []
  | d :: ds => d.tree :: trees ds

end

mutual

/-- Hands a tree over. What has been read into a template is its content. -/
def ofTree : Tree Node → Dom
  | .node value children =>
    match value.template? with
    | some (name, attributes) => .template name attributes (ofTrees children) []
    | none => .node value (ofTrees children)

/-- Hands several trees over. -/
def ofTrees : List (Tree Node) → List Dom
  | [] => []
  | t :: ts => ofTree t :: ofTrees ts

end

mutual

/-- A tree that is handed over stands for itself. -/
theorem tree_ofTree : (t : Tree Node) → (ofTree t).tree = t
  | .node value children => by
    rw [ofTree]
    split
    · next name attributes htemplate =>
      have hvalue : value = .element name attributes := by
        cases value <;> simp_all [Node.template?]
      rw [tree, trees_ofTrees, hvalue]
    · rw [tree, trees_ofTrees]

theorem trees_ofTrees : (ts : List (Tree Node)) → trees (ofTrees ts) = ts
  | [] => rfl
  | t :: ts => by rw [ofTrees, trees, tree_ofTree, trees_ofTrees]

end

end Dom

end SourceEdit.Markup

namespace SourceEdit

/-- The arena of a markup document. -/
abbrev Markup := Arena Markup.Node

end SourceEdit
