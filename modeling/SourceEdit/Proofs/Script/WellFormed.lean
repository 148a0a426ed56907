import SourceEdit.Script.Node

/-!
# Well-formed syntax trees

`Node.Everywhere` asks of every node of a tree that its parts suit its shape.  `Shape.Admits` says
what the parts of a node have to be like for the node to stand for a construct, and a tree is
`Node.WellFormed` if this holds everywhere.  A declaration of variables has to declare one, and
variables stand nowhere else; variables and elements have their three parts, and a script its two.
Nothing more is asked, since a part that is missing has a node of its own.  Edits may leave a
declaration without variables; `Node.Placed` is what is left of well-formedness then.
-/

namespace SourceEdit.Script

namespace Shape

/-- Whether a shape is that of a declaration of variables. -/
def isVariableList : Shape → Bool
  | .variableList .. => true
  | _ => false

/-- Whether a shape is that of one variable of a declaration. -/
def isDeclarator : Shape → Bool
  | .declarator _ => true
  | _ => false

/-- Whether a shape is that of an element. -/
def isElement : Shape → Bool
  | .element .. => true
  | _ => false

/-- Variables stand in declarations of variables and nowhere else. -/
def Places (shape : Shape) (parts : List Node) : Prop :=
  ∀ n ∈ parts, n.shape.isDeclarator = true → shape.isVariableList = true

/-- Whether a shape is that of a whole script. -/
def isProgram : Shape → Bool
  | .program _ => true
  | _ => false

/-- An element has type arguments, a group of attributes, and children; a script has directives and a
list of statements; a variable has a pattern, a type and a value. -/
structure Furnishes (shape : Shape) (parts : List Node) : Prop where
  element : shape.isElement = true → ∃ arguments attributes children : Node,
    parts = [arguments, attributes, children] ∧ attributes.shape = .group
  program : shape.isProgram = true → ∃ directives statements : Node,
    parts = [directives, statements] ∧ statements.shape = .statements
  declarator : shape.isDeclarator = true → ∃ bound type value : Node, parts = [bound, type, value]

theorem furnishes_iff {shape : Shape} {parts : List Node} : shape.Furnishes parts ↔
    (shape.isElement = true → ∃ arguments attributes children : Node,
      parts = [arguments, attributes, children] ∧ attributes.shape = .group) ∧
    (shape.isProgram = true → ∃ directives statements : Node,
      parts = [directives, statements] ∧ statements.shape = .statements) ∧
    (shape.isDeclarator = true → ∃ bound type value : Node, parts = [bound, type, value]) :=
  ⟨fun h => ⟨h.element, h.program, h.declarator⟩, fun h => ⟨h.1, h.2.1, h.2.2⟩⟩

/-- Whether a node of a shape may have these parts. -/
def Admits (shape : Shape) (parts : List Node) : Prop :=
  shape.Places parts ∧ (shape.isVariableList = true → parts ≠ []) ∧ shape.Furnishes parts

end Shape

namespace Node

/-- The parts of every node of a tree suit its shape. -/
inductive Everywhere (suits : Shape → List Node → Prop) : Node → Prop
  | node {head : Head} {parts : List Node} : suits head.shape parts →
      (∀ n ∈ parts, Everywhere suits n) → Everywhere suits (.node head parts)

/-- Every node of a tree has parts that its shape admits. -/
def WellFormed : Node → Prop := Everywhere Shape.Admits

/-- Variables stand in declarations of variables, in all of a tree. -/
def Placed : Node → Prop := Everywhere Shape.Places

/-- What holds of a node whenever it holds of its parts holds of every node. -/
@[elab_as_elim]
theorem induction {motive : Node → Prop}
    (node : ∀ head parts, (∀ n ∈ parts, motive n) → motive (.node head parts)) :
    ∀ n, motive n :=
  Tree.induction node

theorem everywhere_node {suits : Shape → List Node → Prop} {head : Head} {parts : List Node} :
    Everywhere suits (.node head parts) ↔
      suits head.shape parts ∧ ∀ n ∈ parts, Everywhere suits n :=
  ⟨fun | .node hs hp => ⟨hs, hp⟩, fun h => .node h.1 h.2⟩

theorem Everywhere.of_no_parts {suits : Shape → List Node → Prop} {head : Head}
    (h : suits head.shape []) : Everywhere suits (.node head []) :=
  .node h (List.forall_mem_nil _)

section Decidable

variable (suits : Shape → List Node → Prop) [∀ shape parts, Decidable (suits shape parts)]

mutual

/-- Whether the parts of every node of a tree suit its shape. -/
def decidableEverywhere : (n : Node) → Decidable (Everywhere suits n)
  | .node _ parts =>
    have := decidableEverywhereOf parts
    decidable_of_iff' _ everywhere_node

/-- Whether the parts of every node of a forest suit its shape. -/
def decidableEverywhereOf : (ns : List Node) → Decidable (∀ n ∈ ns, Everywhere suits n)
  | [] => .isTrue nofun
  | n :: ns =>
    have := decidableEverywhere n
    have := decidableEverywhereOf ns
    decidable_of_iff' _ List.forall_mem_cons

end

instance (n : Node) : Decidable (Everywhere suits n) := decidableEverywhere suits n

end Decidable

theorem Everywhere.mono {suits weaker : Shape → List Node → Prop} {n : Node}
    (h : n.Everywhere suits) (hle : ∀ shape parts, suits shape parts → weaker shape parts) :
    n.Everywhere weaker := by
  induction h with
  | node hsuits _ ih => exact .node (hle _ _ hsuits) ih

theorem wellFormed_node {head : Head} {parts : List Node} :
    Node.WellFormed (.node head parts) ↔
      head.shape.Admits parts ∧ ∀ n ∈ parts, Node.WellFormed n :=
  everywhere_node

theorem placed_node {head : Head} {parts : List Node} :
    Node.Placed (.node head parts) ↔ head.shape.Places parts ∧ ∀ n ∈ parts, Node.Placed n :=
  everywhere_node

theorem WellFormed.placed {n : Node} (h : n.WellFormed) : n.Placed :=
  h.mono fun _ _ hadmits => hadmits.1

theorem WellFormed.furnished {n : Node} (h : n.WellFormed) : n.Everywhere Shape.Furnishes :=
  h.mono fun _ _ hadmits => hadmits.2.2

end Node

end SourceEdit.Script
