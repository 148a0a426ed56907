import SourceEdit.EditError
import SourceEdit.Script.Parser.Program

/-!
# Locating constructs of scripts

An identifier addresses the functions that statements declare, the variables and the elements of
that name, wherever they stand: scopes do not matter.  The declarations of imports are addressed by
the identifier `import`.  What is addressed is found in the order of the text.
-/

namespace SourceEdit.Script

/-- The kinds of constructs that an identifier can address. -/
inductive LocatedKind where
  | function
  | declarator
  | importDeclaration
  | element
deriving DecidableEq, Repr, Inhabited

/-- The identifier that addresses import declarations. -/
def importIdentifier : Name := "import".toList

namespace Node

/-- The kind and the identifier of a construct that can be addressed. -/
def address? (n : Node) : Option (LocatedKind × Name) :=
  match n.shape, n.children with
  | .function head, name :: _ =>
    if head.role == .declaration then (Node.name? name).map (.function, ·) else none
  | .declarator _, bound :: _ => (Node.name? bound).map (.declarator, ·)
  | .importDeclaration .., _ => some (.importDeclaration, importIdentifier)
  | .element name _, _ => some (.element, name)
  | _, _ => none

/-- Whether an identifier addresses a construct as one of a kind. -/
def isAddressed (identifier : Name) (kind : LocatedKind) (n : Node) : Bool :=
  n.address? == some (kind, identifier)

mutual

/-- The nodes of a tree, each before its parts. -/
def preorder : Node → List Node
  | .node head parts => .node head parts :: preorderOf parts

/-- The nodes of a forest, each before its parts. -/
def preorderOf : List Node → List Node
  | [] => []
  | n :: ns => preorder n ++ preorderOf ns

end

/-- The constructs that an identifier addresses, in the order of the text. -/
def located (identifier : Name) (n : Node) : List (LocatedKind × Node) :=
  n.preorder.filterMap fun part =>
    match Node.address? part with
    | some (kind, name) => if name == identifier then some (kind, part) else none
    | none => none

/-- Whether an identifier addresses a construct of a kind. -/
def holdsLocated (identifier : Name) (kind : LocatedKind) (n : Node) : Bool :=
  (n.located identifier).any (·.1 == kind)

end Node

namespace Program

/-- The constructs of a script that a target addresses. -/
def locate (p : Program) (target : Target) : Except EditError (List (LocatedKind × Node)) :=
  match target.identifier with
  | none => .error .missingIdentifier
  | some identifier => .ok (p.root.located identifier.toList)

end Program

end SourceEdit.Script
