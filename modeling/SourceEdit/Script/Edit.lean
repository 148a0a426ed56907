import SourceEdit.EditError
import SourceEdit.Script.Rewriter

/-!
# Editing scripts

An identifier is looked for in the whole script, and an edit then works on the nodes that were found,
by their keys.

* An update gives the variables of a name a value, or sets an attribute of the elements of a name.
* An insertion adds an import declaration after the last one.
* A deletion removes the functions, variables and elements of a name.
* A replacement puts a statement in the place of the functions of a name.
-/

namespace SourceEdit.Script

/-- The keys of what an identifier addresses in a tree were given to nodes of the tree. -/
theorem KeyedNode.lt_of_mem_located {identifier : Name} {n : Node} {located : LocatedKind × Nat}
    (h : located ∈ (n.keyed 0).1.located identifier) : located.2 < (n.keyed 0).2 := by
  obtain ⟨part, hpart, h⟩ := List.mem_filterMap.mp h
  split at h
  · split at h
    · obtain rfl := Option.some.inj h
      exact (Node.key_of_mem_keyed hpart).2
    · cases h
  · cases h

/-- An edit of what an identifier addresses in a tree. -/
def Rewriter.start (action : Action) (identifier : Name) (n : Node) : Rewriter where
  action
  found := (n.keyed 0).1.located identifier
  limit := (n.keyed 0).2
  found_lt _ := KeyedNode.lt_of_mem_located

namespace Node

/-! ### Insertion -/

/-- Whether a node is or holds an import declaration. -/
def holdsImport (n : Node) : Bool := n.holdsLocated importIdentifier .importDeclaration

/-- Whether a node is an import declaration. -/
def isImport (n : Node) : Bool := n.isAddressed importIdentifier .importDeclaration

/-- Adds a statement after the last one that holds an import declaration, if it is one itself. -/
def insertAfterImports? (new : Node) (statements : List Node) : Option (List Node) :=
  let after := statements.reverse.takeWhile fun n => !Node.holdsImport n
  match statements.reverse.dropWhile fun n => !Node.holdsImport n with
  | last :: before =>
    if Node.isImport last then some (before.reverse ++ last :: new :: after.reverse) else none
  | [] => none

end Node

namespace Program

/-- The statements of a script. -/
def body (p : Program) : List Node :=
  match p.root.children with
  | [_, statements] => statements.children
  | _ => []

/-- The script with other statements. -/
def withBody (p : Program) (statements : List Node) : Program :=
  match p.root with
  | .node head [directives, .node list _] =>
    { p with root := .node head [directives, .node list statements] }
  | _ => p

/-- The statement at the head of a value. -/
def statementOfValue (p : Program) (value : String) : Except EditError Node :=
  match parse? p.dialect value.toList with
  | none => .error (.scriptSyntax { dialect := p.dialect, text := value })
  | some q =>
    match q.body with
    | [] => .error (.noStatement value)
    | n :: _ => .ok n

/-- The expression at the head of a value. -/
def expressionOfValue (p : Program) (value : String) : Except EditError Node :=
  match expression? p.dialect value.toList with
  | none => .error (.scriptSyntax { dialect := p.dialect, isExpression := true, text := value })
  | some n => .ok n

/-- Adds an import declaration after the last one. -/
def insertImport (p : Program) (value : String) : Edited Program :=
  .needing p (p.statementOfValue value) fun new =>
    if !new.isImport then .failed p (.notAnImport value)
    else match Node.insertAfterImports? new p.body with
      | some statements => .done (p.withBody statements) 1
      | none => .done p 0

/-- Does something to what an identifier addresses, and counts the edits made. -/
def rewrite (p : Program) (identifier : Name) (action : Action) : Edited Program :=
  let r := Rewriter.start action identifier p.root
  let (root, _, count) := r.walk ⟨r.limit, Nat.le_refl _⟩ (p.root.keyed 0).1
  .done { p with root := root.erase } count

/-- Sets an attribute of the elements of a name, or else gives its variables a value. -/
def update (p : Program) (identifier : Name) (m : Modification) : Edited Program :=
  let setsAttribute := p.root.holdsLocated identifier .element
  match m.target.attributeName, setsAttribute with
  | some name, true =>
    .needing p m.requiredValue fun value =>
      p.rewrite identifier (.setAttribute name.toList value.toList)
  | _, _ =>
    if p.root.holdsLocated identifier .declarator then
      .needing p m.requiredValue fun value =>
        .needing p (p.expressionOfValue value) fun value => p.rewrite identifier (.setValue value)
    else p.rewrite identifier .keep

/-- Carries out one modification on what an identifier addresses. -/
def editNamed (p : Program) (m : Modification) (identifier : Name) : Edited Program :=
  match m.operation with
  | .insert =>
    if p.root.holdsLocated identifier .importDeclaration then
      .needing p m.requiredValue p.insertImport
    else .done p 0
  | .delete => p.rewrite identifier .delete
  | .replace =>
    if p.root.holdsLocated identifier .function then
      .needing p m.requiredValue fun value =>
        .needing p (p.statementOfValue value) fun new => p.rewrite identifier (.replace new)
    else p.rewrite identifier .keep
  | .update => p.update identifier m

/-- Carries out one modification. -/
def edit (p : Program) (m : Modification) : Edited Program :=
  match m.target.identifier with
  | none => .failed p .missingIdentifier
  | some identifier => p.editNamed m identifier.toList

end Program

end SourceEdit.Script
