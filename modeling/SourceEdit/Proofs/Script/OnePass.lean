import SourceEdit.Script.Edit

/-!
# Edits in one pass

What a `Rewriter` does, said by names instead of keys.  An edit in one pass goes through a tree once,
from the top: a part is put in the place of others, which are not gone into and count as one edit, or
it is gone into.  What is put in is never gone into, so these functions recurse on the tree alone.
That a rewriter does the same is proved in `Proofs.Script.Rewriter`.

* `Node.deleteNamed` takes the functions, variables and elements of a name away.
* `Node.replaceFunctions` puts a statement in the place of the functions of a name.
* `Node.setValues` puts an expression in the place of the values of the variables of a name.
* `Node.setAttributes` sets an attribute of the elements of a name.  `Node.setAttributes_induction` is
  the induction for it: elements and their attributes are a case apart.
-/

namespace SourceEdit.Script.Node

/-! ### Taking away -/

mutual

/-- Exchanges parts of a node and below it and counts the edits made. `f parent n` is what is put in
the place of a part `n`, if it is edited. -/
def exchange (f : Shape → Node → Option (List Node)) : Node → Node × Nat
  | .node head parts =>
    let (parts, count) := exchangeParts f head.shape parts
    (.node head parts, count)

/-- Exchanges parts of a node of a shape. -/
def exchangeParts (f : Shape → Node → Option (List Node)) (parent : Shape) :
    List Node → List Node × Nat
  | [] => ([], 0)
  | n :: rest =>
    let (rest, count) := exchangeParts f parent rest
    match f parent n with
    | some new => (new ++ rest, count + 1)
    | none =>
      let (n, inner) := exchange f n
      (n :: rest, inner + count)

end

/-- The declaration that a statement is or exports. -/
def declared : Node → Node
  | .node ⟨.exportDeclaration, _, _⟩ [inner] => inner
  | .node ⟨.exportDefault, _, _⟩ [inner] => inner
  | n => n

/-- Whether a statement declares or exports the function of a name. -/
def declaresFunction (identifier : Name) (n : Node) : Bool :=
  (declared n).isAddressed identifier .function

/-- What a deletion puts in the place of a part: nothing, or `null` for an element that is an
expression. An element that is the value of an attribute stays. -/
def deletion (identifier : Name) (parent : Shape) (n : Node) : Option (List Node) :=
  match parent with
  | .statements => if n.declaresFunction identifier then some [] else none
  | .variableList .. => if n.isAddressed identifier .declarator then some [] else none
  | .children => if n.isAddressed identifier .element then some [] else none
  | .attribute _ => none
  | _ => if n.isAddressed identifier .element then some [null] else none

mutual

/-- Drops the statements and the starts of loops that declare no variable. -/
def withoutEmptied : Node → Node
  | .node ⟨.forLoop, a, b⟩ (first :: rest) =>
    let first := if isEmptied first then Node.absent else withoutEmptied first
    .node ⟨.forLoop, a, b⟩ (first :: withoutEmptiedParts false rest)
  | .node head parts => .node head (withoutEmptiedParts (head.shape == .statements) parts)

/-- Drops what declares no variable inside parts, and the parts themselves if they are statements.
-/
def withoutEmptiedParts (areStatements : Bool) : List Node → List Node
  | [] => []
  | n :: rest =>
    let rest := withoutEmptiedParts areStatements rest
    if areStatements && isEmptiedStatement n then rest else withoutEmptied n :: rest

end

/-- Deletes the functions, variables and elements of a name. -/
def deleteNamed (identifier : Name) (n : Node) : Node × Nat :=
  let (n, count) := n.exchange (deletion identifier)
  (withoutEmptied n, count)

/-! ### Putting one node in the place of another -/

mutual

/-- Puts nodes in the place of parts of a node and below it, one for one, and counts them. `p n i`
says whether the part of a number of a node is found, `g` what is put in its place. -/
def substitute (p : Node → Nat → Bool) (g : Node → Node) : Node → Node × Nat
  | .node head parts =>
    let (new, count) := substituteParts p g (.node head parts) 0 parts
    (.node head new, count)

/-- Puts nodes in the place of parts of a node, the first of which has a number. -/
def substituteParts (p : Node → Nat → Bool) (g : Node → Node) (parent : Node) (i : Nat) :
    List Node → List Node × Nat
  | [] => ([], 0)
  | n :: rest =>
    let (rest, count) := substituteParts p g parent (i + 1) rest
    if p parent i then (g n :: rest, count + 1)
    else
      let (n, inner) := substitute p g n
      (n :: rest, inner + count)

end

/-- A function in the place of an exported one is exported, too. -/
def keepExport (old new : Node) : Node :=
  match old, new.shape with
  | .node ⟨.exportDeclaration, a, b⟩ _, .function _ => .node ⟨.exportDeclaration, a, b⟩ [new]
  | .node ⟨.exportDefault, a, b⟩ _, .function _ => .node ⟨.exportDefault, a, b⟩ [new]
  | _, _ => new

/-- Whether a part of a node is a statement of a list that declares or exports the function of a
name. -/
def isFunctionSlot (identifier : Name) (parent : Node) (i : Nat) : Bool :=
  parent.shape == .statements && parent.children[i]?.any (declaresFunction identifier)

/-- Whether a part of a node is the value of a variable of a name. -/
def isValueSlot (identifier : Name) (parent : Node) (i : Nat) : Bool :=
  parent.isAddressed identifier .declarator && i == 2

/-- Puts a statement in the place of the functions of a name. -/
def replaceFunctions (identifier : Name) (new : Node) (n : Node) : Node × Nat :=
  n.substitute (isFunctionSlot identifier) fun old => keepExport old new

/-- Gives the variables of a name a value. What a variable held before is not gone into. -/
def setValues (identifier : Name) (value : Node) (n : Node) : Node × Nat :=
  n.substitute (isValueSlot identifier) fun _ => value

/-! ### Setting attributes -/

mutual

/-- Sets an attribute of the elements of a name. What an attribute held before is not gone into. -/
def setAttributes (identifier name : Name) (value : Node) : Node → Node × Nat
  | .node ⟨.element tag isClosed, a, b⟩ [arguments, .node group attributes, children] =>
    let (arguments, inArguments) := setAttributes identifier name value arguments
    let (children, inChildren) := setAttributes identifier name value children
    let isNamed := tag == identifier
    let (attributes, inAttributes) := setAttributesOfParts identifier name value isNamed attributes
    (.node ⟨.element tag isClosed, a, b⟩ [arguments, .node group attributes, children],
      (if isNamed then 1 else 0) + inArguments + inAttributes + inChildren)
  | .node head parts =>
    let (parts, count) := setAttributesOfParts identifier name value false parts
    (.node head parts, count)

/-- Sets an attribute inside parts. If they are the attributes of an element of the name, the first
one of the attribute's name is set, or a new last one. -/
def setAttributesOfParts (identifier name : Name) (value : Node) (isSet : Bool) :
    List Node → List Node × Nat
  | [] => (if isSet then [ofShape (.attribute name) 0 0 [value]] else [], 0)
  | .node ⟨.attribute other, a, b⟩ parts :: rest =>
    if isSet && other == name then
      let (rest, count) := setAttributesOfParts identifier name value false rest
      (.node ⟨.attribute other, a, b⟩ [value] :: rest, count)
    else
      let (parts, inner) := setAttributesOfParts identifier name value false parts
      let (rest, count) := setAttributesOfParts identifier name value isSet rest
      (.node ⟨.attribute other, a, b⟩ parts :: rest, inner + count)
  | n :: rest =>
    let (n, inner) := setAttributes identifier name value n
    let (rest, count) := setAttributesOfParts identifier name value isSet rest
    (n :: rest, inner + count)

end

/-- Setting attributes, case by case: what `P` says of a node and what is made of it follows from
what is said of its parts, of the attributes of an element apart from all other parts. -/
theorem setAttributes_induction (identifier name : Name) (value : Node)
    (P : Node → Node × Nat → Prop) (Q : Bool → List Node → List Node × Nat → Prop)
    (element : ∀ tag isClosed a b arguments group attributes children,
      P arguments (setAttributes identifier name value arguments) →
      P children (setAttributes identifier name value children) →
      Q (tag == identifier) attributes
        (setAttributesOfParts identifier name value (tag == identifier) attributes) →
      P (.node ⟨.element tag isClosed, a, b⟩ [arguments, .node group attributes, children])
        (.node ⟨.element tag isClosed, a, b⟩
          [(setAttributes identifier name value arguments).1,
            .node group
              (setAttributesOfParts identifier name value (tag == identifier) attributes).1,
            (setAttributes identifier name value children).1],
          (if tag == identifier then 1 else 0) +
            (setAttributes identifier name value arguments).2 +
            (setAttributesOfParts identifier name value (tag == identifier) attributes).2 +
            (setAttributes identifier name value children).2))
    (other : ∀ head parts,
      (∀ tag isClosed a b arguments group attributes children,
        head = ⟨.element tag isClosed, a, b⟩ →
          parts = [arguments, .node group attributes, children] → False) →
      Q false parts (setAttributesOfParts identifier name value false parts) →
      P (.node head parts) (.node head (setAttributesOfParts identifier name value false parts).1,
        (setAttributesOfParts identifier name value false parts).2))
    (nil : ∀ isSet, Q isSet [] (if isSet then [ofShape (.attribute name) 0 0 [value]] else [], 0))
    (attributeSet : ∀ isSet other a b parts rest, (isSet && other == name) = true →
      Q false rest (setAttributesOfParts identifier name value false rest) →
      Q isSet (.node ⟨.attribute other, a, b⟩ parts :: rest)
        (.node ⟨.attribute other, a, b⟩ [value] ::
            (setAttributesOfParts identifier name value false rest).1,
          (setAttributesOfParts identifier name value false rest).2))
    (attributeKept : ∀ isSet other a b parts rest, ¬(isSet && other == name) = true →
      Q false parts (setAttributesOfParts identifier name value false parts) →
      Q isSet rest (setAttributesOfParts identifier name value isSet rest) →
      Q isSet (.node ⟨.attribute other, a, b⟩ parts :: rest)
        (.node ⟨.attribute other, a, b⟩
            (setAttributesOfParts identifier name value false parts).1 ::
            (setAttributesOfParts identifier name value isSet rest).1,
          (setAttributesOfParts identifier name value false parts).2 +
            (setAttributesOfParts identifier name value isSet rest).2))
    (part : ∀ isSet n rest, (∀ other a b parts, n = .node ⟨.attribute other, a, b⟩ parts → False) →
      P n (setAttributes identifier name value n) →
      Q isSet rest (setAttributesOfParts identifier name value isSet rest) →
      Q isSet (n :: rest)
        ((setAttributes identifier name value n).1 ::
            (setAttributesOfParts identifier name value isSet rest).1,
          (setAttributes identifier name value n).2 +
            (setAttributesOfParts identifier name value isSet rest).2))
    (n : Node) : P n (setAttributes identifier name value n) := by
  -- the results are named by equations in the definition's own principle
  refine (setAttributes.mutual_induct_unfolding identifier name value P Q ?_ ?_ nil ?_ ?_ ?_).1 n
  · intro tag isClosed a b arguments group attributes children _ _ harguments _ _ hchildren _ _ _
      hattributes iharguments ihchildren ihattributes
    have h := element tag isClosed a b arguments group attributes children iharguments ihchildren
      ihattributes
    rwa [harguments, hchildren, hattributes] at h
  · intro head parts hother _ _ hparts ih
    have h := other head parts hother ih
    rwa [hparts] at h
  · intro isSet name a b parts rest hset _ _ hrest ih
    have h := attributeSet isSet name a b parts rest hset ih
    rwa [hrest] at h
  · intro isSet name a b parts rest hset _ _ hparts _ _ hrest ihparts ihrest
    have h := attributeKept isSet name a b parts rest hset ihparts ihrest
    rwa [hparts, hrest] at h
  · intro isSet n rest hpart _ _ hn _ _ hrest ihn ihrest
    have h := part isSet n rest hpart ihn ihrest
    rwa [hn, hrest] at h

end SourceEdit.Script.Node
