import SourceEdit.Script.Parser.Basic

/-!
# Assignment targets

The left side of an assignment is read as an expression and turned into a target once the equals
sign is met.  An array or object becomes a target part by part; parentheses around a name or member
are dropped.
-/

namespace SourceEdit.Script

namespace Node

/-- Whether an expression is a name or a member, perhaps between parentheses or with marks of its
type. -/
def isReference : Node → Bool
  | .node ⟨.parenthesized, _, _⟩ [n] => isReference n
  | .node ⟨.asType, _, _⟩ [n, _] => isReference n
  | .node ⟨.satisfiesType, _, _⟩ [n, _] => isReference n
  | .node ⟨.typeAssertion, _, _⟩ [_, n] => isReference n
  | .node ⟨.nonNull, _, _⟩ [n] => isReference n
  | .node ⟨.instantiation, _, _⟩ [n, _] => isReference n
  | n => match n.shape with
    | .name _ | .member _ false | .privateMember _ false | .index false => true
    | _ => false

/-- The target that a name, a member or one of them with its type is, without parentheses around
it. -/
def simpleTarget? (n : Node) : Option Node :=
  let inner := n.withoutParentheses
  match inner.shape with
  | .name _ | .member _ false | .privateMember _ false | .index false | .asType | .satisfiesType
  | .typeAssertion | .nonNull => if isReference inner then some inner else none
  | _ => none

mutual

/-- The target that an expression is. -/
def target? : Node → Option Node
  | .node ⟨.array, a, b⟩ parts => do
    return .node ⟨.arrayTarget, a, b⟩ (← targetItems? parts)
  | .node ⟨.object, a, b⟩ parts => do
    return .node ⟨.objectTarget, a, b⟩ (← targetProperties? parts)
  | n => n.simpleTarget?

/-- The targets that the elements of an array are. A rest is the last one, without a comma after
it. -/
def targetItems? : List Node → Option (List Node)
  | [] => some []
  | .node ⟨.spread isFollowed, a, b⟩ [inner] :: rest => do
    if isFollowed || !rest.isEmpty then none
    else return [.node ⟨.rest, a, b⟩ [← target? inner]]
  | .node ⟨.assignment none, a, b⟩ parts :: rest => do
    return .node ⟨.targetWithDefault, a, b⟩ parts :: (← targetItems? rest)
  | .node ⟨.hole, a, b⟩ parts :: rest => do
    return .node ⟨.hole, a, b⟩ parts :: (← targetItems? rest)
  | n :: rest => do
    let first ← target? n
    return first :: (← targetItems? rest)

/-- The targets that the properties of an object are. A rest is the last one, without a comma after
it, and has no parts of its own. -/
def targetProperties? : List Node → Option (List Node)
  | [] => some []
  | .node ⟨.spread isFollowed, a, b⟩ [inner] :: rest => do
    if isFollowed || !rest.isEmpty then none
    else return [.node ⟨.rest, a, b⟩ [← simpleTarget? inner]]
  | .node ⟨.property _ true, a, b⟩ [name, _] :: rest => do
    return .node ⟨.targetName, a, b⟩ [name, Node.absent] :: (← targetProperties? rest)
  | .node ⟨.propertyWithDefault, a, b⟩ parts :: rest => do
    return .node ⟨.targetName, a, b⟩ parts :: (← targetProperties? rest)
  | .node ⟨.property isComputed false, a, b⟩ [key, .node ⟨.assignment none, c, d⟩ parts]
      :: rest => do
    let value : Node := .node ⟨.targetWithDefault, c, d⟩ parts
    return .node ⟨.targetProperty isComputed, a, b⟩ [key, value] :: (← targetProperties? rest)
  | .node ⟨.property isComputed false, a, b⟩ [key, value] :: rest => do
    let value ← target? value
    return .node ⟨.targetProperty isComputed, a, b⟩ [key, value] :: (← targetProperties? rest)
  | _ :: _ => none

end

end Node

namespace Parser

/-- What an increment or decrement changes. -/
def simpleTarget (n : Node) : Parser Node :=
  match n.simpleTarget? with
  | some t => pure t
  | none => failure

/-- What an assignment assigns to. -/
def target (n : Node) : Parser Node :=
  match n.target? with
  | some t => pure t
  | none => failure

end Parser

end SourceEdit.Script
