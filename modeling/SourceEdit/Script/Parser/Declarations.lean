import SourceEdit.Script.Parser.Classes

/-!
# Declarations

Variables, and the declarations that only types know: interfaces, type aliases, enumerations and
namespaces.
-/

namespace SourceEdit.Script.Parser

variable (parse : Goal → Parser Node)

/-! ### Variables -/

/-- Whether variables of a kind are disposed of in the end. -/
def isDisposed (kind : VariableKind) : Bool := kind == .using_ || kind == .awaitUsing

/-- Notes a variable that lacks the value that it needs, where values are given at all: a pattern
needs one, and so does a constant. -/
def checkValue (kind : VariableKind) (variable_ : Node) : Parser Unit := do
  match variable_.children with
  | [bound, _, value] =>
    let needsValue := kind == .const_ || !(Node.shape bound matches .name _)
    reportIf (needsValue && Node.isAbsent value && !(← context).isAmbient)
  | _ => pure ()

/-- A variable with its type and its value. One that is marked as definite has a type and no value.
The values that are needed are not looked for in the head of a loop. -/
def declarator (kind : VariableKind) (inLoop : Bool) : Parser Node := do
  let start ← here
  let bound ← parse .pattern
  let isName := bound.value.shape matches .name _
  let isDefinite ← if (← hasTypes) && isName && !(← onNewLine) then eat .bang else pure false
  let type ← typeAfterColon parse
  let value ← optional (← eat .eq) (parse (.assignment true))
  reportIf (isDefinite && (type.isAbsent || !value.isAbsent))
  reportIf (isDisposed kind && (!isName || (value.isAbsent && !inLoop)))
  let node ← finish (.declarator isDefinite) start [bound, type, value]
  if !inLoop then checkValue kind node
  return node

/-- The keyword of variables. -/
def variableKind : Parser VariableKind := do
  match ← kind with
  | .word .var_ =>
    advance
    return .var_
  | .word .let_ =>
    advance
    return .let_
  | .word .const_ =>
    advance
    return .const_
  | .word .using_ =>
    advance
    return .using_
  | .word .await_ =>
    advance
    expectWord .using_
    return .awaitUsing
  | _ => failure

/-- Variables with a common keyword. -/
def variableList (inLoop isDeclare : Bool) (start : Nat) : Parser Node := do
  let kind ← variableKind
  let items ← separated (declarator parse kind inLoop)
  finish (.variableList kind isDeclare) start items

/-- Whether `using` starts variables. -/
def startsUsing : Parser Bool := do
  match ← kind with
  | .word .using_ => nextIs fun t => !t.onNewLine && t.isBindingName
  | .word .await_ => follows do
    advance
    let t ← current
    if t.onNewLine || !t.isWord .using_ then return false
    advance
    let t ← current
    return !t.onNewLine && t.isBindingName
  | _ => return false

/-! ### Interfaces and aliases -/

/-- An interface that another one extends. -/
def extended : Parser Node := do
  let start ← here
  let name ← dottedName
  let arguments ← typeArguments? parse
  finish .heritage start [name, arguments]

/-- An interface. -/
def interfaceNode (isDeclare : Bool) (start : Nat) : Parser Node := do
  expectWord .interface_
  let name ← bindingName
  let generics ← typeParameters parse
  let bases ← if ← eatWord .extends_ then separated (extended parse) else pure []
  let members ← typeMembers parse
  finish (.interfaceNode isDeclare) start [name, generics, .group bases, .group members]

/-- A name for a type. -/
def typeAlias (isDeclare : Bool) (start : Nat) : Parser Node := do
  expectWord .type_
  let name ← bindingName
  let generics ← typeParameters parse
  expect .eq
  let type ← parse .type
  endStatement
  finish (.typeAlias isDeclare) start [name, generics, type]

/-! ### Enumerations -/

/-- A member of an enumeration. -/
def enumMember : Parser Node := do
  let start ← here
  let (key, isComputed) ← propertyKey parse
  match key.value.shape with
  | .number .. | .bigint _ | .privateName _ => failure
  | .name _ => if isComputed then report
  | .string _ | .template [_] => pure ()
  | _ => report
  let value ← valueAfterEq parse
  finish (.enumMember isComputed) start [key, value]

/-- An enumeration. -/
def enumNode (isConst isDeclare : Bool) (start : Nat) : Parser Node := do
  expectWord .enum_
  let name ← bindingName
  expect .braceOpen
  let members ← itemsUntil .braceClose (enumMember parse)
  expect .braceClose
  finish (.enumNode isConst isDeclare) start [name, .group members]

/-! ### Namespaces -/

/-- The body of a namespace. -/
def namespaceBody : Parser Node := do
  let start ← here
  expect .braceOpen
  let (directives, statements) ← statementsUntil parse (·.isPunct .braceClose)
  expect .braceClose
  finish .namespaceBody start [.group directives, .statements statements]

/-- A namespace, a module that is declared, or additions to the global scope. -/
def namespaceNode (isDeclare : Bool) (start : Nat) : Parser Node := do
  if ← eatWord .global_ then
    let body ← namespaceBody parse
    finish (.globalNode isDeclare) start [body]
  else
    let isModule ← eatWord .module_
    if !isModule then expectWord .namespace_
    let kind := if isModule then NamespaceKind.module_ else .namespace_
    if (← current).isString then
      reportIf !isModule
      let name ← stringLiteral
      let body ← optional (← isAt .braceOpen) (namespaceBody parse)
      if body.isAbsent then endStatement
      finish (.namespaceNode kind isDeclare) start [name, body]
    else
      let name ← dottedName
      let body ← namespaceBody parse
      finish (.namespaceNode kind isDeclare) start [name, body]

/-! ### Imports by equation -/

/-- What an import by equation stands for. -/
def importReference : Parser Node := do
  let start ← here
  if (← isAtWord .require_) && (← nextIs (·.isPunct .parenOpen)) then
    advance
    expect .parenOpen
    let source ← stringLiteral
    expect .parenClose
    finish .requiredModule start [source]
  else dottedName

/-- An import by equation, after its name. -/
def importEquals (typeOnly : Bool) (start : Nat) (name : Node) : Parser Node := do
  expect .eq
  let reference ← importReference
  endStatement
  reportIf !(← hasTypes)
  finish (.importEquals typeOnly) start [name, reference]

/-! ### Declarations that types know -/

/-- Whether a declaration that needs types starts here, step by step over the words before it. -/
def startsTypedDeclaration : Parser Bool := follows do
  let (_, found) ← iterate (fun (_, _) => do
    let t ← current
    match t.kind with
    | .word .var_ | .word .let_ | .word .const_ | .word .function_ | .word .class_
    | .word .enum_ => return (false, true, true)
    | .word .interface_ | .word .type_ =>
      let holds ← nextIs fun n => !n.onNewLine && n.isBindingName
      return (false, true, holds)
    | .word .module_ | .word .namespace_ =>
      let holds ← nextIs fun n => !n.onNewLine && (n.isBindingName || n.isString)
      return (false, true, holds)
    | .word .global_ =>
      let holds ← nextIs fun n => n.kind == .name || n.isPunct .braceOpen || n.isWord .export_
      return (false, true, holds)
    | .word .import_ =>
      let holds ← nextIs fun n =>
        n.isString || n.isPunct .star || n.isPunct .braceOpen || n.isNameOrWord
      return (false, true, holds)
    | .word .static_ =>
      advance
      return (true, false, false)
    | .word .abstract_ | .word .accessor_ | .word .async_ | .word .declare_ | .word .private_
    | .word .protected_ | .word .public_ | .word .readonly_ =>
      advance
      return (!(← onNewLine), false, false)
    | _ => return (false, true, false)) (false, false)
  return found

/-- Whether a declaration that needs types starts here. -/
def startsTyped : Parser Bool := do
  match ← kind with
  | .word w =>
    let starts := [Word.interface_, .type_, .module_, .namespace_, .declare_, .enum_, .private_,
      .protected_, .public_, .abstract_, .accessor_, .static_, .readonly_, .global_, .async_]
    if (← hasTypes) && starts.contains w then startsTypedDeclaration else return false
  | _ => return false

/-- What the words before a declaration say: whether it is only declared, whether it is abstract. -/
def declarationWords : Parser (Bool × Bool) :=
  iterate (fun (isDeclare, isAbstract) => do
    match ← kind with
    | .word .declare_ =>
      reportIf isDeclare
      advance
      return (true, true, isAbstract)
    | .word .abstract_ =>
      reportIf isAbstract
      advance
      return (true, isDeclare, true)
    | .word .private_ | .word .protected_ | .word .public_ | .word .readonly_ | .word .static_
    | .word .accessor_ =>
      report
      advance
      return (true, isDeclare, isAbstract)
    | _ => return (false, isDeclare, isAbstract)) (false, false)

/-- A declaration after the words before it. -/
def declarationAfterWords (isDeclare isAbstract : Bool) (start : Nat) (marks : List Node) :
    Parser Node := do
  let first ← kind
  let typed := [Word.namespace_, .module_, .global_, .type_, .interface_, .enum_].any fun w =>
    first == .word w
  reportIf (typed && !(← hasTypes))
  match ← kind with
  | .word .namespace_ | .word .module_ | .word .global_ => namespaceNode parse isDeclare start
  | .word .type_ => typeAlias parse isDeclare start
  | .word .interface_ => interfaceNode parse isDeclare start
  | .word .enum_ => enumNode parse false isDeclare start
  | .word .class_ =>
    classNode parse { isDeclaration := true, isAbstract, isDeclare } start marks
  | .word .const_ =>
    if ← nextIs (·.isWord .enum_) then
      advance
      enumNode parse true isDeclare start
    else
      let n ← variableList parse false isDeclare start
      endStatement
      return n
  | .word .var_ | .word .let_ =>
    let n ← variableList parse false isDeclare start
    endStatement
    return n
  | .word .function_ | .word .async_ => functionNode parse .declaration true isDeclare start
  | .word .import_ =>
    advance
    importEquals false start (← bindingName)
  | _ => failure

/-- A declaration with the words before it. -/
def declaration (start : Nat) (marks : List Node) : Parser Node := do
  let (isDeclare, isAbstract) ← declarationWords
  reportIf ((isDeclare || isAbstract) && !(← hasTypes))
  let node ← within (fun c => { c with isAmbient := c.isAmbient || isDeclare })
    (declarationAfterWords parse isDeclare isAbstract start marks)
  reportIf (isAbstract && !(node.value.shape matches .classNode _))
  return node

end SourceEdit.Script.Parser
