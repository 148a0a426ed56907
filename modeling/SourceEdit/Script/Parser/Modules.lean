import SourceEdit.Script.Parser.Declarations

/-!
# Imports and exports
-/

namespace SourceEdit.Script.Parser

variable (parse : Goal → Parser Node)

/-- Notes that the script is a module. -/
def markModule : Parser Unit := modify fun s => { s with isModule := true }

/-! ### Names on the other side -/

/-- Whether a name of another module may stand here. -/
def canNameExport : Parser Bool := do
  let t ← current
  return t.isNameOrWord || t.isString

/-- A name of another module, which may be a string, with its token. -/
def exportName : Parser (Node × Token) := do
  let t ← current
  let n ← if t.isString then stringLiteral else anyName
  return (n, t)

/-- A specifier: whether it is for types only, the name before `as` and the name after it. -/
structure Specifier where
  typeOnly : Bool
  first : Node × Token
  second : Node × Token

/-- A specifier whose first word is `type`, which may be a mark or a name. -/
def specifierAfterType (type : Node × Token) : Parser Specifier := do
  if ← isAtWord .as_ then
    let firstAs ← exportName
    if ← isAtWord .as_ then
      let secondAs ← exportName
      if ← canNameExport then return ⟨true, firstAs, ← exportName⟩
      else return ⟨false, type, secondAs⟩
    else if ← canNameExport then return ⟨false, type, ← exportName⟩
    else return ⟨true, firstAs, firstAs⟩
  else if ← canNameExport then
    let name ← exportName
    if ← eatWord .as_ then return ⟨true, name, ← exportName⟩ else return ⟨true, name, name⟩
  else return ⟨false, type, type⟩

/-- A specifier. -/
def specifier : Parser Specifier := do
  let first ← exportName
  if first.2.isWord .type_ then
    let s ← specifierAfterType first
    reportIf (s.typeOnly && !(← hasTypes))
    return s
  else if ← eatWord .as_ then return ⟨false, first, ← exportName⟩
  else return ⟨false, first, first⟩

/-! ### Sources -/

/-- An attribute of an import. -/
def importAttribute : Parser Node := do
  let start ← here
  let t ← current
  let key ← if t.isString then stringLiteral else anyName
  expect .colon
  let value ← stringLiteral
  finish .importAttribute start [key, value]

/-- The text of the key of an attribute. -/
def attributeKey (n : Node) : List Nat :=
  match n.children with
  | key :: _ => match Node.shape key with
    | .name name => name.map Char.toNat
    | .string units => units
    | _ => []
  | [] => []

/-- The attributes of an import, if there are any. No key is repeated. -/
def importAttributes : Parser Node := do
  let t ← current
  let start := t.start
  if t.isWord .with_ || (t.isWord .assert_ && !t.onNewLine) then
    advance
    expect .braceOpen
    let items ← itemsUntil .braceClose importAttribute
    let keys := items.map attributeKey
    reportIf (keys.eraseDups.length != keys.length)
    expect .braceClose
    finish (.importAttributes t.text) start items
  else return .absent

/-- The source of a module and the attributes of its import. -/
def moduleSource : Parser (Node × Node) := do
  let source ← stringLiteral
  let attributes ← importAttributes
  return (source, attributes)

/-! ### Imports -/

/-- A name that is imported. Where all names are types none is marked as one. -/
def importNamed (typeOnly : Bool) : Parser Node := do
  let start ← here
  let s ← specifier
  reportIf (typeOnly && s.typeOnly)
  if !s.second.2.isBindingName then failure
  finish (.importNamed s.typeOnly) start [s.first.1, s.second.1]

/-- What is imported beside a default. -/
def importList (typeOnly : Bool) : Parser (List Node) := do
  let start ← here
  if ← eat .star then
    expectWord .as_
    let name ← bindingName
    return [← finish .importNamespace start [name]]
  else
    expect .braceOpen
    let items ← itemsUntil .braceClose (importNamed typeOnly)
    expect .braceClose
    return items

/-- Whether `type` marks an import as one of types. -/
def marksTypes : Parser Bool := do
  let t ← current
  if !t.isWord .type_ || t.escaped then return false
  else follows do
    advance
    let t ← current
    if t.isPunct .braceOpen || t.isPunct .star then return true
    else if t.isWord .from_ then nextIs fun n => n.isWord .from_ || n.isPunct .eq
    else return t.isBindingName

/-- When an imported module is evaluated, if a word says so. -/
def importPhase : Parser (Option ImportPhase) := do
  if (← isAtWord .defer_) && (← nextIs (·.isPunct .star)) then
    advance
    return some .defer_
  else if ← isAtWord .source_ then
    let applies ← follows do
      advance
      let t ← current
      if t.isWord .from_ then nextIs (·.isWord .from_) else return t.isBindingName
    if applies then
      advance
      return some .source_
    else return none
  else return none

/-- An import that starts with its keyword. -/
def importDeclaration (start : Nat) : Parser Node := do
  expectWord .import_
  if (← current).isString then
    markModule
    let (source, attributes) ← moduleSource
    endStatement
    finish (.importDeclaration none false) start [.absent, source, attributes]
  else
    let typeOnly ← marksTypes
    if typeOnly then
      reportIf !(← hasTypes)
      advance
    let phase ← if typeOnly then pure none else importPhase
    let nameStart ← here
    let default ← optional (← current).isBindingName bindingName
    if !default.isAbsent && (← isAt .eq) then importEquals typeOnly start default
    else
      markModule
      let others ←
        if default.isAbsent then importList typeOnly
        else do
          if ← eat .comma then importList typeOnly else pure []
      let first := if default.isAbsent then []
        else [Node.ofShape .importDefault nameStart default.stop [default]]
      expectWord .from_
      let (source, attributes) ← moduleSource
      endStatement
      finish (.importDeclaration phase typeOnly) start
        [.group (first ++ others), source, attributes]

/-! ### Exports -/

/-- Whether a token may be exported as a name of this module, also where code is strict. -/
def canBeLocal (t : Token) : Bool :=
  t.isBindingName && match t.kind with
    | .word .implements_ | .word .interface_ | .word .package_ | .word .private_
    | .word .protected_ | .word .public_ | .word .static_ => false
    | _ => true

/-- Names that are exported, from this module or from another one. -/
def exportNames (typeOnly : Bool) (start : Nat) : Parser Node := do
  expect .braceOpen
  let items ← itemsUntil .braceClose do
    let itemStart ← here
    let s ← specifier
    reportIf (typeOnly && s.typeOnly)
    let node ← finish (.exportSpecifier s.typeOnly) itemStart [s.first.1, s.second.1]
    return (node, s.first.2)
  expect .braceClose
  let nodes := Node.group (items.map (·.1))
  if ← eatWord .from_ then
    let (source, attributes) ← moduleSource
    endStatement
    finish (.exportNames typeOnly) start [nodes, source, attributes]
  else
    reportIf (items.any fun (_, t) => !canBeLocal t)
    endStatement
    finish (.exportNames typeOnly) start [nodes, .absent, .absent]

/-- Everything of another module, perhaps under one name. -/
def exportAll (typeOnly : Bool) (start : Nat) : Parser Node := do
  expect .star
  let name ← optional (← eatWord .as_) (do return (← exportName).1)
  expectWord .from_
  let (source, attributes) ← moduleSource
  endStatement
  finish (.exportAll typeOnly) start [name, source, attributes]

/-- The decorators of an export, which stand before its keyword or after it. -/
def exportMarks (marks : List Node) : Parser (List Node) := do
  let later ← decorators parse
  reportIf (!marks.isEmpty && !later.isEmpty)
  return marks ++ later

/-- What a default export exports. -/
def defaultValue (marks : List Node) : Parser Node := do
  let start ← here
  let t ← current
  let marks ← exportMarks parse marks
  if (← isAtWord .class_) then classNode parse { isDeclaration := true } start marks
  else if t.isWord .function_ || (← startsAsyncFunction) then
    functionNode parse .declaration false false start
  else if (← hasTypes) && t.isWord .abstract_ && (← nextIs (·.isWord .class_)) then
    advance
    classNode parse { isDeclaration := true, isAbstract := true } start marks
  else if (← hasTypes) && t.isWord .interface_
      && (← nextIs fun n => !n.onNewLine && n.isBindingName) then
    interfaceNode parse false start
  else
    let e ← assignmentWithIn parse
    endStatement
    return e

/-- A declaration that is exported. -/
def exportedDeclaration (marks : List Node) : Parser Node := do
  let start ← here
  let marks ← exportMarks parse marks
  if (← isAtWord .import_) && (← hasTypes) then
    advance
    let typeOnly ← marksTypes
    if typeOnly then advance
    let name ← bindingName
    importEquals typeOnly start name
  else declaration parse start marks

/-- An export that starts with its keyword; `marks` are decorators before it. -/
def exportDeclaration (start : Nat) (marks : List Node) : Parser Node := do
  expectWord .export_
  let t ← current
  let types ← hasTypes
  if types && t.isPunct .eq then
    advance
    let e ← parse .expression
    endStatement
    finish .exportAssignment start [e]
  else if types && t.isWord .as_ then
    advance
    expectWord .namespace_
    let name ← current
    let _ ← bindingName
    endStatement
    finish (.exportNamespace name.text) start
  else
    markModule
    match t.kind with
    | .punct .star => exportAll false start
    | .punct .braceOpen => exportNames false start
    | .word .default_ =>
      advance
      let e ← defaultValue parse marks
      finish .exportDefault start [e]
    | _ =>
      if t.isWord .type_ && (← nextIs fun n => n.isPunct .braceOpen || n.isPunct .star) then
        reportIf !types
        advance
        if ← isAt .star then exportAll true start else exportNames true start
      else
        let n ← exportedDeclaration parse marks
        finish .exportDeclaration start [n]

end SourceEdit.Script.Parser
