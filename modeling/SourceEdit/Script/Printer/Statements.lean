import SourceEdit.Script.Printer.Expressions

/-!
# Writing statements

Every statement stands on lines of its own, after the comments before it.  `statement` writes those
lines, `declaration` what is declared without them, so that an export can stand before it.
-/

namespace SourceEdit.Script.Printer

variable (emit : Task → Printer Unit)

/-! ### Lists of statements -/

/-- Writes statements. -/
def statements (items : List Node) : Printer Unit := each (fun n => emit (.statement n)) items

/-- Writes a directive. Its quote is changed when the text holds it. -/
private def directive (raw : List Char) (start : Nat) : Printer Unit := do
  commentsAt start
  indent
  let preferred := (← read).quote
  let quote := if holdsQuote preferred raw then otherQuote preferred else preferred
  put quote
  puts raw
  put quote
  semicolonLine

/-- The string that a statement is, which without parentheses would be a directive. -/
private def stringStatement? : Node → Option Node
  | .node ⟨.expressionStatement, _, _⟩ [e] =>
    match (Node.withoutParentheses e).value.shape with
    | .string _ => some e
    | _ => none
  | _ => none

/-- Writes directives and statements. A string that is the first statement is written between
parentheses, without what stood before it. -/
def directivesAndStatements (directives items : List Node) : Printer Unit := do
  each (fun (n : Node) => match n.value.shape with
    | .directive raw => directive raw n.value.start
    | _ => pure ()) directives
  match directives, items with
  | [], n :: rest =>
    match stringStatement? n with
    | some e =>
      wrap true (plain emit e)
      semicolonLine
      statements emit rest
    | none => statements emit items
  | _, items => statements emit items

/-- Writes the statements of a block between braces. -/
def block (body : Node) : Printer Unit :=
  braces body.children.isEmpty (statements emit body.children)

/-- Writes the body of a function, with the comments at its end. -/
def functionBody (stop : Nat) (parts : List Node) : Printer Unit := do
  match parts with
  | [directives, items] =>
    let atEnd ← if stop > 0 then takeComments (stop - 1) else pure []
    let keepsLine := atEnd.all fun c => !c.afterNewLine && !c.beforeNewLine && c.form != .line
    let isEmpty := directives.children.isEmpty && items.children.isEmpty && keepsLine
    braces isEmpty do
      directivesAndStatements emit directives.children items.children
      writeComments atEnd
      putIf (!atEnd.isEmpty) (modify fun o => { o with nextIndentIsBlank := false })
  | _ => pure ()

/-- Writes the body of a namespace. -/
def namespaceBody (parts : List Node) : Printer Unit :=
  match parts with
  | [directives, items] =>
    braces (directives.children.isEmpty && items.children.isEmpty)
      (directivesAndStatements emit directives.children items.children)
  | _ => pure ()

/-! ### Classes -/

/-- The words before a member of a class that all members may have. -/
private def memberWords (flags : MemberFlags) : Printer Unit := do
  accessibility flags.accessibility
  wordIf flags.isAbstract "abstract"
  wordIf flags.isStatic "static"

/-- Writes a field after its words. -/
private def fieldRest (flags : MemberFlags) (k type value : Node) : Printer Unit := do
  key emit flags.isComputed k
  putIf flags.isOptional (put '?')
  putIf flags.isDefinite (put '!')
  afterColon emit type
  ifPresent value fun n => do
    text " = "
    item emit n

/-- Writes a member of a class, with the end of its line. -/
private def classMember (m : Mode) (n : Node) : Printer Unit := do
  commentsAt n.value.start
  indent
  match n.value.shape, n.children with
  | .staticBlock, [body] =>
    text "static "
    surroundedBy m (block emit body)
    newLine
  | .method kind flags, [marks, k, function] =>
    decorators emit marks
    memberWords flags
    text (methodWord kind)
    methodRest emit flags.isComputed flags.isOptional k function m
    newLine
  | .field flags, [marks, k, type, value] =>
    decorators emit marks
    wordIf flags.isDeclare "declare"
    memberWords flags
    wordIf flags.isReadonly "readonly"
    fieldRest emit flags k type value
    semicolonLine
  | .accessorField flags, [marks, k, type, value] =>
    decorators emit marks
    wordIf flags.isAbstract "abstract"
    memberWords { flags with isAbstract := false }
    wordIf flags.isOverride "override"
    text "accessor "
    fieldRest emit { flags with isDefinite := false } k type value
    semicolonLine
  | _, _ =>
    plain emit n
    semicolonLine

/-- Writes a class. -/
def classNode (head : ClassHead) (parts : List Node) (m : Mode) : Printer Unit := do
  match parts with
  | [marks, name, generics, base, arguments, interfaces, body] =>
    let o ← get
    let starts := o.statementStart == o.length || o.defaultStart == o.length
    wrap (!head.isDeclaration && starts) do
      decorators emit marks
      wordBreak
      putIf head.isDeclare (text "declare ")
      putIf head.isAbstract (text "abstract ")
      text "class"
      ifPresent name fun n => do
        blank
        plain emit n
        ifPresent generics (plain emit)
      ifPresent base fun n => do
        text " extends "
        emit (.node n .postfixed {})
        ifPresent arguments (plain emit)
      if !interfaces.children.isEmpty then
        text " implements "
        commas (plain emit) interfaces.children
      blank
      let m := { m with forbidsCall := false }
      braces body.children.isEmpty (each (classMember emit m) body.children)
  | _ => pure ()

/-! ### Declarations -/

/-- The keyword of variables. -/
private def variableWord : VariableKind → String
  | .var_ => "var"
  | .let_ => "let"
  | .const_ => "const"
  | .using_ => "using"
  | .awaitUsing => "await using"

/-- Writes a variable. -/
private def declarator (m : Mode) (n : Node) : Printer Unit :=
  match n with
  | .node ⟨.declarator isDefinite, _, _⟩ [bound, type, value] => do
    plain emit bound
    putIf isDefinite (put '!')
    afterColon emit type
    ifPresent value fun n => do
      text " = "
      emit (.node n .comma m)
  | _ => pure ()

/-- Writes variables. -/
def variableList (kind : VariableKind) (isDeclare : Bool) (items : List Node) (m : Mode) :
    Printer Unit := do
  wordBreak
  putIf isDeclare (text "declare ")
  text (variableWord kind)
  putIf (!items.isEmpty) blank
  commas (declarator emit m) items

/-- Writes an interface. -/
private def interfaceNode (parts : List Node) : Printer Unit := do
  match parts with
  | [name, generics, bases, body] =>
    text "interface "
    plain emit name
    ifPresent generics (plain emit)
    if !bases.children.isEmpty then
      text " extends "
      commas (plain emit) bases.children
    blank
    members emit body.children {}
  | _ => pure ()

/-- Writes the name of a member of an enumeration; a template stays as it was written. -/
def enumKey (k : Node) : Printer Unit :=
  match k.value.shape with
  | .template texts => template (plain emit) texts k.children
  | _ => plain emit k

/-- Writes an enumeration. It is indented once more than the line that it stands on. -/
private def enumNode (isConst isDeclare : Bool) (name items : Node) : Printer Unit := do
  indent
  putIf isDeclare (text "declare ")
  putIf isConst (text "const ")
  text "enum "
  plain emit name
  blank
  let all := items.children.zipIdx
  braces all.isEmpty (each (fun (n, i) => do
    commentsAt n.value.start
    indent
    plain emit n
    putIf (i + 1 != all.length) (put ',')
    newLine) all)

/-- Writes a declaration. -/
def declaration (shape : Shape) (parts : List Node) : Printer Unit :=
  match shape, parts with
  | .variableList kind isDeclare, items => do
    variableList emit kind isDeclare items (← surroundings)
  | .function head, parts => do function emit head parts (← surroundings)
  | .classNode head, parts => do classNode emit head parts (← surroundings)
  | .interfaceNode _, parts => interfaceNode emit parts
  | .enumNode isConst isDeclare, [name, items] => enumNode emit isConst isDeclare name items
  | .typeAlias isDeclare, [name, generics, type] => do
    putIf isDeclare (text "declare ")
    text "type "
    plain emit name
    ifPresent generics (plain emit)
    text " = "
    typePart emit type
  | .namespaceNode kind isDeclare, [name, body] => do
    putIf isDeclare (text "declare ")
    text (if kind == .module_ then "module " else "namespace ")
    plain emit name
    if body.value.shape == .absent then put ';'
    else
      blank
      plain emit body
  | .globalNode isDeclare, [body] => do
    putIf isDeclare (text "declare ")
    text "global "
    plain emit body
  | .importEquals _, [name, reference] => do
    text "import "
    plain emit name
    text " = "
    plain emit reference
  | _, _ => pure ()

/-- Whether a declaration ends in a semicolon. -/
private def endsInSemicolon : Shape → Bool
  | .variableList .. | .typeAlias _ | .importEquals _ => true
  | _ => false

/-- Writes a declaration and the end of its line. -/
private def declarationLine (shape : Shape) (parts : List Node) : Printer Unit := do
  declaration emit shape parts
  if endsInSemicolon shape then semicolonLine else newLine

/-- Writes the mark of a function without effects on a line of its own. -/
private def noEffectsLine (n : Node) : Printer Unit :=
  match n.value.shape with
  | .function head =>
    putIf (head.noEffects && head.role == .declaration) do
      text "/* @__NO_SIDE_EFFECTS__ */"
      newLine
  | _ => pure ()

/-! ### Imports and exports -/

/-- Whether two names of a specifier are the same text, so that one of them is enough. -/
private def isSameName (a b : Node) : Bool :=
  let units (n : Node) : List Nat := match n.value.shape with
    | .name name => name.map Char.toNat
    | .string units => units
    | _ => []
  units a == units b

/-- Writes the attributes of an import and the end of its line. -/
private def moduleEnd (attributes : Node) : Printer Unit := do
  ifPresent attributes fun n => do
    blank
    plain emit n
  semicolonLine

/-- Writes the source of an import that binds nothing: its text between double quotes. -/
private def bareSource (source : Node) : Printer Unit :=
  match source.value.shape with
  | .string units => do
    put '"'
    puts (units.map Char.ofNat)
    put '"'
  | _ => pure ()

/-- Writes what is imported, from place `i` on; `inBraces` says whether a brace is open. -/
private def importItems : Nat → Bool → List Node → Printer Unit
  | _, inBraces, [] => if inBraces then text " \x7d " else pure ()
  | i, inBraces, n :: rest => do
    match n.value.shape, n.children with
    | .importDefault, [name] =>
      text (if i = 0 then " " else ", ")
      plain emit name
      putIf rest.isEmpty blank
      importItems (i + 1) inBraces rest
    | .importNamespace, [name] =>
      text (if i = 0 then " * as " else ", * as ")
      plain emit name
      blank
      importItems (i + 1) inBraces rest
    | .importNamed typeOnly, [there, here] =>
      if inBraces then text ", "
      else
        putIf (i != 0) (put ',')
        text " \x7b "
      putIf typeOnly (text "type ")
      plain emit there
      if !isSameName there here then
        text " as "
        plain emit here
      importItems (i + 1) true rest
    | _, _ => importItems (i + 1) inBraces rest

/-- Writes an import. -/
private def importDeclaration (phase : Option ImportPhase) (typeOnly : Bool) (parts : List Node) :
    Printer Unit := do
  match parts with
  | [items, source, attributes] =>
    text "import"
    putIf typeOnly (text " type")
    match phase with
    | some .defer_ => text " defer"
    | some .source_ => text " source"
    | none => pure ()
    if items.value.shape != .absent && items.children.isEmpty then
      text " \x7b\x7d from "
      bareSource source
    else
      if items.value.shape == .absent then blank
      else
        importItems emit 0 false items.children
        text "from "
      plain emit source
    moduleEnd emit attributes
  | _ => pure ()

/-- Writes a specifier of an export. -/
def exportSpecifier (typeOnly : Bool) (here there : Node) : Printer Unit := do
  putIf typeOnly (text "type ")
  inlineComments here.value.start
  plain emit here
  if !isSameName here there then
    text " as "
    inlineComments there.value.start
    plain emit there

/-- Writes an export of names. -/
private def exportNames (typeOnly : Bool) (parts : List Node) : Printer Unit := do
  match parts with
  | [items, source, _] =>
    text "export"
    putIf typeOnly (text " type")
    text " \x7b"
    if !items.children.isEmpty then
      blank
      commas (plain emit) items.children
      blank
    put '\x7d'
    ifPresent source fun n => do
      text " from "
      plain emit n
    semicolonLine
  | _ => pure ()

/-- Writes an export by default. -/
private def exportDefault (n : Node) : Printer Unit := do
  let isDeclared : Bool := match n.value.shape with
    | .function head => head.role == FunctionRole.declaration
    | .classNode head => head.isDeclaration
    | _ => false
  if isDeclared then
    declaration emit n.value.shape n.children
    newLine
  else match n.value.shape with
    | .interfaceNode _ => declaration emit n.value.shape n.children
    | _ =>
      modify fun o => { o with defaultStart := o.length }
      item emit n
      semicolonLine

/-- Writes an import or export after its indentation. -/
private def moduleStatement (shape : Shape) (parts : List Node) : Printer Unit :=
  match shape, parts with
  | .importDeclaration phase typeOnly, parts => importDeclaration emit phase typeOnly parts
  | .exportDeclaration, [n] => do
    text "export "
    declarationLine emit n.value.shape n.children
  | .exportNames typeOnly, parts => exportNames emit typeOnly parts
  | .exportAll typeOnly, [name, source, attributes] => do
    text "export"
    putIf typeOnly (text " type")
    text " *"
    ifPresent name fun n => do
      text " as "
      plain emit n
    text " from "
    plain emit source
    moduleEnd emit attributes
  | .exportDefault, [n] => do
    text "export default "
    exportDefault emit n
  | .exportAssignment, [e] => do
    text "export = "
    plain emit e
    semicolonLine
  | .exportNamespace name, _ => do
    text "export as namespace "
    puts name
    semicolonLine
  | _, _ => pure ()

/-! ### Nested statements -/

/-- Writes the statement that another one holds, on the same line. -/
private def body (n : Node) : Printer Unit :=
  match n with
  | .node ⟨.block, _, _⟩ [items] => do
    blank
    block emit items
    newLine
  | .node ⟨.emptyStatement, _, _⟩ _ => semicolonLine
  | n => do
    modify fun o => { o with nextIndentIsBlank := true }
    emit (.statement n)

/-- Whether an `else` after a statement would be read as part of it. -/
private def takesElse : Node → Bool
  | .node ⟨.ifStatement, _, _⟩ [_, _, whenFalse] =>
    whenFalse.value.shape == .absent || takesElse whenFalse
  | .node ⟨.forLoop, _, _⟩ [_, _, _, inner] => takesElse inner
  | .node ⟨.forIn, _, _⟩ [_, _, inner] => takesElse inner
  | .node ⟨.forOf _, _, _⟩ [_, _, inner] => takesElse inner
  | .node ⟨.whileLoop, _, _⟩ [_, inner] => takesElse inner
  | .node ⟨.withStatement, _, _⟩ [_, inner] => takesElse inner
  | .node ⟨.labeled _, _, _⟩ [inner] => takesElse inner
  | _ => false

/-- Writes the branch that a choice takes. -/
private def takenBranch (whenTrue : Node) (hasElse : Bool) : Printer Unit := do
  match whenTrue with
  | .node ⟨.block, _, _⟩ [items] =>
    blank
    block emit items
    if hasElse then blank else newLine
  | n =>
    if takesElse n then
      blank
      braces false (emit (.statement n))
      if hasElse then blank else newLine
    else
      body emit n
      putIf hasElse indent

/-- Writes a choice between two statements. A choice in the other branch goes on, on the same
line. -/
private def ifStatement : Node → Printer Unit
  | .node _ [test, whenTrue, whenFalse] => do
    text "if ("
    plain emit test
    put ')'
    takenBranch emit whenTrue (whenFalse.value.shape != .absent)
    match whenFalse with
    | .node ⟨.absent, _, _⟩ _ => pure ()
    | .node ⟨.block, _, _⟩ [items] =>
      wordBreak
      text "else "
      block emit items
      newLine
    | .node ⟨.ifStatement, a, b⟩ parts =>
      wordBreak
      text "else "
      ifStatement (.node ⟨.ifStatement, a, b⟩ parts)
    | n =>
      wordBreak
      text "else"
      body emit n
  | _ => pure ()

/-- Writes the head of a loop over keys or values and its body. The name `async` stands between
parentheses. -/
private def forEach (between : String) (left values inner : Node) (above : Precedence) :
    Printer Unit := do
  wrap (left.name? == some ['a', 's', 'y', 'n', 'c'])
    (emit (.node left .lowest { forbidsIn := true }))
  text between
  emit (.node values above {})
  put ')'
  body emit inner

/-- Writes a case. What surrounds the function does not reach into several statements. -/
private def switchCase (n : Node) : Printer Unit := do
  match n.children with
  | [test, items] =>
    indent
    if test.value.shape == .absent then text "default"
    else
      text "case "
      plain emit test
    put ':'
    match items.children with
    | [single] => body emit single
    | several =>
      newLine
      deeper (surroundedBy {} (statements emit several))
  | _ => pure ()

/-- Writes a block with what handles its errors. -/
private def tryStatement (parts : List Node) : Printer Unit := do
  match parts with
  | [.node _ [items], handler, finalizer] =>
    text "try "
    block emit items
    match handler with
    | .node ⟨_, start, _⟩ [bound, .node ⟨_, bodyStart, _⟩ [items]] =>
      blank
      commentsAt start
      text "catch"
      ifPresent bound fun n => do
        text " ("
        plain emit n
        put ')'
      blank
      inlineComments bodyStart
      block emit items
    | _ => pure ()
    match finalizer with
    | .node _ [items] =>
      text " finally "
      block emit items
    | _ => pure ()
    newLine
  | _ => pure ()

/-- Writes a jump. -/
private def jump (w : String) (label : Option Name) : Printer Unit := do
  text w
  match label with
  | some name =>
    blank
    puts name
  | none => pure ()
  semicolonLine

/-- Writes a statement that is not a declaration, after its indentation. -/
private def plainStatement (n : Node) : Printer Unit := do
  match n.value.shape, n.children with
  | .block, [items] =>
    block emit items
    newLine
  | .emptyStatement, _ => semicolonLine
  | .expressionStatement, [e] =>
    modify fun o => { o with statementStart := o.length }
    plain emit e
    semicolonLine
  | .ifStatement, _ => ifStatement emit n
  | .doWhile, [inner, test] =>
    text "do"
    match inner with
    | .node ⟨.block, _, _⟩ [items] =>
      blank
      block emit items
      blank
    | .node ⟨.emptyStatement, a, b⟩ parts => emit (.statement (.node ⟨.emptyStatement, a, b⟩ parts))
    | inner =>
      newLine
      deeper (surroundedBy {} (emit (.statement inner)))
      indent
    text "while ("
    plain emit test
    put ')'
    semicolonLine
  | .whileLoop, [test, inner] =>
    text "while ("
    plain emit test
    put ')'
    body emit inner
  | .forLoop, [first, test, step, inner] =>
    text "for ("
    let m := { (← surroundings) with forbidsIn := true }
    ifPresent first fun n => emit (.node n .lowest m)
    put ';'
    ifPresent test fun n => do
      blank
      plain emit n
    put ';'
    ifPresent step fun n => do
      blank
      plain emit n
    put ')'
    body emit inner
  | .forIn, [left, values, inner] =>
    text "for ("
    forEach emit " in " left values inner .lowest
  | .forOf awaits, [left, values, inner] =>
    text (if awaits then "for await (" else "for (")
    forEach emit " of " left values inner .comma
  | .continueStatement label, _ => jump "continue" label
  | .breakStatement label, _ => jump "break" label
  | .returnStatement, [value] =>
    text "return"
    ifPresent value fun n => do
      blank
      plain emit n
    semicolonLine
  | .throwStatement, [value] =>
    text "throw "
    plain emit value
    semicolonLine
  | .withStatement, [object, inner] =>
    text "with("
    plain emit object
    put ')'
    body emit inner
  | .labeled label, [inner] =>
    puts label
    put ':'
    body emit inner
  | .switchStatement, [value, cases] =>
    text "switch ("
    plain emit value
    text ") "
    braces cases.children.isEmpty (each (switchCase emit) cases.children)
    newLine
  | .tryStatement, parts => tryStatement emit parts
  | .debuggerStatement, _ =>
    text "debugger"
    semicolonLine
  | _, _ => pure ()

/-! ### Statements -/

/-- Whether a shape declares something. -/
private def isDeclaration : Shape → Bool
  | .variableList .. | .function _ | .classNode _ | .interfaceNode _ | .enumNode .. | .typeAlias _
  | .namespaceNode .. | .globalNode _ | .importEquals _ => true
  | _ => false

/-- Whether a shape imports or exports something. -/
private def isModuleStatement : Shape → Bool
  | .importDeclaration .. | .exportDeclaration | .exportNames _ | .exportAll _ | .exportDefault
  | .exportAssignment | .exportNamespace _ => true
  | _ => false

/-- Whether the line of a statement is indented before its comments, and not after them. -/
private def indentsFirst : Shape → Bool
  | .typeAlias _ | .interfaceNode _ | .enumNode .. | .importEquals _ | .exportAssignment
  | .exportNamespace _ => true
  | _ => false

/-- Writes a statement on lines of its own. -/
def statement (n : Node) : Printer Unit := do
  let shape := n.value.shape
  putIf (indentsFirst shape) indent
  commentsAt n.value.start
  if indentsFirst shape then
    if isDeclaration shape then declarationLine emit shape n.children
    else moduleStatement emit shape n.children
  else if isDeclaration shape then
    if (match shape with | .function head => head.noEffects | _ => false) then
      indent
      noEffectsLine n
    indent
    declarationLine emit shape n.children
  else if isModuleStatement shape then
    match n.children with
    | [inner] =>
      match shape with
      | .exportDeclaration | .exportDefault => noEffectsLine inner
      | _ => pure ()
    | _ => pure ()
    indent
    moduleStatement emit shape n.children
  else
    indent
    plainStatement emit n

end SourceEdit.Script.Printer
