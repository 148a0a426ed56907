import SourceEdit.Script.Parser.Expressions
import SourceEdit.Script.Parser.Modules

/-!
# Statements
-/

namespace SourceEdit.Script

namespace Node

/-- Marks the functions that a statement declares as free of effects. -/
def markStatementNoEffects : Node → Node
  | .node ⟨.variableList .const_ isDeclare, a, b⟩
      (.node ⟨.declarator isDefinite, c, d⟩ [bound, type, value] :: others) =>
    .node ⟨.variableList .const_ isDeclare, a, b⟩
      (.node ⟨.declarator isDefinite, c, d⟩ [bound, type, Node.markNoEffects value] :: others)
  | .node ⟨.exportDefault, a, b⟩ [inner] => .node ⟨.exportDefault, a, b⟩ [Node.markNoEffects inner]
  | .node ⟨.exportDeclaration, a, b⟩ [inner] =>
    .node ⟨.exportDeclaration, a, b⟩ [markStatementNoEffects inner]
  | .node ⟨.function head, a, b⟩ parts => (Node.markNoEffects (.node ⟨.function head, a, b⟩ parts))
  | n => n

end Node

namespace Parser

variable (parse : Goal → Parser Node)

/-- The statement that another one holds. -/
def inner : Parser Node := parse (.statement .single)

/-- An expression, `in` being an operator. -/
def expressionWithIn : Parser Node :=
  within (fun c => { c with allowsIn := true }) (parse .expression)

/-- An expression between parentheses. -/
def condition : Parser Node := do
  expect .parenOpen
  let e ← parse .expression
  expect .parenClose
  return e

/-! ### Expressions and labels -/

/-- An expression as a statement, or a statement with a label. -/
def expressionOrLabel : Parser Node := do
  let start ← here
  let e ← parse .expression
  match e.value.shape with
  | .name label =>
    if ← eat .colon then
      let body ← inner parse
      finish (.labeled label) start [body]
    else
      endStatement
      finish .expressionStatement start [e]
  | _ =>
    endStatement
    finish .expressionStatement start [e]

/-! ### Declarations -/

/-- Variables as a statement. -/
def variableStatement (place : StatementPlace) : Parser Node := do
  let start ← here
  let isVar ← isAtWord .var_
  let n ← variableList parse false false start
  endStatement
  reportIf (place == .single && !isVar)
  return .ofShape n.value.shape start (← before) n.children

/-- A statement that starts with `let`, which may also be a name.  After the name an operator makes
an expression without commas, and a dot or parenthesis one that needs no end of its own. -/
def letStatement (place : StatementPlace) : Parser Node := do
  let start ← here
  let isOperand ← nextIs fun t =>
    (BinaryOperator.ofAssignment? t.kind).isSome || (BinaryOperator.ofToken? t.kind).isSome
  let isObject ← nextIs fun t => t.isPunct .dot || t.isPunct .parenOpen
  let isName ← nextIs fun t =>
    (place == .single && !t.isPunct .bracketOpen) || t.isPunct .semicolon
  if isOperand then
    let e ← parse (.assignment true)
    endStatement
    finish .expressionStatement start [e]
  else if isObject then
    let e ← parse .expression
    finish .expressionStatement start [e]
  else if isName then
    let e ← bindingName
    endStatement
    finish .expressionStatement start [e]
  else variableStatement parse place

/-- A function as a statement. -/
def functionStatement (place : StatementPlace) : Parser Node := do
  let n ← functionNode parse .declaration true false (← here)
  match n.value.shape with
  | .function head => reportIf (place == .single && (head.isAsync || head.isGenerator))
  | _ => pure ()
  return n

/-- A class as a statement. -/
def classStatement (place : StatementPlace) : Parser Node := do
  reportIf (place == .single)
  classNode parse { isDeclaration := true } (← here) []

/-- A statement that starts with decorators. -/
def decoratedStatement (place : StatementPlace) : Parser Node := do
  let start ← here
  let marks ← decorators parse
  if ← isAtWord .export_ then exportDeclaration parse start marks
  else
    reportIf (place == .single)
    let n ← declaration parse start marks
    if !(n.value.shape matches .classNode _) then failure
    return n

/-! ### Loops -/

/-- Notes `await` where there is nothing to wait in. -/
def checkAwait : Parser Unit := do
  let c ← context
  if !c.inAsync then
    if c.isTopLevel && (← read).dialect.loading == .undecided then
      modify fun s => { s with failedAsScript := true }
    else report

/-- The rest of a loop after its start. -/
def forRest (start : Nat) (awaits : Bool) (first : Node) : Parser Node := do
  expect .semicolon
  match first with
  | .node ⟨.variableList kind _, _, _⟩ items => items.forM (checkValue kind)
  | _ => pure ()
  let test ← optional (!(← isAt .semicolon)) (expressionWithIn parse)
  expect .semicolon
  let step ← optional (!(← isAt .parenClose)) (expressionWithIn parse)
  expect .parenClose
  reportIf awaits
  let body ← inner parse
  finish .forLoop start [first, test, step, body]

/-- The rest of a loop over keys or values after its variable. -/
def forEachRest (start : Nat) (awaits : Bool) (left : Node) : Parser Node := do
  if ← eatWord .in_ then
    let isDisposed := match left.shape with
      | .variableList kind _ => isDisposed kind
      | _ => false
    reportIf (awaits || isDisposed)
    let object ← parse .expression
    expect .parenClose
    let body ← inner parse
    finish .forIn start [left, object, body]
  else
    expectWord .of_
    let values ← parse (.assignment true)
    expect .parenClose
    let body ← inner parse
    finish (.forOf awaits) start [left, values, body]

/-- Whether a loop goes over keys or values. -/
def isForEach : Parser Bool := return (← isAtWord .in_) || (← isAtWord .of_)

/-- Whether the head of a loop starts with variables. -/
def startsLoopVariables : Parser Bool := do
  match ← kind with
  | .word .var_ | .word .const_ => return true
  | .word .let_ =>
    nextIs fun t =>
      t.isPunct .braceOpen || t.isPunct .bracketOpen || (t.isNameOrWord && !t.isWord .in_)
  | .word .using_ =>
    return (← startsUsing) && !(← nextIs (·.isWord .of_))
  | .word .await_ => startsUsing
  | _ => return false

/-- A loop with a head. -/
def forStatement : Parser Node := do
  let start ← here
  expectWord .for_
  let awaits ← eatWord .await_
  if awaits then checkAwait
  expect .parenOpen
  let without := within fun c => { c with allowsIn := false }
  if ← isAt .semicolon then forRest parse start awaits .absent
  else if ← startsLoopVariables then
    let first ← without (variableList parse true false (← here))
    if ← isForEach then forEachRest parse start awaits first
    else forRest parse start awaits first
  else
    let t ← current
    let isAsyncOf := t.isWord .async_ && !t.escaped && (← nextIs (·.isWord .of_))
    let e ← without (parse .expression)
    if ← isForEach then
      let isOf ← isAtWord .of_
      reportIf (isOf && (isAsyncOf && !awaits || t.isWord .let_))
      let left ← target e
      forEachRest parse start awaits left
    else forRest parse start awaits e

/-! ### Branches -/

/-- A choice between two statements. -/
def ifStatement : Parser Node := do
  let start ← here
  expectWord .if_
  let test ← condition parse
  let whenTrue ← inner parse
  let whenFalse ← optional (← eatWord .else_) (inner parse)
  finish .ifStatement start [test, whenTrue, whenFalse]

/-- A case of a switch. -/
def switchCase : Parser Node := do
  let start ← here
  let test ←
    if ← eatWord .default_ then pure .absent
    else
      expectWord .case_
      parse .expression
  expect .colon
  let items ← collect do
    let t ← current
    if t.isWord .case_ || t.isWord .default_ || t.isPunct .braceClose then return none
    let n ← parse (.statement .list)
    match n.shape with
    | .variableList kind _ => reportIf (isDisposed kind)
    | _ => pure ()
    return some n
  finish .switchCase start [test, .statements items]

/-- A choice between cases. -/
def switchStatement : Parser Node := do
  let start ← here
  expectWord .switch_
  let value ← condition parse
  expect .braceOpen
  let cases ← collect do
    if ← isAt .braceClose then return none
    return some (← switchCase parse)
  expect .braceClose
  finish .switchStatement start [value, .group cases]

/-- A block. -/
def block : Parser Node := do
  let start ← here
  let body ← bracedStatements parse
  finish .block start [body]

/-- What is done with an error. -/
def catchClause : Parser Node := do
  let start ← here
  expectWord .catch_
  let bound ← optional (← eat .parenOpen) do
    let bound ← parse .pattern
    let _ ← typeAfterColon parse
    expect .parenClose
    return bound
  let body ← block parse
  finish .catchClause start [bound, body]

/-- A block whose errors are handled. -/
def tryStatement : Parser Node := do
  let start ← here
  expectWord .try_
  let body ← block parse
  let handler ← optional (← isAtWord .catch_) (catchClause parse)
  let finalizer ← optional (← eatWord .finally_) (block parse)
  reportIf (handler.isAbsent && finalizer.isAbsent)
  finish .tryStatement start [body, handler, finalizer]

/-! ### Jumps -/

/-- A jump with a label or without one. -/
def jump (word : Word) (shape : Option Name → Shape) : Parser Node := do
  let start ← here
  expectWord word
  let label ← if ← canEnd then pure none else some <$> labelName
  endStatement
  finish (shape label) start

/-- A return. -/
def returnStatement : Parser Node := do
  let start ← here
  expectWord .return_
  reportIf !(← context).inFunction
  let value ← optional (!(← canEnd)) (expressionWithIn parse)
  endStatement
  finish .returnStatement start [value]

/-- A throw. -/
def throwStatement : Parser Node := do
  let start ← here
  expectWord .throw_
  reportIf (← onNewLine)
  let value ← parse .expression
  endStatement
  finish .throwStatement start [value]

/-! ### Statements -/

/-- A statement that a word starts, if its meaning needs the word. -/
def wordStatement? (place : StatementPlace) (w : Word) : Parser (Option Node) := do
  let start ← here
  match w with
  | .if_ => return some (← ifStatement parse)
  | .do_ =>
    advance
    let body ← inner parse
    expectWord .while_
    let test ← condition parse
    let _ ← eat .semicolon
    return some (← finish .doWhile start [body, test])
  | .while_ =>
    advance
    let test ← condition parse
    let body ← inner parse
    return some (← finish .whileLoop start [test, body])
  | .for_ => return some (← forStatement parse)
  | .continue_ => return some (← jump .continue_ .continueStatement)
  | .break_ => return some (← jump .break_ .breakStatement)
  | .return_ => return some (← returnStatement parse)
  | .with_ =>
    advance
    let object ← condition parse
    let body ← inner parse
    return some (← finish .withStatement start [object, body])
  | .switch_ => return some (← switchStatement parse)
  | .throw_ => return some (← throwStatement parse)
  | .try_ => return some (← tryStatement parse)
  | .debugger_ =>
    advance
    endStatement
    return some (← finish .debuggerStatement start)
  | .class_ => return some (← classStatement parse place)
  | .function_ => return some (← functionStatement parse place)
  | .var_ => return some (← variableStatement parse place)
  | .const_ =>
    if (← hasTypes) && (← nextIs (·.isWord .enum_)) then return some (← declaration parse start [])
    else return some (← variableStatement parse place)
  | .let_ =>
    if (← current).escaped then return none else return some (← letStatement parse place)
  | .export_ => return some (← exportDeclaration parse start [])
  | .import_ =>
    if ← nextIs fun t => t.isPunct .parenOpen || t.isPunct .dot then return none
    else return some (← importDeclaration start)
  | .using_ | .await_ =>
    if ← startsUsing then return some (← variableStatement parse place) else return none
  | .async_ =>
    if ← startsAsyncFunction then return some (← functionStatement parse place) else return none
  | _ => return none

/-- A statement, without regard to the comments before it. -/
def plainStatement (place : StatementPlace) : Parser Node := do
  let start ← here
  match ← kind with
  | .punct .braceOpen => block parse
  | .punct .semicolon =>
    advance
    finish .emptyStatement start
  | .punct .at => decoratedStatement parse place
  | .word w =>
    match ← wordStatement? parse place w with
    | some n => return n
    | none => if ← startsTyped then declaration parse start [] else expressionOrLabel parse
  | _ => expressionOrLabel parse

/-- A statement. -/
def statement (place : StatementPlace) : Parser Node := do
  let t ← current
  let n ← plainStatement parse place
  return if t.marksNoEffects then n.markStatementNoEffects else n

end Parser

end SourceEdit.Script
