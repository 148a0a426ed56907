import SourceEdit.Script.Parser.Types

/-!
# Functions

Lists of statements with the directives before them, functions with a body of their own, and arrow
functions, which are told apart from parenthesized expressions by looking ahead.
-/

namespace SourceEdit.Script

namespace Node

/-- Marks a function, perhaps between parentheses, as free of effects. -/
def markNoEffects : Node → Node
  | .node ⟨.parenthesized, a, b⟩ [inner] => .node ⟨.parenthesized, a, b⟩ [markNoEffects inner]
  | .node ⟨.function head, a, b⟩ parts =>
    .node ⟨.function { head with noEffects := true }, a, b⟩ parts
  | .node ⟨.arrow isAsync isExpression _ enclosed, a, b⟩ parts =>
    .node ⟨.arrow isAsync isExpression true enclosed, a, b⟩ parts
  | n => n

/-- Marks the call that is evaluated first as free of effects. -/
def markPure : Node → Node
  | .node ⟨.call isOptional _, a, b⟩ parts => .node ⟨.call isOptional true, a, b⟩ parts
  | .node ⟨.newCall _, a, b⟩ parts => .node ⟨.newCall true, a, b⟩ parts
  | .node ⟨.parenthesized, a, b⟩ [inner] => .node ⟨.parenthesized, a, b⟩ [markPure inner]
  | .node ⟨.chain, a, b⟩ [inner] => .node ⟨.chain, a, b⟩ [markPure inner]
  | .node ⟨.binary operator, a, b⟩ [left, right] =>
    .node ⟨.binary operator, a, b⟩ [markPure left, right]
  | .node ⟨.conditional, a, b⟩ [test, left, right] =>
    .node ⟨.conditional, a, b⟩ [markPure test, left, right]
  | n => n

/-- Marks a function as written between parentheses of its own. -/
def markEnclosed : Node → Node
  | .node ⟨.function head, a, b⟩ parts =>
    .node ⟨.function { head with enclosed := true }, a, b⟩ parts
  | .node ⟨.arrow isAsync isExpression noEffects _, a, b⟩ parts =>
    .node ⟨.arrow isAsync isExpression noEffects true, a, b⟩ parts
  | n => n

end Node

namespace Parser

variable (parse : Goal → Parser Node)

/-! ### Lists of statements -/

/-- The directive that a statement is, given the text between quotes that it started with. -/
def directive? (raw : Option (List Char)) (n : Node) : Option Node :=
  match raw, n with
  | some raw, .node ⟨.expressionStatement, a, b⟩ [.node ⟨.string _, _, _⟩ _] =>
    some (.ofShape (.directive raw) a b)
  | _, _ => none

/-- Splits the directives off the front of a list of statements. -/
def splitDirectives : List (Option (List Char) × Node) → List Node × List Node
  | [] => ([], [])
  | (raw, n) :: rest =>
    match directive? raw n with
    | some d =>
      let (ds, ss) := splitDirectives rest
      (d :: ds, ss)
    | none => ([], n :: rest.map (·.2))

/-- Statements up to an end that is not read: the directives at their front, and the others. -/
def statementsUntil (isEnd : Token → Bool) : Parser (List Node × List Node) := do
  let items ← collect do
    let t ← current
    if isEnd t then return none
    let n ← parse (.statement .list)
    return some (if t.isString then some t.text else none, n)
  return splitDirectives items

/-- Statements between braces, without directives. -/
def bracedStatements : Parser Node := do
  expect .braceOpen
  let items ← collect do
    if ← isAt .braceClose then return none
    return some (← parse (.statement .list))
  expect .braceClose
  return .statements items

/-! ### Functions with a body -/

/-- The body of a function. Whether `in` is an operator in it depends on what is around. -/
def functionBody : Parser Node := do
  let start ← here
  expect .braceOpen
  let inner (c : Context) : Context :=
    { c with inFunction := true, isTopLevel := false, inDecorator := false }
  let (directives, statements) ← within inner (statementsUntil parse (·.isPunct .braceClose))
  expect .braceClose
  finish .functionBody start [.group directives, .statements statements]

/-- A function after its name. Where types are allowed a declaration may have no body. -/
def functionRest (owner : ParameterOwner) (head : FunctionHead) (start : Nat) (name : Node)
    (needsBody : Bool) : Parser Node := do
  let inner (c : Context) : Context :=
    { c with allowsIn := true, inAsync := head.isAsync, inGenerator := head.isGenerator }
  let parts ← within inner do
    let generics ← typeParameters parse
    let (self, params) ← parameters parse owner
    let result ← resultAfterColon parse
    let body ← optional (← isAt .braceOpen) (functionBody parse)
    return [name, generics, self, params, result, body]
  let hasBody := !((parts.getLast?.map Node.isAbsent).getD true)
  if !hasBody then
    if needsBody || !(← hasTypes) then failure
    endStatement
  reportIf (hasBody && head.isDeclare && (← context).isAmbient)
  finish (.function head) start parts

/-- The name of a function. -/
def functionName (inner : Context → Context) (isRequired : Bool) : Parser Node := do
  let t ← current
  if t.isBindingName then within inner bindingName
  else
    reportIf (isRequired && t.isPunct .parenOpen)
    return .absent

/-- A function that starts with its keyword, or with `async` before it. -/
def functionNode (role : FunctionRole) (isRequired : Bool) (isDeclare : Bool) (start : Nat) :
    Parser Node := do
  let isAsync ← eatWord .async_
  expectWord .function_
  let isGenerator ← eat .star
  reportIf (isGenerator && role == .declaration && (← context).isAmbient)
  let inner (c : Context) : Context :=
    if role == .expression then { c with inAsync := isAsync, inGenerator := isGenerator } else c
  let name ← functionName inner isRequired
  let head : FunctionHead := { role, isAsync, isGenerator, isDeclare }
  functionRest parse .other head start name (role == .expression)

/-- Whether `async` starts a function. -/
def startsAsyncFunction : Parser Bool := do
  if ← isAtWord .async_ then nextIs fun t => !t.onNewLine && t.isWord .function_
  else return false

/-! ### Arrow functions -/

/-- Whether an arrow function starts here. -/
inductive Likelihood where
  | no
  | perhaps
  | yes
deriving DecidableEq, Repr, Inhabited

/-- Runs a parser that looks ahead; nothing is read. -/
def lookAhead {α : Type} (default : α) (p : Parser α) : Parser α := fun surroundings s =>
  match p surroundings s with
  | some (a, _) => some (a, s)
  | none => some (default, s)

/-- A word that may stand before a parameter. -/
def isParameterWord : Token.Kind → Bool
  | .word .public_ | .word .private_ | .word .protected_ | .word .readonly_ | .word .override_
  | .word .static_ | .word .declare_ | .word .abstract_ | .word .accessor_ => true
  | _ => false

/-- What follows the first name between parentheses. -/
def afterFirstName : Parser Likelihood := do
  match ← kind with
  | .punct .colon => return .yes
  | .punct .question =>
    advance
    match ← kind with
    | .punct .colon | .punct .comma | .punct .eq | .punct .parenClose => return .yes
    | _ => return .no
  | .punct .comma | .punct .eq | .punct .parenClose => return .perhaps
  | _ => return .no

/-- What follows an opening parenthesis. -/
def afterParenthesis : Parser Likelihood := do
  let second ← current
  match second.kind with
  | .punct .parenClose =>
    advance
    match ← kind with
    | .punct .arrow | .punct .braceOpen => return .yes
    | .punct .colon => return if ← hasTypes then .perhaps else .no
    | _ => return .no
  | .punct .bracketOpen | .punct .braceOpen => return .perhaps
  | .punct .ellipsis =>
    advance
    return if ← isAt .parenOpen then .no else .yes
  | _ =>
    if isParameterWord second.kind && (← nextIs (·.isBindingName)) then
      return if ← nextIs (·.isWord .as_) then .no else .yes
    else if !second.isBindingName && !second.isWord .this_ then return .no
    else
      advance
      afterFirstName

/-- What follows an opening angle bracket. -/
def afterAngle : Parser Likelihood := do
  let second ← current
  if !second.isBindingName && !second.isWord .const_ then return .no
  else if ← hasElements then
    advance
    if second.isWord .const_ then advance
    match ← kind with
    | .punct .comma | .punct .eq => return .yes
    | .word .extends_ =>
      advance
      match ← kind with
      | .punct .eq | .punct .greater | .punct .slash => return .no
      | _ => return .yes
    | _ => return .no
  else return .perhaps

/-- Whether an arrow function with parameters between parentheses starts here. -/
def arrowLikelihood : Parser Likelihood := lookAhead .no do
  let opening : Parser Likelihood := do
    match ← kind with
    | .punct .parenOpen =>
      advance
      afterParenthesis
    | .punct .less =>
      advance
      afterAngle
    | _ => return .no
  match ← kind with
  | .punct .parenOpen | .punct .less => opening
  | .word .async_ =>
    advance
    if ← onNewLine then return .no else opening
  | _ => return .no

/-- The body of an arrow function, and whether it is an expression. -/
def arrowBody (isAsync arrowResult : Bool) : Parser (Node × Bool) :=
  within (fun c => { c with inAsync := isAsync, inGenerator := false, isTopLevel := false }) do
    if ← isAt .braceOpen then return (← functionBody parse, false)
    else
      let e ← parse (.assignment arrowResult)
      let statement := Node.ofShape .expressionStatement e.start e.stop [e]
      return (.ofShape .functionBody e.start e.stop [.group [], .statements [statement]], true)

/-- The arrow itself. -/
def arrowMark : Parser Unit := do
  reportIf (← onNewLine)
  expect .arrow

/-- The parts of an arrow function before its arrow, and whether it is asynchronous. -/
def arrowHead : Parser (List Node × Bool) := do
  let isAsync ← eatWord .async_
  let parts ← within (fun c => { c with inAsync := isAsync }) do
    let generics ← typeParameters parse
    let (self, params) ← parameters parse .other
    reportIf !self.isAbsent
    let result ← resultAfterColon parse
    return [generics, params, result]
  arrowMark
  return (parts, isAsync)

/-- An arrow function with its parameters between parentheses. -/
def arrowFunction (arrowResult : Bool) : Parser Node := do
  let start ← here
  let noEffects := (← current).marksNoEffects
  let (parts, isAsync) ← arrowHead parse
  let (body, isExpression) ← arrowBody parse isAsync arrowResult
  finish (.arrow isAsync isExpression noEffects false) start (parts ++ [body])

/-- An arrow function with its parameters between parentheses, if there is one. In the middle of a
conditional expression, one that gives the type of its result has to be followed by the colon of the
conditional. -/
def arrowFunction? (arrowResult : Bool) : Parser (Option Node) := do
  match ← arrowLikelihood with
  | .no => return none
  | .yes => return some (← arrowFunction parse true)
  | .perhaps => attempt do
    let n ← arrowFunction parse arrowResult
    let hasResult := match n.children with
      | [_, _, result, _] => !Node.isAbsent result
      | _ => false
    if !arrowResult && hasResult && !(← isAt .colon) then failure
    return n

/-- An arrow function after the single name that is its parameter. -/
def arrowAfterName (isAsync arrowResult : Bool) (start : Nat) (name : Node) : Parser Node := do
  let parameter := Node.ofShape (.parameter {}) name.start name.stop
    [.group [], name, .absent, .absent]
  let params := Node.ofShape .parameters name.start name.stop [.group [parameter], .absent]
  arrowMark
  let (body, isExpression) ← arrowBody parse isAsync arrowResult
  finish (.arrow isAsync isExpression false false) start [.absent, params, .absent, body]

/-- Whether an asynchronous arrow function with a single name starts here. -/
def startsAsyncName : Parser Bool := do
  if ← isAtWord .async_ then
    follows do
      advance
      let t ← current
      if t.onNewLine || !t.isBindingName then return false
      advance
      isAt .arrow
  else return false

/-- An asynchronous arrow function with a single name, if there is one. -/
def asyncArrow? (arrowResult : Bool) : Parser (Option Node) := do
  if ← startsAsyncName then
    let first ← current
    advance
    let name ← bindingName
    let n ← arrowAfterName parse true arrowResult first.start name
    return some (if first.marksNoEffects then n.markNoEffects else n)
  else return none

end Parser

end SourceEdit.Script
