import SourceEdit.Script.Parser.Classes
import SourceEdit.Script.Parser.Elements
import SourceEdit.Script.Parser.Targets

/-!
# Expressions

Operands from literals up to calls, operators with their strengths, assignments and arrow functions.
-/

namespace SourceEdit.Script.Parser

variable (parse : Goal → Parser Node)

/-! ### Literals -/

/-- A token as a node without parts. -/
def leaf (shape : Shape) : Parser Node := do
  let start ← here
  advance
  finish shape start

/-- A regular expression. -/
def regex : Parser Node := do
  let t := Lexer.asRegex (← current)
  if t.kind != .regex then failure
  advancePast .plain t
  finish (.regex t.text t.flags) t.start

/-- A template. Only a tag may see escapes that mean nothing. -/
def template (isTagged : Bool) : Parser Node := do
  let t ← current
  let start := t.start
  reportIf (t.escaped && !isTagged)
  if t.kind == .template true then
    advance
    finish (.template [t.text]) start
  else
    advance
    let (texts, parts) ← iterate (fun (texts, parts) => do
      let e ← within (fun c => { c with allowsIn := true }) (parse .expression)
      let close ← current
      if !close.isPunct .braceClose then failure
      let tail := Lexer.asTemplateTail (← read).bound close
      if !tail.isTemplate then failure
      reportIf (tail.escaped && !isTagged)
      advancePast .plain tail
      return (tail.kind == .template false, texts ++ [tail.text], parts ++ [e])) ([t.text], [])
    finish (.template texts) start parts

/-- A value that is spread. -/
def spread (start : Nat) : Parser Node := do
  let e ← assignmentWithIn parse
  finish (.spread (← isAt .comma)) start [e]

/-- An array. -/
def array : Parser Node := do
  let start ← here
  expect .bracketOpen
  let parts ← collect do
    let partStart ← here
    if ← isAt .bracketClose then return none
    else if ← eat .comma then return some (.ofShape .hole partStart partStart)
    else
      let part ← if ← eat .ellipsis then spread parse partStart else assignmentWithIn parse
      if !(← isAt .bracketClose) then expect .comma
      return some part
  expect .bracketClose
  finish .array start parts

/-- A property that is given by its name alone. -/
def shorthandProperty (t : Token) (key : Node) : Parser Node := do
  if !t.isBindingName then failure
  let c ← context
  reportIf (t.isWord .await_ && c.inAsync)
  reportIf (t.isWord .yield_ && c.inGenerator)
  if ← eat .eq then
    let value ← assignmentWithIn parse
    finish .propertyWithDefault t.start [key, value]
  else finish (.property false true) t.start [key, key]

/-- A property of an object. -/
def objectMember : Parser Node := do
  let start ← here
  if ← eat .ellipsis then spread parse start
  else
    let isAsync ←
      if ← isAtWord .async_ then nextIs fun t => !t.onNewLine && t.followsModifier
      else pure false
    if isAsync then advance
    let (accessor, isGenerator) ← methodWords isAsync
    let keyToken ← current
    let (key, isComputed) ← propertyKey parse
    reportIf (keyToken.kind == .privateName)
    let t ← current
    if isAsync || isGenerator || accessor != .plain || t.isPunct .parenOpen || t.isPunct .less then
      let function ← methodFunction parse .other accessor isAsync isGenerator true
      finish (.methodProperty accessor isComputed) start [key, function]
    else if ← eat .colon then
      let value ← assignmentWithIn parse
      finish (.property isComputed false) start [key, value]
    else if isComputed then failure
    else shorthandProperty parse keyToken key

/-- An object. -/
def object : Parser Node := do
  let start ← here
  expect .braceOpen
  let parts ← itemsUntil .braceClose (objectMember parse)
  expect .braceClose
  finish .object start parts

/-- An expression between parentheses. -/
def parenthesized : Parser Node := do
  let start ← here
  expect .parenOpen
  let innerStart ← here
  let inner ← within (fun c => { c with allowsIn := true }) do
    let first ← parse (.assignment true)
    let others ← collect do
      if ← eat .comma then
        if ← isAt .parenClose then
          report
          return none
        else return some (← parse (.assignment true))
      else return none
    if others.isEmpty then return first else finish .sequence innerStart (first :: others)
  expect .parenClose
  finish .parenthesized start [inner.markEnclosed]

/-! ### Operands -/

/-- A call of `import`, or what is known of the module itself. -/
def importExpression : Parser Node := do
  let start ← here
  advance
  let phase ← do
    if ← eat .dot then
      let t ← current
      match t.kind with
      | .word .meta_ =>
        advance
        modify fun s => { s with isModule := true }
        let property : Name := ['m', 'e', 't', 'a']
        return ← finish (.metaProperty ['i', 'm', 'p', 'o', 'r', 't'] property) start
      | .word .defer_ =>
        advance
        pure (some ImportPhase.defer_)
      | .word .source_ =>
        advance
        pure (some ImportPhase.source_)
      | _ => failure
    else pure none
  expect .parenOpen
  let source ← assignmentWithIn parse
  let options ← optional (← eat .comma) do
    if ← isAt .parenClose then return .absent
    let e ← assignmentWithIn parse
    let _ ← eat .comma
    return e
  expect .parenClose
  finish (.importCall phase) start [source, options]

/-- Arguments between parentheses. -/
def arguments : Parser Node := do
  let start ← here
  expect .parenOpen
  let items ← itemsUntil .parenClose do
    let itemStart ← here
    if ← eat .ellipsis then spread parse itemStart else assignmentWithIn parse
  expect .parenClose
  finish .group start items

/-- The expression and the type arguments of what is called or tagged. -/
def splitInstantiation : Node → Node × Node
  | .node ⟨.instantiation, _, _⟩ [inner, arguments] => (inner, arguments)
  | n => (n, .absent)

/-- A new instance. -/
def newExpression : Parser Node := do
  let start ← here
  expectWord .new_
  if ← eat .dot then
    expectWord .target_
    finish (.metaProperty ['n', 'e', 'w'] ['t', 'a', 'r', 'g', 'e', 't']) start
  else
    let callee ← parse .instanceCallee
    reportIf (← isAt .questionDot)
    reportIf (callee.value.shape matches .importCall _)
    let (callee, generics) := splitInstantiation callee
    let items ← if ← isAt .parenOpen then arguments parse else pure (.group [])
    finish (.newCall false) start [callee, generics, items]

/-- A class with its decorators. -/
def classExpression : Parser Node := do
  let start ← here
  let marks ← decorators parse
  classNode parse { isDeclaration := false } start marks

/-- An operand that a word starts. -/
def wordOperand (w : Word) : Parser Node := do
  match w with
  | .this_ => leaf .this
  | .null_ => leaf .null
  | .true_ => leaf (.boolean true)
  | .false_ => leaf (.boolean false)
  | .super_ =>
    let n ← leaf .super
    let t ← current
    reportIf !(t.isPunct .dot || t.isPunct .bracketOpen || t.isPunct .parenOpen)
    return n
  | .function_ => functionNode parse .expression false false (← here)
  | .class_ => classExpression parse
  | .new_ => newExpression parse
  | .import_ => importExpression parse
  | .async_ =>
    if ← startsAsyncFunction then functionNode parse .expression false false (← here)
    else bindingName
  | _ => bindingName

/-- An operand without members or calls after it, and without regard to the comments before it. -/
def plainPrimary : Parser Node := do
  match ← kind with
  | .name => bindingName
  | .word w => wordOperand parse w
  | .number | .bigint => numberLiteral
  | .string => stringLiteral
  | .template _ => template parse false
  | .punct .slash | .punct .slashEq => regex
  | .punct .bracketOpen => array parse
  | .punct .braceOpen => object parse
  | .punct .parenOpen => parenthesized parse
  | .punct .at => classExpression parse
  | _ => failure

/-- An operand without members or calls after it. -/
def primary : Parser Node := do
  let t ← current
  let n ← plainPrimary parse
  return if t.marksNoEffects then n.markNoEffects else n

/-! ### Members and calls -/

/-- Whether a token starts an expression. -/
def startsExpression (t : Token) : Bool :=
  match t.kind with
  | .name | .number | .bigint | .string | .template _ | .privateName => true
  | .word w =>
    !w.isReserved || [.this_, .super_, .null_, .true_, .false_, .function_, .class_, .new_,
      .import_, .delete_, .typeof_, .void_].contains w
  | .punct p => [.parenOpen, .bracketOpen, .braceOpen, .slash, .slashEq, .plus, .minus, .tilde,
      .bang, .plusPlus, .minusMinus, .less, .at].contains p
  | _ => false

/-- Whether what follows a closing angle bracket shows that it ended type arguments. -/
def endsTypeArguments (t : Token) : Bool :=
  match t.kind with
  | .punct .parenOpen | .template _ => true
  | .punct .less | .punct .greater | .punct .plus | .punct .minus => false
  | kind =>
    t.onNewLine || (BinaryOperator.ofToken? kind).isSome || t.isWord .as_ || t.isWord .satisfies_
      || !startsExpression t

/-- Type arguments in an expression, where an angle bracket may also be an operator. -/
def argumentsInExpression : Parser Node := do
  let start ← here
  if !(← eatLess) then failure
  let items ← itemsUntil .greater (parse .type)
  if (Lexer.asOperator (← current)).isPunct .greaterEq then failure
  expect .greater
  if !endsTypeArguments (← current) then failure
  reportIf items.isEmpty
  finish .typeArguments start items

/-- The member that follows a dot. -/
def memberAfterDot (start : Nat) (n : Node) (isOptional : Bool) : Parser Node := do
  let t ← current
  if t.kind == .privateName then
    advance
    finish (.privateMember t.text isOptional) start [n]
  else if t.isNameOrWord then
    advancePastName
    finish (.member t.text isOptional) start [n]
  else failure

/-- A member by a key between brackets. -/
def indexMember (start : Nat) (n : Node) (isOptional : Bool) : Parser Node := do
  expect .bracketOpen
  let key ← within (fun c => { c with allowsIn := true }) (parse .expression)
  expect .bracketClose
  finish (.index isOptional) start [n, key]

/-- An operand so far, and whether its evaluation may stop early. -/
abbrev Operand := Node × Bool

/-- One more member of an operand, if there is one. -/
def memberStep (allowsChain : Bool) (start : Nat) :
    Operand → Parser (Bool × Operand) := fun (n, inChain) => do
  let t ← current
  let opensChain ←
    if allowsChain && t.isPunct .questionDot then
      nextIs fun k => k.isNameOrWord || k.kind == .privateName || k.isPunct .bracketOpen
        || k.isTemplate
    else pure false
  if opensChain then
    advance
    if ← isAt .bracketOpen then return (true, ← indexMember parse start n true, true)
    else return (true, ← memberAfterDot start n true, true)
  else match t.kind with
    | .punct .dot =>
      advance
      return (true, ← memberAfterDot start n false, inChain)
    | .punct .bracketOpen =>
      if (← context).inDecorator then return (false, n, inChain)
      else return (true, ← indexMember parse start n false, inChain)
    | .template _ =>
      reportIf inChain
      let (tag, generics) := splitInstantiation n
      let quasi ← template parse true
      return (true, ← finish .tagged start [tag, generics, quasi], inChain)
    | .punct .bang =>
      if (← hasTypes) && !t.onNewLine then
        advance
        return (true, ← finish .nonNull start [n], inChain)
      else return (false, n, inChain)
    | .punct .less | .punct .shiftLeft =>
      if ← hasTypes then
        match ← attempt (argumentsInExpression parse) with
        | some generics => return (true, ← finish .instantiation start [n, generics], inChain)
        | none => return (false, n, inChain)
      else return (false, n, inChain)
    | _ => return (false, n, inChain)

/-- One more member or call of an operand, if there is one. -/
def callStep (start : Nat) (o : Operand) : Parser (Bool × Operand) := do
  let (n, inChain) ← iterate (memberStep parse true start) o
  if ← eat .questionDot then
    let generics ← if ← hasTypes then attempt (argumentsInExpression parse) else pure none
    let items ← arguments parse
    let parts := [n, Node.ofOption generics, items]
    return (true, ← finish (.call true false) start parts, true)
  else if ← isAt .parenOpen then
    let (callee, generics) := splitInstantiation n
    let items ← arguments parse
    return (true, ← finish (.call false false) start [callee, generics, items], inChain)
  else return (false, n, inChain)

/-- Marks an expression as one whose evaluation may stop early. -/
def closeChain (n : Node) : Node :=
  match n with
  | .node ⟨shape, a, b⟩ _ =>
    match shape with
    | .call .. | .member .. | .privateMember .. | .index _ | .nonNull =>
      .ofShape .chain a b [n]
    | _ => n

/-- An operand with its members and calls. -/
def leftHandSide : Parser Node := do
  let start ← here
  let first ← primary parse
  let (n, inChain) ← iterate (callStep parse start) (first, false)
  if !inChain then return n
  else
    reportIf (← context).inDecorator
    match n with
    | .node ⟨.instantiation, a, b⟩ [inner, generics] =>
      return .ofShape .instantiation a b [closeChain inner, generics]
    | n => return closeChain n

/-- What a new instance is made of. -/
def instanceCallee : Parser Node := do
  let start ← here
  let first ← primary parse
  let (n, _) ← iterate (memberStep parse false start) (first, false)
  return n

/-! ### Operators before and after an operand -/

/-- Whether `await` is an operator here. -/
def startsAwait : Parser Bool := do
  if (← context).inAsync then return true
  else nextIs fun t => !t.onNewLine && t.isNameOrLiteral

/-- A value that is waited for. -/
def awaitExpression : Parser Node := do
  let start ← here
  let c ← context
  if !c.inAsync then
    if c.isTopLevel && (← read).dialect.loading == .undecided then
      modify fun s => { s with failedAsScript := true }
    else report
  advance
  let e ← within (fun c => { c with inAsync := true }) (parse .unary)
  finish .await start [e]

/-- An expression with its type before it. -/
def typeAssertion : Parser Node := do
  let start ← here
  expect .less
  let type ← parse .type
  expect .greater
  let e ← parse .unary
  finish .typeAssertion start [type, e]

/-- An operand, perhaps with an operator after it. -/
def suffixed : Parser Node := do
  let start ← here
  let e ← parse .leftHandSide
  let t ← current
  let isIncrement := t.isPunct .plusPlus
  if (isIncrement || t.isPunct .minusMinus) && !t.onNewLine then
    let operand ← simpleTarget e
    advance
    finish (.update isIncrement false) start [operand]
  else return e

/-- An operand with the operators around it. -/
def unaryOperand (t : Token) : Parser Node := do
  match UnaryOperator.ofToken? t.kind with
  | some operator =>
    advance
    let e ← parse .unary
    finish (.unary operator) t.start [e]
  | none =>
    match t.kind with
    | .punct .plusPlus | .punct .minusMinus =>
      advance
      let operand ← simpleTarget (← parse .unary)
      finish (.update (t.isPunct .plusPlus) true) t.start [operand]
    | .punct .less =>
      if ← hasElements then parse (.element false)
      else if ← hasTypes then typeAssertion parse
      else failure
    | .word .await_ => if ← startsAwait then awaitExpression parse else suffixed parse
    | _ => suffixed parse

/-- An operand with the operators around it. -/
def unary : Parser Node := do
  let t ← current
  let e ← unaryOperand parse t
  return if t.marksPure then e.markPure else e

/-! ### Operators between operands -/

/-- Whether an operand of one operator needs parentheses because of the other. -/
def mixesCoalesce (operator : BinaryOperator) (operand : Node) : Bool :=
  match operator, operand.value.shape with
  | .coalesce, .binary .or | .coalesce, .binary .and => true
  | .or, .binary .coalesce | .and, .binary .coalesce => true
  | _, _ => false

/-- Whether an operand may not be raised to a power. -/
def refusesPower (operand : Node) : Bool :=
  match operand.value.shape with
  | .unary _ | .await | .typeAssertion => true
  | _ => false

/-- An expression with one more operator. -/
def combine (start : Nat) (operator : BinaryOperator) (left right : Node) :
    Parser Node := do
  reportIf (mixesCoalesce operator left || mixesCoalesce operator right)
  reportIf (operator == .power && refusesPower left)
  finish (.binary operator) start [left, right]

/-- Whether an operator belongs to an expression whose operators bind more tightly than `above`. -/
def continues (above : Precedence) (operator : BinaryOperator) : Bool :=
  if operator.groupsRight then operator.precedence.atLeast above
  else !above.atLeast operator.precedence

/-- One more operator of an expression, if there is one. -/
def binaryStep (above : Precedence) (start : Nat) (left : Node) :
    Parser (Bool × Node) := do
  let t ← current
  let t := if t.isPunct .greater then Lexer.asOperator t else t
  match BinaryOperator.ofToken? t.kind with
  | some operator =>
    if !continues above operator || (operator == .in_ && !(← context).allowsIn) then
      return (false, left)
    else
      advancePast .plain t
      let right ← parse (.binary operator.precedence)
      return (true, ← combine start operator left right)
  | none =>
    let isAs := t.isWord .as_
    if !(isAs || t.isWord .satisfies_) || t.onNewLine || above.atLeast .compare then
      return (false, left)
    else
      reportIf !(← hasTypes)
      advance
      let type ← parse .type
      return (true, ← finish (if isAs then .asType else .satisfiesType) start [left, type])

/-- An expression whose operators bind more tightly than `above`. -/
def binary (above : Precedence) : Parser Node := do
  let t ← current
  let first ←
    if t.kind == .privateName && (← context).allowsIn then
      advance
      expectWord .in_
      let right ← parse (.binary .compare)
      if right.shape matches .privateIn _ then failure
      finish (.privateIn t.text) t.start [right]
    else parse .unary
  iterate (binaryStep parse above t.start) first

/-! ### Assignments -/

/-- Whether `yield` is an operator here. -/
def startsYield : Parser Bool := do
  if !(← isAtWord .yield_) then return false
  else if (← context).inGenerator then return true
  else nextIs fun t => !t.onNewLine && t.isNameOrLiteral

/-- A value that is handed out. -/
def yieldExpression : Parser Node := do
  let start ← here
  reportIf !(← context).inGenerator
  advance
  if ← onNewLine then finish (.yield false) start [.absent]
  else
    let isDelegate ← eat .star
    let ends := match ← kind with
      | .endOfText => true
      | .punct p => [.semicolon, .braceClose, .bracketClose, .parenClose, .colon, .comma].contains p
      | .word .in_ => true
      | _ => false
    let e ← optional (isDelegate || !ends) (parse (.assignment true))
    finish (.yield isDelegate) start [e]

/-- The rest of a conditional expression after its test. -/
def conditionalRest (start : Nat) (test : Node) (arrowResult : Bool) : Parser Node := do
  if ← eat .question then
    let whenTrue ← within (fun c => { c with allowsIn := true }) (parse (.assignment false))
    expect .colon
    let whenFalse ← parse (.assignment arrowResult)
    finish .conditional start [test, whenTrue, whenFalse]
  else return test

/-- An expression without arrow functions at its start. -/
def plainAssignment (arrowResult : Bool) : Parser Node := do
  let first ← current
  let start := first.start
  let left ← parse (.binary .comma)
  let t ← current
  let t := if t.isPunct .greater then Lexer.asOperator t else t
  if t.isPunct .arrow && (left.value.shape matches .name _) then
    let n ← arrowAfterName parse false arrowResult start left
    return if first.marksNoEffects then n.markNoEffects else n
  else match BinaryOperator.ofAssignment? t.kind with
    | some operator =>
      let target ← target left
      advancePast .plain t
      let value ← parse (.assignment arrowResult)
      finish (.assignment operator) start [target, value]
    | none =>
      let n ← conditionalRest parse start left arrowResult
      let n := if first.marksPure then n.markPure else n
      return if first.marksNoEffects then n.markNoEffects else n

/-- An expression without commas. -/
def assignment (arrowResult : Bool) : Parser Node :=
  within (fun c => { c with inDecorator := false }) do
    if ← startsYield then yieldExpression parse
    else match ← arrowFunction? parse arrowResult with
      | some n => return n
      | none =>
        match ← asyncArrow? parse arrowResult with
        | some n => return n
        | none => plainAssignment parse arrowResult

/-- An expression, or several with commas. -/
def expression : Parser Node := do
  let start ← here
  let first ← parse (.assignment true)
  let others ← collect do
    if ← eat .comma then return some (← parse (.assignment true)) else return none
  if others.isEmpty then return first else finish .sequence start (first :: others)

end SourceEdit.Script.Parser
