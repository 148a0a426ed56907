import SourceEdit.Script.Printer.Types

/-!
# Writing expressions

Parentheses are not kept from the source: an expression is written between parentheses where its
operator binds too loosely for its place, or where it would start something else.
-/

namespace SourceEdit.Script.Printer

variable (emit : Task → Printer Unit)

/-- The mark of a call that is free of effects. -/
private def pureMark : String := "/* @__PURE__ */ "

/-- The mark of a function that is free of effects. -/
def noEffectsMark : String := "/* @__NO_SIDE_EFFECTS__ */ "

/-- Writes a word where a word may stand before it. -/
def word (cs : List Char) : Printer Unit := do
  wordBreak
  puts cs

/-! ### Operators -/

/-- The strengths that the operands of an operator have to exceed. -/
private def operandStrengths (operator : BinaryOperator) (left right : Node) :
    Precedence × Precedence :=
  let p := operator.precedence
  let (l, r) := if operator.groupsRight then (p, p.looser) else (p.looser, p)
  let mixes (n : Node) : Bool :=
    match n.withoutParentheses.value.shape with
    | .binary .or | .binary .and => true
    | _ => false
  let isUnary : Bool :=
    match left.withoutParentheses.value.shape with
    | .unary _ => true
    | _ => false
  match operator with
  | .or | .and => (l, p.looser)
  | .coalesce =>
    (if mixes left then .prefixed else l, if mixes right then .prefixed else r)
  | .power => (if isUnary then .call else l, r)
  | _ => (l, r)

/-- Whether an expression asks for a private name. -/
private def asksPrivateName (n : Node) : Bool :=
  match n.withoutParentheses.value.shape with
  | .privateIn _ => true
  | _ => false

/-- Writes an expression with two operands. A question for a private name stands on the left without
parentheses, whatever the operator. -/
def binary (operator : BinaryOperator) (left right : Node) (above : Precedence) (m : Mode) :
    Printer Unit := do
  let wrapped := above.atLeast operator.precedence || (operator == .in_ && m.forbidsIn)
  let m : Mode := { forbidsIn := m.forbidsIn && !wrapped }
  let (l, r) := operandStrengths operator left right
  wrap wrapped do
    emit (.node left (if asksPrivateName left then .lowest else l) m)
    blank
    if operator == .in_ || operator == .instanceof_ then word operator.text
    else sign (.binary operator) operator.text
    blank
    emit (.node right r m)

/-- Writes an expression with an operator before it. -/
def unary (operator : UnaryOperator) (operand : Node) (above : Precedence) (m : Mode) :
    Printer Unit :=
  wrap (above.atLeast .prefixed) do
    if operator.isWord then
      word operator.text
      blank
    else sign (.unary operator) operator.text
    emit (.node operand .power m)

/-- Writes an increment or decrement. A blank that the sign needs stands before the whole, even if
the sign itself comes after its operand. -/
def update (isIncrement isPrefixed : Bool) (operand : Node) (above : Precedence) (m : Mode) :
    Printer Unit := do
  let mark := bareSign (.update isIncrement) (if isIncrement then ['+', '+'] else ['-', '-'])
  if isPrefixed then
    wrap (above.atLeast .prefixed) do
      signBreak (.update isIncrement)
      mark
      emit (.node operand .prefixed m)
  else
    wrap (above.atLeast .postfixed) do
      signBreak (.update isIncrement)
      emit (.node operand .postfixed m)
      mark

/-- Writes an assignment. -/
def assignment (operator : Option BinaryOperator) (target value : Node) (above : Precedence)
    (m : Mode) : Printer Unit := do
  let o ← get
  let starts := o.statementStart == o.length || o.arrowBodyStart == o.length
  wrap (above.atLeast .assign || (starts && target.value.shape == .objectTarget)) do
    emit (.node target .comma {})
    blank
    puts ((operator.map BinaryOperator.text).getD [])
    text "= "
    emit (.node value .comma m)

/-- Writes a choice between two values. -/
def conditional (test whenTrue whenFalse : Node) (above : Precedence) (m : Mode) :
    Printer Unit := do
  let wrapped := above.atLeast .conditional
  let m : Mode := { forbidsIn := m.forbidsIn && !wrapped }
  wrap wrapped do
    emit (.node test .conditional m)
    text " ? "
    emit (.node whenTrue .yield {})
    text " : "
    emit (.node whenFalse .yield m)

/-! ### Members and calls -/

/-- Writes arguments between parentheses; where comments stand before some of them, each stands on
a line of its own. -/
def arguments (stop : Nat) (items : List Node) : Printer Unit := do
  put '('
  let atEnd ← if stop > 0 then hasComments (stop - 1) else pure false
  let o ← get
  let before := items.any fun n => o.comments.any (·.attachedTo == some n.value.start)
  if atEnd || before then
    deeper do
      separatedBy (put ',') (fun n => do
        if !(← itemComments n.value.start) then newLine
        indent
        item emit n) items
      let written ← if atEnd then itemComments (stop - 1) else pure false
      putIf (!written) newLine
    indent
  else commas (item emit) items
  put ')'

/-- Writes a call. -/
def call (isOptional isPure : Bool) (stop : Nat) (parts : List Node) (above : Precedence)
    (m : Mode) : Printer Unit := do
  match parts with
  | [callee, generics, items] =>
    let o ← get
    let startsStatement := o.statementStart == o.length
    let startsDefault := o.defaultStart == o.length
    wrap (above.atLeast .new || m.forbidsCall || (above.atLeast .postfixed && isPure)) do
      putIf isPure (text pureMark)
      if startsDefault then modify fun o => { o with defaultStart := o.length }
      else if startsStatement then modify fun o => { o with statementStart := o.length }
      emit (.node callee .postfixed {})
      putIf isOptional (text "?.")
      ifPresent generics (plain emit)
      arguments emit stop items.children
  | _ => pure ()

/-- Writes a new instance. -/
def newCall (isPure : Bool) (stop : Nat) (parts : List Node) (above : Precedence) : Printer Unit :=
  match parts with
  | [callee, generics, items] =>
    wrap (above.atLeast .member || (above.atLeast .postfixed && isPure)) do
      putIf isPure (text pureMark)
      word ['n', 'e', 'w']
      blank
      emit (.node callee .new { forbidsCall := true })
      ifPresent generics (plain emit)
      arguments emit stop items.children
  | _ => pure ()

/-- Writes a call of `import`. -/
def importCall (phase : Option ImportPhase) (stop : Nat) (parts : List Node) (above : Precedence)
    (m : Mode) : Printer Unit :=
  match parts with
  | [source, options] =>
    wrap (above.atLeast .new || m.forbidsCall) do
      word ['i', 'm', 'p', 'o', 'r', 't']
      match phase with
      | some .defer_ => text ".defer"
      | some .source_ => text ".source"
      | none => pure ()
      put '('
      let atEnd ← if stop > 0 then hasComments (stop - 1) else pure false
      let beforeSource ← hasComments source.value.start
      let beforeOptions ← hasComments options.value.start
      if atEnd || beforeSource || (beforeOptions && !options.isAbsent) then
        deeper do
          if !(← itemComments source.value.start) then newLine
          indent
          item emit source
          ifPresent options fun n => do
            put ','
            newLine
            indent
            item emit n
          let written ← if atEnd then itemComments (stop - 1) else pure false
          putIf (!written) newLine
      else
        item emit source
        ifPresent options fun n => do
          text ", "
          item emit n
      put ')'
  | _ => pure ()

/-- Writes a member. A blank parts the point from a number that would take it for its own. -/
def member (isOptional : Bool) (name : Name) (object : Node) (m : Mode) : Printer Unit := do
  emit (.node object .postfixed { forbidsCall := m.forbidsCall })
  let o ← get
  if isOptional then put '?' else putIf (o.wholeNumberEnd == o.length) blank
  put '.'
  puts name

/-- Writes a private member. -/
def privateMember (isOptional : Bool) (name : Name) (object : Node) (m : Mode) : Printer Unit := do
  emit (.node object .postfixed { forbidsCall := m.forbidsCall })
  putIf isOptional (put '?')
  text ".#"
  puts name

/-- The node without parentheses and without marks of its type around it. -/
private def withoutTypes : Node → Node
  | .node ⟨.parenthesized, _, _⟩ [n] => withoutTypes n
  | .node ⟨.asType, _, _⟩ [n, _] => withoutTypes n
  | .node ⟨.satisfiesType, _, _⟩ [n, _] => withoutTypes n
  | .node ⟨.typeAssertion, _, _⟩ [_, n] => withoutTypes n
  | .node ⟨.nonNull, _, _⟩ [n] => withoutTypes n
  | .node ⟨.instantiation, _, _⟩ [n, _] => withoutTypes n
  | n => n

/-- Writes a member that is given by a key. The name `let` would start a declaration. -/
def index (isOptional : Bool) (object k : Node) (m : Mode) : Printer Unit := do
  wrap ((withoutTypes object).name? == some ['l', 'e', 't'])
    (emit (.node object .postfixed { forbidsCall := m.forbidsCall }))
  putIf isOptional (text "?.")
  put '['
  plain emit k
  put ']'

/-! ### Arrays and objects -/

/-- Writes an array; more than two elements stand on lines of their own. -/
def array (items : List Node) : Printer Unit := do
  let isLong := items.length > 2
  let endsInHole := (items.getLast?.map fun n => n.value.shape == .hole).getD false
  let line : Printer Unit := do
    newLine
    indent
  put '['
  let body : Printer Unit := do
    separatedBy (putIf (!isLong) (text ", "))
      (fun (n, isLast) => do
        putIf isLong line
        item emit n
        putIf (isLong && !isLast) (put ','))
      (items.zipIdx.map fun (n, i) => (n, i + 1 == items.length))
    putIf endsInHole (put ',')
  if isLong then
    deeper body
    line
  else body
  put ']'

/-- Writes an object; more than one property stand on lines of their own. With comments before it,
the object stands between parentheses. -/
def object (start : Nat) (items : List Node) (m : Mode) : Printer Unit := do
  let o ← get
  let isLong := items.length > 1
  let line : Printer Unit := do
    newLine
    indent
  let commented ← hasComments start
  wrap (commented || o.statementStart == o.length || o.arrowBodyStart == o.length) do
    inlineComments start
    put '\x7b'
    if isLong then
      deeper (separatedBy (put ',') (fun n => do
        line
        emit (.node n .lowest m)) items)
      line
    else each (fun n => do
      blank
      emit (.node n .lowest m)
      blank) items
    put '\x7d'

/-- Whether a value is the name that its key spells. -/
def isShorthand (k value : Node) : Bool :=
  match k.value.shape, value.value.shape with
  | .name n, .name v => n == v
  | _, _ => false

/-- The name that objects give to what they inherit from. -/
private def protoName : Name := ['_', '_', 'p', 'r', 'o', 't', 'o', '_', '_']

/-- Whether a property is written by its name alone. -/
private def propertyIsShort (wasShort isComputed : Bool) (k value : Node) : Bool :=
  if isComputed then false
  else match k.value.shape with
    | .name n => if n == protoName then wasShort else isShorthand k value.withoutParentheses
    | _ => false

/-- Whether a key that is a number has to be computed. -/
private def isInfiniteKey (k : Node) : Bool :=
  match k.value.shape with
  | .number value _ => value.isInfinite
  | _ => false

/-- Writes a property. -/
def property (isComputed wasShort : Bool) (k value : Node) : Printer Unit := do
  if !propertyIsShort wasShort isComputed k value then
    key emit (isComputed || isInfiniteKey k) k
    text ": "
  item emit value

/-- Writes the head and body of a method after its words. -/
def methodRest (isComputed isOptional : Bool) (k function : Node) (m : Mode) : Printer Unit := do
  match function with
  | .node ⟨.function head, _, _⟩ [_, generics, receiver, params, result, body] =>
    putIf head.isAsync (text "async ")
    putIf head.isGenerator (put '*')
    key emit isComputed k
    putIf isOptional (put '?')
    ifPresent generics (plain emit)
    parameters emit receiver params m
    afterColon emit result
    if body.value.shape == .absent then put ';'
    else
      blank
      emit (.node body .lowest m)
  | _ => pure ()

/-- Writes a method of an object. Its receiver is not written. -/
def methodProperty (kind : MethodKind) (isComputed : Bool) (k function : Node) (m : Mode) :
    Printer Unit := do
  text (methodWord kind)
  match function with
  | .node head [name, generics, _, params, result, body] =>
    methodRest emit isComputed false k
      (.node head [name, generics, Node.absent, params, result, body]) m
  | _ => pure ()

/-! ### Patterns and targets -/

/-- Writes the items of an array target between brackets. -/
def arrayTarget (items : List Node) : Printer Unit := do
  put '['
  commas (plain emit) items
  putIf ((items.getLast?.map fun n => n.value.shape == .hole).getD false) (put ',')
  put ']'

/-- Writes the items of an array pattern between brackets. A blank stands before a rest. -/
def arrayPattern (items : List Node) : Printer Unit :=
  match items with
  | [.node ⟨.rest, start, stop⟩ parts] => do
    text "[ "
    plain emit (.node ⟨.rest, start, stop⟩ parts)
    put ']'
  | items => arrayTarget emit items

/-- Writes the properties of an object target between braces. -/
def objectTarget (items : List Node) : Printer Unit := do
  put '\x7b'
  commas (plain emit) items
  put '\x7d'

/-- Writes the properties of an object pattern between braces. -/
def objectPattern (items : List Node) : Printer Unit := do
  put '\x7b'
  putIf (!items.isEmpty) blank
  commas (plain emit) items
  putIf (!items.isEmpty) blank
  put '\x7d'

/-- The node without the default that it may have. -/
private def withoutDefault (n : Node) : Node :=
  match n with
  | .node ⟨.patternWithDefault, _, _⟩ [bound, _] => bound
  | .node ⟨.targetWithDefault, _, _⟩ [bound, _] => bound
  | n => n

/-- Writes a property of a pattern; the key is left out where it is the name that is bound. -/
def patternProperty (isComputed : Bool) (k value : Node) : Printer Unit := do
  if isComputed || !isShorthand k (withoutDefault value) then
    key emit isComputed k
    text ": "
  plain emit value

/-- Writes a property of a target, always with its key. -/
def targetProperty (isComputed : Bool) (k value : Node) : Printer Unit := do
  key emit isComputed k
  text ": "
  plain emit value

/-- Writes something with its default. -/
def withDefault (bound value : Node) : Printer Unit := do
  plain emit bound
  text " = "
  item emit value

/-! ### Functions -/

/-- Writes a function. -/
def function (head : FunctionHead) (parts : List Node) (m : Mode) : Printer Unit := do
  match parts with
  | [name, generics, receiver, params, result, body] =>
    let isExpression := head.role == .expression
    putIf (isExpression && head.noEffects) (text noEffectsMark)
    let o ← get
    let starts := o.statementStart == o.length || o.defaultStart == o.length
    let m := { m with forbidsCall := false }
    wrap (isExpression && (starts || head.enclosed)) do
      wordBreak
      putIf head.isDeclare (text "declare ")
      putIf head.isAsync (text "async ")
      text "function"
      putIf head.isGenerator (text "* ")
      ifPresent name fun n => do
        wordBreak
        plain emit n
      ifPresent generics (plain emit)
      parameters emit receiver params m
      afterColon emit result
      if body.value.shape == .absent then put ';'
      else
        blank
        emit (.node body .lowest m)
  | _ => pure ()

/-- The expression that the body of an arrow function is. -/
private def bodyExpression? (body : Node) : Option Node :=
  match body.children with
  | [_, statements] =>
    match statements.children with
    | .node ⟨.expressionStatement, _, _⟩ [e] :: _ => some e
    | _ => none
  | _ => none

/-- Writes an arrow function. -/
def arrow (isAsync isExpression noEffects enclosed : Bool) (parts : List Node) (above : Precedence)
    (m : Mode) : Printer Unit := do
  match parts with
  | [generics, params, result, body] =>
    putIf noEffects (text noEffectsMark)
    wrap (above.atLeast .assign || enclosed) do
      if isAsync then
        word ['a', 's', 'y', 'n', 'c']
        blank
      ifPresent generics (plain emit)
      parameters emit .absent params m
      afterColon emit result
      text " => "
      if isExpression then
        match bodyExpression? body with
        | some e =>
          modify fun o => { o with arrowBodyStart := o.length }
          emit (.node e .comma m)
        | none => pure ()
      else emit (.node body .lowest m)
  | _ => pure ()

/-! ### Elements -/

/-- Writes the value of an attribute that is a text. -/
def attributeText (raw : List Char) : Printer Unit := do
  let quote := if raw.contains '"' then '\'' else '"'
  put quote
  puts raw
  put quote

/-- Writes an attribute. -/
def elementAttribute (name : Name) (value : Node) : Printer Unit := do
  puts name
  ifPresent value fun n => do
    put '='
    plain emit n

/-- Writes an expression between braces. -/
def container (n : Node) : Printer Unit := do
  put '\x7b'
  match n.value.shape with
  | .emptyExpression => commentsAt n.value.stop
  | _ => plain emit n
  put '\x7d'

/-- Writes an element. -/
def element (name : Name) (isClosed : Bool) (parts : List Node) : Printer Unit := do
  match parts with
  | [_, attributes, children] =>
    put '<'
    puts name
    each (fun n => do
      blank
      plain emit n) attributes.children
    if isClosed then text " />"
    else
      put '>'
      each (plain emit) children.children
      text "</"
      puts name
      put '>'
  | _ => pure ()

end SourceEdit.Script.Printer
