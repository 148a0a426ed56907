import SourceEdit.Script.Parser.Program
import SourceEdit.Script.Printer.Statements

/-!
# Writing scripts

`emitNode` chooses the writer of each shape, and `emitTask` ties the writers together, with a bound
on how deeply constructs nest.  `Program.text` is the text of a script: its comments are written
before the constructs that they stood before, found by the offset at which those started.
-/

namespace SourceEdit.Script

namespace Printer

variable (emit : Task → Printer Unit)

/-! ### Expressions -/

/-- Writes a name, a literal or another expression without operands. -/
private def atom (shape : Shape) (inType : Bool) : Printer Unit :=
  match shape with
  | .name name => word name
  | .privateName name => do
    put '#'
    puts name
  | .null => word "null".toList
  | .this => word "this".toList
  | .super => word "super".toList
  | .boolean value => word (if value then "true".toList else "false".toList)
  | .number value raw => number value raw inType
  | .bigint value => do
    word (Nat.toDigits 10 value)
    put 'n'
  | .string units => string units
  | .regex pattern flags => do
    put '/'
    puts pattern
    put '/'
    puts (flags.mergeSort fun a b => decide (a ≤ b))
    modify fun o => { o with regexEnd := o.length }
  | .metaProperty object property => do
    word object
    put '.'
    puts property
  | _ => pure ()

/-- Writes an expression whose parts stand where no operator is near. -/
private def delimited (shape : Shape) (start stop : Nat) (parts : List Node) (m : Mode) :
    Printer Unit :=
  match shape, parts with
  | .template texts, parts => template (plain emit) (texts.map escapeScriptEnd) parts
  | .array, items => array emit items
  | .object, items => object emit start items m
  | .spread _, [n] | .rest, [n] => do
    text "..."
    item emit n
  | .property isComputed wasShort, [k, value] => property emit isComputed wasShort k value
  | .methodProperty kind isComputed, [k, function] =>
    methodProperty emit kind isComputed k function m
  | .arrayPattern, items => arrayPattern emit items
  | .objectPattern, items => objectPattern emit items
  | .patternProperty isComputed _, [k, value] => patternProperty emit isComputed k value
  | .targetProperty isComputed, [k, value] => targetProperty emit isComputed k value
  | .patternWithDefault, [bound, value] | .targetWithDefault, [bound, value] =>
    withDefault emit bound value
  | .arrayTarget, items => arrayTarget emit items
  | .objectTarget, items => objectTarget emit items
  | .targetName, [name, value] =>
    if value.value.shape == .absent then plain emit name else withDefault emit name value
  | .element name isClosed, parts => element emit name isClosed parts
  | .fragment, [children] => do
    text "<>"
    each (plain emit) children.children
    text "</>"
  | .attribute name, [value] => elementAttribute emit name value
  | .attributeText raw, _ => attributeText raw
  | .spreadAttribute, [n] => do
    text "\x7b..."
    item emit n
    put '\x7d'
  | .spreadChild, [n] => do
    text "\x7b..."
    plain emit n
    put '\x7d'
  | .elementText raw, _ => puts raw
  | .container, [n] => container emit n
  | .decorator, [n] => decorators emit (.group [Node.ofShape .decorator start stop [n]])
  | _, _ => pure ()

/-- Writes an expression with the operands of its operator. -/
private def operation (shape : Shape) (start stop : Nat) (parts : List Node) (above : Precedence)
    (m : Mode) : Printer Unit :=
  match shape, parts with
  | .unary operator, [n] => unary emit operator n above m
  | .update isIncrement isPrefixed, [n] => update emit isIncrement isPrefixed n above m
  | .binary operator, [left, right] => binary emit operator left right above m
  | .privateIn name, [n] =>
    wrap (above.atLeast .compare) do
      put '#'
      puts name
      text " in "
      emit (.node n .equals { forbidsIn := true })
  | .assignment operator, [target, value] => assignment emit operator target value above m
  | .conditional, [test, whenTrue, whenFalse] =>
    conditional emit test whenTrue whenFalse above m
  | .call isOptional isPure, parts => call emit isOptional isPure stop parts above m
  | .newCall isPure, parts => newCall emit isPure stop parts above
  | .importCall phase, parts => importCall emit phase stop parts above m
  | .member name isOptional, [object] => member emit isOptional name object m
  | .privateMember name isOptional, [object] => privateMember emit isOptional name object m
  | .index isOptional, [object, k] => index emit isOptional object k m
  | .tagged, [tag, generics, quasi] => do
    emit (.node tag .postfixed {})
    ifPresent generics (plain emit)
    plain emit quasi
  | .chain, [n] => wrap (above.atLeast .postfixed) (emit (.node n above m))
  | .sequence, items =>
    wrap (above.atLeast .comma)
      (commas (fun n => emit (.node n .lowest { m with forbidsCall := false })) items)
  | .parenthesized, [n] => emit (.node n above m)
  | .await, [n] =>
    wrap (above.atLeast .prefixed) do
      word "await ".toList
      emit (.node n .power m)
  | .yield isDelegate, [n] =>
    wrap (above.atLeast .assign) do
      word "yield".toList
      putIf isDelegate (put '*')
      ifPresent n fun n => do
        blank
        emit (.node n .yield {})
  | .asType, [n, type] =>
    wrap (above.atLeast .compare) do
      emit (.node n .power m)
      text " as "
      typePart emit type
  | .satisfiesType, [n, type] =>
    wrap (above.atLeast .compare) do
      emit (.node n .power m)
      text " satisfies "
      typePart emit type
  | .typeAssertion, [type, n] =>
    wrap true do
      put '<'
      typePart emit type
      put '>'
      emit (.node n .member m)
  | .nonNull, [n] => do
    wrap (n.value.shape == .parenthesized) (emit (.node n above m))
    put '!'
  | .instantiation, [n, arguments] => do
    emit (.node n above m)
    plain emit arguments
  | .function head, parts => function emit head parts m
  | .classNode head, parts => classNode emit head parts m
  | .arrow isAsync isExpression noEffects enclosed, parts =>
    arrow emit isAsync isExpression noEffects enclosed parts above m
  | shape, parts => delimited emit shape start stop parts m

/-! ### Parts of declarations -/

/-- Writes a part of a declaration. -/
private def declarationPart (shape : Shape) (stop : Nat) (parts : List Node) (m : Mode) :
    Printer Unit :=
  match shape, parts with
  | .functionBody, parts => surroundedBy m (functionBody emit stop parts)
  | .namespaceBody, parts => namespaceBody emit parts
  | .parameter flags, parts => parameter emit flags parts m
  | .receiver, [type] => do
    text "this"
    afterColon emit type
  | .restParameter, [marks, bound, type] => do
    decorators emit marks
    text "..."
    plain emit bound
    afterColon emit type
  | .heritage, [e, arguments] => do
    emit (.node e .call {})
    ifPresent arguments (plain emit)
  | .importAttributes keyword, items => do
    word keyword
    text " \x7b"
    putIf (!items.isEmpty) blank
    commas (plain emit) items
    putIf (!items.isEmpty) blank
    put '\x7d'
  | .importAttribute, [k, value] => do
    plain emit k
    text ": "
    plain emit value
  | .requiredModule, [source] => do
    text "require("
    plain emit source
    put ')'
  | .exportSpecifier typeOnly, [here, there] => exportSpecifier emit typeOnly here there
  | .enumMember isComputed, [k, value] => do
    bracket isComputed (enumKey emit k)
    ifPresent value fun n => do
      text " = "
      plain emit n
  | .typeParameters, items => typeParameterList emit items
  | .typeParameter isConst isIn isOut, parts => typeParameter emit isConst isIn isOut parts
  | _, _ => pure ()

/-! ### All constructs -/

/-- The family of constructs that a shape belongs to. -/
private inductive Family where
  | atom
  | declaration
  | declarationPart
  | type
  | signature
  | expression

/-- The family of a shape. -/
private def family : Shape → Family
  | .name _ | .privateName _ | .null | .this | .super | .boolean _ | .number .. | .bigint _
  | .string _ | .regex .. | .metaProperty .. => .atom
  | .variableList .. | .interfaceNode _ | .enumNode .. | .typeAlias _ | .namespaceNode ..
  | .globalNode _ | .importEquals _ => .declaration
  | .functionBody | .namespaceBody | .parameter _ | .receiver | .restParameter | .heritage
  | .importAttributes _ | .importAttribute | .requiredModule | .exportSpecifier _ | .enumMember _
  | .typeParameters | .typeParameter .. => .declarationPart
  | .wordType _ | .literalType | .referenceType | .qualifiedName _ | .arrayType | .indexedType
  | .tupleType | .tupleLabel .. | .optionalType | .restType | .nullableType _ | .nonNullType _
  | .wildcardType | .unionType | .intersectionType | .conditionalType | .inferType
  | .parenthesizedType | .operatorType _ | .predicateType _ | .functionType
  | .constructorType _ | .queryType | .importType | .mappedType .. | .templateType _ | .objectType
  | .typeArguments => .type
  | .propertySignature _ | .methodSignature .. | .callSignature | .constructSignature
  | .indexSignature .. => .signature
  | _ => .expression

/-- Writes a node. -/
def emitNode (n : Node) (above : Precedence) (m : Mode) : Printer Unit :=
  let shape := n.value.shape
  let parts := n.children
  match family shape with
  | .atom => atom shape m.inType
  | .declaration =>
    match shape with
    | .variableList kind isDeclare => variableList emit kind isDeclare parts m
    | shape => declaration emit shape parts
  | .declarationPart => declarationPart emit shape n.value.stop parts m
  | .type => typeNode emit shape parts
  | .signature => signature emit shape parts m
  | .expression => operation emit shape n.value.start n.value.stop parts above m

/-- Writes what a task says, to a given depth. -/
def emitTask : Nat → Task → Printer Unit
  | 0, _ => pure ()
  | depth + 1, .node n above m => emitNode (emitTask depth) n above m
  | depth + 1, .statement n => statement (emitTask depth) n

end Printer

/-! ### Scripts -/

namespace Program

/-- Whether a comment is written: the marks of constructs without effects are written with the
constructs. -/
private def isWritten (c : Comment) : Bool :=
  c.attachedTo.isSome && c.content != .pure && c.content != .noEffects

/-- Writes a script. -/
private def printer (p : Program) : Printer Unit := do
  match p.root with
  | .node ⟨.program interpreter, _, stop⟩ [directives, items] =>
    let emit := Printer.emitTask (2 * p.root.size + 8)
    Printer.commentsAt 0
    match interpreter with
    | some line =>
      Printer.text "#!"
      Printer.puts line
      Printer.newLine
    | none => pure ()
    Printer.directivesAndStatements emit directives.children items.children
    Printer.commentsAt stop
  | _ => pure ()

/-- The text of a script, its strings in the given quote. -/
def text (quote : Char) (p : Program) : List Char :=
  let style : PrintStyle := { quote, elements := p.dialect.elements }
  let output : Output := { comments := p.comments.filter isWritten }
  ((p.printer.run style).run output).2.text.reverse

end Program

end SourceEdit.Script
