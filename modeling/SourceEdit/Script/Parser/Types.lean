import SourceEdit.Script.Parser.Patterns

/-!
# Types

Types, type parameters and type arguments, and the members of object types.
-/

namespace SourceEdit.Script.Parser

variable (parse : Goal → Parser Node)

/-! ### Parameters and arguments -/

/-- Goes past a less-than sign, which may be the start of an operator. -/
def eatLess : Parser Bool := do
  let t ← current
  if t.isPunct .less || t.isPunct .shiftLeft then
    advancePast .plain (Lexer.asLess t)
    return true
  else return false

/-- The words before a type parameter. None of them is repeated. -/
def typeParameterWords : Parser (Bool × Bool × Bool) :=
  iterate (fun (isConst, isIn, isOut) => do
    match ← kind with
    | .word .const_ =>
      reportIf isConst
      advance
      return (true, true, isIn, isOut)
    | .word .in_ =>
      reportIf isIn
      advance
      return (true, isConst, true, isOut)
    | .word .out_ =>
      if ← nextIs (·.isBindingName) then
        reportIf isOut
        advance
        return (true, isConst, isIn, true)
      else return (false, isConst, isIn, isOut)
    | _ => return (false, isConst, isIn, isOut)) (false, false, false)

/-- A type parameter. -/
def typeParameter : Parser Node := do
  let start ← here
  let (isConst, isIn, isOut) ← typeParameterWords
  let name ← bindingName
  let bound ← optional (← eatWord .extends_) (parse .type)
  let default ← optional (← eat .eq) (parse .type)
  finish (.typeParameter isConst isIn isOut) start [name, bound, default]

/-- Type parameters between angle brackets, if there are any. -/
def typeParameters : Parser Node := do
  let start ← here
  if ← ifTyped eatLess then
    let items ← itemsUntil .greater (typeParameter parse)
    expect .greater
    reportIf items.isEmpty
    finish .typeParameters start items
  else return .absent

/-- Type arguments between angle brackets. -/
def typeArguments : Parser Node := do
  let start ← here
  if !(← eatLess) then failure
  let items ← itemsUntil .greater (parse .type)
  expect .greater
  reportIf items.isEmpty
  finish .typeArguments start items

/-- Type arguments, if there are any. -/
def typeArguments? : Parser Node := do
  if (← isAt .less) || (← isAt .shiftLeft) then typeArguments parse else return .absent

/-- Type arguments on the same line, if there are any. -/
def typeArgumentsOnLine : Parser Node := do
  if ← onNewLine then return .absent else typeArguments? parse

/-! ### Names -/

/-- A name with dots, after its first part. -/
def dottedAfter (start : Nat) (first : Node) : Parser Node :=
  iterate (fun left => do
    if ← eat .dot then
      let t ← current
      if !t.isNameOrWord then failure
      advancePastName
      return (true, ← finish (.qualifiedName t.text) start [left])
    else return (false, left)) first

/-- A name with dots. -/
def dottedName : Parser Node := do
  let start ← here
  dottedAfter start (← bindingName)

/-- A type that is referred to by its name, which may be a word. -/
def referenceType : Parser Node := do
  let start ← here
  let name ← dottedAfter start (← anyName)
  let arguments ← typeArgumentsOnLine parse
  finish .referenceType start [name, arguments]

/-! ### Results -/

/-- The type after the subject of a predicate. -/
def predicateRest (asserts : Bool) (start : Nat) (subject : Node) : Parser Node := do
  let type ← optional (← eatWord .is_) (parse .type)
  finish (.predicateType asserts) start [subject, type]

/-- The type `this`. -/
def thisNode : Parser Node := do
  let start ← here
  expectWord .this_
  finish (.wordType .this) start

/-- Whether a word follows on the same line. -/
def wordFollows (w : Word) : Parser Bool := nextIs fun n => !n.onNewLine && n.isWord w

/-- The type `this`, or a predicate on it. -/
def thisType : Parser Node := do
  let start ← here
  if ← wordFollows .is_ then predicateRest parse false start (← thisNode) else thisNode

/-- A predicate that is asserted, if there is one. -/
def assertion? : Parser (Option Node) := do
  let start ← here
  if ← nextIs fun n => !n.onNewLine && (n.isBindingName || n.isWord .this_) then
    advance
    let subject ← if ← isAtWord .this_ then thisNode else bindingName
    return some (← predicateRest parse true start subject)
  else return none

/-- The type of a result, which may be a predicate on an argument. -/
def resultType : Parser Node := do
  let t ← current
  if t.isBindingName && (← wordFollows .is_) then
    predicateRest parse false t.start (← bindingName)
  else parse .type

/-- The type of a result after a colon, if types are allowed and there is one. -/
def resultAfterColon : Parser Node := do
  if ← ifTyped (eat .colon) then resultType parse else return .absent

/-! ### Function types -/

/-- Skips the start of a parameter. -/
def skipParameterStart : Parser Bool := do
  let t ← current
  if t.isBindingName || t.isWord .this_ then
    advance
    return true
  else if t.isPunct .bracketOpen || t.isPunct .braceOpen then
    let _ ← pattern parse
    return true
  else return false

/-- Whether a function type starts here. -/
def startsFunctionType : Parser Bool := do
  match ← kind with
  | .punct .less | .punct .shiftLeft | .word .new_ => return true
  | .word .abstract_ => nextIs (·.isWord .new_)
  | .punct .parenOpen => follows do
    advance
    if (← isAt .parenClose) || (← isAt .ellipsis) then return true
    if !(← skipParameterStart parse) then return false
    match ← kind with
    | .punct .colon | .punct .comma | .punct .question | .punct .eq => return true
    | .punct .parenClose =>
      advance
      isAt .arrow
    | _ => return false
  | _ => return false

/-- The type of a function or constructor. -/
def functionType : Parser Node := do
  let start ← here
  let isAbstract ← eatWord .abstract_
  let isConstructor ← eatWord .new_
  let generics ← typeParameters parse
  let (self, params) ← parameters parse .other
  reportIf (isConstructor && !self.isAbsent)
  expect .arrow
  let result ← resultType parse
  if isConstructor then
    finish (.constructorType isAbstract) start [generics, params, result]
  else finish .functionType start [generics, self, params, result]

/-! ### Members of object types -/

/-- Whether an index signature starts here. -/
def startsIndexSignature : Parser Bool := follows do
  expect .bracketOpen
  let t ← current
  if !t.isBindingName then return false
  advance
  return (← isAt .colon) || (← isAt .comma)

/-- Goes past the mark after a member, if there is one. -/
def endMember : Parser Unit := do
  if !(← eat .comma) then
    let _ ← eat .semicolon

/-- A signature for keys of a type. -/
def indexSignature (start : Nat) (isReadonly : Bool) : Parser Node := do
  expect .bracketOpen
  let name ← current
  advancePastName
  expect .colon
  let key ← parse .type
  expect .bracketClose
  if !(← isAt .colon) then failure
  let value ← typeAfterColon parse
  endMember
  finish (.indexSignature name.text isReadonly) start [key, value]

/-- Whether a word before the name of a member is at the current place. -/
def isAtMemberWord (w : Word) : Parser Bool := do
  if ← isAtWord w then nextIs (·.followsModifier) else return false

/-- The rest of a method signature after its name. -/
def methodSignature (start : Nat) (flags : MemberFlags) (key : Node) : Parser Node := do
  let generics ← typeParameters parse
  let (self, params) ← parameters parse .other
  let result ← resultAfterColon parse
  finish (.methodSignature .plain flags) start [key, generics, self, params, result]

/-- The rest of an accessor signature after its word. One that sets has no result. -/
def accessorSignature (start : Nat) (kind : MethodKind) : Parser Node := do
  let (key, isComputed) ← propertyKey parse
  let (self, params) ← parameters parse .other
  let result ← resultAfterColon parse
  reportIf (kind == .set && !result.isAbsent)
  finish (.methodSignature kind { isComputed }) start [key, .absent, self, params, result]

/-- A property or method of an object type. -/
def memberSignature (start : Nat) (flags : MemberFlags) : Parser Node := do
  if ← isAtMemberWord .get_ then
    advance
    accessorSignature parse start .get
  else if ← isAtMemberWord .set_ then
    advance
    accessorSignature parse start .set
  else
    let (key, isComputed) ← propertyKey parse
    let isOptional ← eat .question
    let flags := { flags with isComputed, isOptional }
    let t ← current
    if t.isPunct .parenOpen || t.isPunct .less then methodSignature parse start flags key
    else
      let type ← typeAfterColon parse
      finish (.propertySignature flags) start [key, type]

/-- Whether a word that modifies members elsewhere stands before a member. -/
def isModifierWord : Token.Kind → Bool
  | .word .public_ | .word .private_ | .word .protected_ | .word .static_ | .word .abstract_
  | .word .override_ | .word .declare_ | .word .async_ | .word .accessor_ | .word .in_
  | .word .out_ | .word .export_ | .word .readonly_ => true
  | _ => false

/-- The words before a member of an object type: whether `readonly` is there. It is the only one
that may be, and only once. -/
def memberModifiers : Parser Bool :=
  iterate (fun isReadonly => do
    let t ← current
    if isModifierWord t.kind
        && (← nextIs fun n => n.followsModifier && (t.isWord .static_ || !n.onNewLine)) then
      reportIf (isReadonly || !t.isWord .readonly_)
      advance
      return (true, true)
    else return (false, isReadonly)) false

/-- A member of an object type, with the mark that may end it. -/
def typeMember : Parser Node := do
  let start ← here
  let t ← current
  let opensCall (n : Token) : Bool := n.isPunct .parenOpen || n.isPunct .less
  let node ←
    if opensCall t then
      let generics ← typeParameters parse
      let (self, params) ← parameters parse .other
      let result ← resultAfterColon parse
      finish .callSignature start [generics, self, params, result]
    else if t.isWord .new_ && (← nextIs opensCall) then
      advance
      let generics ← typeParameters parse
      let (self, params) ← parameters parse .other
      reportIf !self.isAbsent
      let result ← resultAfterColon parse
      finish .constructSignature start [generics, params, result]
    else
      let isReadonly ← memberModifiers
      if ← startsIndexSignature then return ← indexSignature parse start isReadonly
      memberSignature parse start { isReadonly }
  endMember
  return node

/-- The members of an object type, between braces. -/
def typeMembers : Parser (List Node) := do
  expect .braceOpen
  let members ← collect do
    if ← isAt .braceClose then return none
    return some (← typeMember parse)
  expect .braceClose
  return members

/-! ### Mapped types -/

/-- Whether a mapped type starts here. -/
def startsMappedType : Parser Bool := follows do
  expect .braceOpen
  if (← isAt .plus) || (← isAt .minus) then
    advance
    isAtWord .readonly_
  else
    let _ ← eatWord .readonly_
    expect .bracketOpen
    if !(← current).isNameOrWord then return false
    advance
    isAtWord .in_

/-- How a mapped type changes a word of its properties. -/
def mappedModifier (eatMark : Parser Bool) : Parser MappedModifier := do
  if ← eat .plus then
    if ← eatMark then return .add else failure
  else if ← eat .minus then
    if ← eatMark then return .remove else failure
  else if ← eatMark then return .set
  else return .keep

/-- A type made by going through keys. -/
def mappedType : Parser Node := do
  let start ← here
  expect .braceOpen
  let readonly ← mappedModifier (eatWord .readonly_)
  expect .bracketOpen
  let key ← bindingName
  expectWord .in_
  let keys ← parse .type
  let renamed ← optional (← eatWord .as_) (parse .type)
  expect .bracketClose
  let marks ← mappedModifier (eat .question)
  let type ← typeAfterColon parse
  let _ ← eat .semicolon
  expect .braceClose
  finish (.mappedType readonly marks) start [key, keys, renamed, type]

/-! ### Operands -/

/-- Whether an item of a tuple type has a label. -/
def startsLabel : Parser Bool := follows do
  let _ ← eat .ellipsis
  if !(← current).isNameOrWord then return false
  advance
  let _ ← eat .question
  isAt .colon

/-- An item of a tuple type. -/
def tupleItem : Parser Node := do
  let start ← here
  if ← startsLabel then
    let isRest ← eat .ellipsis
    let labelStart ← here
    let label := (← current).text
    advancePastName
    let isOptional ← eat .question
    expect .colon
    let type ← parse .type
    let node ← finish (.tupleLabel label isOptional) labelStart [type]
    if isRest then finish .restType start [node] else return node
  else if ← eat .ellipsis then
    let type ← parse .type
    finish .restType start [type]
  else
    let type ← parse .type
    match type with
    | .node ⟨.nullableType true, a, b⟩ parts => return .node ⟨.optionalType, a, b⟩ parts
    | type => return type

/-- The type of a value that is named. -/
def queryType : Parser Node := do
  let start ← here
  expectWord .typeof_
  let name ←
    if ← isAtWord .import_ then parse .typeOperand else dottedAfter (← here) (← anyName)
  let arguments ← typeArgumentsOnLine parse
  finish .queryType start [name, arguments]

/-- A literal as a type. -/
def literalType (literal : Parser Node) : Parser Node := do
  let start ← here
  let inner ← literal
  finish .literalType start [inner]

/-- A type of another module. -/
def importType : Parser Node := do
  let start ← here
  expectWord .import_
  expect .parenOpen
  let source ← literalType stringLiteral
  let options ← optional (← eat .comma) do
    let node ← assignmentWithIn parse
    if node.shape != .object then failure
    let _ ← eat .comma
    return node
  expect .parenClose
  let name ← optional (← eat .dot) (do dottedAfter (← here) (← anyName))
  let arguments ← typeArgumentsOnLine parse
  finish .importType start [source, options, name, arguments]

/-- A template whose substitutions are types. -/
def templateType : Parser Node := do
  let start ← here
  let t ← current
  if t.kind == .template true then
    advance
    finish (.templateType [t.text]) start
  else
    advance
    let (texts, types, _) ← iterate (fun (texts, types, _) => do
      let type ← parse .type
      let bound := (← read).bound
      let close ← current
      if !close.isPunct .braceClose then failure
      let tail := Lexer.asTemplateTail bound close
      if !tail.isTemplate then failure
      reportIf tail.escaped
      advancePast .plain tail
      let more := tail.kind == .template false
      return (more, texts ++ [tail.text], types ++ [type], more)) ([t.text], [], true)
    finish (.templateType texts) start types

/-- A word of its own kind as an expression. -/
def wordLiteral (shape : Shape) : Parser Node := do
  let start ← here
  advance
  finish shape start

/-- The type that a word is. -/
def wordType? : Word → Option WordType
  | .any_ => some .any
  | .unknown_ => some .unknown
  | .number_ => some .number
  | .bigint_ => some .bigint
  | .string_ => some .string
  | .symbol_ => some .symbol
  | .boolean_ => some .boolean
  | .undefined_ => some .undefined
  | .never_ => some .never
  | .object_ => some .object
  | .void_ => some .void
  | .null_ => some .null
  | .this_ => some .this
  | _ => none

/-- A type that a word starts. -/
def typeOfWord (w : Word) : Parser Node := do
  let start ← here
  match wordType? w with
  | some .this => thisType parse
  | some word =>
    if !w.isReserved && (← nextIs (·.isPunct .dot)) then referenceType parse
    else
      advance
      finish (.wordType word) start
  | none =>
    match w with
    | .true_ => literalType (wordLiteral (.boolean true))
    | .false_ => literalType (wordLiteral (.boolean false))
    | .typeof_ => queryType parse
    | .import_ => importType parse
    | .asserts_ =>
      match ← assertion? parse with
      | some n => return n
      | none => referenceType parse
    | _ => referenceType parse

/-- A negative number as a type. -/
def negativeNumber : Parser Node := do
  let start ← here
  expect .minus
  let inner ← numberLiteral
  finish (.unary .minus) start [inner]

/-- A type after a question mark, which may also stand alone. -/
def afterQuestion : Parser Node := do
  let start ← here
  expect .question
  match ← kind with
  | .punct .comma | .punct .braceClose | .punct .parenClose | .punct .greater | .punct .eq
  | .punct .bar => finish .wildcardType start
  | _ =>
    let type ← parse .type
    finish (.nullableType false) start [type]

/-- A type without operators. -/
def primaryType : Parser Node := do
  let start ← here
  match ← kind with
  | .punct .question => afterQuestion parse
  | .word w => typeOfWord parse w
  | .name => referenceType parse
  | .string => literalType stringLiteral
  | .number | .bigint => literalType numberLiteral
  | .punct .minus => literalType negativeNumber
  | .template _ => templateType parse
  | .punct .braceOpen =>
    if ← startsMappedType then mappedType parse
    else
      let members ← typeMembers parse
      finish .objectType start members
  | .punct .bracketOpen =>
    advance
    let items ← itemsUntil .bracketClose (tupleItem parse)
    expect .bracketClose
    finish .tupleType start items
  | .punct .parenOpen =>
    advance
    let inner ← within (fun c => { c with noConditional := false }) (parse .type)
    expect .parenClose
    finish .parenthesizedType start [inner]
  | _ => failure

/-- Whether a token that is not a parenthesis starts a type. -/
def opensType (t : Token) : Bool :=
  match t.kind with
  | .name | .string | .number | .bigint | .template _ => true
  | .word w =>
    !w.isReserved || [.void_, .null_, .this_, .typeof_, .new_, .true_, .false_, .import_,
      .function_].contains w
  | .punct p => [.braceOpen, .bracketOpen, .less, .bar, .amp, .star, .question, .bang,
      .ellipsis].contains p
  | _ => false

/-- Whether a type starts after the current token, which then is no mark of the type before it. -/
def typeFollows : Parser Bool := follows do
  advance
  let enclosed ← isAt .parenOpen
  let _ ← collect do
    if ← eat .parenOpen then return some () else return none
  let t ← current
  if t.isPunct .minus then nextIs (·.isNumber)
  else return opensType t || enclosed && (t.isPunct .parenClose || t.isPunct .at)

/-- A type with exclamation marks before it. -/
def negatedType : Parser Node := do
  let marks ← collect do
    let start ← here
    if ← eat .bang then return some start else return none
  let type ← primaryType parse
  marks.foldrM (fun start type => finish (.nonNullType false) start [type]) type

/-- A type with brackets and marks after it. -/
def suffixedType : Parser Node := do
  let start ← here
  let first ← negatedType parse
  iterate (fun type => do
    let t ← current
    if t.onNewLine then return (false, type)
    match t.kind with
    | .punct .bang =>
      advance
      return (true, ← finish (.nonNullType true) start [type])
    | .punct .question =>
      if ← typeFollows then return (false, type)
      advance
      return (true, ← finish (.nullableType true) start [type])
    | .punct .bracketOpen =>
      advance
      if ← eat .bracketClose then return (true, ← finish .arrayType start [type])
      let key ← parse .type
      expect .bracketClose
      return (true, ← finish .indexedType start [type, key])
    | _ => return (false, type)) first

/-- A type parameter that is found by matching. -/
def inferType : Parser Node := do
  let start ← here
  advance
  let nameStart ← here
  let name ← bindingName
  let bound ← attempt do
    expectWord .extends_
    let bound ← within (fun c => { c with noConditional := true }) (parse .type)
    if !(← context).noConditional && (← isAt .question) then failure
    return bound
  let parameter ← finish (.typeParameter false false false) nameStart
    [name, Node.ofOption bound, .absent]
  finish .inferType start [parameter]

/-- A type with the operators before it. Only the types of arrays and tuples are `readonly`. -/
def typeOperand : Parser Node := do
  let start ← here
  let operator (o : TypeOperator) : Parser Node := do
    advance
    let inner ← parse .typeOperand
    reportIf (o == .readonly_ && !(inner.shape == .arrayType || inner.shape == .tupleType))
    finish (.operatorType o) start [inner]
  match ← kind with
  | .word .keyof_ => operator .keyof_
  | .word .unique_ => operator .unique_
  | .word .readonly_ => operator .readonly_
  | .word .infer_ => inferType parse
  | _ => within (fun c => { c with noConditional := false }) (suffixedType parse)

/-! ### Types -/

/-- Operands with an operator between them, and perhaps one before the first. -/
def operatorList (mark : Punct) (shape : Shape) (operand : Parser Node) : Parser Node := do
  let start ← here
  let leading ← eat mark
  let first ← operand
  if leading || (← isAt mark) then
    let others ← collect do
      if ← eat mark then return some (← operand) else return none
    finish shape start (first :: others)
  else return first

/-- An operand of a union or intersection. -/
def listedType : Parser Node := do
  if ← startsFunctionType parse then
    report
    functionType parse
  else parse .typeOperand

/-- A type. -/
def type : Parser Node := do
  let start ← here
  if ← startsFunctionType parse then functionType parse
  else
    let tested ← operatorList .bar .unionType
      (operatorList .amp .intersectionType (listedType parse))
    if (← context).noConditional || (← onNewLine) || !(← isAtWord .extends_) then return tested
    else
      let plain := within fun c => { c with noConditional := false }
      advance
      let bound ← within (fun c => { c with noConditional := true }) (parse .type)
      expect .question
      let whenTrue ← plain (parse .type)
      expect .colon
      let whenFalse ← plain (parse .type)
      finish .conditionalType start [tested, bound, whenTrue, whenFalse]

end SourceEdit.Script.Parser
