import SourceEdit.Script.Parser.Functions

/-!
# Classes

Classes with what they extend and implement, and their members: methods, fields, static blocks and
index signatures.
-/

namespace SourceEdit.Script.Parser

variable (parse : Goal → Parser Node)

/-! ### Words before a member -/

/-- What the words before a member say. -/
structure MemberWords where
  flags : MemberFlags := {}
  isAsync : Bool := false
  isAccessor : Bool := false
deriving DecidableEq, Repr, Inhabited

/-- The words with one more, if it is a word that may stand before a member. -/
def MemberWords.add? (m : MemberWords) (w : Word) : Option MemberWords :=
  match accessibilityOf? w with
  | some a => some { m with flags := { m.flags with accessibility := some a } }
  | none => match w with
    | .static_ =>
      if m.flags.isStatic then none else some { m with flags := { m.flags with isStatic := true } }
    | .abstract_ => some { m with flags := { m.flags with isAbstract := true } }
    | .override_ => some { m with flags := { m.flags with isOverride := true } }
    | .readonly_ => some { m with flags := { m.flags with isReadonly := true } }
    | .declare_ => some { m with flags := { m.flags with isDeclare := true } }
    | .async_ => some { m with isAsync := true }
    | .accessor_ => some { m with isAccessor := true }
    | _ => none

/-- Whether a word of the same kind is there already. -/
def MemberWords.has (m : MemberWords) (w : Word) : Bool :=
  givenBy w m.flags || (w == .async_ && m.isAsync) || (w == .accessor_ && m.isAccessor)

/-- Whether a word before a member needs no types. -/
def isPlainWord (w : Word) : Bool := w == .static_ || w == .async_ || w == .accessor_

/-- The words before a member. None of them is repeated, and some stand only before others. -/
def memberWords : Parser MemberWords :=
  iterate (fun m => do
    match ← kind with
    | .word w =>
      match m.add? w with
      | none => return (false, m)
      | some added =>
        let applies ← nextIs fun t =>
          t.followsModifier && (w == .static_ || !t.onNewLine)
            && !(w == .static_ && t.isPunct .braceOpen)
        if applies then
          reportIf ((w :: wordsAfter w).any m.has)
          reportIf (!isPlainWord w && !(← hasTypes))
          advance
          return (true, added)
        else return (false, m)
    | _ => return (false, m)) {}

/-- What a method is for, by the word before its key, and whether a star stands before the key. -/
def methodWords (isAsync : Bool) : Parser (MethodKind × Bool) := do
  let accessor ←
    if isAsync then pure MethodKind.plain
    else if ← isAtMemberWord .get_ then pure MethodKind.get
    else if ← isAtMemberWord .set_ then pure MethodKind.set
    else pure MethodKind.plain
  if accessor != .plain then advance
  let isGenerator ← if accessor == .plain then eat .star else pure false
  return (accessor, isGenerator)

/-! ### Members -/

/-- Whether the parameters of an accessor are as many as it takes. -/
def fitsAccessor (kind : MethodKind) (function : Node) : Bool :=
  let counts := match function.children with
    | [_, _, _, .node _ [items, rest], _, _] => (items.children.length, Node.isAbsent rest)
    | _ => (0, true)
  match kind with
  | .get => counts.1 = 0 && counts.2
  | .set => counts.1 = 1 && counts.2
  | _ => true

/-- Whether some parameter has a default. -/
def hasDefault (function : Node) : Bool :=
  match function.children with
  | [_, _, _, .node _ [items, _], _, _] => items.children.any fun n => match Tree.children n with
    | [_, _, _, value] => !Node.isAbsent value
    | _ => false
  | _ => false

/-- Whether a function has type parameters or a receiver. -/
def isGeneric (function : Node) : Bool :=
  match function.children with
  | _ :: generics :: receiver :: _ => !Node.isAbsent generics || !Node.isAbsent receiver
  | _ => false

/-- A function that is a method, after its name. Where types are allowed, the parameter of an
accessor has no default. -/
def methodFunction (owner : ParameterOwner) (kind : MethodKind)
    (isAsync isGenerator needsBody : Bool) : Parser Node := do
  let start ← here
  let head : FunctionHead := { role := .method, isAsync, isGenerator }
  let function ← functionRest parse owner head start .absent needsBody
  reportIf !(fitsAccessor kind function)
  reportIf (kind == .set && (← hasTypes) && hasDefault function)
  return function

/-- Whether a key is the given word. -/
def keyIs (word : List Char) (key : Node) : Bool :=
  match key.value.shape with
  | .name n => n == word
  | .string units => units == word.map Char.toNat
  | _ => false

/-- The name of the method that makes instances. -/
def constructorWord : List Char :=
  ['c', 'o', 'n', 's', 't', 'r', 'u', 'c', 't', 'o', 'r']

/-- The name of the object that instances inherit from, which the class has already. -/
def prototypeWord : List Char :=
  ['p', 'r', 'o', 't', 'o', 't', 'y', 'p', 'e']

/-- Whether a member may not have its key: a private member is not named as the constructor is, and
a static one not as the prototype. -/
def isReservedKey (flags : MemberFlags) (key : Node) : Bool :=
  match key.value.shape with
  | .privateName n => n == constructorWord
  | _ => flags.isStatic && !flags.isComputed && keyIs prototypeWord key

/-- The rest of a field after its key and the mark for an optional one. The value of a plain field
may be several expressions with commas. -/
def field (start : Nat) (marks : List Node) (words : MemberWords) (key : Node) :
    Parser Node := do
  let isOptional := words.flags.isOptional
  let isDefinite ← if !isOptional && !(← onNewLine) then eat .bang else pure false
  let type ← typeAfterColon parse
  let inner (c : Context) : Context :=
    { c with allowsIn := true, inAsync := false, inGenerator := false, isTopLevel := false }
  let goal : Goal := if words.isAccessor then .assignment true else .expression
  let value ← optional (← eat .eq) (within inner (parse goal))
  endStatement
  let flags := { words.flags with isDefinite }
  reportIf (!flags.isComputed && keyIs constructorWord key)
  let parts := [.group marks, key, type, value]
  if words.isAccessor then
    reportIf (flags.isReadonly || flags.isDeclare || isOptional)
    finish (.accessorField flags) start parts
  else finish (.field flags) start parts

/-- The rest of a method or field after the words before it. -/
def namedMember (start : Nat) (marks : List Node) (words : MemberWords) : Parser Node := do
  let (accessor, isGenerator) ← methodWords words.isAsync
  let (key, isComputed) ← propertyKey parse
  reportIf (words.flags.accessibility.isSome && (key.shape matches .privateName _))
  let isOptional ← if accessor == .plain then eat .question else pure false
  let flags := { words.flags with isComputed, isOptional }
  reportIf (isReservedKey flags key && !(← context).isAmbient)
  let t ← current
  let isMethod := accessor != .plain || isGenerator || words.isAsync || t.isPunct .parenOpen
    || t.isPunct .less
  if isMethod then
    let isConstructor := !flags.isStatic && !isComputed && keyIs constructorWord key
    reportIf (isConstructor && (accessor != .plain || isGenerator || words.isAsync))
    reportIf (flags.isReadonly || flags.isDeclare)
    let owner := if isConstructor then ParameterOwner.constructor_ else .method
    let function ← methodFunction parse owner accessor words.isAsync isGenerator false
    reportIf (isConstructor && isGeneric function)
    let kind := if isConstructor then MethodKind.constructor_ else accessor
    finish (.method kind flags) start [.group marks, key, function]
  else field parse start marks { words with flags } key

/-- A member of a class. -/
def classMember : Parser Node := do
  let start ← here
  let marks ← decorators parse
  if (← isAtWord .static_) && (← nextIs (·.isPunct .braceOpen)) then
    reportIf !marks.isEmpty
    advance
    let inner (c : Context) : Context :=
      { c with inAsync := true, inGenerator := false, inFunction := false, isTopLevel := false }
    let body ← within inner (bracedStatements parse)
    finish .staticBlock start [body]
  else
    let words ← memberWords
    if (← hasTypes) && (← startsIndexSignature) then
      let { isReadonly, isStatic, .. } := words.flags
      let allowed : MemberWords := { flags := { isReadonly, isStatic } }
      reportIf (!marks.isEmpty || words != allowed)
      indexSignature parse start isReadonly
    else namedMember parse start marks words

/-- The members of a class between braces. -/
def classBody : Parser Node := do
  let start ← here
  expect .braceOpen
  let members ← collect do
    let _ ← collect do
      if ← eat .semicolon then return some () else return none
    if ← isAt .braceClose then return none
    return some (← classMember parse)
  expect .braceClose
  finish .group start members

/-! ### Heritage -/

/-- The base class and its type arguments. -/
def baseClass : Parser (Node × Node) := do
  let e ← parse .leftHandSide
  match e with
  | .node ⟨.instantiation, _, _⟩ [inner, arguments] => return (inner, arguments)
  | e =>
    if ← hasTypes then return (e, ← typeArguments? parse) else return (e, .absent)

/-- An interface that a class implements. -/
def implemented : Parser Node := do
  let start ← here
  let name ← dottedAfter start (← anyName)
  let arguments ← typeArgumentsOnLine parse
  finish .heritage start [name, arguments]

/-- Whether the name of a class stands here, and not what it implements. -/
def startsClassName : Parser Bool := do
  let t ← current
  if t.isWord .implements_ then return !(← nextIs (·.isNameOrWord)) else return t.isBindingName

/-- A class from its keyword on; `start` is where the words or decorators before it start. -/
def classNode (head : ClassHead) (start : Nat) (marks : List Node) : Parser Node := do
  expectWord .class_
  let name ← optional (← startsClassName) bindingName
  let generics ← typeParameters parse
  let (base, arguments) ← if ← eatWord .extends_ then baseClass parse else pure (.absent, .absent)
  let interfaces ←
    if ← ifTyped (eatWord .implements_) then separated (implemented parse) else pure []
  let body ← classBody parse
  finish (.classNode head) start
    [.group marks, name, generics, base, arguments, .group interfaces, body]

end SourceEdit.Script.Parser
