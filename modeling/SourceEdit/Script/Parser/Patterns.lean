import SourceEdit.Script.Parser.Basic

/-!
# Patterns and parameters

What a declaration binds: a name, or the parts of an array or object.  Parameters are patterns with
decorators, flags, types and defaults.
-/

namespace SourceEdit.Script.Parser

variable (parse : Goal → Parser Node)

/-- An expression without commas, `in` being an operator. -/
def assignmentWithIn : Parser Node :=
  within (fun c => { c with allowsIn := true }) (parse (.assignment true))

/-- A type after a colon, if types are allowed and there is one. -/
def typeAfterColon : Parser Node := do
  if ← ifTyped (eat .colon) then parse .type else return .absent

/-- A value after an equals sign, if there is one. -/
def valueAfterEq : Parser Node := do
  if ← eat .eq then assignmentWithIn parse else return .absent

/-! ### Patterns -/

/-- The rest of a pattern, after its dots. Nothing may follow it. -/
def restPattern (close : Punct) (start : Nat) : Parser Node := do
  let inner ← parse .pattern
  let node ← finish .rest start [inner]
  reportIf (← isAt .eq)
  reportIf (!(← isAt close))
  return node

/-- The parts of an array. -/
def arrayPattern : Parser Node := do
  let start ← here
  expect .bracketOpen
  let parts ← collect do
    let partStart ← here
    if ← isAt .bracketClose then return none
    else if ← eat .comma then return some (.ofShape .hole partStart partStart)
    else
      let part ←
        if ← eat .ellipsis then restPattern parse .bracketClose partStart
        else parse .patternElement
      if !(← isAt .bracketClose) then expect .comma
      return some part
  expect .bracketClose
  finish .arrayPattern start parts

/-- A property that is bound under its own name. -/
def shorthandPattern : Parser Node := do
  let start ← here
  let key ← bindingName
  if ← eat .eq then
    let value ← assignmentWithIn parse
    let bound ← finish .patternWithDefault start [key, value]
    finish (.patternProperty false true) start [key, bound]
  else finish (.patternProperty false true) start [key, key]

/-- A property of an object and what it is bound to. -/
def patternProperty : Parser Node := do
  let start ← here
  let t ← current
  if t.isBindingName && !(← nextIs (·.isPunct .colon)) then shorthandPattern parse
  else
    let (key, isComputed) ← propertyKey parse
    expect .colon
    let bound ← parse .patternElement
    finish (.patternProperty isComputed false) start [key, bound]

/-- The parts of an object. -/
def objectPattern : Parser Node := do
  let start ← here
  expect .braceOpen
  let parts ← itemsUntil .braceClose do
    let partStart ← here
    if ← eat .ellipsis then
      let rest ← restPattern parse .braceClose partStart
      reportIf (!rest.children.all fun n => n.value.shape matches .name _)
      return rest
    else patternProperty parse
  expect .braceClose
  finish .objectPattern start parts

/-- What a declaration binds, without a default. -/
def pattern : Parser Node := do
  match ← kind with
  | .punct .bracketOpen => arrayPattern parse
  | .punct .braceOpen => objectPattern parse
  | _ => bindingName

/-- What a declaration binds, with a default. -/
def patternElement : Parser Node := do
  let start ← here
  let inner ← parse .pattern
  if ← eat .eq then
    let value ← assignmentWithIn parse
    finish .patternWithDefault start [inner, value]
  else return inner

/-! ### Decorators and flags -/

/-- Decorators. -/
def decorators : Parser (List Node) := collect do
  let start ← here
  if ← eat .at then
    let e ← within (fun c => { c with inDecorator := true }) (parse .leftHandSide)
    return some (← finish .decorator start [e])
  else return none

/-- The accessibility that a word gives. -/
def accessibilityOf? : Word → Option Accessibility
  | .public_ => some .public_
  | .private_ => some .private_
  | .protected_ => some .protected_
  | _ => none

/-- Whether the flags hold one that a word gives. -/
def givenBy (w : Word) (flags : MemberFlags) : Bool :=
  match w with
  | .public_ | .private_ | .protected_ => flags.accessibility.isSome
  | .static_ => flags.isStatic
  | .abstract_ => flags.isAbstract
  | .override_ => flags.isOverride
  | .readonly_ => flags.isReadonly
  | .declare_ => flags.isDeclare
  | _ => false

/-- The words that a word may not follow. -/
def wordsAfter : Word → List Word
  | .public_ | .private_ | .protected_ =>
    [.override_, .static_, .accessor_, .readonly_, .async_, .abstract_]
  | .static_ => [.readonly_, .async_, .accessor_, .override_]
  | .override_ => [.readonly_, .accessor_, .async_]
  | .abstract_ => [.override_, .accessor_]
  | _ => []

/-- The flags with the one that a word sets on a parameter. -/
def parameterFlag? (flags : MemberFlags) (w : Word) : Option MemberFlags :=
  match accessibilityOf? w with
  | some a => some { flags with accessibility := some a }
  | none => match w with
    | .readonly_ => some { flags with isReadonly := true }
    | .override_ => some { flags with isOverride := true }
    | _ => none

/-- The flags of a parameter. None of them is repeated. -/
def parameterFlags : Parser MemberFlags :=
  iterate (fun flags => do
    match (← kind), ← hasTypes with
    | .word w, true =>
      match parameterFlag? flags w with
      | some set =>
        if ← nextIs fun t => !t.onNewLine && t.followsModifier then
          reportIf ((w :: wordsAfter w).any (givenBy · flags))
          advance
          return (true, set)
        else return (false, flags)
      | none => return (false, flags)
    | _, _ => return (false, flags)) {}

/-! ### Parameters -/

/-- What has the parameters, as far as it decides what may stand before them. -/
inductive ParameterOwner where
  /-- The constructor of a class, whose parameters may have decorators and may be properties. -/
  | constructor_
  /-- Another method of a class, whose parameters may have decorators. -/
  | method
  /-- Any other function, or a type. -/
  | other
deriving DecidableEq, Repr, Inhabited

/-- A parameter after its decorators. -/
def parameter (owner : ParameterOwner) (start : Nat) (marks : List Node) :
    Parser Node := do
  let flags ← parameterFlags
  reportIf (flags != {} && owner != .constructor_)
  let bound ← parse .pattern
  let isOptional ← ifTyped (eat .question)
  let type ← typeAfterColon parse
  let value ← valueAfterEq parse
  reportIf (isOptional && !value.isAbsent)
  finish (.parameter { flags with isOptional }) start [.group marks, bound, type, value]

/-- A parameter that takes the remaining arguments, after its dots. -/
def restParameter (start : Nat) (marks : List Node) : Parser Node := do
  let bound ← parse .pattern
  let type ← typeAfterColon parse
  let node ← finish .restParameter start [.group marks, bound, type]
  reportIf (← isAt .eq)
  if (← isAt .comma) && (← context).isAmbient then advance
  reportIf (!(← isAt .parenClose))
  return node

/-- The receiver of a function, with the comma after it. -/
def receiver : Parser Node := do
  let start ← here
  if (← hasTypes) && (← isAtWord .this_) then
    advance
    let type ← typeAfterColon parse
    let node ← finish .receiver start [type]
    if !(← isAt .parenClose) then expect .comma
    return node
  else return .absent

/-- Parameters between parentheses: the receiver, the parameters. -/
def parameters (owner : ParameterOwner) : Parser (Node × Node) := do
  let start ← here
  expect .parenOpen
  let self ← receiver parse
  let items ← itemsUntil .parenClose do
    let itemStart ← here
    let marks ← decorators parse
    reportIf (!marks.isEmpty && (owner == .other || !(← hasTypes)))
    if ← eat .ellipsis then restParameter parse itemStart marks
    else parameter parse owner itemStart marks
  expect .parenClose
  let isRest (n : Node) : Bool := n.shape == .restParameter
  let rest := Node.ofOption (items.find? isRest)
  return (self, ← finish .parameters start [.group (items.filter (!isRest ·)), rest])

end SourceEdit.Script.Parser
