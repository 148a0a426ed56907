import SourceEdit.Script.Printer.Basic

/-!
# Writing types

Types, type parameters and arguments, parameters of functions, and the members of object types.
-/

namespace SourceEdit.Script.Printer

variable (emit : Task → Printer Unit)

/-- Writes a node where no parentheses are needed. -/
def plain (n : Node) : Printer Unit := emit (.node n .lowest {})

/-- Writes an expression that stands where commas separate. -/
def item (n : Node) : Printer Unit := emit (.node n .comma {})

/-- Writes a part of a type. -/
def typePart (n : Node) : Printer Unit := emit (.node n .lowest { inType := true })

/-- Writes a part unless it is missing. -/
def ifPresent (n : Node) (p : Node → Printer Unit) : Printer Unit :=
  if n.isAbsent then pure () else p n

/-- Writes a type after a colon unless it is missing. -/
def afterColon (n : Node) : Printer Unit :=
  ifPresent n fun n => do
    text ": "
    typePart emit n

/-! ### Keys and flags -/

/-- Writes the key of a property. -/
def key (isComputed : Bool) (n : Node) : Printer Unit := bracket isComputed (item emit n)

/-- The word for who may use a member. -/
def accessibilityWord : Accessibility → String
  | .public_ => "public"
  | .private_ => "private"
  | .protected_ => "protected"

/-- Writes a word and a blank when a condition holds. -/
def wordIf (condition : Bool) (w : String) : Printer Unit :=
  putIf condition do
    wordBreak
    text w
    blank

/-- Writes the word for who may use a member. -/
def accessibility (a : Option Accessibility) : Printer Unit :=
  match a with
  | some a => wordIf true (accessibilityWord a)
  | none => pure ()

/-! ### Parameters -/

/-- Whether a decorator needs parentheses around its expression. -/
private def decoratorNeedsWrap : Node → Bool
  | .node ⟨.call .., _, _⟩ (callee :: _) => decoratorNeedsWrap callee
  | .node ⟨shape, _, _⟩ _ =>
    match shape with
    | .name _ | .member .. | .privateMember .. => false
    | _ => true

/-- Writes decorators, each with a blank after it. -/
def decorators (marks : Node) : Printer Unit :=
  each (fun n =>
    match Tree.children n with
    | [e] => do
      put '@'
      wrap (decoratorNeedsWrap e) (plain emit e)
      blank
    | _ => pure ()) marks.children

/-- Writes a parameter; its default is part of what surrounds the function. -/
def parameter (flags : MemberFlags) (parts : List Node) (m : Mode) : Printer Unit :=
  match parts with
  | [marks, bound, type, value] => do
    decorators emit marks
    accessibility flags.accessibility
    wordIf flags.isOverride "override"
    wordIf flags.isReadonly "readonly"
    plain emit bound
    putIf flags.isOptional (put '?')
    afterColon emit type
    ifPresent value fun n => do
      text " = "
      emit (.node n .comma m)
  | _ => pure ()

/-- Whether there are no parameters. -/
private def hasNoParameters (n : Node) : Bool :=
  match n.children with
  | [items, rest] => items.children.isEmpty && rest.value.shape == .absent
  | _ => true

/-- Writes parameters without the parentheses around them. -/
def parameterList (n : Node) (m : Mode) : Printer Unit :=
  match n.children with
  | [items, rest] => do
    let others := if rest.value.shape == .absent then [] else [rest]
    commas (fun n => emit (.node n .lowest m)) (items.children ++ others)
  | _ => pure ()

/-- Writes the receiver and the parameters between parentheses. -/
def parameters (receiver params : Node) (m : Mode) : Printer Unit := do
  put '('
  ifPresent receiver fun n => do
    plain emit n
    putIf (!hasNoParameters params) (text ", ")
  parameterList emit params m
  put ')'

/-- Writes type parameters; several of them stand on lines of their own. -/
def typeParameterList (items : List Node) : Printer Unit := do
  put '<'
  match items with
  | _ :: _ :: _ =>
    let line (n : Node) : Printer Unit := do
      newLine
      indent
      typePart emit n
    deeper (separatedBy (put ',') line items)
    newLine
    indent
  | items =>
    each (typePart emit) items
    putIf (← read).elements (put ',')
  put '>'

/-- Writes a type parameter. -/
def typeParameter (isConst isIn isOut : Bool) (parts : List Node) : Printer Unit :=
  match parts with
  | [name, bound, default] => do
    putIf isConst (text "const ")
    putIf isIn (text "in ")
    putIf isOut (text "out ")
    typePart emit name
    ifPresent bound fun n => do
      text " extends "
      typePart emit n
    ifPresent default fun n => do
      text " = "
      typePart emit n
  | _ => pure ()

/-! ### Members of object types -/

/-- Writes the members of an object type or interface between braces. -/
def members (items : List Node) (m : Mode) : Printer Unit :=
  braces items.isEmpty (each (fun n => do
    commentsAt n.value.start
    indent
    emit (.node n .lowest m)
    semicolonLine) items)

/-- The word before an accessor. -/
def methodWord : MethodKind → String
  | .get => "get "
  | .set => "set "
  | _ => ""

/-- Writes the key of a member of an object type. -/
private def signatureKey (isComputed : Bool) (n : Node) (m : Mode) : Printer Unit :=
  if isComputed then key emit true n else emit (.node n .comma m)

/-- Writes a member of an object type. -/
def signature (shape : Shape) (parts : List Node) (m : Mode) : Printer Unit :=
  match shape, parts with
  | .propertySignature flags, [k, type] => do
    putIf flags.isReadonly (text "readonly ")
    signatureKey emit flags.isComputed k m
    putIf flags.isOptional (put '?')
    afterColon emit type
  | .methodSignature kind flags, [k, generics, receiver, params, result] => do
    text (methodWord kind)
    signatureKey emit flags.isComputed k m
    putIf flags.isOptional (put '?')
    ifPresent generics (plain emit)
    parameters emit receiver params {}
    afterColon emit result
  | .callSignature, [generics, receiver, params, result] => do
    ifPresent generics (plain emit)
    parameters emit receiver params {}
    afterColon emit result
  | .constructSignature, [generics, params, result] => do
    text "new "
    ifPresent generics (plain emit)
    parameters emit .absent params {}
    afterColon emit result
  | .indexSignature name isReadonly, [k, value] => do
    putIf isReadonly (text "readonly ")
    put '['
    puts name
    text ": "
    typePart emit k
    put ']'
    afterColon emit value
  | _, _ => pure ()

/-! ### Types -/

/-- The text of a type that is a single word. -/
def wordTypeText : WordType → String
  | .any => "any"
  | .unknown => "unknown"
  | .number => "number"
  | .bigint => "bigint"
  | .string => "string"
  | .symbol => "symbol"
  | .boolean => "boolean"
  | .undefined => "undefined"
  | .null => "null"
  | .void => "void"
  | .never => "never"
  | .object => "object"
  | .this => "this"

/-- The text of an operator on types. -/
def typeOperatorText : TypeOperator → String
  | .keyof_ => "keyof "
  | .unique_ => "unique "
  | .readonly_ => "readonly "

/-- How a mapped type changes a word of its properties. -/
private def mappedText (w : String) : MappedModifier → String
  | .keep => ""
  | .set => w
  | .add => "+" ++ w
  | .remove => "-" ++ w

/-- Writes a function type. -/
private def functionType (parts : List Node) : Printer Unit :=
  match parts with
  | [generics, receiver, params, result] => do
    ifPresent generics (plain emit)
    parameters emit receiver params {}
    text " => "
    typePart emit result
  | _ => pure ()

/-- Writes a type made by going through keys. -/
private def mappedType (readonly optional : MappedModifier) (parts : List Node) : Printer Unit :=
  match parts with
  | [k, keys, renamed, type] => do
    text "\x7b "
    text (mappedText "readonly " readonly)
    put '['
    typePart emit k
    text " in "
    typePart emit keys
    ifPresent renamed fun n => do
      text " as "
      typePart emit n
    put ']'
    text (mappedText "?" optional)
    blank
    afterColon emit type
    text " \x7d"
  | _ => pure ()

/-- Writes the texts and the substitutions of a template. -/
def templateParts (substitution : Node → Printer Unit) : List (List Char) → List Node → Printer Unit
  | t :: ts, n :: ns => do
    puts t
    puts ['$', '\x7b']
    substitution n
    put '\x7d'
    templateParts substitution ts ns
  | t :: _, [] => puts t
  | [], _ => pure ()

/-- Writes a template, its texts as they are. -/
def template (substitution : Node → Printer Unit) (texts : List (List Char)) (parts : List Node) :
    Printer Unit := do
  put '\x60'
  templateParts substitution texts parts
  put '\x60'

/-- Writes a type of another module. -/
private def importType (parts : List Node) : Printer Unit :=
  match parts with
  | [source, options, name, arguments] => do
    text "import("
    typePart emit source
    ifPresent options fun n => do
      text ", "
      item emit n
    put ')'
    ifPresent name fun n => do
      put '.'
      typePart emit n
    ifPresent arguments (typePart emit)
  | _ => pure ()

/-- Writes a type with a mark before or after it. -/
private def markedType (mark : Char) (isPostfixed : Bool) (n : Node) : Printer Unit := do
  putIf (!isPostfixed) (put mark)
  typePart emit n
  putIf isPostfixed (put mark)

/-- Writes a type with one operand. -/
private def wrappedType (shape : Shape) (n : Node) : Printer Unit := do
  match shape with
  | .arrayType =>
    typePart emit n
    text "[]"
  | .optionalType => markedType emit '?' true n
  | .nullableType isPostfixed => markedType emit '?' isPostfixed n
  | .nonNullType isPostfixed => markedType emit '!' isPostfixed n
  | .restType =>
    text "..."
    typePart emit n
  | .tupleLabel label isOptional =>
    puts label
    putIf isOptional (put '?')
    text ": "
    typePart emit n
  | .inferType =>
    text "infer "
    typePart emit n
  | .parenthesizedType =>
    put '('
    typePart emit n
    put ')'
  | .operatorType o =>
    text (typeOperatorText o)
    typePart emit n
  | .qualifiedName name =>
    typePart emit n
    put '.'
    puts name
  | _ => typePart emit n

/-- Writes a type. -/
def typeNode (shape : Shape) (parts : List Node) : Printer Unit :=
  match shape, parts with
  | .wordType w, _ => text (wordTypeText w)
  | .wildcardType, _ => text "unknown"
  | .referenceType, [name, arguments] => do
    typePart emit name
    ifPresent arguments (typePart emit)
  | .indexedType, [type, k] => do
    typePart emit type
    put '['
    typePart emit k
    put ']'
  | .tupleType, items => do
    put '['
    commas (typePart emit) items
    put ']'
  | .unionType, items => separatedBy (text " | ") (typePart emit) items
  | .intersectionType, items => separatedBy (text " & ") (typePart emit) items
  | .conditionalType, [tested, bound, whenTrue, whenFalse] => do
    typePart emit tested
    text " extends "
    typePart emit bound
    text " ? "
    typePart emit whenTrue
    text " : "
    typePart emit whenFalse
  | .predicateType asserts, [subject, type] => do
    putIf asserts (text "asserts ")
    typePart emit subject
    ifPresent type fun n => do
      text " is "
      typePart emit n
  | .functionType, parts => functionType emit parts
  | .constructorType isAbstract, [generics, params, result] => do
    putIf isAbstract (text "abstract ")
    text "new "
    functionType emit [generics, .absent, params, result]
  | .queryType, [name, arguments] => do
    text "typeof "
    typePart emit name
    ifPresent arguments (typePart emit)
  | .importType, parts => importType emit parts
  | .mappedType readonly optional, parts => mappedType emit readonly optional parts
  | .templateType texts, parts => template (typePart emit) texts parts
  | .objectType, items => members emit items { inType := true }
  | .typeArguments, items => do
    put '<'
    commas (typePart emit) items
    put '>'
  | shape, [n] => wrappedType emit shape n
  | _, _ => pure ()

end SourceEdit.Script.Printer
