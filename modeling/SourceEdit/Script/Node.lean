import SourceEdit.Decimal.Binary64
import SourceEdit.Tree

/-!
# Syntax trees of scripts

A script is a tree whose nodes carry a `Shape`, which says what kind of construct a node is and
holds its own words and flags, and the range of bytes that it was read from.  Its parts are its
subtrees, in the order in which they are visited.  A part that may be missing is `Shape.absent`
where it is, so every shape has its parts at fixed places; a run of parts of any number is a
`Shape.group`.  Lists of statements and of the children of elements have shapes of their own, since
editing works on them.

Parentheses that were written stay in the tree as nodes: the printer decides on its own where they
are needed, but some rules of the grammar ask for them.
-/

namespace SourceEdit.Script

/-- A name, by its characters. -/
abbrev Name := List Char

/-! ### Words and flags of constructs -/

/-- The keyword of a variable declaration. -/
inductive VariableKind where
  | var_
  | let_
  | const_
  | using_
  | awaitUsing
deriving DecidableEq, Repr, Inhabited

/-- Where a function stands. -/
inductive FunctionRole where
  | declaration
  | expression
  | method
deriving DecidableEq, Repr, Inhabited

/-- The words and marks of a function. -/
structure FunctionHead where
  role : FunctionRole
  isAsync : Bool := false
  isGenerator : Bool := false
  isDeclare : Bool := false
  /-- Whether a comment marks it as free of effects. -/
  noEffects : Bool := false
  /-- Whether it was written between parentheses of its own. -/
  enclosed : Bool := false
deriving DecidableEq, Repr, Inhabited

/-- Who may use a member of a class. -/
inductive Accessibility where
  | public_
  | private_
  | protected_
deriving DecidableEq, Repr, Inhabited

/-- The words of a member of a class, or of a parameter that declares one. -/
structure MemberFlags where
  accessibility : Option Accessibility := none
  isStatic : Bool := false
  isAbstract : Bool := false
  isOverride : Bool := false
  isReadonly : Bool := false
  isDeclare : Bool := false
  isOptional : Bool := false
  isDefinite : Bool := false
  isComputed : Bool := false
deriving DecidableEq, Repr, Inhabited

/-- What a method is for. -/
inductive MethodKind where
  | constructor_
  | plain
  | get
  | set
deriving DecidableEq, Repr, Inhabited

/-- The words of a class. -/
structure ClassHead where
  isDeclaration : Bool
  isAbstract : Bool := false
  isDeclare : Bool := false
deriving DecidableEq, Repr, Inhabited

/-- The operators with one operand before which they stand. -/
inductive UnaryOperator where
  | plus
  | minus
  | not
  | complement
  | typeof_
  | void_
  | delete_
deriving DecidableEq, Repr, Inhabited

/-- The operators with two operands. -/
inductive BinaryOperator where
  | coalesce
  | or
  | and
  | bitOr
  | bitXor
  | bitAnd
  | equal
  | notEqual
  | strictEqual
  | strictNotEqual
  | less
  | lessEqual
  | greater
  | greaterEqual
  | in_
  | instanceof_
  | shiftLeft
  | shiftRight
  | shiftRightZero
  | add
  | subtract
  | multiply
  | divide
  | remainder
  | power
deriving DecidableEq, Repr, Inhabited

/-- The types that are single words. -/
inductive WordType where
  | any
  | unknown
  | number
  | bigint
  | string
  | symbol
  | boolean
  | undefined
  | null
  | void
  | never
  | object
  | this
deriving DecidableEq, Repr, Inhabited

/-- The operators on types. -/
inductive TypeOperator where
  | keyof_
  | unique_
  | readonly_
deriving DecidableEq, Repr, Inhabited

/-- How a mapped type changes a property of what it maps. -/
inductive MappedModifier where
  | keep
  | set
  | add
  | remove
deriving DecidableEq, Repr, Inhabited

/-- When a module is evaluated. -/
inductive ImportPhase where
  | defer_
  | source_
deriving DecidableEq, Repr, Inhabited

/-- What a namespace declaration is introduced by. -/
inductive NamespaceKind where
  | namespace_
  | module_
deriving DecidableEq, Repr, Inhabited

/-! ### Shapes -/

/-- What a node of the tree is. The comment on a shape names its parts. -/
inductive Shape where
  /-- A part that is missing. -/
  | absent
  /-- Parts of any number. -/
  | group
  /-- A list of statements. -/
  | statements
  /-- A list of what stands between the tags of an element or fragment. -/
  | children
  /-- The whole script: a group of directives, statements. -/
  | program (interpreter : Option (List Char))
  | directive (raw : List Char)
  /-- A block: statements. -/
  | block
  | emptyStatement
  /-- The expression. -/
  | expressionStatement
  /-- The test, the branch taken, the other branch. -/
  | ifStatement
  /-- The body, the test. -/
  | doWhile
  /-- The test, the body. -/
  | whileLoop
  /-- The start, the test, the update, the body. -/
  | forLoop
  /-- The variable, the object, the body. -/
  | forIn
  /-- The variable, the values, the body. -/
  | forOf (awaits : Bool)
  | continueStatement (label : Option Name)
  | breakStatement (label : Option Name)
  /-- The value. -/
  | returnStatement
  /-- The value. -/
  | throwStatement
  /-- The object, the body. -/
  | withStatement
  /-- The body. -/
  | labeled (label : Name)
  /-- The value, a group of cases. -/
  | switchStatement
  /-- The test, statements. -/
  | switchCase
  /-- The block, the handler, the finalizer. -/
  | tryStatement
  /-- The pattern, the block. -/
  | catchClause
  | debuggerStatement
  /-- The declarators. -/
  | variableList (kind : VariableKind) (isDeclare : Bool)
  /-- The pattern, its type, the initial value. -/
  | declarator (isDefinite : Bool)
  /-- The name, the type parameters, the receiver, the parameters, the type of the result, the
  body. -/
  | function (head : FunctionHead)
  /-- A group of directives, statements. -/
  | functionBody
  /-- A group of parameters, the rest parameter. -/
  | parameters
  /-- The decorators, the pattern, its type, the initial value. -/
  | parameter (flags : MemberFlags)
  /-- The receiver of a function: its type. -/
  | receiver
  /-- The decorators of a rest parameter, the pattern, its type. -/
  | restParameter
  /-- The decorators, the name, the type parameters, the base class, its type arguments, the
  interfaces, the members. -/
  | classNode (head : ClassHead)
  /-- The decorators, the key, the function. -/
  | method (kind : MethodKind) (flags : MemberFlags)
  /-- The decorators, the key, the type, the initial value. -/
  | field (flags : MemberFlags)
  /-- The decorators, the key, the type, the initial value. -/
  | accessorField (flags : MemberFlags)
  /-- Statements. -/
  | staticBlock
  /-- The expression of a decorator. -/
  | decorator
  /-- The import specifiers, the source, the attributes. -/
  | importDeclaration (phase : Option ImportPhase) (typeOnly : Bool)
  /-- The name. -/
  | importDefault
  /-- The name. -/
  | importNamespace
  /-- The name on the other side, the name on this side. -/
  | importNamed (typeOnly : Bool)
  /-- The attributes of an import. -/
  | importAttributes (keyword : List Char)
  /-- The key, the value. -/
  | importAttribute
  /-- The name, what it stands for. -/
  | importEquals (typeOnly : Bool)
  /-- The source of a required module. -/
  | requiredModule
  /-- The declaration. -/
  | exportDeclaration
  /-- A group of specifiers, the source, the attributes. -/
  | exportNames (typeOnly : Bool)
  /-- The name on this side, the name on the other side. -/
  | exportSpecifier (typeOnly : Bool)
  /-- The name of the namespace, the source, the attributes. -/
  | exportAll (typeOnly : Bool)
  /-- The declaration or the expression. -/
  | exportDefault
  /-- The expression. -/
  | exportAssignment
  | exportNamespace (name : Name)
  /-- The name, the type parameters, the type. -/
  | typeAlias (isDeclare : Bool)
  /-- The name, the type parameters, the interfaces that it extends, the members. -/
  | interfaceNode (isDeclare : Bool)
  /-- The name, the members. -/
  | enumNode (isConst isDeclare : Bool)
  /-- The key, the value. -/
  | enumMember (isComputed : Bool)
  /-- The name, which is a dotted name or a string, and the body. -/
  | namespaceNode (kind : NamespaceKind) (isDeclare : Bool)
  /-- The body. -/
  | globalNode (isDeclare : Bool)
  /-- A group of directives, statements. -/
  | namespaceBody
  /-- A name, bound or referred to. -/
  | name (name : Name)
  | privateName (name : Name)
  | null
  | this
  | super
  | boolean (value : Bool)
  | number (value : Binary64) (raw : List Char)
  | bigint (value : Nat)
  | string (units : List Nat)
  | regex (pattern flags : List Char)
  /-- The substitutions. -/
  | template (texts : List (List Char))
  /-- The tag, the type arguments, the template. -/
  | tagged
  /-- The elements. -/
  | array
  | hole
  /-- The value that is spread; `isFollowed` says whether a comma comes after it. -/
  | spread (isFollowed : Bool)
  /-- The properties. -/
  | object
  /-- The key, the value. -/
  | property (isComputed isShorthand : Bool)
  /-- The key, the function. -/
  | methodProperty (kind : MethodKind) (isComputed : Bool)
  /-- A shorthand property with a default, which only a pattern may hold: the name, the default. -/
  | propertyWithDefault
  /-- The type parameters, the parameters, the type of the result, the body. -/
  | arrow (isAsync isExpression noEffects enclosed : Bool)
  /-- The operand. -/
  | unary (operator : UnaryOperator)
  /-- The operand. -/
  | update (isIncrement isPrefixed : Bool)
  /-- The operands. -/
  | binary (operator : BinaryOperator)
  /-- The object. -/
  | privateIn (name : Name)
  /-- The target, the value. -/
  | assignment (operator : Option BinaryOperator)
  /-- The test and the two values. -/
  | conditional
  /-- The callee, the type arguments, a group of arguments. -/
  | call (isOptional isPure : Bool)
  /-- The callee, the type arguments, a group of arguments. -/
  | newCall (isPure : Bool)
  /-- The object. -/
  | member (name : Name) (isOptional : Bool)
  /-- The object. -/
  | privateMember (name : Name) (isOptional : Bool)
  /-- The object, the key. -/
  | index (isOptional : Bool)
  /-- The expression whose evaluation may stop early. -/
  | chain
  /-- The expressions. -/
  | sequence
  /-- The expression between the parentheses. -/
  | parenthesized
  /-- The operand. -/
  | await
  /-- The operand. -/
  | yield (isDelegate : Bool)
  /-- The source, the options. -/
  | importCall (phase : Option ImportPhase)
  /-- A property of the keyword `new` or `import`. -/
  | metaProperty (object property : Name)
  /-- The expression, the type. -/
  | asType
  /-- The expression, the type. -/
  | satisfiesType
  /-- The type, the expression. -/
  | typeAssertion
  /-- The expression. -/
  | nonNull
  /-- The expression, the type arguments. -/
  | instantiation
  /-- The elements, the last of which may be a rest. -/
  | arrayPattern
  /-- The properties, the last of which may be a rest. -/
  | objectPattern
  /-- The key, the pattern. -/
  | patternProperty (isComputed isShorthand : Bool)
  /-- The pattern, the default. -/
  | patternWithDefault
  /-- The pattern. -/
  | rest
  /-- The elements, the last of which may be a rest. -/
  | arrayTarget
  /-- The properties, the last of which may be a rest. -/
  | objectTarget
  /-- The name, the default. -/
  | targetName
  /-- The key, the target. -/
  | targetProperty (isComputed : Bool)
  /-- The target, the default. -/
  | targetWithDefault
  /-- The type arguments, a group of attributes, the children. -/
  | element (name : Name) (isClosed : Bool)
  /-- The children. -/
  | fragment
  /-- The value. -/
  | attribute (name : Name)
  | attributeText (raw : List Char)
  /-- The expression whose properties are attributes. -/
  | spreadAttribute
  | elementText (raw : List Char)
  /-- The expression. -/
  | container
  | emptyExpression
  /-- The expression whose items are children. -/
  | spreadChild
  | wordType (word : WordType)
  /-- The literal, which is an expression. -/
  | literalType
  /-- The name, the type arguments. -/
  | referenceType
  /-- A dotted name: the part before the dot. -/
  | qualifiedName (name : Name)
  /-- The type of the items. -/
  | arrayType
  /-- The type, the type of the key. -/
  | indexedType
  /-- The types of the items. -/
  | tupleType
  /-- The type of an item that has a label. -/
  | tupleLabel (label : Name) (isOptional : Bool)
  | optionalType
  | restType
  /-- A type with a question mark before or after it. -/
  | nullableType (isPostfixed : Bool)
  /-- A type with an exclamation mark before or after it. -/
  | nonNullType (isPostfixed : Bool)
  /-- A question mark that stands for a type. -/
  | wildcardType
  /-- The types. -/
  | unionType
  /-- The types. -/
  | intersectionType
  /-- The type that is tested, the type that it is tested against, the two results. -/
  | conditionalType
  /-- The type parameter. -/
  | inferType
  | parenthesizedType
  /-- The operand. -/
  | operatorType (operator : TypeOperator)
  /-- The subject, the type. -/
  | predicateType (asserts : Bool)
  /-- The type parameters, the receiver, the parameters, the result. -/
  | functionType
  /-- The type parameters, the parameters, the result. -/
  | constructorType (isAbstract : Bool)
  /-- The name or import, the type arguments. -/
  | queryType
  /-- The source, the options, the name in it, the type arguments. -/
  | importType
  /-- The parameter, what it ranges over, the new name, the type of the values. -/
  | mappedType (readonly optional : MappedModifier)
  /-- The substitutions. -/
  | templateType (texts : List (List Char))
  /-- The members. -/
  | objectType
  /-- The key, the type. -/
  | propertySignature (flags : MemberFlags)
  /-- The key, the type parameters, the receiver, the parameters, the result. -/
  | methodSignature (kind : MethodKind) (flags : MemberFlags)
  /-- The type parameters, the receiver, the parameters, the result. -/
  | callSignature
  /-- The type parameters, the parameters, the result. -/
  | constructSignature
  /-- The type of the key, the type of the value. -/
  | indexSignature (name : Name) (isReadonly : Bool)
  /-- A list of type parameters. -/
  | typeParameters
  /-- The name, the bound, the default. -/
  | typeParameter (isConst isIn isOut : Bool)
  /-- A list of type arguments. -/
  | typeArguments
  /-- The expression, the type arguments. -/
  | heritage
deriving DecidableEq, Repr, Inhabited

/-- What a node carries: its shape and its range of bytes. -/
structure Head where
  shape : Shape
  start : Nat
  stop : Nat
deriving DecidableEq, Repr, Inhabited

/-- A syntax tree. -/
abbrev Node := Tree Head

namespace Node

/-- The node with a shape, a range and parts. -/
def ofShape (shape : Shape) (start stop : Nat) (parts : List Node := []) : Node :=
  .node ⟨shape, start, stop⟩ parts

/-- The shape of a node. -/
def shape (n : Node) : Shape := n.value.shape

/-- The offset of a node's first byte. -/
def start (n : Node) : Nat := n.value.start

/-- The offset after a node's last byte. -/
def stop (n : Node) : Nat := n.value.stop

/-- A part that is missing. -/
def absent : Node := ofShape .absent 0 0

/-- A group of nodes. -/
def group (parts : List Node) : Node := ofShape .group 0 0 parts

/-- A list of statements. -/
def statements (parts : List Node) : Node := ofShape .statements 0 0 parts

/-- A part that may be missing. -/
def ofOption : Option Node → Node
  | some n => n
  | none => absent

/-- Whether a part is missing. -/
def isAbsent (n : Node) : Bool := n.shape == .absent

/-- The node between the parentheses, however many there are. -/
def withoutParentheses : Node → Node
  | .node ⟨.parenthesized, _, _⟩ [inner] => withoutParentheses inner
  | n => n

/-- The name that a node is. -/
def name? (n : Node) : Option Name :=
  match n.shape with
  | .name name => some name
  | _ => none

mutual

/-- Whether some node of the tree has a shape. -/
def anyShape (p : Shape → Bool) : Node → Bool
  | .node head parts => p head.shape || anyShapeOf p parts

/-- Whether some node of a forest has a shape. -/
def anyShapeOf (p : Shape → Bool) : List Node → Bool
  | [] => false
  | n :: ns => anyShape p n || anyShapeOf p ns

end

end Node

end SourceEdit.Script
