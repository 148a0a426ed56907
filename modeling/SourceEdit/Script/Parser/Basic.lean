import SourceEdit.Script.Dialect
import SourceEdit.Script.Lexer
import SourceEdit.Script.Number
import SourceEdit.Script.Precedence

/-!
# Reading syntax

A `Parser` reads tokens one at a time.  It knows the dialect and the surroundings of what it reads,
and keeps the current token, the comments met so far and whether some part was not well formed.
There are two ways to be wrong: a parser that fails stops the reading and can be undone by
`attempt`; one that calls `report` goes on, and the script is refused in the end.

Constructs contain one another, so a parser is given the others by a function `parse` on `Goal`s,
the constructs that may be nested.  The knot is tied where the whole grammar is known.
-/

namespace SourceEdit.Script

/-- What surrounds a construct, as far as it changes how the construct is read. -/
structure Context where
  /-- Whether `in` is an operator. -/
  allowsIn : Bool := true
  /-- Whether `await` is an operator. -/
  inAsync : Bool := false
  /-- Whether `yield` is an operator. -/
  inGenerator : Bool := false
  /-- Whether there is a function to return from. -/
  inFunction : Bool := false
  /-- Whether only declarations are given. -/
  isAmbient : Bool := false
  /-- Whether there is no function around. -/
  isTopLevel : Bool := true
  /-- Whether a bracket does not continue an expression. -/
  inDecorator : Bool := false
  /-- Whether a conditional type has to be put between parentheses. -/
  noConditional : Bool := false
deriving DecidableEq, Repr, Inhabited

/-- What a parser is told. -/
structure Surroundings where
  dialect : Dialect
  context : Context
  /-- A bound on the number of steps of a loop; the length of the text is enough. -/
  bound : Nat

/-- What a parser keeps. -/
structure ReadState where
  /-- The current token. -/
  token : Token
  /-- The offset after the token before. -/
  previousStop : Nat
  trivia : Lexer.Trivia
  /-- Whether something read was not well formed. -/
  failed : Bool := false
  /-- Whether something read is well formed in a module only. -/
  failedAsScript : Bool := false
  /-- Whether something read is found in modules only. -/
  isModule : Bool := false

/-- A reader of a construct. -/
abbrev Parser := ReaderT Surroundings (StateT ReadState Option)

/-- Where a statement stands. -/
inductive StatementPlace where
  /-- In a list of statements. -/
  | list
  /-- As the single statement of another one. -/
  | single
deriving DecidableEq, Repr, Inhabited

/-- The constructs that are nested in others. -/
inductive Goal where
  /-- An expression, or several with commas. -/
  | expression
  /-- An expression without commas; `arrowResult` says whether an arrow function may give the type
  of its result. -/
  | assignment (arrowResult : Bool)
  /-- An expression whose operators bind more tightly than the given strength. -/
  | binary (above : Precedence)
  /-- An operand with its operators before it. -/
  | unary
  /-- An operand that may stand before `++`. -/
  | leftHandSide
  /-- What may be made an instance of, without calls. -/
  | instanceCallee
  | type
  /-- A type whose operators bind more tightly than `&`. -/
  | typeOperand
  /-- What a declaration binds, without a default. -/
  | pattern
  /-- What a declaration binds, with a default. -/
  | patternElement
  | statement (place : StatementPlace)
  /-- An element, from its opening angle bracket on; `inContent` says whether it is the child of
  another one. -/
  | element (inContent : Bool)
deriving DecidableEq, Repr, Inhabited

namespace Parser

/-! ### Tokens -/

/-- The current token. -/
def current : Parser Token := return (← get).token

/-- What the current token is. -/
def kind : Parser Token.Kind := return (← get).token.kind

/-- Whether the current token stands on a new line. -/
def onNewLine : Parser Bool := return (← get).token.onNewLine

/-- The offset of the current token. -/
def here : Parser Nat := return (← get).token.start

/-- The offset after the token before. -/
def before : Parser Nat := return (← get).previousStop

/-- Notes that what was read is not well formed. -/
def report : Parser Unit := modify fun s => { s with failed := true }

/-- Notes a problem when a condition holds. -/
def reportIf (wrong : Bool) : Parser Unit := do if wrong then report

/-- Goes on to the next token after `t`, read in the given mode. -/
def step (mode : Lexer.Mode) (t : Token) : Parser Unit := do
  let surroundings ← read
  let html := surroundings.dialect.loading == .script
  modify fun s =>
    let (token, trivia) :=
      Lexer.next mode html surroundings.bound ⟨t.rest, t.stop⟩ s.trivia
    { s with token, trivia, previousStop := t.stop }

/-- Goes on to the next token after a part of the grammar, read in the given mode. A word of the
grammar may not be written with escapes. -/
def advancePast (mode : Lexer.Mode) (t : Token) : Parser Unit := do
  reportIf (t.escaped && (t.kind matches .word _))
  step mode t

/-- Goes on to the next token after a part of the grammar. -/
def advance : Parser Unit := do advancePast .plain (← current)

/-- Goes on to the next token after a name, which may be a word with escapes. -/
def advancePastName : Parser Unit := do step .plain (← current)

/-- Whether the current token is a punctuation mark. -/
def isAt (p : Punct) : Parser Bool := return (← kind) == .punct p

/-- Whether the current token is a word. -/
def isAtWord (w : Word) : Parser Bool := return (← kind) == .word w

/-- Goes past a punctuation mark if it is there. -/
def eat (p : Punct) : Parser Bool := do
  if ← isAt p then
    advance
    return true
  else return false

/-- Goes past a word if it is there. -/
def eatWord (w : Word) : Parser Bool := do
  if ← isAtWord w then
    advance
    return true
  else return false

/-- Goes past a punctuation mark, which must be there. -/
def expect (p : Punct) : Parser Unit := do
  if !(← eat p) then failure

/-- Goes past a word, which must be there. -/
def expectWord (w : Word) : Parser Unit := do
  if !(← eatWord w) then failure

/-! ### Trying -/

/-- Runs a parser; when it fails, nothing has been read. -/
def attempt {α : Type} (p : Parser α) : Parser (Option α) := fun surroundings s =>
  match p surroundings s with
  | some (a, s) => some (some a, s)
  | none => some (none, s)

/-- Whether a test holds of what follows. Nothing is read. -/
def follows (p : Parser Bool) : Parser Bool := fun surroundings s =>
  match p surroundings s with
  | some (a, _) => some (a, s)
  | none => some (false, s)

/-- Whether a test holds of the token after the current one. -/
def nextIs (p : Token → Bool) : Parser Bool := follows do
  advance
  return p (← current)

/-- Runs a parser in another context. -/
def within {α : Type} (f : Context → Context) (p : Parser α) : Parser α :=
  withReader (fun s => { s with context := f s.context }) p

/-- The context. -/
def context : Parser Context := return (← read).context

/-- Whether types are allowed. -/
def hasTypes : Parser Bool := return (← read).dialect.types

/-- Goes past what `p` accepts if types are allowed; without them nothing is read. -/
def ifTyped (p : Parser Bool) : Parser Bool := do
  if ← hasTypes then p else return false

/-- Whether markup elements are allowed. -/
def hasElements : Parser Bool := return (← read).dialect.elements

/-! ### Repeating -/

/-- Repeats a step until it gives nothing, at most `n` times. -/
def collectUpTo {α : Type} (step : Parser (Option α)) : Nat → Parser (List α)
  | 0 => failure
  | n + 1 => do
    match ← step with
    | none => return []
    | some a => return a :: (← collectUpTo step n)

/-- Repeats a step until it gives nothing. -/
def collect {α : Type} (step : Parser (Option α)) : Parser (List α) := do
  collectUpTo step ((← read).bound + 1)

/-- Repeats a step that says whether to go on, at most `n` times. -/
def iterateUpTo {α : Type} (step : α → Parser (Bool × α)) : Nat → α → Parser α
  | 0, _ => failure
  | n + 1, a => do
    let (more, a) ← step a
    if more then iterateUpTo step n a else return a

/-- Repeats a step that says whether to go on. -/
def iterate {α : Type} (step : α → Parser (Bool × α)) (a : α) : Parser α := do
  iterateUpTo step ((← read).bound + 1) a

/-- Items until a closing mark, with commas between them and perhaps one at the end. The mark is
not read. -/
def itemsUntil {α : Type} (close : Punct) (item : Parser α) : Parser (List α) :=
  collect do
    if ← isAt close then return none
    let a ← item
    if !(← isAt close) then expect .comma
    return some a

/-- Items with commas between them. -/
def separated {α : Type} (item : Parser α) : Parser (List α) := do
  let first ← item
  let rest ← collect do
    if ← eat .comma then return some (← item) else return none
  return first :: rest

/-! ### Nodes -/

/-- The node that starts at an offset and ends at the last token read. -/
def finish (shape : Shape) (start : Nat) (parts : List Node := []) : Parser Node :=
  return .ofShape shape start (← before) parts

/-- Reads a part if a condition holds. -/
def optional (condition : Bool) (p : Parser Node) : Parser Node :=
  if condition then p else pure .absent

/-! ### Ends of statements -/

/-- Whether a statement may end here. -/
def canEnd : Parser Bool := do
  let t ← current
  return t.kind == .punct .semicolon || t.kind == .punct .braceClose || t.kind == .endOfText
    || t.onNewLine

/-- Ends a statement, by a semicolon or without one. -/
def endStatement : Parser Unit := do
  if !(← eat .semicolon) then
    if !(← canEnd) then failure

end Parser

namespace Token

/-- Whether a token may be bound as a name. -/
def isBindingName (t : Token) : Bool :=
  match t.kind with
  | .name => true
  | .word w => !w.isReserved
  | _ => false

/-- Whether a token is a name or a word. -/
def isNameOrWord (t : Token) : Bool :=
  match t.kind with
  | .name => true
  | .word _ => true
  | _ => false

/-- Whether a token is a punctuation mark. -/
def isPunct (p : Punct) (t : Token) : Bool := t.kind == .punct p

/-- Whether a token is a word. -/
def isWord (w : Word) (t : Token) : Bool := t.kind == .word w

/-- Whether a token is a string. -/
def isString (t : Token) : Bool := t.kind == .string

/-- Whether a token is a number. -/
def isNumber (t : Token) : Bool := t.kind == .number || t.kind == .bigint

/-- Whether a token starts the name of a property. -/
def isPropertyName (t : Token) : Bool :=
  t.isNameOrWord || t.isString || t.isNumber || t.kind == .privateName

/-- Whether a token starts a template. -/
def isTemplate (t : Token) : Bool :=
  match t.kind with
  | .template _ => true
  | _ => false

/-- Whether a token may follow a word that modifies a member. -/
def followsModifier (t : Token) : Bool :=
  t.isPropertyName || t.isPunct .bracketOpen || t.isPunct .braceOpen || t.isPunct .star
    || t.isPunct .ellipsis

/-- Whether a token is a name, a word or a literal. -/
def isNameOrLiteral (t : Token) : Bool := t.isNameOrWord || t.isNumber || t.isString

end Token

namespace Parser

/-! ### Names -/

/-- Notes a name that the surroundings reserve. -/
def checkName (t : Token) : Parser Unit := do
  let c ← context
  reportIf (t.isWord .await_ && c.inAsync)
  reportIf (t.isWord .yield_ && c.inGenerator)

/-- A name that is bound or referred to. -/
def bindingName : Parser Node := do
  let t ← current
  if !t.isBindingName then failure
  checkName t
  advancePastName
  finish (.name t.text) t.start

/-- A name or word, as the name of a property. -/
def anyName : Parser Node := do
  let t ← current
  if !t.isNameOrWord then failure
  advancePastName
  finish (.name t.text) t.start

/-- A label. -/
def labelName : Parser Name := do
  let t ← current
  if !t.isBindingName then failure
  checkName t
  advancePastName
  return t.text

/-! ### Literals -/

/-- The text that a token was read from. -/
def tokenSource (t : Token) : List Char :=
  t.source.take (t.source.length - t.rest.length)

/-- A string. -/
def stringLiteral : Parser Node := do
  let t ← current
  if !t.isString then failure
  advance
  finish (.string t.units) t.start

/-- A number. -/
def numberLiteral : Parser Node := do
  let t ← current
  match t.kind with
  | .number =>
    advance
    finish (.number (numberValue t.text) (tokenSource t)) t.start
  | .bigint =>
    advance
    finish (.bigint (bigintValue t.text)) t.start
  | _ => failure

/-- The key of a property, and whether it is computed. -/
def propertyKey (parse : Goal → Parser Node) : Parser (Node × Bool) := do
  let t ← current
  match t.kind with
  | .punct .bracketOpen =>
    advance
    let key ← within (fun c => { c with allowsIn := true }) (parse (.assignment true))
    expect .bracketClose
    return (key, true)
  | .string => return (← stringLiteral, false)
  | .number | .bigint => return (← numberLiteral, false)
  | .privateName =>
    advance
    return (← finish (.privateName t.text) t.start, false)
  | _ => return (← anyName, false)

end Parser

end SourceEdit.Script
