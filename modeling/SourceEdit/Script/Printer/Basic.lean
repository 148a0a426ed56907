import SourceEdit.Script.Lexer
import SourceEdit.Script.Number
import SourceEdit.Script.Precedence
import SourceEdit.Text.Characters

/-!
# Writing syntax

A `Printer` adds text to an `Output`, which also keeps the depth of indentation, the comments that
are still to be written and some places in the text: where a statement or the body of an arrow
function started, and where an operator, a number or a regular expression ended.  These places
decide where parentheses and blanks are needed.

Constructs contain one another, so the functions that write them are given the others by a function
`emit` on `Task`s.
-/

namespace SourceEdit.Script

/-- A sign that may run into another one. -/
inductive Sign where
  | binary (operator : BinaryOperator)
  | unary (operator : UnaryOperator)
  | update (isIncrement : Bool)
deriving DecidableEq, Repr, Inhabited

/-- What has been written. -/
structure Output where
  /-- The text, in reverse. -/
  text : List Char := []
  /-- The number of characters written. -/
  length : Nat := 0
  depth : Nat := 0
  /-- Whether a blank stands for the next indentation. -/
  nextIndentIsBlank : Bool := false
  /-- The comments that are still to be written. -/
  comments : List Comment := []
  lastSign : Option Sign := none
  /-- Where the last sign ended. -/
  signEnd : Nat := 0
  /-- Where the last regular expression ended. -/
  regexEnd : Nat := 0
  /-- Where the last number made of digits alone ended. -/
  wholeNumberEnd : Nat := 0
  /-- Where the last statement that is an expression started. -/
  statementStart : Nat := 0
  /-- Where the last body of an arrow function that is an expression started. -/
  arrowBodyStart : Nat := 0
  /-- Where the last expression that is exported by default started. -/
  defaultStart : Nat := 0
deriving Inhabited

/-- What surrounds an expression, as far as it changes how the expression is written. -/
structure Mode where
  /-- Whether `in` needs parentheses. -/
  forbidsIn : Bool := false
  /-- Whether calls need parentheses. -/
  forbidsCall : Bool := false
  /-- Whether the expression is part of a type. -/
  inType : Bool := false
deriving DecidableEq, Repr, Inhabited

/-- How a script is written. -/
structure PrintStyle where
  quote : Char
  /-- Whether the dialect has elements, so that a single type parameter needs a comma. -/
  elements : Bool
  /-- What surrounds the function whose statements are written.  It reaches into the values of the
  variables that they declare. -/
  surroundings : Mode := {}

/-- A writer of a construct. -/
abbrev Printer := ReaderT PrintStyle (StateM Output)

/-- What is to be written. -/
inductive Task where
  /-- A node; operators that bind no more tightly than `above` need parentheses. -/
  | node (n : Node) (above : Precedence) (mode : Mode)
  /-- A statement on lines of its own. -/
  | statement (n : Node)

namespace Printer

/-! ### Text -/

/-- Writes a character. -/
def put (c : Char) : Printer Unit :=
  modify fun o => { o with text := c :: o.text, length := o.length + 1 }

/-- Writes characters. -/
def puts (cs : List Char) : Printer Unit :=
  modify fun o => { o with text := cs.reverse ++ o.text, length := o.length + cs.length }

/-- Writes a text. -/
def text (s : String) : Printer Unit := puts s.toList

/-- Writes something when a condition holds. -/
def putIf (condition : Bool) (p : Printer Unit) : Printer Unit := if condition then p else pure ()

/-- The place that is written to. -/
def place : Printer Nat := return (← get).length

/-- A blank. -/
def blank : Printer Unit := put ' '

/-- The end of a line. -/
def newLine : Printer Unit := put '\n'

/-- The end of a statement. -/
def semicolonLine : Printer Unit := puts [';', '\n']

/-- The indentation of a line. -/
def indent : Printer Unit := do
  let o ← get
  if o.nextIndentIsBlank then
    blank
    modify fun o => { o with nextIndentIsBlank := false }
  else puts (List.replicate o.depth '\t')

/-- Writes something one step deeper. -/
def deeper (p : Printer Unit) : Printer Unit := do
  modify fun o => { o with depth := o.depth + 1 }
  p
  modify fun o => { o with depth := o.depth - 1 }

/-- What surrounds the function whose statements are written. -/
def surroundings : Printer Mode := return (← read).surroundings

/-- Writes the statements of a function in a given mode. -/
def surroundedBy (m : Mode) (p : Printer Unit) : Printer Unit :=
  withReader (fun style => { style with surroundings := m }) p

/-- Writes something between parentheses when a condition holds. -/
def wrap (condition : Bool) (p : Printer Unit) : Printer Unit := do
  putIf condition (put '(')
  p
  putIf condition (put ')')

/-- Writes something between brackets when a condition holds. -/
def bracket (condition : Bool) (p : Printer Unit) : Printer Unit := do
  putIf condition (put '[')
  p
  putIf condition (put ']')

/-- Writes items with a separator between them. -/
def separatedBy {α : Type} (separator : Printer Unit) (p : α → Printer Unit) : List α → Printer Unit
  | [] => pure ()
  | [a] => p a
  | a :: rest => do
    p a
    separator
    separatedBy separator p rest

/-- Writes items with commas between them. -/
def commas {α : Type} (p : α → Printer Unit) (items : List α) : Printer Unit :=
  separatedBy (text ", ") p items

/-- Writes items. -/
def each {α : Type} (p : α → Printer Unit) : List α → Printer Unit
  | [] => pure ()
  | a :: rest => do
    p a
    each p rest

/-- Writes something between braces, on lines of its own unless it is empty. -/
def braces (isEmpty : Bool) (p : Printer Unit) : Printer Unit := do
  put '\x7b'
  if isEmpty then p
  else
    newLine
    deeper p
    indent
  put '\x7d'

/-! ### Blanks that are needed -/

/-- A blank, if a word would run into what is there. -/
def wordBreak : Printer Unit := do
  let o ← get
  match o.text with
  | [] => pure ()
  | c :: _ => putIf (o.regexEnd == o.length || Lexer.isNamePart c) blank

/-- Whether two signs would be read as another sign. -/
private def runsInto (before after : Sign) (text : List Char) : Bool :=
  match before, after with
  | .binary .add, .binary .add | .binary .add, .unary .plus | .binary .add, .update true
  | .unary .plus, .binary .add | .unary .plus, .unary .plus | .unary .plus, .update true
  | .binary .subtract, .binary .subtract | .binary .subtract, .unary .minus
  | .binary .subtract, .update false
  | .unary .minus, .binary .subtract | .unary .minus, .unary .minus
  | .unary .minus, .update false
  | .update false, .binary .greater => true
  | .unary .not, .update false => (text.drop 1).head? == some '<'
  | _, _ => false

/-- A blank, if a sign would run into what is there. -/
def signBreak (s : Sign) : Printer Unit := do
  let o ← get
  match o.lastSign with
  | some before => putIf (o.signEnd == o.length && runsInto before s o.text) blank
  | none => pure ()

/-- Writes a sign where it cannot run into what is there. -/
def bareSign (s : Sign) (cs : List Char) : Printer Unit := do
  puts cs
  modify fun o => { o with lastSign := some s, signEnd := o.length }

/-- Writes a sign, with a blank before it if it would run into what is there. -/
def sign (s : Sign) (cs : List Char) : Printer Unit := do
  signBreak s
  bareSign s cs

/-! ### Comments -/

/-- Whether a text starts with a word, the case of letters ignored. -/
private def startsWithFolded (word text : List Char) : Bool :=
  asciiLower (text.take word.length) == word

/-- A text in which no script element is closed. -/
def escapeScriptEnd : List Char → List Char
  | [] => []
  | c :: cs =>
    if c == '<' && startsWithFolded "/script".toList cs then '<' :: '\\' :: escapeScriptEnd cs
    else c :: escapeScriptEnd cs

/-- The lines of a text. -/
private def lines : List Char → List (List Char)
  | [] => [[]]
  | '\r' :: '\n' :: cs => [] :: lines cs
  | c :: cs =>
    if Lexer.isLineEnd c then [] :: lines cs
    else match lines cs with
      | line :: rest => (c :: line) :: rest
      | [] => [[c]]

/-- Writes a comment; each line of a block is indented anew. -/
private def comment (c : Comment) : Printer Unit :=
  match c.form with
  | .line | .block => puts (escapeScriptEnd c.text)
  | .blockOfLines =>
    each (fun (line : List Char) => do
      if !(['/', '*'].isPrefixOf line) then indent
      puts (escapeScriptEnd (line.dropWhile isBlank))
      if !(['*', '/'].isSuffixOf line) then newLine) (lines c.text)

/-- Whether comments are still to be written before what stood at an offset. -/
def hasComments (offset : Nat) : Printer Bool :=
  return (← get).comments.any (·.attachedTo == some offset)

/-- Takes the comments before what stood at an offset. -/
def takeComments (offset : Nat) : Printer (List Comment) := do
  let o ← get
  set { o with comments := o.comments.filter (·.attachedTo != some offset) }
  return o.comments.filter (·.attachedTo == some offset)

/-- Starts a line for a comment that stood at the start of one. -/
private def commentLine : Printer Unit := do
  match (← get).text with
  | [] => pure ()
  | '\n' :: _ => indent
  | '\t' :: _ => pure ()
  | _ =>
    newLine
    indent

/-- Writes the comments after the first one. -/
private def laterComments : Comment → List Comment → Printer Unit
  | last, [] =>
    if last.form == .line || last.beforeNewLine then newLine
    else modify fun o => { o with nextIndentIsBlank := true }
  | _, c :: rest => do
    if c.afterNewLine then
      newLine
      indent
    else if c.content == .notice then newLine
    comment c
    laterComments c rest

/-- Writes comments before a construct. -/
def writeComments : List Comment → Printer Unit
  | [] => pure ()
  | c :: rest => do
    if c.afterNewLine then commentLine else indent
    comment c
    laterComments c rest

/-- Writes the comments before what stood at an offset. -/
def commentsAt (offset : Nat) : Printer Unit := do writeComments (← takeComments offset)

/-- Writes the comments before what stood at an offset and parts them from it. -/
def inlineComments (offset : Nat) : Printer Unit := do
  let cs ← takeComments offset
  writeComments cs
  putIf (!cs.isEmpty) indent

/-- Writes the comments before an item of a list, each on a line of its own; says whether there
were any. -/
def itemComments (offset : Nat) : Printer Bool := do
  let cs ← takeComments offset
  each (fun c => do
    newLine
    indent
    comment c) cs
  if cs.isEmpty then return false
  else
    newLine
    return true

/-! ### Strings -/

/-- The escape of one unit of a string, given the units after it. -/
private def escapeUnit (quote : Char) (u : Nat) (rest : List Nat) : List Char :=
  let hex (n : Nat) : Char := Nat.digitChar (n % 16)
  if u = 0 then
    match rest with
    | d :: _ => if 0x30 ≤ d && d ≤ 0x39 then "\\x00".toList else "\\0".toList
    | [] => "\\0".toList
  else if u = 0x07 then "\\x07".toList
  else if u = 0x08 then "\\b".toList
  else if u = 0x0A then "\\n".toList
  else if u = 0x0B then "\\v".toList
  else if u = 0x0C then "\\f".toList
  else if u = 0x0D then "\\r".toList
  else if u = 0x1B then "\\x1B".toList
  else if u = 0x5C then "\\\\".toList
  else if u = 0xA0 then "\\xA0".toList
  else if u = quote.toNat then ['\\', quote]
  else if u = 0x2028 || u = 0x2029 || (0xD800 ≤ u && u ≤ 0xDFFF) then
    ['\\', 'u', hex (u / 4096), hex (u / 256), hex (u / 16), hex u]
  else if u = 0x3C && asciiLower ((rest.take 7).map Char.ofNat) == "/script".toList then
    ['<', '\\']
  else [Char.ofNat u]

/-- The units of a string with the escapes that they need. -/
def escapeUnits (quote : Char) : List Nat → List Char
  | [] => []
  | u :: rest => escapeUnit quote u rest ++ escapeUnits quote rest

/-- Writes a string. -/
def string (units : List Nat) : Printer Unit := do
  let quote := (← read).quote
  put quote
  puts (escapeUnits quote units)
  put quote

/-- Whether the raw text of a string holds a quote without a backslash before it. -/
def holdsQuote (quote : Char) : List Char → Bool
  | [] => false
  | '\\' :: _ :: rest => holdsQuote quote rest
  | c :: rest => c == quote || holdsQuote quote rest

/-- The quote that is not the given one. -/
def otherQuote (quote : Char) : Char := if quote == '"' then '\'' else '"'

/-! ### Numbers -/

/-- Writes a number. In a type it stays as it was written. -/
def number (value : Binary64) (raw : List Char) (inType : Bool) : Printer Unit := do
  wordBreak
  if inType then puts raw
  else if value.isInfinite then text "Infinity"
  else
    let (digits, isWhole) := compactNumber value
    puts digits
    if isWhole then modify fun o => { o with wholeNumberEnd := o.length }

end Printer

end SourceEdit.Script
