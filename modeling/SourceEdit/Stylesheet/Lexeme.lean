import SourceEdit.Text.Characters

/-!
# Lexemes of stylesheet text

A stylesheet is cut into lexemes: white space, comments, strings, names, numbers, unquoted urls and
single characters.  Each scanner below gives the number of characters that belong to a lexeme, so a
lexeme's text is what `take` leaves and the rest is what `drop` leaves, and the texts of all lexemes
put together are the text that was cut.

Only what decides where an item begins and ends is kept of a lexeme's meaning: `Lexeme.Kind` tells
white space, comments, semicolons and brackets from everything else.
-/

namespace SourceEdit.Stylesheet

/-- The five kinds of bracket that open a block, by what closes them. -/
inductive Bracket where
  | round
  | square
  | curly
deriving DecidableEq, Repr, Inhabited

/-- What a lexeme does to the structure around it. -/
inductive Lexeme.Kind where
  | blank
  | comment
  | semicolon
  | opening (b : Bracket)
  | closing (b : Bracket)
  | other
deriving DecidableEq, Repr, Inhabited

/-- A piece of stylesheet text. -/
structure Lexeme where
  kind : Lexeme.Kind
  text : List Char
deriving DecidableEq, Repr, Inhabited

namespace Lexeme

/-! ### Character classes -/

/-- A character that ends a line. -/
def isLineEnd (c : Char) : Bool := c == '\n' || c == '\r' || c == '\x0c'

/-- White space between lexemes. -/
def isSpace (c : Char) : Bool := c == ' ' || c == '\t' || isLineEnd c

/-- A character that can start a name. -/
def isNameStart (c : Char) : Bool := isAsciiLetter c || c == '_' || c == '\x00' || c.toNat ≥ 0x80

/-- A character that can continue a name. -/
def isNameChar (c : Char) : Bool := isNameStart c || isAsciiDigit c || c == '-'

/-- A control character that an unquoted url must not hold. -/
def isNonPrintable (c : Char) : Bool :=
  let n := c.toNat
  (0x01 ≤ n && n ≤ 0x08) || n == 0x0B || (0x0E ≤ n && n ≤ 0x1F) || n == 0x7F

/-- Whether the text starts with a line end. -/
def startsWithLineEnd : List Char → Bool
  | c :: _ => isLineEnd c
  | [] => false

/-- Whether the text starts with a digit. -/
def startsWithDigit : List Char → Bool
  | c :: _ => isAsciiDigit c
  | [] => false

/-! ### Escapes -/

/-- How far an escape has been read. -/
inductive Escape where
  /-- Not inside an escape. -/
  | none
  /-- Just after the backslash. -/
  | backslash
  /-- After this many hexadecimal digits, at most six. -/
  | hex (digits : Nat)
  /-- After a carriage return that a line feed may follow. -/
  | carriage
deriving DecidableEq, Repr

/-- Whether the escape goes on with this character. -/
def Escape.takes (c : Char) : Escape → Bool
  | .none => false
  | .backslash => true
  | .hex n => (n < 6 && isHexDigit c) || isSpace c
  | .carriage => c == '\n'

/-- The escape after a character that it takes. -/
def Escape.after (c : Char) : Escape → Escape
  | .backslash => if isHexDigit c then .hex 1 else if c == '\r' then .carriage else .none
  | .hex n => if isHexDigit c then .hex (n + 1) else if c == '\r' then .carriage else .none
  | _ => .none

/-! ### Scanners -/

/-- The length of a run of white space. -/
def spaceLength (cs : List Char) : Nat := (cs.takeWhile isSpace).length

/-- The length of a comment after its opening `/*`. -/
def commentLength : List Char → Nat
  | '*' :: '/' :: _ => 2
  | _ :: cs => commentLength cs + 1
  | [] => 0

/-- The length of a string after its opening quote; a line end that is not escaped ends it. -/
def stringLength (quote : Char) (e : Escape) : List Char → Nat
  | [] => 0
  | c :: cs =>
    if e.takes c then stringLength quote (e.after c) cs + 1
    else if c == quote then 1
    else if isLineEnd c then 0
    else stringLength quote (if c == '\\' then .backslash else .none) cs + 1

/-- The length of a name. -/
def nameLength (e : Escape) : List Char → Nat
  | [] => 0
  | c :: cs =>
    if e.takes c then nameLength (e.after c) cs + 1
    else if isNameChar c then nameLength .none cs + 1
    else if c == '\\' && !startsWithLineEnd cs then nameLength .backslash cs + 1
    else 0

/-- The character with a code point, a replacement character when there is none. -/
def charOfCode (n : Nat) : Char :=
  if n = 0 || n > 0x10FFFF || (0xD800 ≤ n && n ≤ 0xDFFF) then '\ufffd' else Char.ofNat n

/-- A name with its escapes decoded; `code` is the value of the hexadecimal digits read so far. -/
def nameValue (e : Escape) (code : Nat) : List Char → List Char
  | [] => match e with
    | .hex _ => [charOfCode code]
    | .backslash => ['\ufffd']
    | _ => []
  | c :: cs =>
    let plain : List Char :=
      if c == '\\' then nameValue .backslash 0 cs
      else (if c == '\x00' then '\ufffd' else c) :: nameValue .none 0 cs
    match e with
    | .none => plain
    | .backslash =>
      if isHexDigit c then nameValue (.hex 1) ((hexDigitValue? c).getD 0) cs
      else (if c == '\x00' then '\ufffd' else c) :: nameValue .none 0 cs
    | .hex n =>
      if n < 6 && isHexDigit c then
        nameValue (.hex (n + 1)) (code * 16 + (hexDigitValue? c).getD 0) cs
      else if isSpace c then
        charOfCode code :: nameValue (if c == '\r' then .carriage else .none) 0 cs
      else charOfCode code :: plain
    | .carriage => if c == '\n' then nameValue .none 0 cs else plain

/-- Whether a name starts here. -/
def startsName : List Char → Bool
  | c :: cs =>
    if c == '-' then
      match cs with
      | d :: _ => isNameStart d || d == '-' || d == '\\'
      | [] => false
    else if c == '\\' then !startsWithLineEnd cs
    else isNameStart c
  | [] => false

/-- The length of the digits of a number without its sign. -/
def unsignedLength (cs : List Char) : Nat :=
  let whole := (cs.takeWhile isAsciiDigit).length
  match cs.drop whole with
  | '.' :: r => if startsWithDigit r then whole + 1 + (r.takeWhile isAsciiDigit).length else whole
  | _ => whole

/-- The length of an exponent. -/
def exponentLength : List Char → Nat
  | e :: r =>
    if e == 'e' || e == 'E' then
      match r with
      | s :: t =>
        if isAsciiDigit s then 1 + (r.takeWhile isAsciiDigit).length
        else if (s == '+' || s == '-') && startsWithDigit t then
          2 + (t.takeWhile isAsciiDigit).length
        else 0
      | [] => 0
    else 0
  | [] => 0

/-- The length of a sign. -/
def signLength : List Char → Nat
  | '+' :: _ | '-' :: _ => 1
  | _ => 0

/-- The length of a number without its unit. -/
def digitsLength (cs : List Char) : Nat :=
  let sign := signLength cs
  let digits := sign + unsignedLength (cs.drop sign)
  digits + exponentLength (cs.drop digits)

/-- The length of a number with its unit. -/
def numberLength (cs : List Char) : Nat :=
  let digits := digitsLength cs
  match cs.drop digits with
  | '%' :: _ => digits + 1
  | r => if startsName r then digits + nameLength .none r else digits

/-- Whether a number starts here, a sign apart. -/
def startsNumber : List Char → Bool
  | '.' :: r => startsWithDigit r
  | r => startsWithDigit r

/-- The length of the rest of a malformed url, up to its closing bracket; `skip` says that a
backslash precedes. -/
def badUrlLength (skip : Bool) : List Char → Nat
  | [] => 0
  | c :: cs =>
    if skip && (c == ')' || c == '\\') then badUrlLength false cs + 1
    else if c == ')' then 1
    else badUrlLength (c == '\\') cs + 1

/-- The length of the rest of a url after white space. -/
def urlEndLength : List Char → Nat
  | [] => 0
  | c :: cs =>
    if c == ')' then 1
    else if isSpace c then urlEndLength cs + 1
    else badUrlLength false cs + 1

/-- The length of an unquoted url and its closing bracket. -/
def urlBodyLength (e : Escape) : List Char → Nat
  | [] => 0
  | c :: cs =>
    if e.takes c then urlBodyLength (e.after c) cs + 1
    else if c == ')' then 1
    else if isSpace c then urlEndLength (c :: cs)
    else if isNonPrintable c || c == '"' || c == '\'' || c == '(' then badUrlLength false cs + 1
    else if c == '\\' then
      if startsWithLineEnd cs then badUrlLength false cs + 1 else urlBodyLength .backslash cs + 1
    else urlBodyLength .none cs + 1

/-- The length of what follows `url(` when it is an unquoted url, and `none` when a string
follows. -/
def unquotedUrlLength? (cs : List Char) : Option Nat :=
  let blank := spaceLength cs
  match cs.drop blank with
  | [] => some blank
  | c :: r => if c == '"' || c == '\'' then none else some (blank + urlBodyLength .none (c :: r))

/-! ### Cutting -/

/-- The kind and length of a lexeme that starts with a name. -/
def nameLexeme (cs : List Char) : Kind × Nat :=
  let n := nameLength .none cs
  match cs.drop n with
  | '(' :: r =>
    if eqIgnoringCase (nameValue .none 0 (cs.take n)) ['u', 'r', 'l'] then
      match unquotedUrlLength? r with
      | some m => (.other, n + 1 + m)
      | none => (.opening .round, n + 1)
    else (.opening .round, n + 1)
  | _ => (.other, n)

/-- The kind of a character that is a lexeme whatever follows it. -/
def single? (c : Char) : Option Kind :=
  match c with
  | '(' => some (.opening .round)
  | ')' => some (.closing .round)
  | '[' => some (.opening .square)
  | ']' => some (.closing .square)
  | '\x7b' => some (.opening .curly)
  | '\x7d' => some (.closing .curly)
  | ';' => some .semicolon
  | _ => none

/-- Whether a number starts with `c` here. -/
def beginsNumber (c : Char) (cs : List Char) : Bool :=
  isAsciiDigit c || ((c == '+' || c == '-') && startsNumber cs) || (c == '.' && startsWithDigit cs)

/-- The kind and length of the lexeme that the text, which starts with `c`, starts with. -/
def measure (c : Char) (cs : List Char) : Kind × Nat :=
  if isSpace c then (.blank, spaceLength (c :: cs))
  else match single? c with
  | some kind => (kind, 1)
  | none =>
    if c == '/' && cs.head? == some '*' then (.comment, 2 + commentLength (cs.drop 1))
    else if c == '"' || c == '\'' then (.other, 1 + stringLength c .none cs)
    else if c == '#' && (startsName cs || startsWithDigit cs || cs.head? == some '-') then
      (.other, 1 + nameLength .none cs)
    else if c == '@' && startsName cs then (.other, 1 + nameLength .none cs)
    else if c == '<' && ['!', '-', '-'].isPrefixOf cs then (.other, 4)
    else if c == '-' && ['-', '>'].isPrefixOf cs then (.other, 3)
    else if beginsNumber c cs then (.other, numberLength (c :: cs))
    else if startsName (c :: cs) then nameLexeme (c :: cs)
    else (.other, 1)

/-- The first lexeme of a text that is not empty, and the rest. -/
def next (c : Char) (cs : List Char) : Lexeme × List Char :=
  let (kind, n) := measure c cs
  (⟨kind, c :: cs.take (n - 1)⟩, cs.drop (n - 1))

/-- The lexemes of a text, at most `fuel` of them. -/
def cut : Nat → List Char → List Lexeme
  | 0, _ => []
  | _ + 1, [] => []
  | fuel + 1, c :: cs =>
    let (lexeme, rest) := next c cs
    lexeme :: cut fuel rest

/-- The lexemes of a text. -/
def ofText (cs : List Char) : List Lexeme := cut cs.length cs

/-- What a comment says, without its delimiters. -/
def commentBody (text : List Char) : List Char :=
  let inner := text.drop 2
  if ['/', '*'].isPrefixOf inner.reverse then inner.take (inner.length - 2) else inner

end Lexeme

end SourceEdit.Stylesheet
