import SourceEdit.Script.Word

/-!
# Tokens of scripts

A token knows what it is, where it stands and what it spells.  It also keeps the text from its
start on, so that it can be read again in another way where the grammar asks for that: a slash as a
regular expression, a closing brace as the continuation of a template, an angle bracket as part of
an operator.
-/

namespace SourceEdit.Script

/-- Punctuation and operators. -/
inductive Punct where
  | braceOpen | braceClose | parenOpen | parenClose | bracketOpen | bracketClose
  | dot | ellipsis | semicolon | comma | colon | question | questionDot | arrow | at
  | less | greater | lessEq | greaterEq | eqEq | notEq | eqEqEq | notEqEq
  | plus | minus | star | slash | percent | starStar | plusPlus | minusMinus
  | shiftLeft | shiftRight | shiftRightZero
  | amp | bar | caret | bang | tilde | ampAmp | barBar | coalesce
  | eq | plusEq | minusEq | starEq | slashEq | percentEq | starStarEq
  | shiftLeftEq | shiftRightEq | shiftRightZeroEq
  | ampEq | barEq | caretEq | ampAmpEq | barBarEq | coalesceEq
deriving DecidableEq, Repr, Inhabited

/-- What a token is. -/
inductive Token.Kind where
  | endOfText
  /-- A word with a meaning in the grammar. -/
  | word (w : Word)
  /-- Any other name. -/
  | name
  | privateName
  | number
  | bigint
  | string
  /-- A template, or its part up to the first substitution. -/
  | template (complete : Bool)
  | regex
  | elementText
  | punct (p : Punct)
  /-- A piece of text that is no token. -/
  | invalid
deriving DecidableEq, Repr, Inhabited

/-- A token. -/
structure Token where
  kind : Token.Kind
  /-- The offset of its first byte. -/
  start : Nat
  /-- The offset after its last byte. -/
  stop : Nat
  /-- Whether a line ends between the token before and this one. -/
  onNewLine : Bool
  /-- What it spells: a name with its escapes decoded, the digits of a number, the text between the
  quotes of a string. -/
  text : List Char
  /-- The value of a string, as code points and lone surrogates. -/
  units : List Nat := []
  /-- The flags of a regular expression. -/
  flags : List Char := []
  /-- Whether a name, or a template, holds an escape; for a template, an invalid one. -/
  escaped : Bool := false
  /-- Whether the comments before it mark a call as free of effects. -/
  marksPure : Bool := false
  /-- Whether the comments before it mark a function as free of effects. -/
  marksNoEffects : Bool := false
  /-- The text from its start on. -/
  source : List Char
  /-- The text after it. -/
  rest : List Char
deriving Inhabited

/-- How a comment is written. -/
inductive Comment.Form where
  | line
  | block
  | blockOfLines
deriving DecidableEq, Repr, Inhabited

/-- What a comment says to tools. -/
inductive Comment.Content where
  | ordinary
  /-- A notice that is to be kept. -/
  | notice
  /-- The call that follows is free of effects. -/
  | pure
  /-- The function that follows is free of effects. -/
  | noEffects
deriving DecidableEq, Repr, Inhabited

/-- A comment, and where it belongs. -/
structure Comment where
  form : Comment.Form
  content : Comment.Content
  start : Nat
  stop : Nat
  /-- The comment with its delimiters. -/
  text : List Char
  /-- The offset of the token that it leads, if it leads one. -/
  attachedTo : Option Nat := none
  afterNewLine : Bool
  beforeNewLine : Bool
deriving DecidableEq, Repr, Inhabited

end SourceEdit.Script
