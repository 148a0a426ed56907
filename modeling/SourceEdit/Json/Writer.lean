import SourceEdit.Json.Value

/-!
# Writing JSON text

`Number.text` writes a number with the fewest digits that read back: integers in decimal, a
binary64 number in positional notation while its decimal exponent is between -5 and 15 and in
scientific notation outside that range.  `Json.text` writes a whole value on one line.
-/

namespace SourceEdit.Json

/-- The decimal digits of a natural number. -/
def digits (n : Nat) : List Char := Nat.toDigits 10 n

/-- Scientific notation of `d * 10 ^ k`: one digit, the rest after a point, a signed exponent. -/
private def scientific (ds : List Char) (exponent : Int) : List Char :=
  let mantissa := match ds with
    | [] => ['0']
    | [d] => [d]
    | d :: rest => d :: '.' :: rest
  let sign := if exponent < 0 then ['e', '-'] else ['e', '+']
  mantissa ++ sign ++ digits exponent.natAbs

/-- Positional notation of `d * 10 ^ k`, with at least one digit after the point. -/
private def positional (ds : List Char) (k : Int) : List Char :=
  if 0 ≤ k then ds ++ List.replicate k.toNat '0' ++ ['.', '0']
  else
    let places := (-k).toNat
    if places < ds.length then
      ds.take (ds.length - places) ++ '.' :: ds.drop (ds.length - places)
    else '0' :: '.' :: List.replicate (places - ds.length) '0' ++ ds

/-- The text of a binary64 number. -/
def floatText (x : Binary64) : String :=
  if !x.isFinite then "null"
  else
    let (d, k) := x.shortest
    let ds := digits d
    let exponent := k + (ds.length : Int) - 1
    let body :=
      if d = 0 then ['0', '.', '0']
      else if -5 ≤ exponent && exponent ≤ 15 then positional ds k
      else scientific ds exponent
    String.ofList (if x.isNegative then '-' :: body else body)

/-- The text of a number. -/
def Number.text : Number → String
  | .integer i => toString i
  | .float x => floatText x

/-- A hexadecimal digit. -/
private def hexDigit (n : Nat) : Char := (Nat.digitChar (n % 16))

/-- The escape of a control character. -/
private def unicodeEscape (n : Nat) : List Char :=
  ['\\', 'u', hexDigit (n / 4096), hexDigit (n / 256), hexDigit (n / 16), hexDigit n]

/-- One character inside a quoted string. -/
private def escapeChar (c : Char) : List Char :=
  match c with
  | '"' => ['\\', '"']
  | '\\' => ['\\', '\\']
  | '\n' => ['\\', 'n']
  | '\r' => ['\\', 'r']
  | '\t' => ['\\', 't']
  | c => if c.toNat < 0x20 then unicodeEscape c.toNat else [c]

/-- A quoted string. -/
def quoted (s : String) : String :=
  String.ofList ('"' :: s.toList.flatMap escapeChar ++ ['"'])

mutual

/-- The text of a value, on one line. -/
def text : Json → String
  | .null => "null"
  | .bool b => if b then "true" else "false"
  | .number n => n.text
  | .string s => quoted s
  | .array items => "[" ++ textItems items ++ "]"
  | .object fields => "\x7b" ++ textFields fields ++ "\x7d"

/-- The items of an array, separated by commas. -/
def textItems : List Json → String
  | [] => ""
  | [j] => j.text
  | j :: rest => j.text ++ "," ++ textItems rest

/-- The fields of an object, separated by commas. -/
def textFields : List (String × Json) → String
  | [] => ""
  | [(name, j)] => quoted name ++ ":" ++ j.text
  | (name, j) :: rest => quoted name ++ ":" ++ j.text ++ "," ++ textFields rest

end

end SourceEdit.Json
