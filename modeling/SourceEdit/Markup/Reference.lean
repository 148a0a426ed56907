import SourceEdit.Markup.Reference.Names
import SourceEdit.Text.Characters

/-!
# Character references

An ampersand in markup may start a reference to characters: a number, in decimal or hexadecimal, or
a name.  `Reference.decode` replaces the references of a text; what is not a reference stays as it
is.
-/

namespace SourceEdit.Markup.Reference

/-! ### Numbers -/

/-- The character that stands for what has no character. -/
def replacement : Char := '\uFFFD'

/-- The characters that the numbers from 128 to 159 stand for; zero where it is the number itself.
-/
def upperControls : List Nat := [
  0x20AC, 0, 0x201A, 0x0192, 0x201E, 0x2026, 0x2020, 0x2021, 0x02C6, 0x2030, 0x0160, 0x2039, 0x0152,
  0, 0x017D, 0, 0, 0x2018, 0x2019, 0x201C, 0x201D, 0x2022, 0x2013, 0x2014, 0x02DC, 0x2122, 0x0161,
  0x203A, 0x0153, 0, 0x017E, 0x0178]

/-- The character that a number stands for. -/
def charOfNumber (n : Nat) : Char :=
  if n = 0 || n > 0x10FFFF || (0xD800 ≤ n && n ≤ 0xDFFF) then replacement
  else if 0x80 ≤ n && n ≤ 0x9F then
    match upperControls[n - 0x80]? with
    | some m => Char.ofNat (if m = 0 then n else m)
    | none => Char.ofNat n
  else Char.ofNat n

/-- The reference by number at the head of a text, after the hash, and its length. -/
def number? (cs : List Char) : Option (Char × Nat) :=
  let (base, lead, cs) := match cs with
    | 'x' :: rest | 'X' :: rest => (16, 1, rest)
    | cs => (10, 0, cs)
  let digits := cs.takeWhile fun c => if base = 16 then isHexDigit c else isAsciiDigit c
  match numberInBase? base digits with
  | none => none
  | some n =>
    let closing := if (cs.drop digits.length).head? == some ';' then 1 else 0
    some (charOfNumber n, lead + digits.length + closing)

/-- Whether a reference by number stands at the head of a text, after the ampersand, and is not
ended by a semicolon. -/
def isOpenNumber : List Char → Bool
  | '#' :: cs =>
    match number? cs with
    | some (_, length) => (cs.take length).getLast? != some ';'
    | none => false
  | _ => false

/-! ### Names -/

/-- The name and the characters of an entry. -/
def entry (cs : List Char) : List Char × List Char :=
  let codes := (cs.dropWhile (· != '=')).drop 1
  (cs.takeWhile (· != '='),
    (splitAt '+' codes).map fun code => Char.ofNat ((numberInBase? 16 code).getD 0))

/-- The references that are written for characters which cannot stand for themselves. -/
def basicNames : List (List Char × List Char) := [
  (['a', 'm', 'p'], ['&']), (['l', 't'], ['<']), (['g', 't'], ['>']), (['q', 'u', 'o', 't'], ['"']),
  (['n', 'b', 's', 'p'], ['\u00A0'])]

/-- The characters that a name stands for. -/
def named? (name : List Char) : Option (List Char) :=
  match basicNames.lookup name with
  | some cs => some cs
  | none =>
    let lines := entryLines (name.head?.getD ' ')
    let entries := lines.flatMap fun line => (splitAt ' ' line.toList).map entry
    entries.lookup name

/-- Whether a name may stand without a semicolon. -/
def isOpen (name : List Char) : Bool :=
  openNameLines.any fun line => (splitAt ' ' line.toList).contains name

/-- An ASCII letter or digit. -/
def isWordChar (c : Char) : Bool := isAsciiLetter c || isAsciiDigit c

/-- The longest of the first `n` heads of a text that may stand without a semicolon. -/
def openName? (cs : List Char) : Nat → Option (List Char)
  | 0 => none
  | n + 1 =>
    let name := cs.take (n + 1)
    if isOpen name then some name else openName? cs n

/-- The reference by name at the head of a text, and its length. In an attribute, a name without a
semicolon does not stand before an equals sign or a letter or digit. -/
def name? (inAttribute : Bool) (cs : List Char) : Option (List Char × Nat) :=
  let word := cs.takeWhile isWordChar
  let closed := if (cs.drop word.length).head? == some ';' then named? word else none
  match closed with
  | some result => some (result, word.length + 1)
  | none => do
    let name ← openName? word (min 6 word.length)
    let isBlocked := match (cs.drop name.length).head? with
      | some c => inAttribute && (c == '=' || isWordChar c)
      | none => false
    if isBlocked then none else return (← named? name, name.length)

/-! ### Texts -/

/-- The reference at the head of a text, after the ampersand, and its length. -/
def reference? (inAttribute : Bool) (cs : List Char) : Option (List Char × Nat) :=
  match cs with
  | '#' :: rest => (number? rest).map fun (c, length) => ([c], length + 1)
  | cs => name? inAttribute cs

/-- Replaces the references of a text after its first `skipped` characters, which are left out. -/
def decodeFrom (inAttribute : Bool) : Nat → List Char → List Char
  | _, [] => []
  | skipped + 1, _ :: cs => decodeFrom inAttribute skipped cs
  | 0, c :: cs =>
    if c == '&' then
      match reference? inAttribute cs with
      | some (result, length) => result ++ decodeFrom inAttribute length cs
      | none => '&' :: decodeFrom inAttribute 0 cs
    else c :: decodeFrom inAttribute 0 cs

/-- Replaces the references of a text. -/
def decode (inAttribute : Bool) (cs : List Char) : List Char := decodeFrom inAttribute 0 cs

end SourceEdit.Markup.Reference
