import SourceEdit.Json.Value

/-!
# Reading JSON text

A reader for one JSON value.  An integer that fits in 64 bits, signed or unsigned, is kept as an
integer.  Every other number becomes a binary64 number: the digits are gathered in a 64-bit
significand as far as they fit, and the significand is scaled by one power of ten in binary64
arithmetic.
-/

namespace SourceEdit.Json

/-- What is left to read. -/
abbrev Rest := List Char

/-- Skips the blanks allowed between tokens. -/
def skipBlank : Rest → Rest
  | c :: r => if c = ' ' || c = '\n' || c = '\r' || c = '\t' then skipBlank r else c :: r
  | [] => []

/-- The value of a hexadecimal digit. -/
def hexValue? (c : Char) : Option Nat :=
  if '0' ≤ c && c ≤ '9' then some (c.toNat - '0'.toNat)
  else if 'a' ≤ c && c ≤ 'f' then some (c.toNat - 'a'.toNat + 10)
  else if 'A' ≤ c && c ≤ 'F' then some (c.toNat - 'A'.toNat + 10)
  else none

/-- Four hexadecimal digits. -/
private def hexFour? : Rest → Option (Nat × Rest)
  | a :: b :: c :: d :: r => do
    let a ← hexValue? a
    let b ← hexValue? b
    let c ← hexValue? c
    let d ← hexValue? d
    some (((a * 16 + b) * 16 + c) * 16 + d, r)
  | _ => none

/-- The character of an escaped code unit, joined with the low surrogate that follows it. -/
private def escapedUnit? (r : Rest) : Option (Char × Rest) := do
  let (unit, r) ← hexFour? r
  if 0xD800 ≤ unit && unit < 0xDC00 then
    match r with
    | '\\' :: 'u' :: r =>
      let (low, r) ← hexFour? r
      if 0xDC00 ≤ low && low < 0xE000 then
        some (Char.ofNat (0x10000 + (unit - 0xD800) * 0x400 + (low - 0xDC00)), r)
      else none
    | _ => none
  else if 0xDC00 ≤ unit && unit < 0xE000 then none
  else some (Char.ofNat unit, r)

/-- The rest of a string after its opening quote; the characters read so far are in reverse. -/
private def stringBody? : Nat → List Char → Rest → Option (String × Rest)
  | 0, _, _ => none
  | n + 1, acc, r =>
    match r with
    | '"' :: r => some (String.ofList acc.reverse, r)
    | '\\' :: 'u' :: r => do
      let (c, r) ← escapedUnit? r
      stringBody? n (c :: acc) r
    | '\\' :: c :: r =>
      let decoded := match c with
        | 'n' => some '\n'
        | 't' => some '\t'
        | 'r' => some '\r'
        | 'b' => some '\x08'
        | 'f' => some '\x0c'
        | '"' => some '"'
        | '\\' => some '\\'
        | '/' => some '/'
        | _ => none
      match decoded with
      | some c => stringBody? n (c :: acc) r
      | none => none
    | c :: r => if c.toNat < 0x20 then none else stringBody? n (c :: acc) r
    | [] => none

/-- The digits at the head of the text. -/
def takeDigits (r : Rest) : List Char × Rest :=
  (r.takeWhile Char.isDigit, r.dropWhile Char.isDigit)

/-- Adds digits to a significand while it stays below `2 ^ 64`; also gives the digits left over. -/
def gather : Nat → List Char → Nat × List Char
  | acc, [] => (acc, [])
  | acc, c :: cs =>
    let next := acc * 10 + (c.toNat - '0'.toNat)
    if next < UInt64.size then gather next cs else (acc, c :: cs)

/-- `significand * 10 ^ exponent` by one scaling step, or by steps of `10 ^ 308` when the exponent
is below `-308`. -/
private def scaleBy : Nat → Float → Int → Option Float
  | 0, x, _ => some x
  | n + 1, x, e =>
    if e.natAbs ≤ 308 then
      let power := Float.ofScientific 1 false e.natAbs
      if 0 ≤ e then
        let y := x * power
        if y.isInf then none else some y
      else some (x / power)
    else if x == 0.0 then some x
    else if 0 ≤ e then none
    else scaleBy n (x / Float.ofScientific 1 false 308) (e + 308)

/-- The binary64 number for a significand and a decimal exponent. -/
def scaled? (negative : Bool) (significand : Nat) (exponent : Int) : Option Number :=
  (scaleBy (exponent.natAbs / 308 + 2) (Float.ofBits (Binary64.ofNat significand).bits)
    exponent).map fun x =>
      let magnitude : Binary64 := ⟨x.toBits⟩
      .float (if negative then magnitude.negate else magnitude)

/-- The digits after a point, and whether there is one. -/
def fraction? : Rest → Option ((List Char × Bool) × Rest)
  | '.' :: r =>
    let (ds, r) := takeDigits r
    if ds.isEmpty then none else some ((ds, true), r)
  | r => some (([], false), r)

/-- The exponent, if there is one. -/
def exponent? : Rest → Option (Option Int × Rest)
  | e :: r =>
    if e = 'e' || e = 'E' then
      let (sign, ds, r) := match r with
        | '-' :: r => (true, takeDigits r)
        | '+' :: r => (false, takeDigits r)
        | r => (false, takeDigits r)
      if ds.isEmpty then none
      else
        let value : Int := ds.foldl (fun acc c => acc * 10 + (c.toNat - '0'.toNat : Nat)) 0
        some (some (if sign then -value else value), r)
    else some (none, e :: r)
  | [] => some (none, [])

/-- The digits of a number as far as they fit in a significand, and the exponent that goes with it. -/
def significand (whole fraction : List Char) : Nat × Int :=
  let (first, excess) := gather 0 whole
  if excess.isEmpty then
    let (all, left) := gather first fraction
    (all, -((fraction.length - left.length : Nat) : Int))
  else (first, excess.length)

/-- The integer with a significand and a sign; minus zero and what does not fit in 64 bits are binary64
numbers. -/
def integer? (negative : Bool) (significand : Nat) : Option Number :=
  if !negative then some (.integer significand)
  else if significand = 0 || significand > UInt64.size / 2 then scaled? true significand 0
  else some (.integer (-(significand : Int)))

/-- The number with a sign, digits before and after a point, and an exponent. -/
def number? (negative : Bool) (whole fraction : List Char) (hasPoint : Bool) (power : Option Int) :
    Option Number :=
  let digits := significand whole fraction
  -- digits that are left out raise the exponent
  if power.isNone && !hasPoint && digits.2 = 0 then integer? negative digits.1
  else scaled? negative digits.1 (digits.2 + power.getD 0)

/-- A number without its sign. -/
def unsigned? (negative : Bool) (r : Rest) : Option (Number × Rest) := do
  let (whole, r) := takeDigits r
  guard (!whole.isEmpty && (whole.head? != some '0' || whole.length == 1))
  let ((fraction, hasPoint), r) ← fraction? r
  let (power, r) ← exponent? r
  (number? negative whole fraction hasPoint power).map (·, r)

/-- A literal name, when the text starts with it. -/
def keyword? (word : String) (value : Json) (r : Rest) : Option (Json × Rest) :=
  if word.toList.isPrefixOf r then some (value, r.drop word.length) else none

mutual

/-- One value. -/
def value? : Nat → Rest → Option (Json × Rest)
  | 0, _ => none
  | n + 1, r =>
    match skipBlank r with
    | '"' :: r => (stringBody? (r.length + 1) [] r).map fun (s, r) => (.string s, r)
    | '[' :: r =>
      match skipBlank r with
      | ']' :: r => some (.array [], r)
      | r => (items? n [] r).map fun (js, r) => (.array js, r)
    | '\x7b' :: r =>
      match skipBlank r with
      | '\x7d' :: r => some (.object [], r)
      | r => (fields? n [] r).map fun (fs, r) => (.object fs, r)
    | '-' :: r => (unsigned? true r).map fun (x, r) => (.number x, r)
    | 'n' :: r => keyword? "null" .null ('n' :: r)
    | 't' :: r => keyword? "true" (.bool true) ('t' :: r)
    | 'f' :: r => keyword? "false" (.bool false) ('f' :: r)
    | c :: r => (unsigned? false (c :: r)).map fun (x, r) => (.number x, r)
    | [] => none

/-- The items of an array up to its closing bracket; the items read so far are in reverse. -/
def items? : Nat → List Json → Rest → Option (List Json × Rest)
  | 0, _, _ => none
  | n + 1, acc, r => do
    let (j, r) ← value? n r
    match skipBlank r with
    | ',' :: r => items? n (j :: acc) r
    | ']' :: r => some ((j :: acc).reverse, r)
    | _ => none

/-- The fields of an object up to its closing brace; the fields read so far are in reverse. -/
def fields? : Nat → List (String × Json) → Rest → Option (List (String × Json) × Rest)
  | 0, _, _ => none
  | n + 1, acc, r =>
    match skipBlank r with
    | '"' :: r => do
      let (name, r) ← stringBody? (r.length + 1) [] r
      match skipBlank r with
      | ':' :: r =>
        let (j, r) ← value? n r
        match skipBlank r with
        | ',' :: r => fields? n ((name, j) :: acc) r
        | '\x7d' :: r => some (((name, j) :: acc).reverse, r)
        | _ => none
      | _ => none
    | _ => none

end

/-- Reads a text that holds one value and nothing else but blanks. -/
def ofText? (s : String) : Option Json :=
  match value? (2 * s.length + 2) s.toList with
  | some (j, r) => if (skipBlank r).isEmpty then some j else none
  | none => none

end SourceEdit.Json
