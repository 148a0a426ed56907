import SourceEdit.Decimal.Binary64
import SourceEdit.Text.Characters

/-!
# Numbers in scripts

`numberValue` gives the value of a numeral, `compactNumber` the shortest of a few spellings of a
non-negative number: decimal digits, a hexadecimal integer, or digits with an exponent that saves
zeros.
-/

namespace SourceEdit.Script

/-! ### Values -/

/-- The value of digits in a base that is a power of two.  Up to `exact` digits, which fit into 64
bits, are rounded once; more of them are rounded after every digit. -/
private def binaryValue (base exact : Nat) (digits : List Char) : Binary64 :=
  let push (n : Nat) (c : Char) : Nat := n * base + (hexDigitValue? c).getD 0
  if digits.length ≤ exact then Binary64.ofNat (digits.foldl push 0)
  else digits.foldl (fun x c =>
    match x.toNat? with
    | some n => Binary64.ofNat (push n c)
    | none => x) ⟨0⟩

/-- The value of an exponent with an optional sign. -/
private def exponentValue : List Char → Int
  | '-' :: digits => -((numberInBase? 10 digits).getD 0 : Int)
  | digits => ((numberInBase? 10 digits).getD 0 : Int)

/-- The value of a decimal numeral. -/
private def decimalValue (text : List Char) : Binary64 :=
  let mantissa := text.takeWhile (· != 'e')
  let exponent := exponentValue (text.drop (mantissa.length + 1))
  let whole := mantissa.takeWhile (· != '.')
  let fraction := mantissa.drop (whole.length + 1)
  Binary64.ofDecimal ((numberInBase? 10 (whole ++ fraction)).getD 0)
    (exponent - (fraction.length : Int))

/-- The value of a numeral without separators. -/
def numberValue : List Char → Binary64
  | '0' :: 'x' :: digits => binaryValue 16 16 digits
  | '0' :: 'o' :: digits => binaryValue 8 21 digits
  | '0' :: 'b' :: digits => binaryValue 2 64 digits
  | text => decimalValue text

/-- The value of an integer numeral without separators. -/
def bigintValue : List Char → Nat
  | '0' :: 'x' :: digits => (numberInBase? 16 digits).getD 0
  | '0' :: 'o' :: digits => (numberInBase? 8 digits).getD 0
  | '0' :: 'b' :: digits => (numberInBase? 2 digits).getD 0
  | digits => (numberInBase? 10 digits).getD 0

/-! ### Decimal text -/

/-- The decimal digits of a natural number. -/
private def decimalDigits (n : Nat) : List Char := Nat.toDigits 10 n

/-- The text of an integer with its sign. -/
private def signedDigits (i : Int) : List Char :=
  if i < 0 then '-' :: decimalDigits i.natAbs else decimalDigits i.natAbs

/-- The shortest decimal text of a non-negative finite number: positional while the decimal point
falls between 6 places before the digits and 21 places after their start, with an exponent
otherwise. -/
def decimalText (x : Binary64) : List Char :=
  let (d, k) := x.shortest
  let ds := decimalDigits d
  let point : Int := k + (ds.length : Int)
  if d = 0 then ['0']
  else if 0 ≤ k && point ≤ 21 then ds ++ List.replicate k.toNat '0'
  else if 0 < point && point ≤ 21 then
    ds.take point.toNat ++ '.' :: ds.drop point.toNat
  else if -6 < point && point ≤ 0 then
    '0' :: '.' :: List.replicate (-point).toNat '0' ++ ds
  else
    let exponent := 'e' :: signedDigits (point - 1)
    match ds with
    | [c] => c :: exponent
    | c :: cs => c :: '.' :: cs ++ exponent
    | [] => exponent

/-! ### Compact text -/

/-- The shorter of two texts, the first one when they are equally long. -/
private def shorterText (text other : List Char) : List Char :=
  if other.length < text.length then other else text

/-- A fraction that starts with zeros, with an exponent in place of the zeros if that is shorter. -/
private def withoutLeadingZeros (text : List Char) : List Char :=
  match text with
  | '.' :: '0' :: rest =>
    let zeros := (rest.takeWhile (· == '0')).length + 1
    let digits := text.drop (zeros + 1)
    shorterText text (digits ++ 'e' :: '-' :: decimalDigits (digits.length + zeros))
  | _ => text

/-- Digits that end in zeros, with an exponent in place of the zeros if that is shorter. -/
private def withoutTrailingZeros (text : List Char) : List Char :=
  let zeros := (text.reverse.takeWhile (· == '0')).length
  if zeros = 0 then text
  else shorterText text (text.take (text.length - zeros) ++ 'e' :: decimalDigits zeros)

/-- A number with a point and an exponent, with the point taken into the exponent if that is
shorter. -/
private def withoutPoint (text : List Char) : List Char :=
  let whole := text.takeWhile (· != '.')
  let rest := text.drop (whole.length + 1)
  let fraction := rest.takeWhile (· != 'e')
  if whole.length = text.length || fraction.length = rest.length then text
  else
    let exponent := exponentValue (rest.drop (fraction.length + 1)) - (fraction.length : Int)
    shorterText text (whole ++ fraction ++ 'e' :: signedDigits exponent)

/-- The hexadecimal text of an integer, which is cut off at 128 bits. -/
private def hexadecimalText (n : Nat) : List Char :=
  '0' :: 'x' :: Nat.toDigits 16 (min n (Nat.pow 2 128 - 1))

/-- A short spelling of a non-negative finite number, and whether it is made of decimal digits
alone, so that a point after it would be read as its own.  An integer that is shorter in hexadecimal
digits is left so; any other text is shortened by its zeros, and then by its point. -/
def compactNumber (x : Binary64) : List Char × Bool :=
  let text := decimalText x
  match x.toNat? with
  | some n =>
    if n < 1000 then (text, true)
    else
      let hexadecimal := hexadecimalText n
      if hexadecimal.length < text.length then (hexadecimal, false)
      else
        let short := withoutPoint (withoutTrailingZeros text)
        (short, short.all isAsciiDigit)
  | none =>
    let text := match text with
      | '0' :: '.' :: rest => '.' :: rest
      | text => text
    (withoutPoint (withoutTrailingZeros (withoutLeadingZeros text)), false)

end SourceEdit.Script
