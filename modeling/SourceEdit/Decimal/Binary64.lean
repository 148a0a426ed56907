/-!
# Binary64 numbers and decimal text

A binary64 number is kept as its bit pattern, and all conversions go through exact arithmetic on
natural numbers.  `ofRatio` rounds a non-negative rational to the nearest binary64 number, ties
going to the even neighbour; `ofDecimal` is the case of a decimal numeral.  `shortest` finds the
shortest decimal numeral that rounds back to a given number, and among those of that length the
nearest one.
-/

namespace SourceEdit

/-- A binary64 number, by its bit pattern. -/
structure Binary64 where
  bits : UInt64
deriving DecidableEq, Repr, Inhabited

namespace Binary64

/-- Positive infinity. -/
def infinity : Binary64 := ⟨0x7FF0000000000000⟩

/-- The sign bit. -/
def isNegative (x : Binary64) : Bool := x.bits ≥ 0x8000000000000000

/-- The number with its sign bit set. -/
def negate (x : Binary64) : Binary64 := ⟨x.bits ^^^ 0x8000000000000000⟩

/-- The number without its sign. -/
def magnitude (x : Binary64) : Binary64 := ⟨x.bits &&& 0x7FFFFFFFFFFFFFFF⟩

/-- The biased exponent field. -/
def exponentField (x : Binary64) : Nat := ((x.bits >>> 52) &&& 0x7FF).toNat

/-- The fraction field. -/
def fractionField (x : Binary64) : Nat := (x.bits &&& 0xFFFFFFFFFFFFF).toNat

/-- Neither infinite nor a NaN. -/
def isFinite (x : Binary64) : Bool := x.exponentField != 2047

/-- Either of the two infinities. -/
def isInfinite (x : Binary64) : Bool := x.exponentField == 2047 && x.fractionField == 0

/-- The magnitude of a finite number as `m * 2 ^ q`. -/
def toScaled (x : Binary64) : Nat × Int :=
  if x.exponentField = 0 then (x.fractionField, -1074)
  else (x.fractionField + Nat.pow 2 52, (x.exponentField : Int) - 1075)

/-- The number `m * 2 ^ q` with `2 ^ 52 ≤ m` or `q = -1074`, infinity when out of range. -/
private def ofScaled (m : Nat) (q : Int) : Binary64 :=
  let (m, q) := if m ≥ Nat.pow 2 53 then (m / 2, q + 1) else (m, q)
  if m < Nat.pow 2 52 then ⟨m.toUInt64⟩
  else if q + 1075 ≥ 2047 then infinity
  else ⟨((q + 1075).toNat * Nat.pow 2 52 + (m - Nat.pow 2 52)).toUInt64⟩

/-- `num / den` rounded to the nearest natural number, ties to even. -/
private def roundDiv (num den : Nat) : Nat :=
  let quotient := num / den
  let twice := 2 * (num % den)
  if twice < den then quotient
  else if twice > den then quotient + 1
  else quotient + quotient % 2

/-- `num / (den * 2 ^ q)`, rounded. -/
private def roundScaled (num den : Nat) (q : Int) : Nat :=
  if 0 ≤ q then roundDiv num (den * Nat.pow 2 q.toNat)
  else roundDiv (num * Nat.pow 2 (-q).toNat) den

/-- `num / (den * 2 ^ q)`, rounded down. -/
private def floorScaled (num den : Nat) (q : Int) : Nat :=
  if 0 ≤ q then num / (den * Nat.pow 2 q.toNat) else num * Nat.pow 2 (-q).toNat / den

/-- The binary64 number nearest to `num / den`. -/
def ofRatio (num den : Nat) : Binary64 :=
  if num = 0 then ⟨0⟩
  else
    let guess : Int := (Nat.log2 num : Int) - (Nat.log2 den : Int) - 52
    let q := if floorScaled num den guess < Nat.pow 2 52 then guess - 1 else guess
    let q := max q (-1074)
    ofScaled (roundScaled num den q) q

/-- The binary64 number nearest to `digits * 10 ^ exponent`. -/
def ofDecimal (digits : Nat) (exponent : Int) : Binary64 :=
  if digits = 0 then ⟨0⟩
  else
    let top := exponent + (Nat.log2 digits : Int) / 3
    if top > 400 then infinity
    else if exponent + (Nat.log2 digits : Int) < -1500 then ⟨0⟩
    else if 0 ≤ exponent then ofRatio (digits * Nat.pow 10 exponent.toNat) 1
    else ofRatio digits (Nat.pow 10 (-exponent).toNat)

/-- The binary64 number nearest to a natural number. -/
def ofNat (n : Nat) : Binary64 := ofRatio n 1

/-- The value `x / 10 ^ k` in units of `s / t`, where `x` counts quarter units `2 ^ (q - 2)`. -/
private def gridScale (q k : Int) : Nat × Nat :=
  let s := (if 0 ≤ q - 2 then Nat.pow 2 (q - 2).toNat else 1)
    * (if k < 0 then Nat.pow 10 (-k).toNat else 1)
  let t := (if q - 2 < 0 then Nat.pow 2 (2 - q).toNat else 1)
    * (if 0 ≤ k then Nat.pow 10 k.toNat else 1)
  (s, t)

/-- The multiple of `10 ^ k` that rounds to `m * 2 ^ q` and is nearest to it, if there is one.  Of
two that are as near the even one is taken. -/
private def onGrid? (m : Nat) (q k : Int) : Option Nat :=
  let (s, t) := gridScale q k
  let closed := m % 2 == 0
  let low := (if m = Nat.pow 2 52 && q > -1074 then 4 * m - 1 else 4 * m - 2) * s
  let high := (4 * m + 2) * s
  let value := 4 * m * s
  let inside (d : Nat) : Bool :=
    if closed then low ≤ d * t && d * t ≤ high else low < d * t && d * t < high
  let below := value / t
  let above := below + 1
  let twice := 2 * (value % t)
  let belowNearer := twice < t || (twice = t && below % 2 = 0)
  if inside below && (belowNearer || !inside above) then some below
  else if inside above then some above
  else none

/-- The first hit on the grids `10 ^ k`, `10 ^ (k - 1)`, …. -/
private def searchGrids (m : Nat) (q : Int) : Nat → Int → Nat × Int
  | 0, k => (m, k)
  | n + 1, k =>
    match onGrid? m q k with
    | some d => if d = 0 then searchGrids m q n (k - 1) else (d, k)
    | none => searchGrids m q n (k - 1)

/-- The shortest decimal numeral `d * 10 ^ k` that rounds to the magnitude of a finite number. -/
def shortest (x : Binary64) : Nat × Int :=
  let (m, q) := x.toScaled
  if m = 0 then (0, 0)
  else
    let binary : Int := (Nat.log2 m : Int) + q
    searchGrids m q 40 (Int.fdiv (binary * 30103) 100000 + 2)

/-- The truncation of a finite number's magnitude to a natural number, when it is one. -/
def toNat? (x : Binary64) : Option Nat :=
  let (m, q) := x.toScaled
  if !x.isFinite then none
  else if 0 ≤ q then some (m * Nat.pow 2 q.toNat)
  else if m % Nat.pow 2 (-q).toNat = 0 then some (m / Nat.pow 2 (-q).toNat)
  else none

end Binary64

end SourceEdit
