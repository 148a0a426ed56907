import SourceEdit.Unicode.Ranges

/-!
# Characters as bytes

An automaton reads a text byte by byte, so a set of characters becomes a set of sequences of bytes.
`sequences` writes a set as sequences of byte ranges, in increasing order; all combinations of bytes
from the ranges of a sequence belong to the set.
-/

namespace SourceEdit.Regex

open Unicode

/-- A range of bytes. -/
abbrev ByteRange := Nat × Nat

/-- The bytes that encode a code point. -/
def encode (n : Nat) : List Nat :=
  let tail (n : Nat) : Nat := 0x80 + n % 0x40
  if n < 0x80 then [n]
  else if n < 0x800 then [0xC0 + n / 0x40, tail n]
  else if n < 0x10000 then [0xE0 + n / 0x1000, tail (n / 0x40), tail n]
  else [0xF0 + n / 0x40000, tail (n / 0x1000), tail (n / 0x40), tail n]

/-- The code points that are encoded by one, two, three and four bytes. -/
private def lengths : List (Nat × Nat) :=
  [(0, 0x7F), (0x80, 0x7FF), (0x800, 0xFFFF), (0x10000, 0x10FFFF)]

/-- Cuts a range at the blocks of the given sizes, which increase: what does not fill its block at
an end of the range is a piece of its own. -/
private def cut : List Nat → Nat → Nat → List (Nat × Nat)
  | [], a, b => [(a, b)]
  | size :: sizes, a, b =>
    if a / size = b / size then [(a, b)]
    else
      let start := if a % size = 0 then a else (a / size + 1) * size
      let stop := if (b + 1) % size = 0 then b + 1 else b / size * size
      let head := if a < start then [(a, start - 1)] else []
      let middle := if start < stop then cut sizes start (stop - 1) else []
      let last := if stop ≤ b then [(stop, b)] else []
      head ++ middle ++ last

/-- The sequences of byte ranges for a range of code points of one length. -/
private def sequencesOfRange (a b : Nat) : List (List ByteRange) :=
  let pieces := if b < 0x80 then [(a, b)] else cut [0x40, 0x1000, 0x40000] a b
  pieces.map fun (a, b) => (encode a).zip (encode b)

/-- The sequences of byte ranges for a set. -/
def sequences (s : Ranges) : List (List ByteRange) :=
  (s.inter .all).pairs.flatMap fun (a, b) => lengths.flatMap fun (low, high) =>
    if max a low ≤ min b high then sequencesOfRange (max a low) (min b high) else []

end SourceEdit.Regex
