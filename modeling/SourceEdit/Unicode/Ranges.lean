/-!
# Sets of characters as ranges

A set of code points is kept as a list of inclusive ranges in increasing order, no two of which
overlap or touch.  `ofPairs` brings any list of ranges into that form, and union, complement,
intersection, difference and symmetric difference keep it.
-/

namespace SourceEdit.Unicode

/-- A set of code points, as inclusive ranges. -/
structure Ranges where
  pairs : List (Nat × Nat)
deriving DecidableEq, Repr, Inhabited

namespace Ranges

/-- The empty set. -/
def empty : Ranges := ⟨[]⟩

/-- Every character. -/
def all : Ranges := ⟨[(0, 0xD7FF), (0xE000, 0x10FFFF)]⟩

/-- Whether a code point belongs to the set. -/
def contains (s : Ranges) (n : Nat) : Bool := s.pairs.any fun (a, b) => a ≤ n && n ≤ b

/-- Whether a character belongs to the set. -/
def containsChar (s : Ranges) (c : Char) : Bool := s.contains c.toNat

/-- Whether the set has exactly one member. -/
def isSingle (s : Ranges) : Bool :=
  match s.pairs with
  | [(a, b)] => a == b
  | _ => false

/-- Joins ranges, given by increasing first member, that overlap or touch. -/
private def join : List (Nat × Nat) → List (Nat × Nat)
  | [] => []
  | (a, b) :: rest =>
    match join rest with
    | (c, d) :: more => if c ≤ b + 1 then (a, max b d) :: more else (a, b) :: (c, d) :: more
    | [] => [(a, b)]

/-- Joins one range into a list that is joined already, passing over ranges that it covers. -/
private def sweep : Nat → List (Nat × Nat) → List (Nat × Nat)
  | 0, ps => ps
  | n + 1, ps =>
    let joined := join ps
    if joined.length = ps.length then joined else sweep n joined

/-- The set of the given ranges, in any order. -/
def ofPairs (ps : List (Nat × Nat)) : Ranges :=
  let sorted := ps.mergeSort fun p q => p.1 ≤ q.1
  ⟨sweep ps.length sorted⟩

/-- The set of one character. -/
def ofChar (c : Char) : Ranges := ⟨[(c.toNat, c.toNat)]⟩

/-- The union of two sets. -/
def union (s t : Ranges) : Ranges := ofPairs (s.pairs ++ t.pairs)

/-- The gaps between ranges, from `start` on. -/
private def gaps (start : Nat) : List (Nat × Nat) → List (Nat × Nat)
  | [] => if start ≤ 0x10FFFF then [(start, 0x10FFFF)] else []
  | (a, b) :: rest => if start < a then (start, a - 1) :: gaps (b + 1) rest else gaps (b + 1) rest

/-- The overlaps of the ranges of two sets. -/
def inter (s t : Ranges) : Ranges :=
  ofPairs <| s.pairs.flatMap fun (a, b) =>
    t.pairs.filterMap fun (c, d) => if max a c ≤ min b d then some (max a c, min b d) else none

/-- The characters outside a set. -/
def complement (s : Ranges) : Ranges := (⟨gaps 0 s.pairs⟩ : Ranges).inter all

/-- The members of `s` that are not in `t`. -/
def diff (s t : Ranges) : Ranges := s.inter t.complement

/-- The characters that are in exactly one of two sets. -/
def symmDiff (s t : Ranges) : Ranges := (s.diff t).union (t.diff s)

/-- The value of a hexadecimal numeral. -/
def hexOf (cs : List Char) : Nat :=
  cs.foldl (fun acc c =>
    acc * 16 + if c.toNat < 0x40 then c.toNat - 0x30 else c.toNat - 0x41 + 10) 0

/-- One range, written as a code point or as two with a dash between them. -/
private def pairOf (cs : List Char) : Nat × Nat :=
  match cs.dropWhile (· != '-') with
  | [] => (hexOf cs, hexOf cs)
  | _ :: upper => (hexOf (cs.takeWhile (· != '-')), hexOf upper)

/-- The ranges written in a table row, separated by spaces; `acc` holds the characters of the range
under way in reverse. -/
private def pairsOf (acc : List Char) : List Char → List (Nat × Nat)
  | [] => if acc.isEmpty then [] else [pairOf acc.reverse]
  | ' ' :: cs => if acc.isEmpty then pairsOf [] cs else pairOf acc.reverse :: pairsOf [] cs
  | c :: cs => pairsOf (c :: acc) cs

/-- The set that the rows of a table write down. -/
def ofRows (rows : List String) : Ranges := ⟨rows.flatMap fun row => pairsOf [] row.toList⟩

end Ranges

end SourceEdit.Unicode
