import SourceEdit.Unicode.Property
import SourceEdit.Unicode.Category

/-!
# Regular expressions

A regular expression is matched by following the set of places in the text that a match can have
reached.  A set of places is a list of truth values, one for each place between two characters and
one for each end.  Consuming a character shifts the set by one place, an alternative is a union, a
repetition iterates until nothing new is reached, and an assertion keeps the places where it holds.

`Regex.isMatch` starts from all places, so it asks for a match anywhere in the text.
-/

namespace SourceEdit

/-- Assertions about the characters on both sides of a place. -/
inductive Regex.Look where
  | textStart
  | textEnd
  /-- The start of a line; with `crlf`, a carriage return ends a line too. -/
  | lineStart (crlf : Bool)
  /-- The end of a line; with `crlf`, a carriage return ends a line too. -/
  | lineEnd (crlf : Bool)
  | wordBoundary (unicode : Bool)
  | notWordBoundary (unicode : Bool)
  | wordStart (unicode : Bool)
  | wordEnd (unicode : Bool)
  | wordStartHalf (unicode : Bool)
  | wordEndHalf (unicode : Bool)
deriving DecidableEq, Repr, Inhabited

/-- A regular expression. -/
inductive Regex where
  | empty
  | chars (set : Unicode.Ranges)
  | look (l : Regex.Look)
  | cat (a b : Regex)
  | alt (a b : Regex)
  /-- At least `min` times `a`, and at most `max` times if there is a bound. -/
  | rep (a : Regex) (min : Nat) (max : Option Nat)
  /-- An expression whose match is kept. -/
  | group (a : Regex)
deriving Repr, Inhabited

namespace Regex

open Unicode

/-! ### Building expressions -/

/-- One expression after another. -/
def andThen : Regex → Regex → Regex
  | .empty, b => b
  | a, .empty => a
  | a, b => .cat a b

/-- Whether an expression matches nothing but the empty text. -/
def isOnlyEmpty : Regex → Bool
  | .empty | .look _ => true
  | .chars _ => false
  | .cat a b | .alt a b => a.isOnlyEmpty && b.isOnlyEmpty
  | .rep a _ max => a.isOnlyEmpty || max == some 0
  | .group a => a.isOnlyEmpty

/-- A repetition. What only matches the empty text is not repeated more than once. -/
def repeated (a : Regex) (min : Nat) (max : Option Nat) : Regex :=
  let (min, max) := if a.isOnlyEmpty then (Nat.min min 1, some (Nat.min (max.getD 1) 1))
    else (min, max)
  if max == some 0 then .empty
  else if min == 1 && max == some 1 then a
  else .rep a min max

/-- The set of an expression that is a set with one character, or one with another number of
them. -/
private def setOf? (single : Bool) : Regex → Option Ranges
  | .chars set => if set.isSingle == single then some set else none
  | _ => none

/-- The alternatives of a list. Alternatives that are single characters, or that are sets of them,
are one set. -/
def anyOf (branches : List Regex) : Regex :=
  let union (sets : List Ranges) : Regex := .chars (sets.foldl Ranges.union .empty)
  match branches.mapM (setOf? true), branches.mapM (setOf? false) with
  | some sets, _ => union sets
  | none, some sets => union sets
  | none, none =>
    match branches with
    | [] => .empty
    | first :: rest => rest.foldl .alt first

/-! ### Character sets -/

/-- The union of the rows of a table whose names are among the given ones. -/
def rowsNamed (table : List (List String × List String)) (names : List String) : Ranges :=
  table.foldl (fun acc (keys, row) =>
    if keys.any names.contains then acc.union (.ofRows row) else acc) .empty

/-- Decimal digits. -/
def digitChars : Ranges := rowsNamed categories ["nd"]

/-- White space. -/
def spaceChars : Ranges := rowsNamed properties ["whitespace"]

/-- Word characters: letters, marks, decimal digits, connectors and joiners. -/
def wordChars : Ranges :=
  (rowsNamed properties ["alphabetic", "joincontrol"]).union
    (rowsNamed categories ["mn", "mc", "me", "nd", "pc"])

/-- Alphabetic characters. -/
def alphabeticChars : Ranges := rowsNamed properties ["alphabetic"]

/-- Characters for numbers. -/
def numberChars : Ranges := rowsNamed categories ["nd", "nl", "no"]

/-- Decimal digits of ASCII. -/
def asciiDigitChars : Ranges := ⟨[(0x30, 0x39)]⟩

/-- White space of ASCII. -/
def asciiSpaceChars : Ranges := ⟨[(0x09, 0x0D), (0x20, 0x20)]⟩

/-- Word characters of ASCII. -/
def asciiWordChars : Ranges := ⟨[(0x30, 0x39), (0x41, 0x5A), (0x5F, 0x5F), (0x61, 0x7A)]⟩

/-! ### Matching -/

/-- Whether a word character stands at a side of a place. -/
def isWord (unicode : Bool) : Option Char → Bool
  | none => false
  | some c => if unicode && c.toNat ≥ 0x80 then wordChars.containsChar c
    else asciiWordChars.containsChar c

/-- Whether an assertion holds between two characters. -/
def Look.holds (before after : Option Char) : Look → Bool
  | .textStart => before.isNone
  | .textEnd => after.isNone
  | .lineStart crlf =>
    before.isNone || before == some '\n'
      || (crlf && before == some '\r' && after != some '\n')
  | .lineEnd crlf =>
    after.isNone || (after == some '\n' && !(crlf && before == some '\r'))
      || (crlf && after == some '\r')
  | .wordBoundary u => isWord u before != isWord u after
  | .notWordBoundary u => isWord u before == isWord u after
  | .wordStart u => !isWord u before && isWord u after
  | .wordEnd u => isWord u before && !isWord u after
  | .wordStartHalf u => !isWord u before
  | .wordEndHalf u => !isWord u after

/-- A set of places in a text, from its start to its end. -/
abbrev Places := List Bool

/-- The places where an assertion holds, given the character before the first of them. -/
def placesWhere (l : Look) (before : Option Char) : List Char → Places
  | [] => [l.holds before none]
  | c :: cs => l.holds before (some c) :: placesWhere l (some c) cs

/-- The places reached over one character of the set. -/
def stepOver (set : Ranges) (text : List Char) (places : Places) : Places :=
  false :: List.zipWith (fun c reached => reached && set.containsChar c) text places

/-- The union of two sets of places. -/
def unite (p q : Places) : Places := List.zipWith (· || ·) p q

/-- Whether no place is left. -/
def noPlace (p : Places) : Bool := p.all (!·)

/-- Repeats `f` exactly `n` times. -/
def repeatExactly (f : Places → Places) : Nat → Places → Places
  | 0, p => p
  | n + 1, p => if noPlace p then p else repeatExactly f n (f p)

/-- Repeats `f` up to `n` times and gathers what is reached on the way. -/
def repeatUpTo (f : Places → Places) : Nat → Places → Places
  | 0, p => p
  | n + 1, p =>
    let q := unite p (f p)
    if q == p then p else repeatUpTo f n q

/-- The places that a match started at one of the given places can end at. -/
def reach (text : List Char) : Regex → Places → Places
  | .empty, p => p
  | .chars set, p => stepOver set text p
  | .look l, p => List.zipWith (· && ·) p (placesWhere l none text)
  | .cat a b, p => reach text b (reach text a p)
  | .alt a b, p => unite (reach text a p) (reach text b p)
  | .rep a min max, p =>
    let q := repeatExactly (reach text a) min p
    match max with
    | some max => repeatUpTo (reach text a) (max - min) q
    | none => repeatUpTo (reach text a) (text.length + 1) q
  | .group a, p => reach text a p

/-- Whether the expression matches somewhere in the text. -/
def isMatch (r : Regex) (text : List Char) : Bool :=
  (r.reach text (List.replicate (text.length + 1) true)).any id

end Regex

end SourceEdit
