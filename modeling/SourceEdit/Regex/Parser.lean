import SourceEdit.Regex.ClassName
import SourceEdit.Regex.Size
import SourceEdit.Text.Characters
import SourceEdit.Unicode.CaseFold

/-!
# Reading regular expressions

The pattern language has alternation, concatenation, repetition, groups with names and flags,
assertions, character classes with set operations, and Unicode properties.  Look-around and back
references are refused.  Flags are scoped by groups; a flag group without a body changes the flags
for the rest of the group around it.

`Regex.ofText?` gives `none` for a pattern that is not well formed, or whose automaton would be too
large.
-/

namespace SourceEdit.Regex

open Unicode

/-- The flags in force at a place of the pattern. -/
structure Flags where
  caseInsensitive : Bool := false
  multiLine : Bool := false
  dotMatchesNewLine : Bool := false
  swapGreed : Bool := false
  unicode : Bool := true
  crlf : Bool := false
  ignoreSpace : Bool := false
deriving DecidableEq, Repr, Inhabited

/-- What is left of a pattern, with the flags in force and the group names given so far. -/
structure Cursor where
  rest : List Char
  flags : Flags
  names : List (List Char)
deriving Inhabited

/-- Skips a comment up to the end of its line. -/
private def skipComment : List Char → List Char
  | '\n' :: cs => cs
  | _ :: cs => skipComment cs
  | [] => []

/-- Skips white space and comments. -/
private def skipSpaceFrom : Nat → List Char → List Char
  | 0, cs => cs
  | n + 1, cs =>
    match cs with
    | c :: r =>
      if isBlank c then skipSpaceFrom n r
      else if c = '#' then skipSpaceFrom n (skipComment r)
      else cs
    | [] => []

/-- Skips white space and comments where they are ignored. -/
def Cursor.skipSpace (s : Cursor) : Cursor :=
  if s.flags.ignoreSpace then { s with rest := skipSpaceFrom (s.rest.length + 1) s.rest } else s

/-- The cursor after the next character, white space skipped. -/
def Cursor.bump (s : Cursor) : Cursor := Cursor.skipSpace { s with rest := s.rest.drop 1 }

/-- The text between braces, from the opening one on, without what is skipped. The cursor stands at
the closing brace. -/
private def braced? : Nat → List Char → Cursor → Option (List Char × Cursor)
  | 0, _, _ => none
  | n + 1, text, s =>
    let s := s.bump
    match s.rest with
    | [] => none
    | '\x7d' :: _ => some (text.reverse, s)
    | c :: _ => braced? n (c :: text) s

/-- The next `n` characters without what is skipped between them. -/
private def several? : Nat → Cursor → Option (List Char × Cursor)
  | 0, s => some ([], s)
  | n + 1, s =>
    match s.rest with
    | [] => none
    | c :: _ => do
      let (cs, s) ← several? n s.bump
      some (c :: cs, s)

/-- The characters at the cursor that satisfy `p`, without what is skipped between them. -/
private def charsWhile (p : Char → Bool) : Nat → Cursor → List Char × Cursor
  | 0, s => ([], s)
  | n + 1, s =>
    match s.rest with
    | [] => ([], s)
    | c :: _ =>
      if p c then
        let (cs, s) := charsWhile p n s.bump
        (c :: cs, s)
      else ([], s)

/-! ### Character sets -/

/-- A set of characters under the flags; a set that needs bytes outside of characters is refused. -/
def foldSet (f : Flags) (s : Ranges) : Ranges :=
  if !f.caseInsensitive then s
  else if f.unicode then foldClosure s
  else
    let lower := s.inter ⟨[(0x61, 0x7A)]⟩
    let upper := s.inter ⟨[(0x41, 0x5A)]⟩
    (s.union (.ofPairs (lower.pairs.map fun (a, b) => (a - 0x20, b - 0x20)))).union
      (.ofPairs (upper.pairs.map fun (a, b) => (a + 0x20, b + 0x20)))

/-- The complement of a set, which only exists over Unicode. -/
def negateSet? (f : Flags) (negated : Bool) (s : Ranges) : Option Ranges :=
  if !negated then some s
  else if f.unicode then some s.complement
  else none

/-! ### Escapes -/

/-- What an escape, or a character by itself, stands for. -/
inductive Primitive where
  | literal (c : Char)
  | class (set : Ranges)
  | look (l : Look)
deriving Inhabited

/-- A character that has a meaning of its own in a pattern. -/
def isMeta (c : Char) : Bool :=
  ['\\', '.', '+', '*', '?', '(', ')', '|', '[', ']', '\x7b', '\x7d', '^', '$', '#', '&', '-',
    '~'].contains c

/-- A character that a backslash leaves as it is. -/
def isEscapable (c : Char) : Bool :=
  isMeta c || (c.toNat < 0x80 && !isAsciiDigit c && !isAsciiLetter c && c != '<' && c != '>')

/-- The character with a code point. -/
private def scalar? (n : Nat) : Option Char :=
  if n > 0x10FFFF || (0xD800 ≤ n && n ≤ 0xDFFF) then none else some (Char.ofNat n)

/-- The character of a hexadecimal escape after its letter. -/
private def hexEscape? (letter : Char) (s : Cursor) : Option (Char × Cursor) := do
  let (digits, s) ← match s.rest with
    | '\x7b' :: _ => do
      let (digits, s) ← braced? s.rest.length [] s
      some (digits, s.bump)
    | _ => several? (if letter = 'x' then 2 else if letter = 'u' then 4 else 8) s
  let n ← numberInBase? 16 digits
  let c ← scalar? n
  some (c, s)

/-- The kind of word boundary that is named in braces. -/
private def namedBoundary? (f : Flags) (name : String) : Option Look :=
  match name with
  | "start" => some (.wordStart f.unicode)
  | "end" => some (.wordEnd f.unicode)
  | "start-half" => some (.wordStartHalf f.unicode)
  | "end-half" => some (.wordEndHalf f.unicode)
  | _ => none

/-- The word boundary after `\b`, whose kind may follow in braces. -/
private def boundary? (s : Cursor) : Option (Primitive × Cursor) :=
  let plain := Primitive.look (.wordBoundary s.flags.unicode)
  let isKindChar (c : Char) : Bool := isAsciiLetter c || c = '-'
  match s.rest with
  | '\x7b' :: _ =>
    let inner := s.bump
    match inner.rest with
    | c :: _ =>
      if isKindChar c then
        let (name, after) := charsWhile isKindChar inner.rest.length inner
        match after.rest with
        | '\x7d' :: r => do
          let l ← namedBoundary? s.flags (String.ofList name)
          some (.look l, { s with rest := r })
        | _ => none
      else some (plain, s)
    | [] => none
  | _ => some (plain, s)

/-- An escape after its backslash.  Without Unicode two hexadecimal digits are a byte, and a byte
that is no character on its own is refused. -/
def escape? (s : Cursor) : Option (Primitive × Cursor) :=
  match s.rest with
  | [] => none
  | c :: r =>
    let after : Cursor := { s with rest := r }
    let perl (negated : Bool) (unicode ascii : Ranges) : Option (Primitive × Cursor) := do
      let set ← negateSet? s.flags negated (if s.flags.unicode then unicode else ascii)
      some (.class set, after)
    let literal (d : Char) : Option (Primitive × Cursor) := some (.literal d, after)
    if isAsciiDigit c then none
    else match c with
    | 'x' | 'u' | 'U' =>
      let isByte := c = 'x' && after.skipSpace.rest.head? != some '\x7b'
      match hexEscape? c after.skipSpace with
      | some (d, t) =>
        if isByte && !s.flags.unicode && d.toNat ≥ 0x80 then none else some (.literal d, t)
      | none => none
    | 'p' | 'P' =>
      let named (name : List Char) (rest : List Char) : Option (Primitive × Cursor) := do
        let (set, isNegated) ← propertyClass? name
        let set := foldSet s.flags set
        let set := if isNegated != (c = 'P') then set.complement else set
        some (.class set, { s with rest })
      if !s.flags.unicode then none
      else match after.skipSpace.rest with
        | '\x7b' :: r => do
          let (name, t) ← braced? (r.length + 1) [] after.skipSpace
          named name (t.rest.drop 1)
        | d :: r => named [d] r
        | [] => none
    | 'd' => perl false digitChars asciiDigitChars
    | 'D' => perl true digitChars asciiDigitChars
    | 's' => perl false spaceChars asciiSpaceChars
    | 'S' => perl true spaceChars asciiSpaceChars
    | 'w' => perl false wordChars asciiWordChars
    | 'W' => perl true wordChars asciiWordChars
    | 'a' => literal '\x07'
    | 'f' => literal '\x0c'
    | 't' => literal '\t'
    | 'n' => literal '\n'
    | 'r' => literal '\r'
    | 'v' => literal '\x0b'
    | 'A' => some (.look .textStart, after)
    | 'z' => some (.look .textEnd, after)
    | 'b' => boundary? after
    | 'B' => some (.look (.notWordBoundary s.flags.unicode), after)
    | '<' => some (.look (.wordStart s.flags.unicode), after)
    | '>' => some (.look (.wordEnd s.flags.unicode), after)
    | _ => if isEscapable c then literal c else none

/-- The set of a single character under the flags. -/
def literalSet? (f : Flags) (c : Char) : Option Ranges :=
  if !f.unicode && c.toNat ≥ 0x80 && f.caseInsensitive then some (.ofChar c)
  else some (foldSet f (.ofChar c))

/-! ### Bracketed classes -/

/-- An operation between two halves of a class. -/
inductive SetOp where
  | inter
  | diff
  | symmDiff

/-- Applies an operation between sets. -/
def SetOp.apply (a b : Ranges) : SetOp → Ranges
  | .inter => a.inter b
  | .diff => a.diff b
  | .symmDiff => a.symmDiff b

/-- A class between colons, such as `[:alpha:]`. -/
private def namedClass? (s : Cursor) : Option (Option Ranges × Cursor) :=
  match s.rest with
  | '[' :: ':' :: r =>
    let (negated, r) := match r with
      | '^' :: r => (true, r)
      | r => (false, r)
    let name := r.takeWhile fun c => c != ':'
    match r.drop name.length with
    | ':' :: ']' :: after =>
      (namedAscii? (String.ofList name)).map fun set =>
        (negateSet? s.flags negated set, { s with rest := after })
    | _ => none
  | _ => none

/-- One end of a range: a character or an escape.  Without Unicode a class holds ASCII only. -/
private def classItem? (s : Cursor) : Option (Primitive × Cursor) := do
  let item ← match s.rest with
    | '\\' :: r => escape? { s with rest := r }
    | c :: r => some (.literal c, { s with rest := r })
    | [] => none
  match item.1 with
  | .literal c => if s.flags.unicode || c.toNat < 0x80 then some item else none
  | _ => some item

/-- A range, or a single item, of a class. -/
private def classRange? (s : Cursor) : Option (Ranges × Cursor) := do
  let (first, s) ← classItem? s
  let s := s.skipSpace
  let single : Option (Ranges × Cursor) := match first with
    | .literal c => some (.ofChar c, s)
    | .class set => some (set, s)
    | .look _ => none
  match s.rest with
  | [] => none
  | '-' :: _ =>
    let after := s.bump
    match after.rest with
    | ']' :: _ => single
    | '-' :: _ => single
    | [] => none
    | _ => do
      let (last, s) ← classItem? after
      match first, last with
      | .literal a, .literal b => if a ≤ b then some (⟨[(a.toNat, b.toNat)]⟩, s) else none
      | _, _ => none
  | _ => single

/-- The items of a class that stand side by side. -/
private structure ClassItems where
  set : Ranges := .empty
  count : Nat := 0
  /-- How deep the items are nested. -/
  depth : Nat := 0

/-- The items with one more. -/
private def ClassItems.add (items : ClassItems) (set : Ranges) (depth : Nat) : ClassItems :=
  ⟨items.set.union set, items.count + 1, max items.depth depth⟩

/-- How deep the items are nested as a whole: several items are a level of their own. -/
private def ClassItems.nesting (items : ClassItems) : Nat :=
  if items.count ≤ 1 then items.depth else items.depth + 1

/-- The minus signs at the head of a class, which stand for themselves. -/
private def leadingMinus (items : ClassItems) (s : Cursor) : Nat → ClassItems × Cursor
  | 0 => (items, s)
  | n + 1 =>
    match s.rest with
    | '-' :: _ => leadingMinus (items.add (.ofChar '-') 0) s.bump n
    | _ => (items, s)

/-- A class after its opening bracket: whether it is negated, and the characters at its head that
stand for themselves. -/
private def classHead? (s : Cursor) : Option (Bool × ClassItems × Cursor) :=
  let s := s.skipSpace
  let (negated, s) := match s.rest with
    | '^' :: _ => (true, s.bump)
    | _ => (false, s)
  let (items, s) := leadingMinus {} s s.rest.length
  match s.rest with
  | [] => none
  | ']' :: _ =>
    if items.count = 0 then
      let s := s.bump
      if s.rest.isEmpty then none else some (negated, items.add (.ofChar ']') 0, s)
    else some (negated, items, s)
  | _ => some (negated, items, s)

/-- What stands before an operation in a class. -/
private structure ClassLeft where
  set : Ranges
  op : SetOp
  /-- How deep it is nested. -/
  depth : Nat

/-- The rest of a class, with its nesting.  `left` is what stands before the last operation, with
that operation, and `items` are those gathered since. -/
private def classBody? : Nat → Bool → Option ClassLeft → ClassItems → Cursor →
    Option (Ranges × Nat × Cursor)
  | 0, _, _, _, _ => none
  | n + 1, negated, left, items, s =>
    let s := s.skipSpace
    let (set, depth) :=
      let set := foldSet s.flags items.set
      match left with
      | some l => (l.op.apply l.set set, max l.depth items.nesting + 1)
      | none => (set, items.nesting)
    let operation (op : SetOp) (r : List Char) : Option (Ranges × Nat × Cursor) :=
      classBody? n negated (some ⟨set, op, depth⟩) {} { s with rest := r }
    match s.rest with
    | [] => none
    | '[' :: r =>
      match namedClass? s with
      | some (some set, s) => classBody? n negated left (items.add set 0) s
      | some (none, _) => none
      | none => do
        let (innerNegated, head, s) ← classHead? { s with rest := r }
        let (set, depth, s) ← classBody? n innerNegated none head s
        classBody? n negated left (items.add set (depth + 1)) s
    | ']' :: r => do
      let set ← negateSet? s.flags negated set
      some (set, depth, { s with rest := r })
    | '&' :: '&' :: r => operation .inter r
    | '-' :: '-' :: r => operation .diff r
    | '~' :: '~' :: r => operation .symmDiff r
    | _ => do
      let (set, s) ← classRange? s
      classBody? n negated left (items.add set 0) s

/-- A class with its nesting, from its opening bracket on. -/
def class? (s : Cursor) : Option (Ranges × Nat × Cursor) := do
  let (negated, head, t) ← classHead? { s with rest := s.rest.drop 1 }
  let (set, depth, t) ← classBody? (s.rest.length + 1) negated none head t
  some (set, depth + 1, t)

/-! ### Groups and repetition -/

/-- What a flag letter switches. -/
private def setFlag? (on : Bool) (c : Char) (f : Flags) : Option Flags :=
  match c with
  | 'i' => some { f with caseInsensitive := on }
  | 'm' => some { f with multiLine := on }
  | 's' => some { f with dotMatchesNewLine := on }
  | 'U' => some { f with swapGreed := on }
  | 'u' => some { f with unicode := on }
  | 'R' => some { f with crlf := on }
  | 'x' => some { f with ignoreSpace := on }
  | _ => none

/-- The flags of a group up to a colon or the closing bracket; `seen` lists the letters read. -/
private def flags? : List Char → Bool → List Char → Flags → Option (List Char × List Char × Flags)
  | [], _, _, _ => none
  | c :: cs, negated, seen, f =>
    if c = ':' || c = ')' then
      if negated && seen.head? == some '-' then none else some (c :: cs, seen, f)
    else if c = '-' then
      if negated then none else flags? cs true ('-' :: seen) f
    else if seen.contains c then none
    else do
      let f ← setFlag? (!negated) c f
      flags? cs negated (c :: seen) f

/-- The name of a group, up to its closing angle bracket. -/
private def groupName? (names : List (List Char)) (cs : List Char) :
    Option (List Char × List Char) :=
  let name := cs.takeWhile (· != '>')
  let isStart (c : Char) : Bool := c = '_' || alphabeticChars.containsChar c
  let isRest (c : Char) : Bool :=
    isStart c || numberChars.containsChar c || c = '.' || c = '[' || c = ']'
  match name with
  | [] => none
  | c :: r =>
    if isStart c && r.all isRest && name.length < cs.length && !names.contains name then
      some (name, cs.drop (name.length + 1))
    else none

/-- How a group opens. -/
private inductive Opening where
  | group (isKept : Bool) (inner : Cursor)
  | setFlags (after : Cursor)

/-- The opening of a group after its bracket. -/
private def opening? (s : Cursor) : Option Opening :=
  let s := s.skipSpace
  match s.rest with
  | '?' :: '=' :: _ | '?' :: '!' :: _ | '?' :: '<' :: '=' :: _ | '?' :: '<' :: '!' :: _ => none
  | '?' :: 'P' :: '<' :: r | '?' :: '<' :: r => do
    let (name, r) ← groupName? s.names r
    some (.group true { s with rest := r, names := name :: s.names })
  | '?' :: r => do
    let (r, seen, f) ← flags? r false [] s.flags
    match r with
    | ')' :: r =>
      if seen.isEmpty then none else some (.setFlags { s with rest := r, flags := f })
    | _ :: r => some (.group false { s with rest := r, flags := f })
    | [] => none
  | _ => some (.group true s)

/-- A decimal number between optional white space; `none` for the number if there are no digits. -/
private def decimal? (s : Cursor) : Option (Option Nat × Cursor) :=
  let start : Cursor := { s with rest := s.rest.dropWhile isBlank }
  let (digits, t) := charsWhile isAsciiDigit start.rest.length start
  let after := (charsWhile isBlank t.rest.length t).2
  if digits.isEmpty then some (none, after)
  else do
    let n ← numberInBase? 10 digits
    if n < UInt32.size then some (some n, after) else none

/-- The bounds of a counted repetition, from its opening brace on. -/
private def counted? (s : Cursor) : Option (Nat × Option Nat × Cursor) := do
  let s := s.bump
  guard (!s.rest.isEmpty)
  let (low, s) ← decimal? s
  let low ← low
  match s.rest with
  | ',' :: _ =>
    let s := s.bump
    match s.rest with
    | [] => none
    | '\x7d' :: r => some (low, none, { s with rest := r })
    | _ => do
      let (high, s) ← decimal? s
      let high ← high
      match s.rest with
      | '\x7d' :: r => if low ≤ high then some (low, some high, { s with rest := r }) else none
      | _ => none
  | '\x7d' :: r => some (low, some low, { s with rest := r })
  | _ => none

/-- The repetition operator at the head of the pattern. -/
private def repetition? (s : Cursor) : Option (Nat × Option Nat × Cursor) :=
  match s.rest with
  | '*' :: _ => some (0, none, s.bump)
  | '+' :: _ => some (1, none, s.bump)
  | '?' :: _ => some (0, some 1, s.bump)
  | _ => (counted? s).map fun (low, high, s) => (low, high, s.skipSpace)

/-- Skips the mark of a lazy repetition. -/
private def skipLazy (s : Cursor) : Cursor :=
  match s.rest with
  | '?' :: r => { s with rest := r }
  | _ => s

/-! ### Patterns -/

/-- An expression as it is written. -/
private structure Written where
  regex : Regex
  /-- How deep groups, classes, repetitions, sequences and alternatives are nested in it. -/
  depth : Nat := 0

/-- An element of a sequence. -/
private inductive Item where
  | regex (r : Written)
  | flags

/-- How deep an item is nested. -/
private def Item.depth : Item → Nat
  | .regex r => r.depth
  | .flags => 0

/-- The depth of several parts side by side, which are a level of their own. -/
private def depthOfAll (depths : List Nat) : Nat :=
  let deepest := depths.foldl max 0
  if depths.length ≤ 1 then deepest else deepest + 1

/-- The sequence of items given in reverse. -/
private def sequence (items : List Item) : Written where
  regex := items.foldl (fun acc item =>
    match item with
    | .regex r => r.regex.andThen acc
    | .flags => acc) .empty
  depth := depthOfAll (items.map Item.depth)

/-- The alternatives given in reverse, with the last one apart. -/
private def alternatives (branches : List Written) (last : Written) : Written :=
  if branches.isEmpty then last
  else
    let all := branches.reverse ++ [last]
    ⟨anyOf (all.map (·.regex)), depthOfAll (all.map (·.depth))⟩

/-- The set of the dot under the flags. -/
private def dot? (f : Flags) : Option Ranges :=
  if !f.unicode then none
  else if f.dotMatchesNewLine then some .all
  else if f.crlf then some (Ranges.complement ⟨[(0x0A, 0x0A), (0x0D, 0x0D)]⟩)
  else some (Ranges.complement ⟨[(0x0A, 0x0A)]⟩)

/-- A single element that is not a group, a class or a repetition. -/
private def primitive? (s : Cursor) : Option (Regex × Cursor) :=
  match s.rest with
  | [] => none
  | '.' :: r => do
    let set ← dot? s.flags
    some (.chars set, { s with rest := r })
  | '^' :: r =>
    some (.look (if s.flags.multiLine then .lineStart s.flags.crlf else .textStart),
      { s with rest := r })
  | '$' :: r =>
    some (.look (if s.flags.multiLine then .lineEnd s.flags.crlf else .textEnd),
      { s with rest := r })
  | '\\' :: r => do
    let (p, s) ← escape? { s with rest := r }
    match p with
    | .literal c => do
      let set ← literalSet? s.flags c
      some (.chars set, s)
    | .class set => some (.chars set, s)
    | .look l => some (.look l, s)
  | c :: r => do
    let set ← literalSet? s.flags c
    some (.chars set, { s with rest := r })

/-- The body of a group, or the whole pattern, up to its closing bracket or the end.  Items and
branches are in reverse. -/
private def body? : Nat → Bool → List Written → List Item → Cursor → Option (Written × Cursor)
  | 0, _, _, _, _ => none
  | n + 1, inGroup, branches, items, s =>
    let s := s.skipSpace
    match s.rest with
    | [] => if inGroup then none else some (alternatives branches (sequence items), s)
    | ')' :: r =>
      if inGroup then some (alternatives branches (sequence items), { s with rest := r }) else none
    | '|' :: r => body? n inGroup (sequence items :: branches) [] { s with rest := r }
    | '(' :: r => do
      match ← opening? { s with rest := r } with
      | .setFlags after => body? n inGroup branches (.flags :: items) after
      | .group isKept inner =>
        let (inside, after) ← body? n true [] [] inner
        let regex := if isKept then .group inside.regex else inside.regex
        body? n inGroup branches (.regex ⟨regex, inside.depth + 1⟩ :: items)
          { after with flags := s.flags }
    | '[' :: _ => do
      let (set, depth, s) ← class? s
      body? n inGroup branches (.regex ⟨.chars set, depth⟩ :: items) s
    | c :: _ =>
      if c = '*' || c = '+' || c = '?' || c = '\x7b' then
        match items with
        | .regex r :: items => do
          let (low, high, s) ← repetition? s
          let repeated : Written := ⟨r.regex.repeated low high, r.depth + 1⟩
          body? n inGroup branches (.regex repeated :: items) (skipLazy s)
        | _ => none
      else do
        let (r, s) ← primitive? s
        body? n inGroup branches (.regex ⟨r, 0⟩ :: items) s

/-- How deep the parts of a pattern may be nested. -/
private def depthLimit : Nat := 250

/-- Reads a pattern. -/
def ofText? (pattern : List Char) : Option Regex := do
  let (r, _) ← body? (2 * pattern.length + 2) false [] [] ⟨pattern, {}, []⟩
  if r.depth ≤ depthLimit && r.regex.isSmall then some r.regex else none

end SourceEdit.Regex
