import SourceEdit.Regex.Basic
import SourceEdit.Text.Characters
import SourceEdit.Unicode.Age
import SourceEdit.Unicode.Boundary
import SourceEdit.Unicode.WritingScript
import SourceEdit.Unicode.WritingScriptExtension

/-!
# Named classes of characters

The classes that a pattern can name: by a property of characters, or by one of the names for classes
of ASCII characters.
-/

namespace SourceEdit.Regex

open Unicode

/-! ### Loose names -/

/-- A property name in its loose form: small letters without separators, and without `is` at its
head. -/
def looseName (cs : List Char) : List Char :=
  let hasIs := asciiLower (cs.take 2) == ['i', 's']
  let kept := (asciiLower (if hasIs then cs.drop 2 else cs)).filter fun c =>
    c.toNat < 0x80 && c != ' ' && c != '_' && c != '-'
  if hasIs && kept == ['c'] then ['i', 's', 'c'] else kept

/-- The row of a table with the given name. -/
private def row? (table : List (List String × List String)) (name : String) : Option Ranges :=
  (table.find? fun (keys, _) => keys.contains name).map fun (_, row) => .ofRows row

/-! ### Properties -/

/-- The groups of general categories. -/
private def categoryGroups : List (List String × List String) := [
  (["lc", "casedletter"], ["lu", "ll", "lt"]),
  (["l", "letter"], ["lu", "ll", "lt", "lm", "lo"]),
  (["m", "mark", "combiningmark"], ["mn", "mc", "me"]),
  (["n", "number"], ["nd", "nl", "no"]),
  (["p", "punctuation", "punct"], ["pc", "pd", "ps", "pe", "pi", "pf", "po"]),
  (["s", "symbol"], ["sm", "sc", "sk", "so"]),
  (["z", "separator"], ["zs", "zl", "zp"]),
  (["c", "other"], ["cc", "cf", "cn", "co"])]

/-- A general category, or a group of them, by name. -/
def category? (name : String) : Option Ranges :=
  if name = "any" then some .all
  else if name = "ascii" then some ⟨[(0, 0x7F)]⟩
  else if name = "assigned" then (row? categories "cn").map Ranges.complement
  else match categoryGroups.find? fun (keys, _) => keys.contains name with
    | some (_, members) => some (rowsNamed categories members)
    | none => row? categories name

/-- The characters that a version of the character database knows. -/
def knownAt? (version : String) : Option Ranges :=
  if ages.any fun (keys, _) => keys.contains version then
    let later := (ages.dropWhile fun (keys, _) => !keys.contains version).drop 1
    let added := ages.take (ages.length - later.length)
    some (.ofPairs (added.flatMap fun (_, row) => (Ranges.ofRows row).pairs))
  else none

/-- A class of characters by a property and its value. -/
private def byValue? (key value : List Char) : Option Ranges :=
  let value := String.ofList (looseName value)
  match String.ofList (looseName key) with
  | "gc" | "generalcategory" => category? value
  | "sc" | "script" => row? scripts value
  | "scx" | "scriptextensions" => row? scriptExtensions value
  | "age" => knownAt? value
  | "gcb" | "graphemeclusterbreak" => row? graphemeBreaks value
  | "wb" | "wordbreak" => row? wordBreaks value
  | "sb" | "sentencebreak" => row? sentenceBreaks value
  | _ => none

/-- A class of characters by a single name: a binary property, a category or a script. -/
private def byName? (text : List Char) : Option Ranges :=
  let name := String.ofList (looseName text)
  let binary := if ["cf", "sc", "lc"].contains name then none else row? properties name
  binary.or ((category? name).or (row? scripts name))

/-- A class of characters by the text inside the braces of `\p`, and whether it is to be negated. -/
def propertyClass? (text : List Char) : Option (Ranges × Bool) :=
  let splitOn? (sep : Char) : Option (List Char × List Char) :=
    match text.dropWhile (· != sep) with
    | _ :: value => some (text.takeWhile (· != sep), value)
    | [] => none
  match splitOn? '!' with
  | some (key, '=' :: value) => (byValue? key value).map (·, true)
  | _ =>
    match (splitOn? ':').or (splitOn? '=') with
    | some (key, value) => (byValue? key value).map (·, false)
    | none => (byName? text).map (·, false)

/-! ### Classes of ASCII -/

/-- The classes that have a name between colons. -/
def namedAscii? (name : String) : Option Ranges :=
  match name with
  | "alnum" => some ⟨[(0x30, 0x39), (0x41, 0x5A), (0x61, 0x7A)]⟩
  | "alpha" => some ⟨[(0x41, 0x5A), (0x61, 0x7A)]⟩
  | "ascii" => some ⟨[(0, 0x7F)]⟩
  | "blank" => some ⟨[(0x09, 0x09), (0x20, 0x20)]⟩
  | "cntrl" => some ⟨[(0, 0x1F), (0x7F, 0x7F)]⟩
  | "digit" => some ⟨[(0x30, 0x39)]⟩
  | "graph" => some ⟨[(0x21, 0x7E)]⟩
  | "lower" => some ⟨[(0x61, 0x7A)]⟩
  | "print" => some ⟨[(0x20, 0x7E)]⟩
  | "punct" => some ⟨[(0x21, 0x2F), (0x3A, 0x40), (0x5B, 0x60), (0x7B, 0x7E)]⟩
  | "space" => some asciiSpaceChars
  | "upper" => some ⟨[(0x41, 0x5A)]⟩
  | "word" => some asciiWordChars
  | "xdigit" => some ⟨[(0x30, 0x39), (0x41, 0x46), (0x61, 0x66)]⟩
  | _ => none

end SourceEdit.Regex
