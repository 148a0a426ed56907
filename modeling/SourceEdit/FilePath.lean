import SourceEdit.Modification
import SourceEdit.Text.Characters

/-!
# File names and extensions

The file name of a path is its last part, parts that are empty or `.` being skipped; a path that
ends in `..`, or that names no part, has none.  The extension is what follows the last dot of the
file name, provided that something precedes that dot.
-/

namespace SourceEdit

namespace FilePath

/-- Drops the parts at the end of a path that name nothing; the parts are in reverse. -/
private def lastName : List (List Char) → Option (List Char)
  | [] => none
  | part :: earlier =>
    if part.isEmpty then lastName earlier
    else if part == ['.'] then if earlier.isEmpty then none else lastName earlier
    else if part == ['.', '.'] then none
    else some part

/-- The file name of a path. -/
def fileName? (path : String) : Option (List Char) :=
  lastName (splitAt '/' path.toList).reverse

/-- The extension of a file name. -/
def extensionOf? (name : List Char) : Option (List Char) :=
  let tail := name.reverse.takeWhile (· != '.')
  let stem := (name.reverse.drop (tail.length + 1)).reverse
  if tail.length = name.length || stem.isEmpty then none else some tail.reverse

/-- The extension of a path. -/
def extension? (path : String) : Option (List Char) := fileName? path >>= extensionOf?

end FilePath

/-- The grammar of a file with a given extension, in small letters. -/
def Grammar.ofExtension? (extension : String) : Option Grammar :=
  if extension = "css" then some .stylesheet
  else if ["html", "htm"].contains extension then some .markup
  else if ["js", "jsx", "mjs", "cjs", "ts", "tsx", "mts", "cts"].contains extension then
    some .script
  else none

/-- The grammar of a path, by its extension in any letter case. -/
def Grammar.ofPath? (path : String) : Option Grammar := do
  let extension ← FilePath.extension? path
  Grammar.ofExtension? (String.ofList (asciiLower extension))

end SourceEdit
