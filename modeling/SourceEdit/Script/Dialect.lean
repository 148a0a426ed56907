import SourceEdit.FilePath

/-!
# Script dialects

The extension of a file decides whether types and markup elements are allowed and how the file is
loaded.  A path without a known extension is read as a module with types and elements.
-/

namespace SourceEdit.Script

/-- How a script is loaded. -/
inductive Loading where
  /-- A plain script. -/
  | script
  /-- The body of a function that wraps the file. -/
  | wrapped
  /-- A module. -/
  | module
  /-- A module if it imports or exports, a plain script otherwise. -/
  | undecided
deriving DecidableEq, Repr, Inhabited

/-- What a script may contain. -/
structure Dialect where
  types : Bool
  elements : Bool
  /-- The file holds declarations only. -/
  declarationsOnly : Bool := false
  loading : Loading
deriving DecidableEq, Repr, Inhabited

namespace Dialect

/-- The dialect of a path without a known extension. -/
def fallback : Dialect := { types := true, elements := true, loading := .module }

/-- Whether a file name marks a file of declarations. -/
private def marksDeclarations (name : List Char) : Bool :=
  let parts := splitAt '.' name
  let before := parts.dropLast
  (before.reverse.take 2).contains ['d']

/-- The dialect of an extension. -/
def ofExtension? (extension : List Char) : Option Dialect :=
  match String.ofList extension with
  | "js" => some { types := false, elements := false, loading := .undecided }
  | "mjs" => some { types := false, elements := false, loading := .module }
  | "cjs" => some { types := false, elements := false, loading := .wrapped }
  | "jsx" => some { types := false, elements := true, loading := .undecided }
  | "ts" => some { types := true, elements := false, loading := .undecided }
  | "mts" => some { types := true, elements := false, loading := .module }
  | "cts" => some { types := true, elements := false, loading := .wrapped }
  | "tsx" => some { types := true, elements := true, loading := .undecided }
  | _ => none

/-- The dialect of a path. -/
def ofPath (path : String) : Dialect :=
  let found : Option Dialect := do
    let name ← FilePath.fileName? path
    let extension ← FilePath.extensionOf? name
    let dialect ← ofExtension? extension
    let declarationsOnly := dialect.types && !dialect.elements && marksDeclarations name
    some { dialect with declarationsOnly }
  found.getD fallback

end Dialect

end SourceEdit.Script
