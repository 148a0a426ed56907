import SourceEdit.Modification
import SourceEdit.Stylesheet.Node

/-!
# Writing stylesheets

Every item stands on a line of its own, indented by its depth.  Top-level items are separated by the
separator of the options and the text ends with a line feed; a stylesheet without items is written
as the empty text.
-/

namespace SourceEdit.Stylesheet

/-- A text repeated `n` times. -/
def repeatText (s : String) : Nat → String
  | 0 => ""
  | n + 1 => s ++ repeatText s n

mutual

/-- The text of one item at a depth. -/
def writeItem (indent : String) (depth : Nat) : Tree Node → String
  | .node value children =>
    repeatText indent depth ++
      match value with
      | .root => ""
      | .rule selector => selector ++ writeBlock indent depth children
      | .atRule name params block =>
        "@" ++ name ++ (if params.isEmpty then "" else " " ++ params)
          ++ (if block then writeBlock indent depth children else ";")
      | .declaration property value => property ++ ": " ++ value ++ ";"
      | .comment text => "/* " ++ text ++ " */"

/-- The block of an item at a depth. -/
def writeBlock (indent : String) (depth : Nat) (children : List (Tree Node)) : String :=
  match children with
  | [] => " \x7b\x7d"
  | child :: rest =>
    " \x7b\n" ++ writeItem indent (depth + 1) child ++ "\n" ++ writeItems indent (depth + 1) rest
      ++ repeatText indent depth ++ "\x7d"

/-- The items of a block, each followed by a line feed. -/
def writeItems (indent : String) (depth : Nat) : List (Tree Node) → String
  | [] => ""
  | t :: ts => writeItem indent depth t ++ "\n" ++ writeItems indent depth ts

end

/-- The text of a forest of top-level items. -/
def writeForest (options : StylesheetOptions) (items : List (Tree Node)) : String :=
  if items.isEmpty then ""
  else options.ruleSeparator.intercalate (items.map (writeItem options.indent 0)) ++ "\n"

/-- The text of a stylesheet. -/
def write (options : StylesheetOptions) (sheet : Stylesheet) : String :=
  writeForest options (sheet.view sheet.root).children

end SourceEdit.Stylesheet
