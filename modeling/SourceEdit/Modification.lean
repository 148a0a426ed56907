import SourceEdit.Json.Writer

/-!
# Modifications

The vocabulary of an edit request: the grammar of a file, the operation, the position of an
insertion, the target that describes what to edit, and the scalar value that it carries.
-/

namespace SourceEdit

/-- The three kinds of text that can be edited. -/
inductive Grammar where
  | stylesheet
  | markup
  | script
deriving DecidableEq, Repr, Inhabited

/-- The name of a grammar. -/
def Grammar.name : Grammar → String
  | .stylesheet => "stylesheet"
  | .markup => "markup"
  | .script => "script"

/-- What a modification does to the nodes it addresses. -/
inductive Operation where
  | update
  | insert
  | delete
  | replace
deriving DecidableEq, Repr, Inhabited

/-- The name of an operation. -/
def Operation.name : Operation → String
  | .update => "update"
  | .insert => "insert"
  | .delete => "delete"
  | .replace => "replace"

/-- Where an insertion goes, relative to the node it addresses. -/
inductive Position where
  | before
  | after
  | inside
  | prepend
deriving DecidableEq, Repr, Inhabited

/-- The name of a position. -/
def Position.name : Position → String
  | .before => "before"
  | .after => "after"
  | .inside => "inside"
  | .prepend => "prepend"

/-- The description of what a modification acts on. -/
structure Target where
  selector : Option String := none
  property : Option String := none
  attributeName : Option String := none
  identifier : Option String := none
deriving DecidableEq, Repr, Inhabited

/-- The scalar carried by a modification. -/
inductive Payload where
  | text (s : String)
  | number (n : Json.Number)
  | bool (b : Bool)
deriving DecidableEq, Repr, Inhabited

/-- The text of a payload. -/
def Payload.toText : Payload → String
  | .text s => s
  | .number n => n.text
  | .bool b => if b then "true" else "false"

/-- One edit instruction for one file. -/
structure Modification where
  path : String
  grammar : Option Grammar := none
  operation : Operation
  target : Target := {}
  value : Option Payload := none
  position : Option Position := none
deriving DecidableEq, Repr, Inhabited

/-- The text of the value, if there is one. -/
def Modification.valueText? (m : Modification) : Option String := m.value.map Payload.toText

/-- How stylesheets are written. -/
structure StylesheetOptions where
  /-- Indentation of one nesting level. -/
  indent : String := "  "
  /-- Text between top-level items. -/
  ruleSeparator : String := "\n\n"
deriving DecidableEq, Repr, Inhabited

/-- How markup is read. -/
structure MarkupOptions where
  /-- Reads a whole document as such, and not as the content of a body. -/
  preserveDocument : Bool := true
deriving DecidableEq, Repr, Inhabited

/-- How scripts are written. -/
structure ScriptOptions where
  /-- Prefers single quotes for strings. -/
  singleQuote : Bool := false
deriving DecidableEq, Repr, Inhabited

/-- The options of all grammars. -/
structure Options where
  stylesheet : StylesheetOptions := {}
  markup : MarkupOptions := {}
  script : ScriptOptions := {}
deriving DecidableEq, Repr, Inhabited

/-- The outcome for one file. -/
structure FileResult where
  success : Bool
  modifiedContent : Option String := none
  modificationsApplied : Nat
  error : Option String := none
deriving DecidableEq, Repr, Inhabited

/-- The outcome for all files of a request; the files keep the order of the request. -/
structure BatchResult where
  success : Bool
  updatedFiles : List (String × String)
  errors : List String
deriving DecidableEq, Repr, Inhabited

end SourceEdit
