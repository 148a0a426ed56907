import SourceEdit.Modification

/-!
# Modifications as JSON records

Every record is read from an object by field name, unknown names being ignored, or from an array
that lists its fields in order, where fields at the end that have a default may be missing.  An
optional field may be absent or null.  Enumerations are read from their name or one of its aliases.
Writing uses the main names and leaves absent optional fields out.
-/

namespace SourceEdit

namespace Record

/-- A record under reading: its fields by name, or the items of an array in field order. -/
inductive Source where
  | named (fields : List (String × Json))
  | listed (items : List Json)

/-- The fields of an object, or at most `arity` items of an array. -/
def source? (arity : Nat) : Json → Option Source
  | .object fields => some (.named fields)
  | .array items => if items.length ≤ arity then some (.listed items) else none
  | _ => none

/-- A field by name, or by its place in an array. -/
def Source.field? (name : String) (index : Nat) : Source → Option Json
  | .named fields => fields.lookup name
  | .listed items => items[index]?

/-- A required field. -/
def required {α : Type} (read : Json → Option α) : Option Json → Option α
  | some j => read j
  | none => none

/-- A field that may be absent or null. -/
def optional {α : Type} (read : Json → Option α) : Option Json → Option (Option α)
  | none | some .null => some none
  | some j => (read j).map some

/-- A field that may be absent but not null. -/
def defaulted {α : Type} (default : α) (read : Json → Option α) : Option Json → Option α
  | none => some default
  | some j => read j

/-- A string. -/
def string : Json → Option String := Json.string?

/-- A truth value. -/
def bool : Json → Option Bool
  | .bool b => some b
  | _ => none

/-- The name of an enumeration's case, given as a string or as the one field of an object whose
value is null. -/
def caseName? : Json → Option String
  | .string s => some s
  | .object [(name, .null)] => some name
  | _ => none

/-- The field of an optional value when it is written. -/
def optionField (name : String) : Option Json → List (String × Json)
  | some j => [(name, j)]
  | none => []

end Record

open Record

/-! ### Enumerations -/

/-- Reads a grammar by name. -/
def Grammar.ofName? : String → Option Grammar
  | "stylesheet" | "css" => some .stylesheet
  | "markup" | "html" => some .markup
  | "script" | "js" | "jsx" | "ts" | "tsx" => some .script
  | _ => none

/-- Reads a grammar. -/
def Grammar.ofJson? (j : Json) : Option Grammar := caseName? j >>= Grammar.ofName?

/-- Writes a grammar. -/
def Grammar.toJson (g : Grammar) : Json := .string g.name

/-- Reads an operation by name. -/
def Operation.ofName? : String → Option Operation
  | "update" => some .update
  | "insert" => some .insert
  | "delete" => some .delete
  | "replace" => some .replace
  | _ => none

/-- Reads an operation. -/
def Operation.ofJson? (j : Json) : Option Operation := caseName? j >>= Operation.ofName?

/-- Writes an operation. -/
def Operation.toJson (o : Operation) : Json := .string o.name

/-- Reads a position by name. -/
def Position.ofName? : String → Option Position
  | "before" => some .before
  | "after" => some .after
  | "inside" | "append" => some .inside
  | "prepend" => some .prepend
  | _ => none

/-- Reads a position. -/
def Position.ofJson? (j : Json) : Option Position := caseName? j >>= Position.ofName?

/-- Writes a position. -/
def Position.toJson (p : Position) : Json := .string p.name

/-! ### Modifications -/

/-- Reads a target. -/
def Target.ofJson? (j : Json) : Option Target := do
  let s ← source? 4 j
  let selector ← optional string (s.field? "selector" 0)
  let property ← optional string (s.field? "property" 1)
  let attributeName ← optional string (s.field? "attribute" 2)
  let identifier ← optional string (s.field? "identifier" 3)
  some { selector, property, attributeName, identifier }

/-- Writes a target. -/
def Target.toJson (t : Target) : Json :=
  .object <|
    optionField "selector" (t.selector.map .string)
      ++ optionField "property" (t.property.map .string)
      ++ optionField "attribute" (t.attributeName.map .string)
      ++ optionField "identifier" (t.identifier.map .string)

/-- Reads a payload. -/
def Payload.ofJson? : Json → Option Payload
  | .string s => some (.text s)
  | .number n => some (.number n)
  | .bool b => some (.bool b)
  | _ => none

/-- Writes a payload. -/
def Payload.toJson : Payload → Json
  | .text s => .string s
  | .number n => .number n
  | .bool b => .bool b

/-- The grammar field of a modification, which has two names; giving both is refused. -/
def grammarField? : Source → Option (Option Json)
  | .named fields =>
    match fields.lookup "grammar", fields.lookup "type" with
    | some _, some _ => none
    | some j, none | none, some j => some (some j)
    | none, none => some none
  | .listed items => some items[1]?

/-- Reads a modification. -/
def Modification.ofJson? (j : Json) : Option Modification := do
  let s ← source? 6 j
  let path ← required string (s.field? "path" 0)
  let grammar ← optional Grammar.ofJson? (← grammarField? s)
  let operation ← required Operation.ofJson? (s.field? "operation" 2)
  let target ← defaulted {} Target.ofJson? (s.field? "target" 3)
  let value ← optional Payload.ofJson? (s.field? "value" 4)
  let position ← optional Position.ofJson? (s.field? "position" 5)
  some { path, grammar, operation, target, value, position }

/-- Writes a modification. -/
def Modification.toJson (m : Modification) : Json :=
  .object <|
    [("path", .string m.path)]
      ++ optionField "grammar" (m.grammar.map Grammar.toJson)
      ++ [("operation", m.operation.toJson), ("target", m.target.toJson)]
      ++ optionField "value" (m.value.map Payload.toJson)
      ++ optionField "position" (m.position.map Position.toJson)

/-! ### Options -/

/-- Reads stylesheet options. -/
def StylesheetOptions.ofJson? (j : Json) : Option StylesheetOptions := do
  let s ← source? 2 j
  let initial : StylesheetOptions := {}
  let indent ← defaulted initial.indent string (s.field? "indent" 0)
  let ruleSeparator ← defaulted initial.ruleSeparator string (s.field? "ruleSeparator" 1)
  some { indent, ruleSeparator }

/-- Writes stylesheet options. -/
def StylesheetOptions.toJson (o : StylesheetOptions) : Json :=
  .object [("indent", .string o.indent), ("ruleSeparator", .string o.ruleSeparator)]

/-- Reads markup options. -/
def MarkupOptions.ofJson? (j : Json) : Option MarkupOptions := do
  let s ← source? 1 j
  let initial : MarkupOptions := {}
  let preserveDocument ← defaulted initial.preserveDocument bool (s.field? "preserveDocument" 0)
  some { preserveDocument }

/-- Writes markup options. -/
def MarkupOptions.toJson (o : MarkupOptions) : Json :=
  .object [("preserveDocument", .bool o.preserveDocument)]

/-- Reads script options. -/
def ScriptOptions.ofJson? (j : Json) : Option ScriptOptions := do
  let s ← source? 1 j
  let initial : ScriptOptions := {}
  let singleQuote ← defaulted initial.singleQuote bool (s.field? "singleQuote" 0)
  some { singleQuote }

/-- Writes script options. -/
def ScriptOptions.toJson (o : ScriptOptions) : Json :=
  .object [("singleQuote", .bool o.singleQuote)]

/-- Reads options. -/
def Options.ofJson? (j : Json) : Option Options := do
  let s ← source? 3 j
  let stylesheet ← defaulted {} StylesheetOptions.ofJson? (s.field? "stylesheet" 0)
  let markup ← defaulted {} MarkupOptions.ofJson? (s.field? "markup" 1)
  let script ← defaulted {} ScriptOptions.ofJson? (s.field? "script" 2)
  some { stylesheet, markup, script }

/-- Writes options. -/
def Options.toJson (o : Options) : Json :=
  .object [("stylesheet", o.stylesheet.toJson), ("markup", o.markup.toJson),
    ("script", o.script.toJson)]

/-! ### Results -/

/-- Reads a count, which must be a non-negative integer. -/
def Record.count : Json → Option Nat := Json.nat?

/-- Reads the outcome of a file. -/
def FileResult.ofJson? (j : Json) : Option FileResult := do
  let s ← source? 4 j
  let success ← required bool (s.field? "success" 0)
  let modifiedContent ← optional string (s.field? "modifiedContent" 1)
  let modificationsApplied ← required count (s.field? "modificationsApplied" 2)
  let error ← optional string (s.field? "error" 3)
  some { success, modifiedContent, modificationsApplied, error }

/-- Writes the outcome of a file. -/
def FileResult.toJson (r : FileResult) : Json :=
  .object <|
    [("success", .bool r.success)]
      ++ optionField "modifiedContent" (r.modifiedContent.map .string)
      ++ [("modificationsApplied", Json.ofNat r.modificationsApplied)]
      ++ optionField "error" (r.error.map .string)

/-- Reads a list of strings. -/
def Record.strings : Json → Option (List String)
  | .array items => items.mapM string
  | _ => none

/-- Reads a map from strings to strings. -/
def Record.stringMap : Json → Option (List (String × String))
  | .object fields => fields.mapM fun (name, j) => (string j).map (name, ·)
  | _ => none

/-- Reads the outcome of a batch. -/
def BatchResult.ofJson? (j : Json) : Option BatchResult := do
  let s ← source? 3 j
  let success ← required bool (s.field? "success" 0)
  let updatedFiles ← required stringMap (s.field? "updatedFiles" 1)
  let errors ← required strings (s.field? "errors" 2)
  some { success, updatedFiles, errors }

/-- Writes the outcome of a batch. -/
def BatchResult.toJson (r : BatchResult) : Json :=
  .object [("success", .bool r.success),
    ("updatedFiles", .object (r.updatedFiles.map fun (name, text) => (name, .string text))),
    ("errors", .array (r.errors.map .string))]

end SourceEdit
