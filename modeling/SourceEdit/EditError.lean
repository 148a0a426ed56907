import SourceEdit.Modification
import SourceEdit.Script.Dialect

/-!
# Errors

Every way in which an edit can fail, with its message.  `EditError.kind` sorts the causes into the
families that a caller tells apart.  What is wrong with a script or with a regular expression is said by
those who read them; their words are `Diagnostics`, and an error tells what they were given to read.
`Edited` is what an edit leaves behind, whether it fails or not.
-/

namespace SourceEdit

/-- What the reader of scripts is given: a text of a dialect, which is to be a script or an
expression. -/
structure ScriptInput where
  dialect : Script.Dialect := .fallback
  isExpression : Bool := false
  text : String := ""
deriving DecidableEq, Repr

/-- What the readers of scripts and of regular expressions say about texts that they refuse. -/
structure Diagnostics where
  /-- The errors in a script, in the order in which they are reported. -/
  script : ScriptInput → List String
  /-- The error in the source of a regular expression. -/
  regex : String → String

/-- Why a file could not be edited. -/
inductive EditError where
  /-- No text was given for the path. -/
  | fileNotFound (path : String)
  /-- No grammar was given and the path has no known extension. -/
  | unknownGrammar (path : String)
  /-- Every modification matched nothing. -/
  | nothingApplied
  /-- The script, or a value to be put into it, is not well formed. -/
  | scriptSyntax (input : ScriptInput := {})
  /-- The text to insert into a stylesheet holds no rules, or holds declarations beside them. -/
  | noRules (value : String)
  /-- The text to replace a stylesheet rule does not start with a rule. -/
  | noRule (value : String)
  /-- The text to insert into markup holds no nodes. -/
  | noNodes (value : String)
  /-- The operation needs a value and none was given. -/
  | missingValue (operation : Operation) (path : String)
  /-- The target has no selector. -/
  | missingStylesheetSelector
  /-- The target has no selector. -/
  | missingMarkupSelector
  /-- The target has no identifier. -/
  | missingIdentifier
  /-- An update of a stylesheet names no property. -/
  | missingProperty
  /-- A selector between slashes is not a well-formed pattern. -/
  | badPattern (descriptor source : String)
  /-- A class selector without a name. -/
  | emptyClass
  /-- An id selector without a name. -/
  | emptyId
  /-- A selector without text. -/
  | emptySelector
  /-- The value that should hold a statement holds none. -/
  | noStatement (value : String)
  /-- The value that should be an import declaration is another statement. -/
  | notAnImport (value : String)
deriving DecidableEq, Repr

namespace EditError

/-- The families of errors. -/
inductive Kind where
  | fileNotFound
  | unknownGrammar
  | nothingApplied
  | parse
  | invalid
deriving DecidableEq, Repr

/-- The family of an error. -/
def kind : EditError → Kind
  | .fileNotFound _ => .fileNotFound
  | .unknownGrammar _ => .unknownGrammar
  | .nothingApplied => .nothingApplied
  | .scriptSyntax _ | .noRules _ | .noRule _ | .noNodes _ => .parse
  | .missingValue .. | .missingStylesheetSelector | .missingMarkupSelector | .missingIdentifier
  | .missingProperty | .badPattern .. | .emptyClass | .emptyId | .emptySelector | .noStatement _
  | .notAnImport _ => .invalid

/-- The words of a reader behind what is said already, if they are at hand. -/
def behind (words : Option String) : String :=
  match words with
  | some words => ": " ++ words
  | none => ""

/-- What the error says about its cause, without the words of its family. -/
def detail (diagnostics : Option Diagnostics) : EditError → String
  | .fileNotFound path => path
  | .unknownGrammar path => path
  | .nothingApplied => ""
  | .scriptSyntax input =>
    "script" ++ behind (diagnostics.map fun d => "; ".intercalate (d.script input))
  | .noRules value => "stylesheet: inserted value contains no rules: '" ++ value ++ "'"
  | .noRule value => "stylesheet: replacement value contains no rule: '" ++ value ++ "'"
  | .noNodes value => "markup: inserted markup contains no nodes: '" ++ value ++ "'"
  | .missingValue operation path =>
    "'" ++ operation.name ++ "' on " ++ path ++ " requires a value"
  | .missingStylesheetSelector => "Stylesheet modifications require a selector"
  | .missingMarkupSelector => "Markup modifications require a selector"
  | .missingIdentifier => "Script modifications require an identifier"
  | .missingProperty => "Stylesheet update requires a property"
  | .badPattern descriptor source =>
    "Bad selector pattern '" ++ descriptor ++ "'" ++ behind (diagnostics.map (·.regex source))
  | .emptyClass => "Empty class selector"
  | .emptyId => "Empty id selector"
  | .emptySelector => "Empty selector"
  | .noStatement value => "Replacement contains no statements: '" ++ value ++ "'"
  | .notAnImport value => "Expected an import declaration, got '" ++ value ++ "'"

/-- The message of an error. Without diagnostics it ends where their words would stand. -/
def message (e : EditError) (diagnostics : Option Diagnostics := none) : String :=
  match e.kind with
  | .fileNotFound => "File not found: " ++ e.detail diagnostics
  | .unknownGrammar => "Could not determine file type for: " ++ e.detail diagnostics
  | .nothingApplied => "No modifications were applied"
  | .parse => "Failed to parse " ++ e.detail diagnostics
  | .invalid => "Invalid modification: " ++ e.detail diagnostics

end EditError

/-- The value of a modification, which its operation needs. -/
def Modification.requiredValue (m : Modification) : Except EditError String :=
  match m.valueText? with
  | some text => .ok text
  | none => .error (.missingValue m.operation m.path)

/-- What an edit leaves behind: the tree, and the number of edits made or the error that stopped it.
An edit that fails may have worked on the tree before. -/
structure Edited (σ : Type) where
  tree : σ
  result : Except EditError Nat

namespace Edited

variable {σ α : Type}

/-- The end of an edit, with the number of edits made. -/
def done (tree : σ) (count : Nat) : Edited σ := ⟨tree, .ok count⟩

/-- An edit that is stopped. -/
def failed (tree : σ) (e : EditError) : Edited σ := ⟨tree, .error e⟩

/-- Goes on with what an edit needs, or stops if that is not there. -/
def needing (tree : σ) (needed : Except EditError α) (next : α → Edited σ) : Edited σ :=
  match needed with
  | .ok a => next a
  | .error e => failed tree e

end Edited

end SourceEdit
