import SourceEdit.EditError
import SourceEdit.Markup.Edit
import SourceEdit.Markup.Printer
import SourceEdit.Script.Edit
import SourceEdit.Script.Printer.Program
import SourceEdit.Stylesheet.Edit

/-!
# Editing one file

An `Editor` reads a text of its grammar into a tree, edits the tree and writes it back.  `apply`
runs all modifications of one file, in order: the first failing step fails the whole file, and so
does a run in which nothing was edited.
-/

namespace SourceEdit

/-- How one grammar is read, edited and written. -/
structure Editor where
  /-- What is edited. -/
  Tree : Type
  /-- Reads a text; the path may decide on a dialect. -/
  parse : String → String → Except EditError Tree
  /-- Carries out a modification and counts the edits made. -/
  edit : Tree → Modification → Edited Tree
  /-- Writes the text of a tree. -/
  write : Tree → String

namespace Editor

/-- Carries out modifications in order and adds up the edits made. -/
def editAll (e : Editor) : e.Tree → Nat → List Modification → Except EditError (e.Tree × Nat)
  | tree, count, [] => .ok (tree, count)
  | tree, count, m :: ms =>
    match e.edit tree m with
    | ⟨tree, .ok n⟩ => e.editAll tree (count + n) ms
    | ⟨_, .error err⟩ => .error err

/-- Reads a text, carries out modifications and writes the result, with the number of edits. -/
def modify (e : Editor) (path source : String) (ms : List Modification) :
    Except EditError (String × Nat) := do
  let tree ← e.parse path source
  let (tree, count) ← e.editAll tree 0 ms
  if count = 0 then .error .nothingApplied else .ok (e.write tree, count)

/-- The outcome of a file's modifications. -/
def apply (e : Editor) (path source : String) (ms : List Modification)
    (diagnostics : Option Diagnostics := none) : FileResult :=
  match e.modify path source ms with
  | .ok (content, count) =>
    { success := true, modifiedContent := some content, modificationsApplied := count }
  | .error err =>
    { success := false, modificationsApplied := 0, error := some (err.message diagnostics) }

end Editor

/-- The editor of stylesheets. -/
def StylesheetOptions.editor (options : StylesheetOptions) : Editor where
  Tree := Stylesheet
  parse _ source := .ok (Stylesheet.ofText source)
  edit := Stylesheet.edit
  write := Stylesheet.write options

/-- The editor of markup. -/
def MarkupOptions.editor (options : MarkupOptions) : Editor where
  Tree := Markup
  parse _ source := .ok (Markup.ofText options source)
  edit := Markup.edit
  write := Markup.write

/-- The editor of scripts. -/
def ScriptOptions.editor (options : ScriptOptions) : Editor where
  Tree := Script.Program
  parse path source :=
    let dialect := Script.Dialect.ofPath path
    match Script.Program.parse? dialect source.toList with
    | some p => .ok p
    | none => .error (.scriptSyntax { dialect, text := source })
  edit := Script.Program.edit
  write p := String.ofList (p.text (if options.singleQuote then '\'' else '"'))

/-- The editor of a grammar. -/
def Options.editor (options : Options) : Grammar → Editor
  | .stylesheet => options.stylesheet.editor
  | .markup => options.markup.editor
  | .script => options.script.editor

end SourceEdit
