import SourceEdit.Editor
import SourceEdit.FilePath

/-!
# Batches

A batch holds the texts of some files and modifications for them.  The modifications are grouped by
path, in the order in which the paths first occur, and each group is run on its own: a file that
fails keeps its text and adds one message, whatever happens to the others.
-/

namespace SourceEdit

/-! ### Groups -/

/-- The modifications of one path, in order. -/
abbrev PathGroup := String × List Modification

/-- Groups that are being formed, and the place of the group of each path. -/
structure Grouping where
  groups : List PathGroup := []
  index : List (String × Nat) := []

/-- Puts a modification at the end of the group of its path, which is a new last one if there is
none yet. -/
def Grouping.add (g : Grouping) (m : Modification) : Grouping :=
  match g.index.lookup m.path with
  | some i => { g with groups := g.groups.modify i fun (path, ms) => (path, ms ++ [m]) }
  | none =>
    { groups := g.groups ++ [(m.path, [m])]
      index := (m.path, g.groups.length) :: g.index }

/-- The groups of a list of modifications. -/
def groupByPath (ms : List Modification) : List PathGroup := (ms.foldl Grouping.add {}).groups

/-! ### Results -/

namespace BatchResult

/-- The result before anything was edited. -/
def ofFiles (files : List (String × String)) : BatchResult :=
  { success := true, updatedFiles := files, errors := [] }

/-- Notes the failure of one file. -/
def fail (result : BatchResult) (message : String) : BatchResult :=
  { result with success := false, errors := result.errors ++ [message] }

/-- Sets the text of a path. -/
def setFile (result : BatchResult) (path text : String) : BatchResult :=
  { result with
    updatedFiles := result.updatedFiles.map fun (p, t) => if p == path then (p, text) else (p, t) }

end BatchResult

/-! ### Running -/

/-- The grammar of a group: that of its first modification, or else that of the path. -/
def groupGrammar? (path : String) (group : List Modification) : Option Grammar :=
  (group.head?.bind (·.grammar)).or (Grammar.ofPath? path)

/-- Runs a group on the text of its path: the new text, or the message of the failure. -/
def editFile (options : Options) (diagnostics : Option Diagnostics) (files : List (String × String))
    (path : String) (group : List Modification) : Except String String :=
  match files.lookup path with
  | none => .error (EditError.fileNotFound path).message
  | some source =>
    match groupGrammar? path group with
    | none => .error (EditError.unknownGrammar path).message
    | some grammar =>
      let result := (options.editor grammar).apply path source group diagnostics
      match result.success, result.modifiedContent with
      | true, some content => .ok content
      | _, _ =>
        let error := result.error.getD EditError.nothingApplied.message
        .error ("Failed to modify " ++ path ++ ": " ++ error)

/-- Runs a group and notes how it ended. -/
def runGroup (options : Options) (diagnostics : Option Diagnostics) (files : List (String × String))
    (result : BatchResult) (group : PathGroup) : BatchResult :=
  match editFile options diagnostics files group.1 group.2 with
  | .ok text => result.setFile group.1 text
  | .error message => result.fail message

/-- Edits all files of a batch. -/
def applyBatch (options : Options) (files : List (String × String)) (ms : List Modification)
    (diagnostics : Option Diagnostics := none) : BatchResult :=
  (groupByPath ms).foldl (runGroup options diagnostics files) (.ofFiles files)

end SourceEdit
