import SourceEdit.Markup.Builder.Rules
import SourceEdit.Markup.Lexer
import SourceEdit.Modification

/-!
# Reading markup

A text is read as a whole document if it looks like one, and as the content of a body if not, so
that no elements appear around it.
-/

namespace SourceEdit

namespace Markup

namespace Builder

/-- Reads a text, up to `n` steps. -/
def readText : Nat → List Char → Construction Unit
  | 0, _ => pure ()
  | _ + 1, [] => take .endOfText
  | n + 1, cs => do
    let b ← get
    let (tokens, rest) := Lexer.next (isInForeign b) b.reading cs
    tokens.forM take
    readText n rest

/-- Reads a text to its end. -/
def read (text : String) (b : Builder) : Markup :=
  let cs := Lexer.prepare text.toList
  ((readText (cs.length + 1) cs).run b).2.tree

/-- The state before a document. -/
def ofDocument : Builder :=
  { tree := .withRoot .document, mode := .start, isFragment := false }

/-- The state before the content of a body. -/
def ofFragment : Builder :=
  let b : Builder := { tree := .withRoot .document, mode := .inBody, isFragment := true }
  ((insertRoot []).run b).2

end Builder

/-! ### What a text is -/

/-- The elements that a document consists of. -/
def documentElements : List (List Char) :=
  ["html".toList, "head".toList, "body".toList]

/-- Whether the text after an opening angle bracket starts a document. -/
def startsDocument (cs : List Char) : Bool :=
  let starts (word : List Char) : Bool := asciiLower (cs.take word.length) == word
  starts "!doctype".toList || documentElements.any fun name =>
    starts name && ((cs.drop name.length).head?.map fun c => isBlank c || c == '>').getD false

/-- Whether a text holds a document type or a tag of the elements that a document consists of. -/
def isDocument : List Char → Bool
  | [] => false
  | c :: cs => (c == '<' && startsDocument cs) || isDocument cs

/-! ### Reading -/

/-- The nodes of a whole document. -/
def documentNodes (text : String) : List Dom :=
  let tree := Builder.ofDocument.read text
  Dom.ofTrees (tree.view tree.root).children

/-- The nodes of the content of a body. -/
def fragmentNodes (text : String) : List Dom :=
  let tree := Builder.ofFragment.read text
  match (tree.view tree.root).children with
  | root :: _ => Dom.ofTrees root.children
  | [] => []

/-- The trees of a whole document. -/
def documentOf (text : String) : List (Tree Node) := Dom.trees (documentNodes text)

/-- The trees of the content of a body. -/
def fragmentOf (text : String) : List (Tree Node) := Dom.trees (fragmentNodes text)

/-- The trees of a document stand under the root of what has been built. -/
theorem documentOf_eq (text : String) :
    documentOf text =
      ((Builder.ofDocument.read text).view (Builder.ofDocument.read text).root).children :=
  Dom.trees_ofTrees _

/-- The trees of a body's content stand in the outermost element of what has been built. -/
theorem fragmentOf_eq (text : String) :
    fragmentOf text =
      match ((Builder.ofFragment.read text).view (Builder.ofFragment.read text).root).children with
      | root :: _ => root.children
      | [] => [] := by
  unfold fragmentOf fragmentNodes
  dsimp only
  split
  · exact Dom.trees_ofTrees _
  · rfl

end Markup

/-- Reads markup. -/
def Markup.ofText (options : MarkupOptions) (text : String) : Markup :=
  let isWhole := options.preserveDocument && Markup.isDocument text.toList
  .ofForest .document (if isWhole then Markup.documentOf text else Markup.fragmentOf text)

end SourceEdit
