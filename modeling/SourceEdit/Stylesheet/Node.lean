import SourceEdit.Stylesheet.Lexeme
import SourceEdit.Text.Characters
import SourceEdit.Tree

/-!
# Stylesheet trees

A stylesheet is a tree of rules, at-rules, declarations and comments.  Reading never fails: an item
runs up to a semicolon, up to the block that it opens, or to the end of the block around it.  Stray
separators between items are skipped, and so is an item without a block that is neither an at-rule
nor a declaration.
-/

namespace SourceEdit.Stylesheet

/-- What a node of a stylesheet is. -/
inductive Node where
  | root
  | rule (selector : String)
  | atRule (name params : String) (block : Bool)
  | declaration (property value : String)
  | comment (text : String)
deriving DecidableEq, Repr, Inhabited

/-- A rule or an at-rule. -/
def Node.isRule : Node → Bool
  | .rule _ | .atRule .. => true
  | _ => false

/-- A declaration. -/
def Node.isDeclaration : Node → Bool
  | .declaration .. => true
  | _ => false

/-- A comment. -/
def Node.isComment : Node → Bool
  | .comment _ => true
  | _ => false

/-- A node that is written with a block. -/
def Node.hasBlock : Node → Bool
  | .rule _ => true
  | .atRule _ _ block => block
  | _ => false

/-! ### The text of one item -/

/-- The characters that end the name of an at-rule. -/
def endsAtName (c : Char) : Bool := isBlank c || c == '(' || c == '"' || c == '\''

/-- The name and the parameters of an at-rule. -/
def splitAtRule (text : List Char) : String × String :=
  let body := text.dropWhile (· == '@')
  (String.ofList (body.takeWhile fun c => !endsAtName c),
    String.ofList (trim (body.dropWhile fun c => !endsAtName c)))

/-- The node of an item with a block, from the text before the block. -/
def Node.ofPrelude (prelude : List Char) : Node :=
  match prelude with
  | '@' :: _ =>
    let (name, params) := splitAtRule prelude
    .atRule name params true
  | _ => .rule (String.ofList prelude)

/-- The node of an item without a block. -/
def Node.ofLeaf? (text : List Char) : Option Node :=
  match text with
  | [] => none
  | '@' :: _ =>
    let (name, params) := splitAtRule text
    some (.atRule name params false)
  | _ =>
    let property := trim (text.takeWhile (· != ':'))
    match text.dropWhile (· != ':') with
    | [] => none
    | _ :: value =>
      if property.isEmpty then none
      else some (.declaration (String.ofList property) (String.ofList (trim value)))

/-! ### Items -/

/-- How the scan of an item ended. -/
inductive Ending where
  | semicolon
  | block
  | exhausted
deriving DecidableEq, Repr

/-- The brackets that are still open after a lexeme. -/
def bracketsAfter (open_ : List Bracket) (kind : Lexeme.Kind) : List Bracket :=
  match kind, open_ with
  | .closing b, b' :: rest => if b = b' then rest else open_
  | .opening b, _ => b :: open_
  | _, _ => open_

/-- The text of an item, how it ended and what follows it.  `open_` lists the brackets that are open
inside the item; a closing brace outside of them ends the item when it stands in a block. -/
def scanItem (nested : Bool) (open_ : List Bracket) :
    List Lexeme → List Char × Ending × List Lexeme
  | [] => ([], .exhausted, [])
  | l :: ls =>
    if !open_.isEmpty then
      let (text, ending, rest) := scanItem nested (bracketsAfter open_ l.kind) ls
      (l.text ++ text, ending, rest)
    else if nested && l.kind = .closing .curly then ([], .exhausted, l :: ls)
    else if l.kind = .semicolon then (l.text, .semicolon, ls)
    else if l.kind = .opening .curly then (l.text, .block, ls)
    else
      let (text, ending, rest) := scanItem nested (bracketsAfter open_ l.kind) ls
      (l.text ++ text, ending, rest)

/-- The text before a block, from the text of the item up to its opening brace. -/
def preludeOf (raw : List Char) : List Char :=
  trim (trimEndBy (· == '\x7b') (trimEnd raw))

/-- The text of an item without a block, without its semicolon. -/
def leafOf (raw : List Char) : List Char := trim (trimEndBy (· == ';') (trim raw))

/-- The items of one block, and the lexemes from its closing brace on. -/
def items : Nat → Bool → List Lexeme → List (Tree Node) × List Lexeme
  | 0, _, ls => ([], ls)
  | _ + 1, _, [] => ([], [])
  | fuel + 1, nested, l :: ls =>
    if nested && l.kind = .closing .curly then ([], l :: ls)
    else match l.kind with
    | .blank | .semicolon | .closing .curly => items fuel nested ls
    | .comment =>
      let text := String.ofList (trim (Lexeme.commentBody l.text))
      let (nodes, rest) := items fuel nested ls
      (.leaf (.comment text) :: nodes, rest)
    | _ =>
      let (raw, ending, rest) := scanItem nested [] (l :: ls)
      if ending = .block then
        let (children, rest) := items fuel true rest
        let (nodes, rest) := items fuel nested (rest.drop 1)
        (.node (.ofPrelude (preludeOf raw)) children :: nodes, rest)
      else
        let (nodes, rest) := items fuel nested rest
        match Node.ofLeaf? (leafOf raw) with
        | some node => (.leaf node :: nodes, rest)
        | none => (nodes, rest)

/-- The top-level items of a text. -/
def itemsOfText (text : String) : List (Tree Node) :=
  let lexemes := Lexeme.ofText text.toList
  (items (lexemes.length + 1) false lexemes).1

end SourceEdit.Stylesheet

namespace SourceEdit

/-- A stylesheet under editing. -/
abbrev Stylesheet := Arena Stylesheet.Node

/-- The stylesheet that a text spells. -/
def Stylesheet.ofText (text : String) : Stylesheet :=
  Arena.ofForest .root (Stylesheet.itemsOfText text)

end SourceEdit
