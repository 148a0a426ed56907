import SourceEdit.Markup.Node
import SourceEdit.Markup.Token

/-!
# Building trees of markup

A `Builder` holds the tree that is being built and all that decides where the next token goes: the
rules in force, the stack of open elements, the list of formatting elements that are to be opened
again, and some flags.  A rule is a `Construction`; it says whether the token is done with or is to
be handled again under the rules now in force.

This module has the state, the stack, and the places where nodes go.
-/

namespace SourceEdit.Markup

/-- The sets of rules, named for the part of a document that they are made for. -/
inductive Mode where
  | start
  | beforeHtml
  | beforeHead
  | inHead
  | afterHead
  | inBody
  | inText
  | inTable
  | inTableText
  | inCaption
  | inColumnGroup
  | inTableBody
  | inRow
  | inCell
  | inSelect
  | inSelectInTable
  | inTemplate
  | afterBody
  | inFrameset
  | afterFrameset
  | afterAfterBody
  | afterAfterFrameset
deriving DecidableEq, Repr, Inhabited

/-- An open element. -/
structure OpenElement where
  id : NodeId
  name : ElementName
deriving DecidableEq, Repr, Inhabited

/-- An item of the list of formatting elements. -/
inductive Formatting where
  /-- Elements before the mark are not opened again. -/
  | mark
  | element (id : NodeId) (tag : Tag)
deriving DecidableEq, Repr, Inhabited

/-- The state of building. -/
structure Builder where
  tree : Markup
  mode : Mode
  /-- The rules that are in force again after a text. -/
  modeAfterText : Mode := .inBody
  /-- The rules for the content of open templates, the innermost first. -/
  templateModes : List Mode := []
  /-- The open elements, the innermost first. -/
  stack : List OpenElement := []
  /-- The formatting elements, the last one first. -/
  formatting : List Formatting := []
  head : Option NodeId := none
  form : Option NodeId := none
  /-- Whether a frameset may still take the place of the body. -/
  allowsFrameset : Bool := true
  /-- Whether a line feed at the head of the next token is left out. -/
  skipsLineFeed : Bool := false
  /-- Whether what does not belong into a table is put before it. -/
  movesOutOfTable : Bool := false
  /-- Whether a table does not end a paragraph. -/
  isLenient : Bool := false
  /-- Whether the text is the content of a body and not a document. -/
  isFragment : Bool
  /-- Text in a table, in reverse. -/
  tableText : List (List Char) := []
  reading : Reading := .markup

/-- A step of building. -/
abbrev Construction := StateM Builder

/-- What becomes of a token. -/
inductive Next where
  | done
  /-- It is handled again. -/
  | again (t : Token)

namespace Builder

/-- The token is done with. -/
def done : Construction Next := pure .done

/-- The token is handled again under other rules. -/
def againIn (mode : Mode) (t : Token) : Construction Next := do
  modify fun b => { b with mode }
  return .again t

/-- Changes the rules. -/
def enter (mode : Mode) : Construction Unit := modify fun b => { b with mode }

/-- A frameset may no longer take the place of the body. -/
def forbidFrameset : Construction Unit := modify fun b => { b with allowsFrameset := false }

/-- A blank character of markup. -/
def isBlankChar (c : Char) : Bool :=
  c == ' ' || c == '\t' || c == '\n' || c == '\x0C' || c == '\r'

/-- Whether a text has blanks only. -/
def isBlankText (cs : List Char) : Bool := cs.all isBlankChar

/-! ### The stack -/

/-- Whether an element of ordinary markup has one of the names. -/
def isOneOf (names : List String) (e : ElementName) : Bool :=
  e.space == .html && names.contains e.localName

/-- Whether an element of ordinary markup has the name. -/
def isNamed (name : String) (e : ElementName) : Bool := e.space == .html && e.localName == name

/-- Opens an element. -/
def push (e : OpenElement) : Construction Unit := modify fun b => { b with stack := e :: b.stack }

/-- Closes the current element. -/
def pop : Construction Unit := modify fun b => { b with stack := b.stack.drop 1 }

/-- The innermost open element. -/
def current? : Construction (Option OpenElement) := return (← get).stack.head?

/-- Whether the name of the current element satisfies `p`. -/
def currentIs (p : ElementName → Bool) : Construction Bool :=
  return match (← get).stack with
    | e :: _ => p e.name
    | [] => false

/-- Whether an open element has the name. -/
def isOpen (name : String) : Construction Bool := return (← get).stack.any (isNamed name ·.name)

/-- Closes elements until one whose name satisfies `p` is closed. -/
def popThrough (p : ElementName → Bool) : Construction Unit :=
  modify fun b => { b with stack := (b.stack.dropWhile fun e => !p e.name).drop 1 }

/-- Closes elements until the name of the current one satisfies `p`. -/
def popTo (p : ElementName → Bool) : Construction Unit :=
  modify fun b => { b with stack := b.stack.dropWhile fun e => !p e.name }

/-- Closes elements as long as their names satisfy `p`. -/
def popWhile (p : ElementName → Bool) : Construction Unit := popTo fun e => !p e

/-- Takes one element out of the stack. -/
def removeFromStack (id : NodeId) : Construction Unit :=
  modify fun b => { b with stack := b.stack.eraseP (·.id == id) }

/-- The outermost open element. -/
def outermost? : Construction (Option OpenElement) := return (← get).stack.getLast?

/-- The body, if it is the second open element. -/
def body? : Construction (Option OpenElement) := do
  match (← get).stack.reverse with
  | _ :: e :: _ => return if isNamed "body" e.name then some e else none
  | _ => return none

/-! ### Places -/

/-- A place for a new node. -/
inductive Place where
  | last (parent : NodeId)
  | before (sibling : NodeId)

/-- The elements that only hold parts of a table. -/
def tableParts : List String := ["table", "tbody", "tfoot", "thead", "tr"]

/-- The place before the innermost table, or in the innermost template if that is further in. -/
def outOfTable (tree : Markup) : List OpenElement → Place
  | [] => .last tree.root
  | [e] => .last e.id
  | e :: below :: rest =>
    if isNamed "template" e.name then .last e.id
    else if isNamed "table" e.name then
      if (tree.parent? e.id).isSome then .before e.id else .last below.id
    else outOfTable tree (below :: rest)

/-- The place for a node whose parent should be `target`. -/
def placeIn (target : OpenElement) : Construction Place := do
  let b ← get
  if b.movesOutOfTable && isOneOf tableParts target.name then return outOfTable b.tree b.stack
  else return .last target.id

/-- The place for a node in the current element. -/
def place : Construction Place := do
  match ← current? with
  | some e => placeIn e
  | none => return .last (← get).tree.root

/-- Changes the tree. -/
def editTree (f : Markup → Markup) : Construction Unit :=
  modify fun b => { b with tree := f b.tree }

/-- Makes a new node. -/
def alloc (n : Node) : Construction NodeId := do
  let b ← get
  let (tree, id) := b.tree.alloc n
  set { b with tree }
  return id

/-- Puts a node into a place. -/
def putAt (p : Place) (id : NodeId) : Construction Unit := editTree fun tree =>
  match p with
  | .last parent => tree.appendChild parent id
  | .before sibling =>
    match tree.parent? sibling, tree.indexInParent? sibling with
    | some parent, some i => tree.insertChild parent i id
    | _, _ => tree

/-- The node before a place. -/
def nodeBefore? (tree : Markup) : Place → Option NodeId
  | .last parent => (tree.children parent).getLast?
  | .before sibling => do
    let parent ← tree.parent? sibling
    let i ← tree.indexInParent? sibling
    if i = 0 then none else (tree.children parent)[i - 1]?

/-- Adds a text to a text node. -/
def Node.withMore (text : String) : Node → Node
  | .text s => .text (s ++ text)
  | n => n

/-- Puts text into a place; it joins the text before it. -/
def putText (p : Place) (text : String) : Construction Unit := do
  let tree := (← get).tree
  let before := do
    let id ← nodeBefore? tree p
    let _ ← (← tree.get? id).text?
    return id
  match before with
  | some id => editTree fun tree => tree.modifyValue id (Node.withMore text)
  | none => putAt p (← alloc (.text text))

/-! ### New nodes -/

/-- Puts text into the current element. -/
def appendText (cs : List Char) : Construction Unit := do putText (← place) (String.ofList cs)

/-- Puts a comment into the current element. -/
def appendComment (cs : List Char) : Construction Unit := do
  let p ← place
  putAt p (← alloc (.comment (String.ofList cs)))

/-- Puts a comment at the end of a node. -/
def appendCommentTo (parent : NodeId) (cs : List Char) : Construction Unit := do
  putAt (.last parent) (← alloc (.comment (String.ofList cs)))

/-- The attributes of a tag. -/
def plainAttributes (attributes : List (String × String)) : List Attribute :=
  attributes.map fun (localName, value) => { localName, value }

/-- Puts a new element into the current one. -/
def insertNode (name : ElementName) (attributes : List Attribute) : Construction NodeId := do
  let p ← place
  let id ← alloc (.element name attributes)
  putAt p id
  return id

/-- Puts a new element into the current one and opens it. -/
def insertOpen (name : ElementName) (attributes : List Attribute) : Construction NodeId := do
  let id ← insertNode name attributes
  push ⟨id, name⟩
  return id

/-- Puts the element of a tag into the current one and opens it. -/
def insert (t : Tag) : Construction NodeId :=
  insertOpen { localName := t.name } (plainAttributes t.attributes)

/-- Puts the element of a tag, which has no content, into the current one. -/
def insertEmpty (t : Tag) : Construction Unit := do
  let _ ← insertNode { localName := t.name } (plainAttributes t.attributes)

/-- Opens an element that no tag stands for. -/
def insertImplied (name : String) : Construction NodeId := insertOpen { localName := name } []

/-- Puts the outermost element into the document and opens it. -/
def insertRoot (attributes : List (String × String)) : Construction Unit := do
  let name : ElementName := { localName := "html" }
  let id ← alloc (.element name (plainAttributes attributes))
  putAt (.last (← get).tree.root) id
  push ⟨id, name⟩

/-- Adds attributes that are missing. -/
def Node.withMissing (attributes : List Attribute) : Node → Node
  | .element name old =>
    .element name (old ++ attributes.filter fun a =>
      !old.any fun o => o.space == a.space && o.localName == a.localName)
  | n => n

/-- Adds the attributes of a tag that are missing to an element. -/
def addMissing (id : NodeId) (t : Tag) : Construction Unit :=
  editTree fun tree => tree.modifyValue id (Node.withMissing (plainAttributes t.attributes))

/-- Opens the element of a tag whose content is read as text. -/
def insertText (t : Tag) (reading : Reading) : Construction Next := do
  let _ ← insert t
  modify fun b => { b with reading, modeAfterText := b.mode, mode := .inText }
  done

end Builder

end SourceEdit.Markup
