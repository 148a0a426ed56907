import SourceEdit.Markup.Builder.Scope

/-!
# Formatting elements

Formatting elements such as `b` may be closed in another order than they were opened in, and go on
behind the end of a block that ends inside them.  The list of formatting elements says which of
them are to be opened again; `closeFormatting` closes one of them and splits the elements in
between.
-/

namespace SourceEdit.Markup.Builder

/-! ### The list -/

/-- Changes the list of formatting elements. -/
def editFormatting (f : List Formatting → List Formatting) : Construction Unit :=
  modify fun b => { b with formatting := f b.formatting }

/-- Marks the list, so that what is before is not opened again. -/
def markFormatting : Construction Unit := editFormatting (.mark :: ·)

/-- Drops the items up to and including the last mark. -/
def dropToMark : Construction Unit :=
  editFormatting fun items => (items.dropWhile (· != .mark)).drop 1

/-- Whether an item stands for a node. -/
def standsFor (id : NodeId) : Formatting → Bool
  | .element other _ => other == id
  | .mark => false

/-- Takes a node out of the list. -/
def removeFormatting (id : NodeId) : Construction Unit :=
  editFormatting fun items => items.eraseP (standsFor id)

/-- The elements after the last mark, the last one first. -/
def sinceMark (items : List Formatting) : List (NodeId × Tag) :=
  (items.takeWhile (· != .mark)).filterMap fun item =>
    match item with
    | .element id tag => some (id, tag)
    | .mark => none

/-- Whether tags have the same name and the same attributes in any order. -/
def isSameTag (s t : Tag) : Bool :=
  s.isEnd == t.isEnd && s.name == t.name && s.attributes.length == t.attributes.length
    && s.attributes.all t.attributes.contains

/-- Opens a formatting element. Of three equal ones, the first is not opened again. -/
def insertFormatting (t : Tag) : Construction Unit := do
  let equal := (sinceMark (← get).formatting).filter fun (_, tag) => isSameTag t tag
  match equal.getLast? with
  | some (id, _) => if equal.length ≥ 3 then removeFormatting id
  | none => pure ()
  let id ← insert t
  editFormatting (.element id t :: ·)

/-! ### Opening again -/

/-- Whether an item needs not be opened again. -/
def isSettled (stack : List OpenElement) : Formatting → Bool
  | .mark => true
  | .element id _ => stack.any (·.id == id)

/-- Opens items again, the first one first. -/
def reopenAll : List Formatting → Construction (List Formatting)
  | [] => return []
  | .mark :: rest => return .mark :: (← reopenAll rest)
  | .element _ tag :: rest => do
    let id ← insert tag
    return .element id tag :: (← reopenAll rest)

/-- Opens the formatting elements again that have been closed with what is around them. -/
def reopenFormatting : Construction Unit := do
  let b ← get
  let closed := b.formatting.takeWhile fun item => !isSettled b.stack item
  let opened ← reopenAll closed.reverse
  editFormatting fun items => opened.reverse ++ items.drop closed.length

/-! ### Closing in another order -/

/-- The state of splitting the elements between a formatting element and a block inside it. -/
structure Split where
  /-- The node that goes into the next copy. -/
  last : NodeId
  /-- The copy of the innermost element, after which the formatting element goes in the list. -/
  bookmark : Option NodeId := none
  /-- The copies, the innermost first. -/
  copies : List OpenElement := []

/-- Splits the elements between a block and a formatting element, from the inside. Only three of
them are kept. -/
def splitBetween : Nat → Split → List OpenElement → Construction Split
  | _, s, [] => return s
  | count, s, e :: rest => do
    let items := (← get).formatting
    match items.find? (standsFor e.id) with
    | some (.element _ tag) =>
      if count ≥ 3 then
        removeFormatting e.id
        splitBetween (count + 1) s rest
      else
        let name : ElementName := { localName := tag.name }
        let id ← alloc (.element name (plainAttributes tag.attributes))
        editFormatting fun items => items.map fun item =>
          if standsFor e.id item then .element id tag else item
        editTree fun tree => (tree.detach s.last).appendChild id s.last
        splitBetween (count + 1)
          { last := id, bookmark := some (s.bookmark.getD id), copies := s.copies ++ [⟨id, name⟩] }
          rest
    | _ => splitBetween (count + 1) s rest

/-- Puts a new item for a formatting element where its old one is, or after the item of a node. -/
def moveItem (old : NodeId) (bookmark : Option NodeId) (new : Formatting) :
    List Formatting → List Formatting :=
  fun items =>
    match bookmark with
    | none => items.map fun item => if standsFor old item then new else item
    | some id =>
      let items := items.flatMap fun item => if standsFor id item then [new, item] else [item]
      items.eraseP (standsFor old)

/-- Closes the formatting element at a place of the stack that has a block inside it: the block is
taken out of it, and its content goes into a new formatting element. `inside` are the open elements
in it, the innermost first, and `parent` is the open element around it. -/
def splitAround (id : NodeId) (tag : Tag) (inside : List OpenElement)
    (parent : OpenElement) : Construction Unit := do
  let between := (inside.reverse.takeWhile fun e => !isSpecial e.name).reverse
  let upToBlock := inside.take (inside.length - between.length)
  match upToBlock.getLast? with
  | none => pure ()
  | some block =>
    let s ← splitBetween 0 { last := block.id } between
    editTree (·.detach s.last)
    putAt (← placeIn parent) s.last
    let name : ElementName := { localName := tag.name }
    let new ← alloc (.element name (plainAttributes tag.attributes))
    editTree fun tree =>
      let tree := (tree.children block.id).foldl (fun tree c => tree.appendChild new c) tree
      tree.appendChild block.id new
    editFormatting (moveItem id s.bookmark (.element new tag))
    modify fun b =>
      let outside := (b.stack.dropWhile (·.id != id)).drop 1
      { b with stack := upToBlock.dropLast ++ ⟨new, name⟩ :: block :: s.copies ++ outside }

/-- Closes the element of an end tag, unless a special element is met first. -/
def closeAnyOther (name : String) : Construction Unit := do
  let stack := (← get).stack
  match stack.find? fun e => isNamed name e.name || isSpecial e.name with
  | some e =>
    if isNamed name e.name then
      implyEndsExcept name
      modify fun b => { b with stack := (b.stack.dropWhile (·.id != e.id)).drop 1 }
  | none => pure ()

/-- One round of closing a formatting element; whether there may be another. -/
def closeRound (name : String) : Construction Bool := do
  let b ← get
  match (sinceMark b.formatting).find? fun (_, tag) => tag.name == name with
  | none =>
    closeAnyOther name
    return false
  | some (id, tag) =>
    let inside := b.stack.takeWhile (·.id != id)
    match b.stack.drop inside.length with
    | [] =>
      removeFormatting id
      return false
    | _ :: outside =>
      if inside.any fun e => hidesOutside e.name then return false
      else if inside.any fun e => isSpecial e.name then
        match outside with
        | parent :: _ =>
          splitAround id tag inside parent
          return true
        | [] => return false
      else
        set { b with stack := outside }
        removeFormatting id
        return false

/-- Repeats a step up to `n` times, as long as it asks for it. -/
def repeatUpTo (step : Construction Bool) : Nat → Construction Unit
  | 0 => pure ()
  | n + 1 => do if ← step then repeatUpTo step n

/-- Closes the formatting element of an end tag. -/
def closeFormatting (name : String) : Construction Unit := do
  let b ← get
  match b.stack with
  | e :: rest =>
    if isNamed name e.name && !b.formatting.any (standsFor e.id) then set { b with stack := rest }
    else repeatUpTo (closeRound name) 8
  | [] => pure ()

/-- Closes the link that is open, since links do not nest. -/
def closeLink : Construction Unit := do
  let b ← get
  match (sinceMark b.formatting).find? fun (_, tag) => tag.name == "a" with
  | some (id, _) =>
    closeFormatting "a"
    removeFormatting id
    removeFromStack id
  | none => pure ()

end SourceEdit.Markup.Builder
