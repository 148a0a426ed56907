import SourceEdit.Markup.Reader
import SourceEdit.Selector.Simple

/-!
# Editing markup

A selector addresses every element in the tree that it matches, at any depth, in document order.
`Markup.edit` carries out one modification and says how many edits it made:

* an update sets an attribute of the addressed elements, or their text;
* a deletion removes an attribute of the addressed elements, or the elements themselves;
* an insertion adds copies of a fragment before, after or inside each addressed element;
* a replacement puts copies of a fragment in place of each addressed element.
-/

namespace SourceEdit.Markup

/-! ### Locating -/

/-- Whether an attribute has a name, the case of letters ignored. Its prefix does not matter. -/
def Attribute.isNamed (name : String) (a : Attribute) : Bool :=
  eqIgnoringCase a.localName.toList name.toList

/-- The value of the first attribute of a name. -/
def attributeValue? (attributes : List Attribute) (name : String) : Option String :=
  (attributes.find? (·.isNamed name)).map (·.value)

/-- Whether a node is an element that the selector matches. -/
def Node.isMatch (s : SimpleSelector) : Node → Bool
  | .element name attributes => s.isMatch name.localName (attributeValue? attributes)
  | _ => false

/-- The elements that match a selector, in document order. -/
def elementsMatching (tree : Markup) (s : SimpleSelector) : List NodeId :=
  (tree.descendants tree.root).filter fun id =>
    match tree.get? id with
    | some n => n.isMatch s
    | none => false

/-- The elements that a target addresses. -/
def locate (tree : Markup) (target : Target) : Except EditError (List NodeId) :=
  match target.selector with
  | none => .error .missingMarkupSelector
  | some selector => return elementsMatching tree (← SimpleSelector.ofText selector)

/-! ### Attributes -/

/-- Sets an attribute in a list: the first one of the name, or a new last one. -/
def setAttribute (name value : String) : List Attribute → List Attribute
  | [] => [{ localName := name, value }]
  | a :: rest =>
    if a.isNamed name then { a with value } :: rest else a :: setAttribute name value rest

/-- The node with other attributes. -/
def Node.mapAttributes (f : List Attribute → List Attribute) : Node → Node
  | .element name attributes => .element name (f attributes)
  | n => n

/-- Sets an attribute of every element. -/
def setAttributes (tree : Markup) (elements : List NodeId) (name value : String) :
    Edited Markup :=
  .done (elements.foldl
    (fun tree id => tree.modifyValue id (.mapAttributes (setAttribute name value))) tree)
    elements.length

/-- Whether an element has an attribute of a name. -/
def hasAttribute (tree : Markup) (name : String) (id : NodeId) : Bool :=
  match tree.get? id with
  | some n => n.attributes.any (·.isNamed name)
  | none => false

/-- Removes the attributes of a name from every element. -/
def removeAttributes (tree : Markup) (elements : List NodeId) (name : String) : Edited Markup :=
  .done (elements.foldl
    (fun tree id => tree.modifyValue id (.mapAttributes (·.filter (!·.isNamed name)))) tree)
    (elements.filter (hasAttribute tree name)).length

/-! ### Elements -/

/-- Carries out an edit on every element that is still in the tree and counts these elements. -/
def editAttached (tree : Markup) (elements : List NodeId) (f : Markup → NodeId → Markup) :
    Edited Markup :=
  let (tree, count) := elements.foldl (fun (tree, count) id =>
    if tree.isAttached id then (f tree id, count + 1) else (tree, count)) (tree, 0)
  .done tree count

/-- Puts a text in the place of the content of a node. -/
def setText (text : String) (tree : Markup) (id : NodeId) : Markup :=
  let (tree, new) := (tree.clearChildren id).alloc (.text text)
  tree.appendChild id new

/-- Moves nodes under a node, from an index on. -/
def insertAll (tree : Markup) (parent : NodeId) : Nat → List NodeId → Markup
  | _, [] => tree
  | index, n :: ns => insertAll (tree.insertChild parent index n) parent (index + 1) ns

/-- Moves nodes to a position relative to an element; `none` if the element has no parent and the
position needs one. -/
def splice? (tree : Markup) (id : NodeId) (nodes : List NodeId) (position : Position) :
    Option Markup :=
  match position with
  | .before | .after => do
    let parent ← tree.parent? id
    let index ← tree.indexInParent? id
    return insertAll tree parent (if position = .before then index else index + 1) nodes
  | .inside => some (tree.appendChildren id nodes)
  | .prepend => some (insertAll tree id 0 nodes)

/-- Puts copies of a fragment at a position relative to every element. -/
def insertFragment (tree : Markup) (elements : List NodeId) (fragment : List (Tree Node))
    (position : Position) : Edited Markup :=
  let (tree, count) := elements.foldl (fun (tree, count) id =>
    let (grown, nodes) := tree.graftAll fragment
    match splice? grown id nodes position with
    | some tree => (tree, count + 1)
    | none => (grown, count)) (tree, 0)
  .done tree count

/-- Puts copies of a fragment in the place of every element. -/
def replaceElements (tree : Markup) (elements : List NodeId) (fragment : List (Tree Node)) :
    Edited Markup :=
  let (tree, count) := elements.foldl (fun (tree, count) id =>
    let (grown, nodes) := tree.graftAll fragment
    match splice? grown id nodes .before with
    | some tree => (tree.detach id, count + 1)
    | none => (grown, count)) (tree, 0)
  .done tree count

/-! ### Modifications -/

/-- Carries out one modification on the elements that it addresses. -/
def editElements (tree : Markup) (m : Modification) (elements : List NodeId) : Edited Markup :=
  match m.operation, m.target.attributeName with
  | .update, some name =>
    .needing tree m.requiredValue fun value => setAttributes tree elements name value
  | .update, none =>
    .needing tree m.requiredValue fun value => editAttached tree elements (setText value)
  | .delete, some name => removeAttributes tree elements name
  | .delete, none => editAttached tree elements Arena.detach
  | .insert, _ =>
    .needing tree m.requiredValue fun value =>
      let fragment := fragmentOf value
      if fragment.isEmpty then .failed tree (.noNodes value)
      else insertFragment tree elements fragment (m.position.getD .inside)
  | .replace, _ =>
    .needing tree m.requiredValue fun value => replaceElements tree elements (fragmentOf value)

/-- Carries out one modification. -/
def edit (tree : Markup) (m : Modification) : Edited Markup :=
  .needing tree (locate tree m.target) (editElements tree m)

end SourceEdit.Markup
