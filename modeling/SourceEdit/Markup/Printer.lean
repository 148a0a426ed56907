import SourceEdit.Markup.Node

/-!
# Writing markup

Elements are written with a start tag and an end tag, except those that cannot have content.  Text
is escaped, except in elements whose content is read as it is.
-/

namespace SourceEdit

namespace Markup

/-! ### Escapes -/

/-- A character of text as it is written. -/
def escapeInText (c : Char) : List Char :=
  match c with
  | '&' => "&amp;".toList
  | '\u00A0' => "&nbsp;".toList
  | '<' => "&lt;".toList
  | '>' => "&gt;".toList
  | c => [c]

/-- A character of an attribute's value as it is written. -/
def escapeInAttribute (c : Char) : List Char :=
  match c with
  | '&' => "&amp;".toList
  | '\u00A0' => "&nbsp;".toList
  | '"' => "&quot;".toList
  | c => [c]

/-! ### Elements -/

/-- The elements that have no content and no end tag. -/
def voidNames : List String := [
  "area", "base", "basefont", "bgsound", "br", "col", "embed", "frame", "hr", "img", "input",
  "keygen", "link", "meta", "param", "source", "track", "wbr"]

/-- Whether an element has no content and no end tag. -/
def ElementName.isVoid (name : ElementName) : Bool :=
  name.space == .html && voidNames.contains name.localName

/-- The elements whose content is read as it is. -/
def rawNames : List String :=
  ["style", "script", "xmp", "iframe", "noembed", "noframes", "plaintext", "noscript"]

/-- Whether the content of an element is read as it is. -/
def ElementName.isRaw (name : ElementName) : Bool :=
  name.space == .html && rawNames.contains name.localName

/-- The name of an attribute as it is written. -/
def Attribute.writtenName (a : Attribute) : List Char :=
  let lead := match a.space with
    | .none => ""
    | .xlink => "xlink:"
    | .xml => "xml:"
    | .xmlns => if a.localName == "xmlns" then "" else "xmlns:"
  lead.toList ++ a.localName.toList

/-- An attribute in a start tag. -/
def Attribute.write (a : Attribute) : List Char :=
  ' ' :: a.writtenName ++ ['=', '"'] ++ a.value.toList.flatMap escapeInAttribute ++ ['"']

/-- The start tag of an element. -/
def startTag (name : ElementName) (attributes : List Attribute) : List Char :=
  '<' :: name.localName.toList ++ attributes.flatMap Attribute.write ++ ['>']

/-- The end tag of an element. -/
def endTag (name : ElementName) : List Char := '<' :: '/' :: name.localName.toList ++ ['>']

/-! ### Trees -/

/-- What is around a node, as far as it changes how the node is written. -/
structure Surrounding where
  /-- Whether text is written as it is. -/
  isRaw : Bool := false
  /-- Whether tags are left out. -/
  isVoid : Bool := false

mutual

/-- Writes a tree. -/
def writeTree (around : Surrounding) : Tree Node → List Char
  | .node value children =>
    match value with
    | .document => writeForest around children
    | .doctype name => "<!DOCTYPE ".toList ++ name.toList ++ ['>']
    | .text text => if around.isRaw then text.toList else text.toList.flatMap escapeInText
    | .comment text => "<!--".toList ++ text.toList ++ "-->".toList
    | .element name attributes =>
      let isVoid := around.isVoid || name.isVoid
      let content := writeForest { isRaw := name.isRaw, isVoid } children
      if around.isVoid then content
      else startTag name attributes ++ content ++ (if isVoid then [] else endTag name)

/-- Writes a forest. -/
def writeForest (around : Surrounding) : List (Tree Node) → List Char
  | [] => []
  | t :: ts => writeTree around t ++ writeForest around ts

end

end Markup

/-- Writes markup. -/
def Markup.write (tree : Markup) : String :=
  String.ofList (Markup.writeTree {} (tree.view tree.root))

end SourceEdit
