/-!
# Tokens of markup

The pieces that a markup text is read into before they are put together to a tree.
-/

namespace SourceEdit.Markup

/-- A tag. Names of tags and attributes are in small letters. -/
structure Tag where
  isEnd : Bool := false
  name : String
  attributes : List (String × String) := []
  selfCloses : Bool := false
deriving DecidableEq, Repr, Inhabited

/-- A document type declaration. -/
structure Doctype where
  name : Option String := none
  publicId : Option String := none
  systemId : Option String := none
  /-- Whether the declaration is not well formed. -/
  isBroken : Bool := false
deriving DecidableEq, Repr, Inhabited

/-- A piece of markup. -/
inductive Token where
  | doctype (d : Doctype)
  | tag (t : Tag)
  | comment (text : List Char)
  | text (text : List Char)
  /-- The character with the number zero, outside of the text that is read as it is. -/
  | nul
  /-- What is not well formed and leaves nothing behind. -/
  | fault
  | endOfText
deriving DecidableEq, Repr, Inhabited

/-- How a text is read. -/
inductive Reading where
  /-- With tags and references. -/
  | markup
  /-- As text with references, up to an end tag of the name. -/
  | referenceText (name : List Char)
  /-- As it is, up to an end tag of the name. -/
  | rawText (name : List Char)
  /-- As a script, in which a comment can hide end tags. -/
  | script
  /-- As it is, to the end. -/
  | plain
deriving DecidableEq, Repr, Inhabited

end SourceEdit.Markup
