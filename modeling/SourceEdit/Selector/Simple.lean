import SourceEdit.EditError
import SourceEdit.Text.Characters

/-!
# Selectors of markup elements

A selector names a tag, a class after a dot, or an id after a hash.  Tag names are compared without
regard to ASCII letter case, a class has to occur in the class attribute's value as a part of its
text, and an id has to be the whole value of the id attribute.
-/

namespace SourceEdit

/-- The selectors of markup elements. -/
inductive SimpleSelector where
  | tag (name : List Char)
  | class (name : List Char)
  | id (name : List Char)
deriving DecidableEq, Repr

namespace SimpleSelector

/-- Reads a selector. -/
def ofText (selector : String) : Except EditError SimpleSelector :=
  match trim selector.toList with
  | [] => .error .emptySelector
  | '.' :: name => if name.isEmpty then .error .emptyClass else .ok (.class name)
  | '#' :: name => if name.isEmpty then .error .emptyId else .ok (.id name)
  | name => .ok (.tag (asciiLower name))

/-- Whether an element matches, given its tag and its attributes by name. -/
def isMatch (s : SimpleSelector) (tag : String) (attribute? : String → Option String) : Bool :=
  match s with
  | .tag name => eqIgnoringCase tag.toList name
  | .class name =>
    match attribute? "class" with
    | some value => occursIn name value.toList
    | none => false
  | .id name => attribute? "id" == some (String.ofList name)

end SimpleSelector

end SourceEdit
