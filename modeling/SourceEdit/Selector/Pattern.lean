import SourceEdit.EditError
import SourceEdit.Regex.Parser

/-!
# Selectors of stylesheet rules

A descriptor between slashes is a regular expression that has to match somewhere in a rule's
selector.  Any other descriptor has to equal the whole selector or one of its parts between commas,
all of them trimmed and with each run of white space taken for one space.
-/

namespace SourceEdit

/-- What a rule's selector is compared with. -/
inductive SelectorPattern where
  | exact (wanted : List Char)
  | regex (source : List Char) (r : Regex)
deriving Repr

namespace SelectorPattern

/-- The text between the slashes of a descriptor, when it has that form. -/
def slashed? (trimmed : List Char) : Option (List Char) :=
  match trimmed with
  | '/' :: rest =>
    if String.utf8ByteSize (String.ofList trimmed) > 2 && rest.getLast? == some '/' then
      some rest.dropLast
    else none
  | _ => none

/-- Reads a descriptor. -/
def ofText (descriptor : String) : Except EditError SelectorPattern :=
  let trimmed := trim descriptor.toList
  match slashed? trimmed with
  | none => .ok (.exact (normalizeBlank trimmed))
  | some source =>
    match Regex.ofText? source with
    | some r => .ok (.regex source r)
    | none => .error (.badPattern descriptor (String.ofList source))

/-- Whether a selector matches. -/
def isMatch (p : SelectorPattern) (selector : String) : Bool :=
  match p with
  | .exact wanted =>
    normalizeBlank selector.toList == wanted
      || (splitAt ',' selector.toList).any fun part => normalizeBlank part == wanted
  | .regex _ r => r.isMatch selector.toList

end SelectorPattern

end SourceEdit
