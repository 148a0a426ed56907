import SourceEdit.Script.Parser.Types

/-!
# Markup elements in scripts

Elements, fragments, their attributes and their children.  The text between tags is read in a mode
of its own, so whoever reads the last token of a tag says what the next token is part of.
-/

namespace SourceEdit.Script.Parser

variable (parse : Goal → Parser Node)

/-! ### Names -/

/-- A name that may hold dashes. -/
def dashedName : Parser Name := do
  let t ← current
  if !t.isNameOrWord then failure
  let t := Lexer.asElementName t
  advancePast .plain t
  return t.text

/-- The name of an element: one name, two with a colon, or several with dots. -/
def tagName : Parser Name := do
  let first ← dashedName
  if ← eat .colon then
    let second ← dashedName
    return first ++ ':' :: second
  else iterate (fun name => do
    if ← eat .dot then
      let next ← dashedName
      reportIf (name.contains '-' || next.contains '-')
      return (true, name ++ '.' :: next)
    else return (false, name)) first

/-- The name of an attribute. -/
def attributeName : Parser Name := do
  let first ← dashedName
  if ← eat .colon then return first ++ ':' :: (← dashedName) else return first

/-- Ends a tag; what follows is text of an element or not. -/
def endTag (inContent : Bool) : Parser Unit := do
  let t ← current
  if !t.isPunct .greater then failure
  advancePast (if inContent then .elementContent else .plain) t

/-! ### Expressions in elements -/

/-- An expression between braces. -/
def innerExpression : Parser Node := do
  let e ← within (fun c => { c with allowsIn := true }) (parse .expression)
  reportIf (e.value.shape == .sequence)
  return e

/-- Ends an expression in the content of an element. -/
def endContainer (inContent : Bool) : Parser Unit := do
  let t ← current
  if !t.isPunct .braceClose then failure
  advancePast (if inContent then .elementContent else .plain) t

/-- A child between braces. -/
def containerChild : Parser Node := do
  let start ← here
  expect .braceOpen
  if ← eat .ellipsis then
    let e ← innerExpression parse
    endContainer true
    finish .spreadChild start [e]
  else if ← isAt .braceClose then
    let empty := Node.ofShape .emptyExpression (start + 1) (← here)
    endContainer true
    finish .container start [empty]
  else
    let e ← innerExpression parse
    endContainer true
    finish .container start [e]

/-! ### Attributes -/

/-- The value of an attribute. -/
def attributeValue : Parser Node := do
  let start ← here
  let t ← current
  match t.kind with
  | .string =>
    advance
    finish (.attributeText t.text) start
  | .punct .braceOpen =>
    advance
    let e ← innerExpression parse
    endContainer false
    finish .container start [e]
  | .punct .less => parse (.element false)
  | _ => failure

/-- An attribute, if there is one. -/
def attribute? : Parser (Option Node) := do
  let start ← here
  let t ← current
  if t.isPunct .braceOpen then
    advance
    expect .ellipsis
    let e ← innerExpression parse
    endContainer false
    return some (← finish .spreadAttribute start [e])
  else if t.isNameOrWord then
    let name ← attributeName
    let mark ← current
    if mark.isPunct .eq then
      advancePast .attributeValue mark
      let value ← attributeValue parse
      return some (← finish (.attribute name) start [value])
    else return some (← finish (.attribute name) start [.absent])
  else return none

/-! ### Elements -/

/-- The children of an element, up to the closing tag. -/
def children : Parser (List Node) := collect do
  let start ← here
  let t ← current
  match t.kind with
  | .elementText =>
    reportIf (t.text.any fun c => c == '>' || c == '\x7d')
    advancePast .elementContent t
    return some (← finish (.elementText t.text) start)
  | .punct .braceOpen => return some (← containerChild parse)
  | .punct .less =>
    if ← nextIs (·.isPunct .slash) then return none
    else return some (← parse (.element true))
  | _ => failure

/-- An element or a fragment. -/
def element (inContent : Bool) : Parser Node := do
  let start ← here
  expect .less
  if ← isAt .greater then
    endTag true
    let parts ← children parse
    expect .less
    expect .slash
    endTag inContent
    finish .fragment start [Node.ofShape .children 0 0 parts]
  else
    let name ← tagName
    let arguments ← optional (← hasTypes) (typeArguments? parse)
    let attributes ← collect (attribute? parse)
    if ← eat .slash then
      endTag inContent
      finish (.element name true) start [arguments, .group attributes, .ofShape .children 0 0]
    else
      endTag true
      let parts ← children parse
      expect .less
      expect .slash
      let closing ← tagName
      reportIf (closing != name)
      endTag inContent
      finish (.element name false) start
        [arguments, .group attributes, .ofShape .children 0 0 parts]

end SourceEdit.Script.Parser
