import SourceEdit.Markup.Builder.Foreign
import SourceEdit.Markup.Builder.Head

/-!
# Rules in the body

The rules for the content of a body, which other rules fall back to.
-/

namespace SourceEdit.Markup.Builder

/-! ### Start tags -/

/-- Opens the element of a start tag. -/
def openElement (t : Tag) : Construction Next := do
  let _ ← insert t
  done

/-- A block, which ends a paragraph. -/
def blockStart (t : Tag) : Construction Next := do
  endParagraph
  openElement t

/-- A heading, which ends another heading. -/
def headingStart (t : Tag) : Construction Next := do
  endParagraph
  if ← currentIs isHeading then pop
  openElement t

/-- A text whose lines are kept. -/
def preformattedStart (t : Tag) : Construction Next := do
  endParagraph
  let _ ← insert t
  modify fun b => { b with skipsLineFeed := true, allowsFrameset := false }
  done

/-- A form; forms do not nest. -/
def formStart (t : Tag) : Construction Next := do
  let inTemplate ← isOpen "template"
  if (← get).form.isSome && !inTemplate then done
  else
    endParagraph
    let id ← insert t
    if !inTemplate then modify fun b => { b with form := some id }
    done

/-- The innermost open element of one of the names, unless a special element other than a plain
block is met first. -/
def itemToEnd? (names : List String) (stack : List OpenElement) : Option String := do
  let stops (e : OpenElement) : Bool :=
    isOneOf names e.name || (isSpecial e.name && !isOneOf ["address", "div", "p"] e.name)
  let e ← stack.find? stops
  if isOneOf names e.name then some e.name.localName else none

/-- An item of a list, which ends the item before it. -/
def itemStart (t : Tag) : Construction Next := do
  forbidFrameset
  let names := if t.name == "li" then ["li"] else ["dd", "dt"]
  match itemToEnd? names (← get).stack with
  | some name =>
    implyEndsExcept name
    close name
  | none => pure ()
  endParagraph
  openElement t

/-- A button; buttons do not nest. -/
def buttonStart (t : Tag) : Construction Next := do
  if ← inScope hidesOutside "button" then
    implyEnds
    close "button"
  reopenFormatting
  let _ ← insert t
  forbidFrameset
  done

/-- A formatting element. -/
def formattingStart (t : Tag) : Construction Next := do
  reopenFormatting
  insertFormatting t
  done

/-- An element that does not allow line breaks; such elements do not nest. -/
def noBreakStart (t : Tag) : Construction Next := do
  reopenFormatting
  if ← inScope hidesOutside "nobr" then
    closeFormatting "nobr"
    reopenFormatting
  insertFormatting t
  done

/-- An embedded object, inside which formatting starts anew. -/
def objectStart (t : Tag) : Construction Next := do
  reopenFormatting
  let _ ← insert t
  markFormatting
  forbidFrameset
  done

/-- A table. -/
def tableStart (t : Tag) : Construction Next := do
  if !(← get).isLenient then endParagraph
  let _ ← insert t
  forbidFrameset
  enter .inTable
  done

/-- Whether a tag is for an input that is not shown. -/
def isHidden (t : Tag) : Bool :=
  t.attributes.any fun (name, value) =>
    name == "type" && eqIgnoringCase value.toList "hidden".toList

/-- An element without content that stands in a line. -/
def emptyStart (t : Tag) : Construction Next := do
  reopenFormatting
  insertEmpty t
  if !(t.name == "input" && isHidden t) then forbidFrameset
  done

/-- A selection. -/
def selectStart (t : Tag) : Construction Next := do
  reopenFormatting
  let _ ← insert t
  forbidFrameset
  let inTable := [Mode.inTable, .inCaption, .inTableBody, .inRow, .inCell].contains (← get).mode
  enter (if inTable then .inSelectInTable else .inSelect)
  done

/-- An option. -/
def optionStart (t : Tag) : Construction Next := do
  if ← currentIs (isNamed "option") then pop
  reopenFormatting
  openElement t

/-- A part of a ruby text. `kept` is not closed. -/
def rubyStart (t : Tag) (kept : String) : Construction Next := do
  if ← inScope hidesOutside "ruby" then implyEndsExcept kept
  openElement t

/-- A further start tag of the body: its attributes are added where they are missing. -/
def mergeBody (t : Tag) : Construction Next := do
  match ← body? with
  | some e =>
    if !(← isOpen "template") then
      forbidFrameset
      addMissing e.id t
  | none => pure ()
  done

/-- A frameset in the place of the body. -/
def framesetStart (t : Tag) : Construction Next := do
  match (← get).allowsFrameset, ← body? with
  | true, some e =>
    editTree (·.detach e.id)
    modify fun b => { b with stack := b.stack.drop (b.stack.length - 1) }
    let _ ← insert t
    enter .inFrameset
    done
  | _, _ => done

/-- A text that is read as it is. -/
def rawStart (t : Tag) : Construction Next := do
  if t.name == "xmp" then
    endParagraph
    reopenFormatting
  if t.name != "noembed" && t.name != "noscript" then forbidFrameset
  insertText t (.rawText t.name.toList)

/-- The elements that end a paragraph. -/
def blocks : List String := [
  "address", "article", "aside", "blockquote", "center", "details", "dialog", "dir", "div", "dl",
  "fieldset", "figcaption", "figure", "footer", "header", "hgroup", "main", "nav", "ol", "p",
  "search", "section", "summary", "ul", "menu"]

/-- The formatting elements that nest. -/
def formattingNames : List String := [
  "b", "big", "code", "em", "font", "i", "s", "small", "strike", "strong", "tt", "u"]

/-- The start tags that are left out in a body. -/
def misplaced : List String := [
  "caption", "col", "colgroup", "frame", "head", "tbody", "td", "tfoot", "th", "thead", "tr"]

/-- The rules for the start tag of a name that stands for a single element. -/
def namedStart (t : Tag) : Construction Next := do
  match t.name with
  | "html" => mergeRoot t
  | "body" => mergeBody t
  | "frameset" => framesetStart t
  | "form" => formStart t
  | "plaintext" =>
    endParagraph
    let _ ← insert t
    modify fun b => { b with reading := .plain }
    done
  | "button" => buttonStart t
  | "a" =>
    closeLink
    formattingStart t
  | "nobr" => noBreakStart t
  | "table" => tableStart t
  | "hr" =>
    endParagraph
    insertEmpty t
    forbidFrameset
    done
  | "image" => emptyStart { t with name := "img" }
  | "textarea" =>
    modify fun b => { b with skipsLineFeed := true, allowsFrameset := false }
    insertText t (.referenceText t.name.toList)
  | "select" => selectStart t
  | "math" => insertForeign .math t
  | "svg" => insertForeign .svg t
  | _ =>
    reopenFormatting
    openElement t

/-- The rules for start tags. -/
def bodyStart (t : Tag) : Construction Next := do
  let isIn (names : List String) : Bool := names.contains t.name
  if headContent.contains t.name then headStart t
  else if isIn blocks then blockStart t
  else if isIn ["h1", "h2", "h3", "h4", "h5", "h6"] then headingStart t
  else if isIn ["pre", "listing"] then preformattedStart t
  else if isIn ["li", "dd", "dt"] then itemStart t
  else if isIn formattingNames then formattingStart t
  else if isIn ["applet", "marquee", "object"] then objectStart t
  else if isIn ["area", "br", "embed", "img", "keygen", "wbr", "input"] then emptyStart t
  else if isIn ["param", "source", "track"] then
    insertEmpty t
    done
  else if isIn ["xmp", "iframe", "noembed", "noscript"] then rawStart t
  else if isIn ["optgroup", "option"] then optionStart t
  else if isIn ["rb", "rtc"] then rubyStart t ""
  else if isIn ["rp", "rt"] then rubyStart t "rtc"
  else if isIn misplaced then done
  else namedStart t

/-! ### End tags -/

/-- The end of a block. -/
def blockEnd (name : String) : Construction Next := do
  if ← inScope hidesOutside name then
    implyEnds
    close name
  done

/-- The end of the form. -/
def formEnd : Construction Next := do
  if ← isOpen "template" then blockEnd "form"
  else
    let b ← get
    set { b with form := none }
    match b.form with
    | some id =>
      if seen hidesOutside (·.id == id) b.stack then
        implyEnds
        removeFromStack id
    | none => pure ()
    done

/-- The end of a paragraph. -/
def paragraphEnd : Construction Next := do
  if !(← inScope hidesParagraph "p") then
    let _ ← insertImplied "p"
  closeParagraph
  done

/-- The end of an item of a list. -/
def itemEnd (name : String) : Construction Next := do
  if ← inScope (if name == "li" then hidesItem else hidesOutside) name then
    implyEndsExcept name
    close name
  done

/-- The end of a heading. -/
def headingEnd : Construction Next := do
  if seen hidesOutside (isHeading ·.name) (← get).stack then
    implyEnds
    popThrough isHeading
  done

/-- The end of an embedded object. -/
def objectEnd (name : String) : Construction Next := do
  if ← inScope hidesOutside name then
    implyEnds
    close name
    dropToMark
  done

/-- The blocks that an end tag ends. -/
def endedBlocks : List String :=
  (blocks.filter (· != "p")) ++ ["button", "listing", "pre"]

/-- The rules for end tags. -/
def bodyEnd (t : Tag) : Construction Next := do
  let isIn (names : List String) : Bool := names.contains t.name
  if isIn endedBlocks then blockEnd t.name
  else if isIn ["h1", "h2", "h3", "h4", "h5", "h6"] then headingEnd
  else if isIn ["li", "dd", "dt"] then itemEnd t.name
  else if isIn ("a" :: "nobr" :: formattingNames) then
    closeFormatting t.name
    done
  else if isIn ["applet", "marquee", "object"] then objectEnd t.name
  else match t.name with
    | "template" => closeTemplate
    | "body" =>
      if ← inScope hidesOutside "body" then enter .afterBody
      done
    | "html" => if ← inScope hidesOutside "body" then againIn .afterBody (.tag t) else done
    | "form" => formEnd
    | "p" => paragraphEnd
    | "br" => emptyStart { name := "br" }
    | name =>
      closeAnyOther name
      done

/-! ### All tokens -/

/-- The rules in the body. -/
def inBody (t : Token) : Construction Next := do
  match t with
  | .text cs =>
    reopenFormatting
    if !isBlankText cs then forbidFrameset
    appendText cs
    done
  | .comment cs =>
    appendComment cs
    done
  | .tag tag => if tag.isEnd then bodyEnd tag else bodyStart tag
  | .endOfText => if (← get).templateModes.isEmpty then done else endInTemplate
  | _ => done

/-- The rules in a body, with what does not belong into a table put before it. -/
def inBodyOutOfTable (t : Token) : Construction Next := do
  modify fun b => { b with movesOutOfTable := true }
  let next ← inBody t
  modify fun b => { b with movesOutOfTable := false }
  return next

/-- The rules in an element whose content is read as text. -/
def inText (t : Token) : Construction Next := do
  match t with
  | .text cs =>
    appendText cs
    done
  | .endOfText =>
    pop
    againIn (← get).modeAfterText t
  | .tag _ =>
    pop
    enter (← get).modeAfterText
    done
  | _ => done

end SourceEdit.Markup.Builder
