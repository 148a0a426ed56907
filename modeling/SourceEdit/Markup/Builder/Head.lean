import SourceEdit.Markup.Builder.Formatting

/-!
# Rules up to the head

The rules before the root element, in the head and between head and body, with those for templates
that other rules use, too.
-/

namespace SourceEdit.Markup.Builder

/-! ### Choosing rules -/

/-- The rules for a selection, given the open elements around it. -/
def selectMode : List OpenElement → Mode
  | [] => .inSelect
  | e :: rest =>
    if isNamed "template" e.name then .inSelect
    else if isNamed "table" e.name then .inSelectInTable
    else selectMode rest

/-- The rules for the content of open elements. -/
def modeFor (b : Builder) : List OpenElement → Mode
  | [] => .inBody
  | e :: rest =>
    let isOutermost := rest.isEmpty
    if e.name.space != .html then modeFor b rest
    else if isOutermost && b.isFragment then .inBody
    else match e.name.localName with
      | "select" => selectMode rest
      | "td" | "th" => if isOutermost then .inBody else .inCell
      | "tr" => .inRow
      | "tbody" | "thead" | "tfoot" => .inTableBody
      | "caption" => .inCaption
      | "colgroup" => .inColumnGroup
      | "table" => .inTable
      | "template" => b.templateModes.head?.getD .inBody
      | "head" => if isOutermost then .inBody else .inHead
      | "body" => .inBody
      | "frameset" => .inFrameset
      | "html" => if b.head.isSome then .afterHead else .beforeHead
      | _ => modeFor b rest

/-- The rules for the content of the current element. -/
def fittingMode : Construction Mode := do
  let b ← get
  return modeFor b b.stack

/-- Brings the rules for the current element into force. -/
def enterFitting : Construction Unit := do enter (← fittingMode)

/-! ### Templates -/

/-- Opens a template. -/
def openTemplate (t : Tag) : Construction Next := do
  let _ ← insert t
  markFormatting
  forbidFrameset
  modify fun b => { b with mode := .inTemplate, templateModes := .inTemplate :: b.templateModes }
  done

/-- Closes the template at its end tag. -/
def closeTemplate : Construction Next := do
  if ← isOpen "template" then
    popWhile endsImpliedInTemplate
    close "template"
    dropToMark
    modify fun b => { b with templateModes := b.templateModes.drop 1 }
    enterFitting
  done

/-- The end of the text in a template. -/
def endInTemplate : Construction Next := do
  if ← isOpen "template" then
    close "template"
    dropToMark
    modify fun b => { b with templateModes := b.templateModes.drop 1 }
    againIn (← fittingMode) .endOfText
  else done

/-! ### The root -/

/-- A further start tag of the root: its attributes are added where they are missing. -/
def mergeRoot (t : Tag) : Construction Next := do
  if !(← isOpen "template") then
    match ← outermost? with
    | some e => addMissing e.id t
    | none => pure ()
  done

/-- The end tags that may stand for the element that they end. -/
def isTellingEnd (t : Tag) : Bool := ["head", "body", "html", "br"].contains t.name

/-- The rules at the start of a document. -/
def atStart (t : Token) : Construction Next := do
  let other : Construction Next := do
    modify fun b => { b with isLenient := true }
    againIn .beforeHtml t
  match t with
  | .text cs => if isBlankText cs then done else other
  | .comment cs =>
    appendCommentTo (← get).tree.root cs
    done
  | _ => other

/-- The rules before the root element. -/
def beforeHtml (t : Token) : Construction Next := do
  let other : Construction Next := do
    insertRoot []
    againIn .beforeHead t
  match t with
  | .text cs => if isBlankText cs then done else other
  | .comment cs =>
    appendCommentTo (← get).tree.root cs
    done
  | .tag tag =>
    if tag.isEnd then
      if isTellingEnd tag then other else done
    else if tag.name == "html" then
      insertRoot tag.attributes
      enter .beforeHead
      done
    else other
  | _ => other

/-- The rules before the head. -/
def beforeHead (t : Token) : Construction Next := do
  let other : Construction Next := do
    let id ← insertImplied "head"
    modify fun b => { b with head := some id }
    againIn .inHead t
  match t with
  | .text cs => if isBlankText cs then done else other
  | .comment cs =>
    appendComment cs
    done
  | .tag tag =>
    if tag.isEnd then
      if isTellingEnd tag then other else done
    else match tag.name with
      | "html" => mergeRoot tag
      | "head" =>
        let id ← insert tag
        modify fun b => { b with head := some id, mode := .inHead }
        done
      | _ => other
  | _ => other

/-! ### The head -/

/-- The elements that belong into the head. -/
def headContent : List String := [
  "base", "basefont", "bgsound", "link", "meta", "noframes", "script", "style", "template", "title"]

/-- A start tag of what belongs into the head. -/
def headStart (t : Tag) : Construction Next :=
  match t.name with
  | "title" => insertText t (.referenceText t.name.toList)
  | "noframes" | "style" | "noscript" => insertText t (.rawText t.name.toList)
  | "script" => insertText t .script
  | "template" => openTemplate t
  | _ => do
    insertEmpty t
    done

/-- The rules in the head. -/
def inHead (t : Token) : Construction Next := do
  let other : Construction Next := do
    pop
    againIn .afterHead t
  match t with
  | .text cs =>
    if isBlankText cs then
      appendText cs
      done
    else other
  | .comment cs =>
    appendComment cs
    done
  | .tag tag =>
    if tag.isEnd then
      match tag.name with
      | "head" =>
        pop
        enter .afterHead
        done
      | "body" | "html" | "br" => other
      | "template" => closeTemplate
      | _ => done
    else if tag.name == "html" then mergeRoot tag
    else if tag.name == "head" then done
    else if headContent.contains tag.name || tag.name == "noscript" then headStart tag
    else other
  | _ => other

/-- A start tag after the head of what belongs into it. -/
def lateHeadStart (t : Tag) : Construction Next := do
  match (← get).head with
  | some id =>
    push ⟨id, { localName := "head" }⟩
    let next ← headStart t
    removeFromStack id
    return next
  | none => done

/-- The rules between head and body. -/
def afterHead (t : Token) : Construction Next := do
  let other : Construction Next := do
    let _ ← insertImplied "body"
    againIn .inBody t
  match t with
  | .text cs =>
    if isBlankText cs then
      appendText cs
      done
    else other
  | .comment cs =>
    appendComment cs
    done
  | .tag tag =>
    if tag.isEnd then
      match tag.name with
      | "template" => closeTemplate
      | "body" | "html" | "br" => other
      | _ => done
    else match tag.name with
      | "html" => mergeRoot tag
      | "body" =>
        let _ ← insert tag
        forbidFrameset
        enter .inBody
        done
      | "frameset" =>
        let _ ← insert tag
        enter .inFrameset
        done
      | "head" => done
      | name => if headContent.contains name then lateHeadStart tag else other
  | _ => other

end SourceEdit.Markup.Builder
