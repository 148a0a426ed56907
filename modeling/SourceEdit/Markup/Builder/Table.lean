import SourceEdit.Markup.Builder.Body

/-!
# Rules in tables

The rules for tables, captions, column groups, rows and cells.  What does not belong into a table is
handled as in a body and put before the table.
-/

namespace SourceEdit.Markup.Builder

/-! ### Parts of tables -/

/-- The start tags of the parts of a table. -/
def partStarts : List String :=
  ["caption", "col", "colgroup", "tbody", "td", "tfoot", "th", "thead", "tr"]

/-- The groups of rows. -/
def rowGroups : List String := ["tbody", "tfoot", "thead"]

/-- Closes what is open inside a group of rows. -/
def clearToGroup : Construction Unit :=
  popTo (isOneOf ["tbody", "tfoot", "thead", "template", "html"])

/-- Closes what is open inside a row. -/
def clearToRow : Construction Unit := popTo (isOneOf ["tr", "template", "html"])

/-- Closes what is open inside a table. -/
def clearToTable : Construction Unit := popTo hidesTablePart

/-- Opens the element of a tag and brings rules into force. -/
def openWith (mode : Mode) (t : Tag) : Construction Next := do
  let _ ← insert t
  enter mode
  done

/-! ### Text -/

/-- Text in a table: directly inside a part it is kept until the next token. -/
def textInTable (t : Token) : Construction Next := do
  if ← currentIs (isOneOf ["table", "tbody", "tfoot", "thead", "tr"]) then
    modify fun b => { b with modeAfterText := b.mode }
    againIn .inTableText t
  else inBodyOutOfTable t

/-- Handles texts as those that do not belong into a table. -/
def putOutOfTable : List (List Char) → Construction Unit
  | [] => pure ()
  | cs :: rest => do
    let _ ← inBodyOutOfTable (.text cs)
    putOutOfTable rest

/-- The rules after text directly inside a part of a table: blanks stay, all else is put before the
table. -/
def inTableText (t : Token) : Construction Next := do
  match t with
  | .nul => done
  | .text cs =>
    modify fun b => { b with tableText := cs :: b.tableText }
    done
  | _ =>
    let b ← get
    set { b with tableText := [] }
    let texts := b.tableText.reverse
    if texts.all isBlankText then texts.forM appendText else putOutOfTable texts
    againIn b.modeAfterText t

/-! ### Tables -/

/-- The rules for start tags in a table. -/
def tableTagStart (t : Tag) : Construction Next := do
  match t.name with
  | "caption" =>
    clearToTable
    markFormatting
    openWith .inCaption t
  | "colgroup" =>
    clearToTable
    openWith .inColumnGroup t
  | "col" =>
    clearToTable
    let _ ← insertImplied "colgroup"
    againIn .inColumnGroup (.tag t)
  | "tbody" | "tfoot" | "thead" =>
    clearToTable
    openWith .inTableBody t
  | "td" | "th" | "tr" =>
    clearToTable
    let _ ← insertImplied "tbody"
    againIn .inTableBody (.tag t)
  | "table" =>
    if ← inScope hidesTablePart "table" then
      close "table"
      againIn (← fittingMode) (.tag t)
    else done
  | "style" | "script" | "template" => headStart t
  | "input" =>
    if isHidden t then
      insertEmpty t
      done
    else inBodyOutOfTable (.tag t)
  | "form" =>
    if (← get).form.isNone && !(← isOpen "template") then
      let id ← insertNode { localName := t.name } (plainAttributes t.attributes)
      modify fun b => { b with form := some id }
    done
  | _ => inBodyOutOfTable (.tag t)

/-- The rules for end tags in a table. -/
def tableTagEnd (t : Tag) : Construction Next := do
  if t.name == "table" then
    if ← inScope hidesTablePart "table" then
      close "table"
      enterFitting
    done
  else if t.name == "template" then closeTemplate
  else if t.name == "body" || t.name == "html" || partStarts.contains t.name then done
  else inBodyOutOfTable (.tag t)

/-- The rules in a table. -/
def inTable (t : Token) : Construction Next := do
  match t with
  | .text _ | .nul => textInTable t
  | .comment cs =>
    appendComment cs
    done
  | .tag tag => if tag.isEnd then tableTagEnd tag else tableTagStart tag
  | .endOfText => inBody t
  | .doctype _ | .fault => done

/-- The rules in a caption. -/
def inCaption (t : Token) : Construction Next := do
  let ordinary := inBody t
  match t with
  | .tag tag =>
    let isEndOfCaption := tag.isEnd && tag.name == "caption"
    let isEndOfTable := tag.isEnd && tag.name == "table"
    if isEndOfCaption || isEndOfTable || (!tag.isEnd && partStarts.contains tag.name) then
      if ← inScope hidesTablePart "caption" then
        implyEnds
        close "caption"
        dropToMark
        if isEndOfCaption then
          enter .inTable
          done
        else againIn .inTable t
      else done
    else if tag.isEnd && (partStarts.contains tag.name || tag.name == "body" || tag.name == "html")
      then done
    else ordinary
  | _ => ordinary

/-- The rules in a group of columns. -/
def inColumnGroup (t : Token) : Construction Next := do
  let other : Construction Next := do
    if ← currentIs (isNamed "colgroup") then
      pop
      againIn .inTable t
    else done
  match t with
  | .text cs =>
    if isBlankText cs then
      appendText cs
      done
    else other
  | .comment cs =>
    appendComment cs
    done
  | .endOfText => inBody t
  | .tag tag =>
    match tag.isEnd, tag.name with
    | false, "html" => mergeRoot tag
    | false, "col" =>
      insertEmpty tag
      done
    | false, "template" => openTemplate tag
    | true, "colgroup" =>
      if ← currentIs (isNamed "colgroup") then
        pop
        enter .inTable
      done
    | true, "col" => done
    | true, "template" => closeTemplate
    | _, _ => other
  | _ => other

/-! ### Rows and cells -/

/-- The rules in a group of rows. -/
def inTableBody (t : Token) : Construction Next := do
  let leave : Construction Next := do
    if ← anyInScope hidesTablePart ["table", "tbody", "tfoot"] then
      clearToGroup
      pop
      againIn .inTable t
    else done
  match t with
  | .tag tag =>
    if tag.isEnd then
      if rowGroups.contains tag.name then
        if ← inScope hidesTablePart tag.name then
          clearToGroup
          pop
          enter .inTable
        done
      else if tag.name == "table" then leave
      else if tag.name == "body" || tag.name == "html" || partStarts.contains tag.name then done
      else inTable t
    else match tag.name with
      | "tr" =>
        clearToGroup
        openWith .inRow tag
      | "th" | "td" =>
        clearToGroup
        let _ ← insertImplied "tr"
        againIn .inRow t
      | name => if partStarts.contains name then leave else inTable t
  | _ => inTable t

/-- Closes the row, if there is one, and handles the token again. -/
def leaveRow (t : Token) : Construction Next := do
  if ← inScope hidesTablePart "tr" then
    clearToRow
    pop
    againIn .inTableBody t
  else done

/-- The rules in a row. -/
def inRow (t : Token) : Construction Next := do
  match t with
  | .tag tag =>
    if tag.isEnd then
      if tag.name == "tr" then
        if ← inScope hidesTablePart "tr" then
          clearToRow
          pop
          enter .inTableBody
        done
      else if tag.name == "table" then leaveRow t
      else if rowGroups.contains tag.name then
        if ← inScope hidesTablePart tag.name then leaveRow t else done
      else if tag.name == "body" || tag.name == "html" || partStarts.contains tag.name then done
      else inTable t
    else if tag.name == "th" || tag.name == "td" then
      clearToRow
      let next ← openWith .inCell tag
      markFormatting
      return next
    else if partStarts.contains tag.name then leaveRow t
    else inTable t
  | _ => inTable t

/-- Closes the cell. -/
def closeCell : Construction Unit := do
  implyEnds
  popThrough (isOneOf ["td", "th"])
  dropToMark

/-- The rules in a cell. -/
def inCell (t : Token) : Construction Next := do
  match t with
  | .tag tag =>
    if tag.isEnd then
      if tag.name == "td" || tag.name == "th" then
        if ← inScope hidesTablePart tag.name then
          implyEnds
          close tag.name
          dropToMark
          enter .inRow
        done
      else if tag.name == "table" || tag.name == "tr" || rowGroups.contains tag.name then
        if ← inScope hidesTablePart tag.name then
          closeCell
          againIn .inRow t
        else done
      else if tag.name == "body" || tag.name == "html" || partStarts.contains tag.name then done
      else inBody t
    else if partStarts.contains tag.name then
      if ← anyInScope hidesTablePart ["td", "th"] then
        closeCell
        againIn .inRow t
      else done
    else inBody t
  | _ => inBody t

end SourceEdit.Markup.Builder
