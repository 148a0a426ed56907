import SourceEdit.Markup.Builder.Table
import SourceEdit.Markup.Doctype

/-!
# All rules

The rules for selections, templates, framesets and what comes after the body, and the choice among
all rules.  `Builder.take` hands a token to the rules in force until it is done with.
-/

namespace SourceEdit.Markup.Builder

/-! ### Selections -/

/-- Closes the selection and handles the token again. -/
def leaveSelect (t : Token) : Construction Next := do
  close "select"
  againIn (← fittingMode) t

/-- The end of a group of options. -/
def optionGroupEnd : Construction Next := do
  match (← get).stack with
  | e :: below :: _ =>
    if isNamed "option" e.name && isNamed "optgroup" below.name then pop
  | _ => pure ()
  if ← currentIs (isNamed "optgroup") then pop
  done

/-- The rules for tags in a selection. -/
def selectTag (t : Tag) : Construction Next := do
  match t.isEnd, t.name with
  | false, "html" => mergeRoot t
  | false, "option" =>
    if ← currentIs (isNamed "option") then pop
    let _ ← insert t
    done
  | false, "optgroup" =>
    if ← currentIs (isNamed "option") then pop
    if ← currentIs (isNamed "optgroup") then pop
    let _ ← insert t
    done
  | false, "hr" =>
    if ← currentIs (isNamed "option") then pop
    if ← currentIs (isNamed "optgroup") then pop
    insertEmpty t
    done
  | true, "optgroup" => optionGroupEnd
  | true, "option" =>
    if ← currentIs (isNamed "option") then pop
    done
  | _, "select" =>
    if ← inScope hidesSelect "select" then
      close "select"
      enterFitting
    done
  | false, "input" | false, "keygen" | false, "textarea" =>
    if ← inScope hidesSelect "select" then leaveSelect (.tag t) else done
  | false, "script" | false, "template" => headStart t
  | true, "template" => closeTemplate
  | _, _ => done

/-- The rules in a selection. -/
def inSelect (t : Token) : Construction Next := do
  match t with
  | .text cs =>
    appendText cs
    done
  | .comment cs =>
    appendComment cs
    done
  | .tag tag => selectTag tag
  | .endOfText => inBody t
  | _ => done

/-- The rules in a selection inside a table. -/
def inSelectInTable (t : Token) : Construction Next := do
  match t with
  | .tag tag =>
    if ["caption", "table", "tbody", "tfoot", "thead", "tr", "td", "th"].contains tag.name then
      if tag.isEnd && !(← inScope hidesTablePart tag.name) then done else leaveSelect t
    else inSelect t
  | _ => inSelect t

/-! ### Templates -/

/-- Changes the rules for the content of the innermost template and handles the token again. -/
def asTemplateContent (mode : Mode) (t : Token) : Construction Next := do
  modify fun b => { b with templateModes := mode :: b.templateModes.drop 1 }
  againIn mode t

/-- The rules in a template, until its content shows what they should be. -/
def inTemplate (t : Token) : Construction Next := do
  match t with
  | .text _ | .comment _ => inBody t
  | .endOfText => endInTemplate
  | .tag tag =>
    if tag.isEnd then
      if tag.name == "template" then closeTemplate else done
    else if headContent.contains tag.name then headStart tag
    else match tag.name with
      | "caption" | "colgroup" | "tbody" | "tfoot" | "thead" => asTemplateContent .inTable t
      | "col" => asTemplateContent .inColumnGroup t
      | "tr" => asTemplateContent .inTableBody t
      | "td" | "th" => asTemplateContent .inRow t
      | _ => asTemplateContent .inBody t
  | _ => done

/-! ### After the body -/

/-- Whether a tag is the start tag of the root. -/
def isRootStart (t : Tag) : Bool := !t.isEnd && t.name == "html"

/-- The rules after the body. -/
def afterBody (t : Token) : Construction Next := do
  match t with
  | .text cs => if isBlankText cs then inBody t else againIn .inBody t
  | .comment cs =>
    match ← outermost? with
    | some e => appendCommentTo e.id cs
    | none => pure ()
    done
  | .endOfText => done
  | .tag tag =>
    if isRootStart tag then mergeRoot tag
    else if tag.isEnd && tag.name == "html" then
      if !(← get).isFragment then enter .afterAfterBody
      done
    else againIn .inBody t
  | _ => againIn .inBody t

/-- The rules after the root element. -/
def afterAfterBody (t : Token) : Construction Next := do
  match t with
  | .text cs => if isBlankText cs then inBody t else againIn .inBody t
  | .comment cs =>
    appendCommentTo (← get).tree.root cs
    done
  | .endOfText => done
  | .tag tag => if isRootStart tag then mergeRoot tag else againIn .inBody t
  | _ => againIn .inBody t

/-! ### Framesets -/

/-- Blanks and comments in and after a frameset; all else goes to `tag`. -/
def aroundFrameset (tag : Tag → Construction Next) (t : Token) : Construction Next := do
  match t with
  | .text cs =>
    if isBlankText cs then appendText cs
    done
  | .comment cs =>
    appendComment cs
    done
  | .tag t => if isRootStart t then mergeRoot t else tag t
  | _ => done

/-- The end of a frameset. -/
def framesetEnd : Construction Next := do
  let b ← get
  if b.stack.length != 1 then
    pop
    if !b.isFragment && !(← currentIs (isNamed "frameset")) then enter .afterFrameset
  done

/-- The rules in a frameset. -/
def inFrameset : Token → Construction Next := aroundFrameset fun t => do
  match t.isEnd, t.name with
  | false, "frameset" =>
    let _ ← insert t
    done
  | true, "frameset" => framesetEnd
  | false, "frame" =>
    insertEmpty t
    done
  | false, "noframes" => headStart t
  | _, _ => done

/-- The rules after a frameset. -/
def afterFrameset : Token → Construction Next := aroundFrameset fun t => do
  match t.isEnd, t.name with
  | true, "html" =>
    enter .afterAfterFrameset
    done
  | false, "noframes" => headStart t
  | _, _ => done

/-- The rules after the root element of a document with a frameset. -/
def afterAfterFrameset (t : Token) : Construction Next := do
  match t with
  | .text cs => if isBlankText cs then inBody t else done
  | .comment cs =>
    appendCommentTo (← get).tree.root cs
    done
  | .tag tag =>
    if isRootStart tag then mergeRoot tag
    else if !tag.isEnd && tag.name == "noframes" then headStart tag
    else done
  | _ => done

/-! ### The rules in force -/

/-- Hands a token to a set of rules. -/
def apply (mode : Mode) (t : Token) : Construction Next :=
  match mode with
  | .start => atStart t
  | .beforeHtml => beforeHtml t
  | .beforeHead => beforeHead t
  | .inHead => inHead t
  | .afterHead => afterHead t
  | .inBody => inBody t
  | .inText => inText t
  | .inTable => inTable t
  | .inTableText => inTableText t
  | .inCaption => inCaption t
  | .inColumnGroup => inColumnGroup t
  | .inTableBody => inTableBody t
  | .inRow => inRow t
  | .inCell => inCell t
  | .inSelect => inSelect t
  | .inSelectInTable => inSelectInTable t
  | .inTemplate => inTemplate t
  | .afterBody => afterBody t
  | .inFrameset => inFrameset t
  | .afterFrameset => afterFrameset t
  | .afterAfterBody => afterAfterBody t
  | .afterAfterFrameset => afterAfterFrameset t

/-- Hands a token to the rules in force, up to `n` times. -/
def handle : Nat → Token → Construction Unit
  | 0, _ => pure ()
  | n + 1, t => do
    let b ← get
    let ordinary (t : Token) : Construction Next := do apply (← get).mode t
    let next ← if isForeign b t then foreign ordinary t else ordinary t
    match next with
    | .done => pure ()
    | .again t => handle n t

/-- Whether blanks and other text are told apart by the rules. -/
def splitsText : Mode → Bool
  | .start | .beforeHtml | .beforeHead | .inHead | .afterHead | .inColumnGroup | .afterBody
  | .inFrameset | .afterFrameset | .afterAfterBody | .afterAfterFrameset => true
  | _ => false

/-- The run of blanks, or of other characters, at the head of a text. -/
def firstRun (cs : List Char) : List Char :=
  let isBlank := (cs.head?.map isBlankChar).getD false
  cs.takeWhile fun c => isBlankChar c == isBlank

/-- How often a token may be handled again. -/
def rounds (b : Builder) : Nat := 2 * (b.stack.length + b.templateModes.length) + 32

/-- Hands a text to the rules in force, up to `n` runs of it. -/
def takeText : Nat → List Char → Construction Unit
  | 0, _ => pure ()
  | _ + 1, [] => pure ()
  | n + 1, cs => do
    let b ← get
    let run := if splitsText b.mode && !isInForeign b then firstRun cs else cs
    handle (rounds b) (.text run)
    takeText n (cs.drop run.length)

/-- A document type declaration, which is only kept at the start. -/
def takeDoctype (d : Doctype) : Construction Unit := do
  let b ← get
  if b.mode == .start then
    putAt (.last b.tree.root) (← alloc (.doctype (d.name.getD "")))
    modify fun b => { b with isLenient := d.asksForOldRules, mode := .beforeHtml }

/-- Takes a token into the tree. -/
def take (t : Token) : Construction Unit := do
  let skips := (← get).skipsLineFeed
  modify fun b => { b with skipsLineFeed := false }
  match t with
  | .doctype d => takeDoctype d
  | .fault => pure ()
  | .text cs =>
    let cs := match cs with
      | '\n' :: rest => if skips then rest else cs
      | _ => cs
    takeText cs.length cs
  | .tag _ =>
    modify fun b => { b with reading := .markup }
    handle (rounds (← get)) t
  | _ => handle (rounds (← get)) t

end SourceEdit.Markup.Builder
