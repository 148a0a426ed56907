import SourceEdit.Selector.Pattern
import SourceEdit.Stylesheet.Printer

/-!
# Editing stylesheets

A selector addresses every rule in the tree that it matches, at any depth, in document order.
`Stylesheet.edit` carries out one modification and says how many edits it made:

* an update sets the value of the declarations of a property in the addressed rules;
* an insertion with a property adds a declaration to every addressed rule, one without a property
  adds top-level items;
* a deletion removes the declarations of a property, or the addressed rules themselves;
* a replacement puts one item in place of the first addressed rule.
-/

namespace SourceEdit.Stylesheet

/-- The selector of a rule. -/
def Node.selector? : Node → Option String
  | .rule selector => some selector
  | _ => none

/-- Whether a node is a rule that the pattern matches. -/
def Node.isMatch (p : SelectorPattern) (n : Node) : Bool :=
  match n with
  | .rule selector => p.isMatch selector
  | _ => false

/-- The rules of a stylesheet that match a pattern, in document order. -/
def rulesMatching (sheet : Stylesheet) (p : SelectorPattern) : List NodeId :=
  (sheet.descendants sheet.root).filter fun id =>
    match sheet.get? id with
    | some n => n.isMatch p
    | none => false

/-- The rules that a target addresses. -/
def locate (sheet : Stylesheet) (target : Target) : Except EditError (List NodeId) :=
  match target.selector with
  | none => .error .missingStylesheetSelector
  | some selector => return sheet.rulesMatching (← SelectorPattern.ofText selector)

/-- Whether a node is a declaration of a property. -/
def Node.declares (property : String) : Node → Bool
  | .declaration p _ => eqIgnoringCase p.toList property.toList
  | _ => false

/-- The declarations of a property in a rule. -/
def declarationsNamed (sheet : Stylesheet) (rule : NodeId) (property : String) : List NodeId :=
  (sheet.children rule).filter fun id =>
    match sheet.get? id with
    | some n => n.declares property
    | none => false

/-- Sets the value of a declaration. -/
def Node.withValue (value : String) : Node → Node
  | .declaration p _ => .declaration p value
  | n => n

/-- Sets the value of a property in every rule. -/
def updateDeclarations (sheet : Stylesheet) (rules : List NodeId) (property value : String) :
    Edited Stylesheet :=
  let (sheet, count) := rules.foldl (fun (sheet, count) rule =>
    let ids := sheet.declarationsNamed rule property
    (ids.foldl (fun sheet id => sheet.modifyValue id (.withValue value)) sheet,
      count + ids.length)) (sheet, 0)
  .done sheet count

/-- The declaration that an insertion adds. -/
def insertedDeclaration (property value : String) : Node :=
  .declaration (String.ofList (trim property.toList))
    (String.ofList (trim (trimEndBy (· == ';') (trim value.toList))))

/-- Adds a declaration to a rule. -/
def insertDeclaration (declaration : Node) (position : Option Position) (sheet : Stylesheet)
    (rule : NodeId) : Stylesheet :=
  let (sheet, id) := sheet.alloc declaration
  match position with
  | some .prepend | some .before => sheet.insertChild rule 0 id
  | _ => sheet.appendChild rule id

/-- Adds a declaration to every rule. -/
def insertDeclarations (sheet : Stylesheet) (rules : List NodeId) (property value : String)
    (position : Option Position) : Edited Stylesheet :=
  .done (rules.foldl (insertDeclaration (insertedDeclaration property value) position) sheet)
    rules.length

/-- Adds the items of a text at the end of the stylesheet. The text is read into the arena before
its items are looked at. -/
def insertItems (sheet : Stylesheet) (value : String) : Edited Stylesheet :=
  let items := itemsOfText value
  let (sheet, nodes) := sheet.graftAll items
  if items.any (·.value.isDeclaration) || !items.any (·.value.isRule) then
    .failed sheet (.noRules value)
  else .done (sheet.appendChildren sheet.root nodes) nodes.length

/-- Removes the declarations of a property from every rule. -/
def deleteDeclarations (sheet : Stylesheet) (rules : List NodeId) (property : String) :
    Edited Stylesheet :=
  let (sheet, count) := rules.foldl (fun (sheet, count) rule =>
    let ids := sheet.declarationsNamed rule property
    (ids.foldl (fun sheet id => sheet.detach id) sheet, count + ids.length)) (sheet, 0)
  .done sheet count

/-- Removes every rule. -/
def deleteRules (sheet : Stylesheet) (rules : List NodeId) : Edited Stylesheet :=
  .done (rules.foldl (fun sheet id => sheet.detach id) sheet) rules.length

/-- The item that a text offers in place of a rule: its first item that is not a comment, if that
item has a block. -/
def replacement? (items : List (Tree Node)) (nodes : List NodeId) : Option NodeId :=
  match (items.zip nodes).find? fun (item, _) => !item.value.isComment with
  | some (item, id) => if item.value.hasBlock then some id else none
  | none => none

/-- Puts the item of a text in place of the first rule. The text is read into the arena before its
items are looked at. -/
def replaceRule (sheet : Stylesheet) (rules : List NodeId) (value : String) : Edited Stylesheet :=
  match rules with
  | [] => .done sheet 0
  | first :: _ =>
    let items := itemsOfText value
    let (sheet, nodes) := sheet.graftAll items
    match replacement? items nodes with
    | none => .failed sheet (.noRule value)
    | some id =>
      match sheet.replace? first id with
      | some sheet => .done sheet 1
      | none => .done sheet 0

/-- Carries out one modification on the rules that it addresses. -/
def editRules (sheet : Stylesheet) (m : Modification) (rules : List NodeId) : Edited Stylesheet :=
  match m.operation, m.target.property with
  | .update, none => .failed sheet .missingProperty
  | .update, some property =>
    .needing sheet m.requiredValue fun value => sheet.updateDeclarations rules property value
  | .insert, none => .done sheet 0
  | .insert, some property =>
    .needing sheet m.requiredValue fun value =>
      sheet.insertDeclarations rules property value m.position
  | .delete, none => sheet.deleteRules rules
  | .delete, some property => sheet.deleteDeclarations rules property
  | .replace, _ => .needing sheet m.requiredValue fun value => sheet.replaceRule rules value

/-- Carries out one modification. Top-level items are added without a selector. -/
def edit (sheet : Stylesheet) (m : Modification) : Edited Stylesheet :=
  if m.operation = .insert ∧ m.target.property = none then
    .needing sheet m.requiredValue sheet.insertItems
  else .needing sheet (sheet.locate m.target) (sheet.editRules m)

end SourceEdit.Stylesheet
