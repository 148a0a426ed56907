import SourceEdit.Markup.Builder.Table
import SourceEdit.Proofs.Markup.Builder.Body

/-!
# The rules in tables
-/

namespace SourceEdit.Markup.Builder

/-- Elements are closed up to a group of rows. -/
@[grind ←]
theorem keeps_clearToGroup : Keeps clearToGroup := keeps_popTo _

/-- Elements are closed up to a row. -/
@[grind ←]
theorem keeps_clearToRow : Keeps clearToRow := keeps_popTo _

/-- Elements are closed up to a table. -/
@[grind ←]
theorem keeps_clearToTable : Keeps clearToTable := keeps_popTo _

/-- A part of a table is opened, with the rules for it. -/
@[grind ←]
theorem keeps_openWith (mode : Mode) {t : Tag} (ht : IsSound t) : Keeps (openWith mode t) := by
  unfold openWith
  grind

/-! ### Text -/

/-- The rules for a table change while its texts are gathered. -/
@[grind ←]
theorem keeps_textInTable {t : Token} (ht : IsSound t) : Keeps (textInTable t) := by
  have hbody := keeps_inBodyOutOfTable ht
  unfold textInTable
  grind

/-- Texts that have been gathered and are not blank are put before the table. -/
@[grind ←]
theorem keeps_putOutOfTable (texts : List (List Char)) : Keeps (putOutOfTable texts) := by
  induction texts with
  | nil =>
    unfold putOutOfTable
    grind
  | cons cs rest ih => exact .bind (keeps_inBodyOutOfTable trivial) fun _ _ => ih

/-- The texts of a table are put into the tree when another token comes. -/
theorem keeps_inTableText {t : Token} (ht : IsSound t) : Keeps (inTableText t) := by
  unfold inTableText
  grind [Keeps.forM]

/-! ### Tables -/

@[grind ←]
theorem keeps_tableTagStart {t : Tag} (ht : IsSound t) : Keeps (tableTagStart t) := by
  have hbody := @keeps_inBodyOutOfTable (.tag t) ht
  unfold tableTagStart
  grind

@[grind ←]
theorem keeps_tableTagEnd {t : Tag} (ht : IsSound t) : Keeps (tableTagEnd t) := by
  have hbody := @keeps_inBodyOutOfTable (.tag t) ht
  unfold tableTagEnd
  grind

variable {t : Token} (ht : IsSound t)

include ht

theorem keeps_inTable : Keeps (inTable t) := by
  have hbody := keeps_inBody ht
  unfold inTable
  grind

theorem keeps_inCaption : Keeps (inCaption t) := by
  have hbody := keeps_inBody ht
  unfold inCaption
  grind

theorem keeps_inColumnGroup : Keeps (inColumnGroup t) := by
  have hbody := keeps_inBody ht
  unfold inColumnGroup
  grind

/-! ### Rows and cells -/

theorem keeps_inTableBody : Keeps (inTableBody t) := by
  have htable := keeps_inTable ht
  unfold inTableBody
  grind

/-- A row is closed if one is open. -/
@[grind ←]
theorem keeps_leaveRow : Keeps (leaveRow t) := by
  unfold leaveRow
  grind

theorem keeps_inRow : Keeps (inRow t) := by
  have htable := keeps_inTable ht
  unfold inRow
  grind

omit ht in
/-- A cell is closed, with the formatting elements that were opened in it. -/
@[grind ←]
theorem keeps_closeCell : Keeps closeCell := by
  unfold closeCell
  grind

theorem keeps_inCell : Keeps (inCell t) := by
  have hbody := keeps_inBody ht
  unfold inCell
  grind

end SourceEdit.Markup.Builder
