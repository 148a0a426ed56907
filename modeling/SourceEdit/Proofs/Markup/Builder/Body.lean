import SourceEdit.Markup.Builder.Body
import SourceEdit.Proofs.Markup.Builder.Head

/-!
# The rules in the body
-/

namespace SourceEdit.Markup.Builder

/-! ### Start tags -/

/-- A tag may be read as one of another name. -/
theorem isSound_renamed {t : Tag} (h : IsSound t) {name : String}
    (hname : isTagName name.toList = true ∧ isSmall name.toList = true) :
    IsSound { t with name } := ⟨hname, h.2⟩

section Start

variable {t : Tag} (ht : IsSound t)

include ht

/-- A tag that no rule is made for. -/
@[grind ←]
theorem keeps_openElement : Keeps (openElement t) := by
  unfold openElement
  grind

/-- A block ends the paragraph before it. -/
@[grind ←]
theorem keeps_blockStart : Keeps (blockStart t) := by
  unfold blockStart
  grind

/-- A heading ends the heading before it. -/
@[grind ←]
theorem keeps_headingStart : Keeps (headingStart t) := by
  unfold headingStart
  grind

/-- Preformatted text leaves out its first line feed. -/
@[grind ←]
theorem keeps_preformattedStart : Keeps (preformattedStart t) := by
  unfold preformattedStart
  grind

/-- A form is opened unless one is open. -/
@[grind ←]
theorem keeps_formStart : Keeps (formStart t) := by
  unfold formStart
  grind

/-- An item ends the item before it. -/
@[grind ←]
theorem keeps_itemStart : Keeps (itemStart t) := by
  unfold itemStart
  grind

/-- A button ends the button around it. -/
@[grind ←]
theorem keeps_buttonStart : Keeps (buttonStart t) := by
  unfold buttonStart
  grind

/-- A formatting element is remembered with its tag. -/
@[grind ←]
theorem keeps_formattingStart : Keeps (formattingStart t) := by
  unfold formattingStart
  grind

/-- An element of its own kind is not opened inside another one. -/
@[grind ←]
theorem keeps_noBreakStart : Keeps (noBreakStart t) := by
  unfold noBreakStart
  grind

/-- An object is a barrier for formatting elements. -/
@[grind ←]
theorem keeps_objectStart : Keeps (objectStart t) := by
  unfold objectStart
  grind

/-- A table ends a paragraph, and changes the rules. -/
@[grind ←]
theorem keeps_tableStart : Keeps (tableStart t) := by
  unfold tableStart
  grind

/-- An element without content is closed at once. -/
@[grind ←]
theorem keeps_emptyStart : Keeps (emptyStart t) := by
  unfold emptyStart
  grind

/-- The rules for selections depend on whether a table is open. -/
@[grind ←]
theorem keeps_selectStart : Keeps (selectStart t) := by
  unfold selectStart
  grind

@[grind ←]
theorem keeps_optionStart : Keeps (optionStart t) := by
  unfold optionStart
  grind

@[grind ←]
theorem keeps_rubyStart (kept : String) : Keeps (rubyStart t kept) := by
  unfold rubyStart
  grind

/-- A second body tag gives its attributes to the body that is there. -/
@[grind ←]
theorem keeps_mergeBody : Keeps (mergeBody t) := by
  unfold mergeBody
  grind

/-- A frameset takes the place of a body that is still empty. -/
@[grind ←]
theorem keeps_framesetStart : Keeps (framesetStart t) := by
  unfold framesetStart
  refine .bind .get fun b hb => .bind keeps_body? fun e _ => ?_
  split <;> grind

/-- An element whose content is raw text. -/
@[grind ←]
theorem keeps_rawStart : Keeps (rawStart t) := by
  unfold rawStart
  grind

/-- A start tag that a rule is made for. -/
@[grind ←]
theorem keeps_namedStart : Keeps (namedStart t) := by
  have himage : IsSound { t with name := "img" } := isSound_renamed ht (by decide)
  unfold namedStart
  grind

/-- Every start tag. -/
@[grind ←]
theorem keeps_bodyStart : Keeps (bodyStart t) := by
  unfold bodyStart
  repeat' refine .ite ?_ ?_
  all_goals grind

end Start

/-! ### End tags -/

@[grind ←]
theorem keeps_blockEnd (name : String) : Keeps (blockEnd name) := by
  unfold blockEnd
  grind

@[grind ←]
theorem keeps_formEnd : Keeps formEnd := by
  unfold formEnd
  grind

@[grind ←]
theorem keeps_paragraphEnd : Keeps paragraphEnd := by
  unfold paragraphEnd
  grind

@[grind ←]
theorem keeps_itemEnd (name : String) : Keeps (itemEnd name) := by
  unfold itemEnd
  grind

@[grind ←]
theorem keeps_headingEnd : Keeps headingEnd := by
  unfold headingEnd
  grind

@[grind ←]
theorem keeps_objectEnd (name : String) : Keeps (objectEnd name) := by
  unfold objectEnd
  grind

/-- Every end tag. -/
@[grind ←]
theorem keeps_bodyEnd {t : Tag} (ht : IsSound t) : Keeps (bodyEnd t) := by
  have hbreak : IsSound ({ name := "br" } : Tag) := ⟨by decide, .nil⟩
  unfold bodyEnd
  grind

/-! ### All tokens -/

section Tokens

variable {t : Token} (ht : IsSound t)

include ht

/-- Every token. -/
theorem keeps_inBody : Keeps (inBody t) := by
  unfold inBody
  grind

/-- The content of a table that does not belong there is put before the table. -/
theorem keeps_inBodyOutOfTable : Keeps (inBodyOutOfTable t) := by
  have hbody := keeps_inBody ht
  unfold inBodyOutOfTable
  grind

/-- The content of an element that holds nothing but text. -/
theorem keeps_inText : Keeps (inText t) := by
  unfold inText
  grind

end Tokens

end SourceEdit.Markup.Builder
