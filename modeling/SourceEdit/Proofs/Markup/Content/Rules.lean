import SourceEdit.Proofs.Markup.Content.Formatting

/-!
# The rules for the content of a body

A start tag of a wrapper is left out, or only adds attributes to an element that is there, so whatever
is put into the tree is called otherwise: its name is in one of the lists that the rules go by, or is
none of those that are handled on their own.
-/

namespace SourceEdit.Markup.Builder

variable {F : String → Prop}

/-! ### Start tags in a body -/

section Start

variable {t : Tag} (h : isDocumentName t.name = false)

include h

/-- A tag that no rule is made for. -/
@[grind ←]
theorem stays_openElement : Stays F (openElement t) := by
  unfold openElement
  grind

@[grind ←]
theorem stays_blockStart : Stays F (blockStart t) := by
  unfold blockStart
  grind

@[grind ←]
theorem stays_headingStart : Stays F (headingStart t) := by
  unfold headingStart
  grind

/-- Preformatted text leaves out its first line feed. -/
@[grind ←]
theorem stays_preformattedStart : Stays F (preformattedStart t) := by
  unfold preformattedStart
  grind

/-- A form is opened unless one is open. -/
@[grind ←]
theorem stays_formStart : Stays F (formStart t) := by
  unfold formStart
  grind

/-- An item ends the item before it. -/
@[grind ←]
theorem stays_itemStart : Stays F (itemStart t) := by
  unfold itemStart
  grind

/-- A button ends the button around it. -/
@[grind ←]
theorem stays_buttonStart : Stays F (buttonStart t) := by
  unfold buttonStart
  grind

@[grind ←]
theorem stays_formattingStart : Stays F (formattingStart t) := by
  unfold formattingStart
  grind

/-- An element of its own kind is not opened inside another one. -/
@[grind ←]
theorem stays_noBreakStart : Stays F (noBreakStart t) := by
  unfold noBreakStart
  grind

/-- An object is a barrier for formatting elements. -/
@[grind ←]
theorem stays_objectStart : Stays F (objectStart t) := by
  unfold objectStart
  grind

/-- A table ends a paragraph, and changes the rules. -/
@[grind ←]
theorem stays_tableStart : Stays F (tableStart t) := by
  unfold tableStart
  grind

@[grind ←]
theorem stays_emptyStart : Stays F (emptyStart t) := by
  unfold emptyStart
  grind

/-- The rules for selections depend on whether a table is open. -/
@[grind ←]
theorem stays_selectStart : Stays F (selectStart t) := by
  unfold selectStart
  grind

@[grind ←]
theorem stays_optionStart : Stays F (optionStart t) := by
  unfold optionStart
  grind

@[grind ←]
theorem stays_rubyStart (kept : String) : Stays F (rubyStart t kept) := by
  unfold rubyStart
  grind

/-- A frameset never replaces the body when the content of a body is read. -/
@[grind ←]
theorem stays_framesetStart : Stays F (framesetStart t) := by
  unfold framesetStart
  refine .bind .get fun b hb => .bind stays_body? fun e _ => ?_
  split <;> grind

@[grind ←]
theorem stays_rawStart : Stays F (rawStart t) := by
  unfold rawStart
  grind

end Start

/-- A second body tag gives its attributes to the element that is node 2, if there is one. -/
@[grind ←]
theorem stays_mergeBody (t : Tag) : Stays F (mergeBody t) := by
  unfold mergeBody
  grind

/-- The tags of the root and of a body add attributes only, and that of a head is left out. -/
theorem stays_bodyStart {t : Tag} (ht : Token.Fits F (.tag t)) (hend : t.isEnd = false) :
    Stays F (bodyStart t) := by
  cases h : isDocumentName t.name with
  | false =>
    have hname : F t.name := (ht hend).1
    have hsvg := @stays_insertForeign F .svg (by decide) t hname
    have hmath := @stays_insertForeign F .math (by decide) t hname
    have hnamed : Stays F (namedStart t) := by
      unfold namedStart
      grind
    unfold bodyStart
    dsimp only
    repeat' refine .ite ?_ ?_
    all_goals grind
  | true =>
    obtain hname | hname | hname := isDocumentName_eq_true h
    · rw [show bodyStart t = mergeRoot t by
        simp [bodyStart, namedStart, hname, headContent, blocks, formattingNames, misplaced]]
      exact stays_mergeRoot t
    · rw [show bodyStart t = done by
        simp [bodyStart, hname, headContent, blocks, formattingNames, misplaced]]
      exact stays_done
    · rw [show bodyStart t = mergeBody t by
        simp [bodyStart, namedStart, hname, headContent, blocks, formattingNames, misplaced]]
      exact stays_mergeBody t

/-! ### End tags in a body -/

@[grind ←]
theorem stays_blockEnd (name : String) : Stays F (blockEnd name) := by
  unfold blockEnd
  grind

@[grind ←]
theorem stays_formEnd : Stays F formEnd := by
  unfold formEnd
  grind

@[grind ←]
theorem stays_paragraphEnd : Stays F paragraphEnd := by
  have hname : isDocumentName "p" = false := rfl
  unfold paragraphEnd
  grind

@[grind ←]
theorem stays_itemEnd (name : String) : Stays F (itemEnd name) := by
  unfold itemEnd
  grind

@[grind ←]
theorem stays_headingEnd : Stays F headingEnd := by
  unfold headingEnd
  grind

@[grind ←]
theorem stays_objectEnd (name : String) : Stays F (objectEnd name) := by
  unfold objectEnd
  grind

/-- Every end tag. -/
@[grind ←]
theorem stays_bodyEnd {t : Tag} (ht : Token.Fits F (.tag t)) : Stays F (bodyEnd t) := by
  have hbreak : Stays F (emptyStart { name := "br" }) := stays_emptyStart rfl
  unfold bodyEnd
  grind

/-! ### All tokens in a body -/

section Tokens

variable {t : Token} (ht : Token.Fits F t)

include ht

/-- Every token that comes up in a body. -/
theorem stays_inBody : Stays F (inBody t) := by
  unfold inBody
  grind [stays_bodyStart]

/-- The content of a table that does not belong there is put before the table. -/
theorem stays_inBodyOutOfTable : Stays F (inBodyOutOfTable t) := by
  have hbody := stays_inBody ht
  unfold inBodyOutOfTable
  grind

theorem stays_inText : Stays F (inText t) := by
  unfold inText
  grind

end Tokens

/-! ### Tables -/

@[grind ←]
theorem stays_clearToGroup : Stays F clearToGroup := stays_popTo _

@[grind ←]
theorem stays_clearToRow : Stays F clearToRow := stays_popTo _

@[grind ←]
theorem stays_clearToTable : Stays F clearToTable := stays_popTo _

/-- A part of a table is opened, with the rules for it. -/
@[grind ←]
theorem stays_openWith {mode : Mode} (hmode : Mode.isInner mode = true) {t : Tag}
    (h : isDocumentName t.name = false) : Stays F (openWith mode t) := by
  unfold openWith
  grind

/-- The rules for a table change while its texts are gathered. -/
@[grind ←]
theorem stays_textInTable {t : Token} (ht : Token.Fits F t) : Stays F (textInTable t) := by
  have hbody := stays_inBodyOutOfTable ht
  unfold textInTable
  grind

/-- Texts that have been gathered and are not blank are put before the table. -/
@[grind ←]
theorem stays_putOutOfTable (texts : List (List Char)) : Stays F (putOutOfTable texts) := by
  induction texts with
  | nil => exact .pure trivial
  | cons cs rest ih => exact .bind (stays_inBodyOutOfTable trivial) fun _ _ => ih

theorem stays_inTableText {t : Token} (ht : Token.Fits F t) : Stays F (inTableText t) := by
  unfold inTableText
  grind [Stays.forM]

@[grind ←]
theorem stays_tableTagStart {t : Tag} (ht : Token.Fits F (.tag t)) : Stays F (tableTagStart t) := by
  have hbody := stays_inBodyOutOfTable ht
  cases h : isDocumentName t.name with
  | false =>
    have hcolgroup : isDocumentName "colgroup" = false := rfl
    have htbody : isDocumentName "tbody" = false := rfl
    have hform (attributes : List Attribute) := @fits_ordinary F t.name h attributes
    unfold tableTagStart
    grind
  | true =>
    rw [show tableTagStart t = inBodyOutOfTable (.tag t) by
      obtain hname | hname | hname := isDocumentName_eq_true h <;> simp [tableTagStart, hname]]
    exact hbody

@[grind ←]
theorem stays_tableTagEnd {t : Tag} (ht : Token.Fits F (.tag t)) : Stays F (tableTagEnd t) := by
  have hbody := stays_inBodyOutOfTable ht
  unfold tableTagEnd
  grind

section Parts

variable {t : Token} (ht : Token.Fits F t)

include ht

theorem stays_inTable : Stays F (inTable t) := by
  have hbody := stays_inBody ht
  unfold inTable
  grind

theorem stays_inCaption : Stays F (inCaption t) := by
  have hbody := stays_inBody ht
  unfold inCaption
  dsimp only
  split
  · refine .ite ?_ (.ite stays_done hbody)
    grind
  · exact hbody

theorem stays_inColumnGroup : Stays F (inColumnGroup t) := by
  have hbody := stays_inBody ht
  have hcol (t : Tag) (h : t.name = "col") : isDocumentName t.name = false := by rw [h]; rfl
  have htemplate (t : Tag) (h : t.name = "template") : isDocumentName t.name = false := by rw [h]; rfl
  unfold inColumnGroup
  grind

/-! ### Rows and cells -/

theorem stays_inTableBody : Stays F (inTableBody t) := by
  have htable := stays_inTable ht
  have htr : isDocumentName "tr" = false := rfl
  unfold inTableBody
  grind

/-- A row is closed if one is open. -/
@[grind ←]
theorem stays_leaveRow : Stays F (leaveRow t) := by
  unfold leaveRow
  grind

theorem stays_inRow : Stays F (inRow t) := by
  have htable := stays_inTable ht
  have hcell (t : Tag) (h : t.name = "th" ∨ t.name = "td") : isDocumentName t.name = false := by
    obtain h | h := h <;> rw [h] <;> rfl
  unfold inRow
  grind

omit ht in
/-- A cell is closed, with the formatting elements that were opened in it. -/
@[grind ←]
theorem stays_closeCell : Stays F closeCell := by
  unfold closeCell
  grind

theorem stays_inCell : Stays F (inCell t) := by
  have hbody := stays_inBody ht
  unfold inCell
  split
  · refine .ite (.ite ?_ (.ite ?_ (.ite stays_done hbody))) (.ite ?_ hbody)
    all_goals grind
  · exact hbody

end Parts

/-! ### Selections -/

/-- A selection is closed if one is open. -/
@[grind ←]
theorem stays_leaveSelect {t : Token} (ht : Token.Fits F t) : Stays F (leaveSelect t) := by
  unfold leaveSelect
  grind

@[grind ←]
theorem stays_optionGroupEnd : Stays F optionGroupEnd := by
  unfold optionGroupEnd
  grind

/-- Every tag inside a selection. -/
@[grind ←]
theorem stays_selectTag {t : Tag} (ht : Token.Fits F (.tag t)) : Stays F (selectTag t) := by
  cases h : isDocumentName t.name with
  | false =>
    unfold selectTag
    split <;> grind
  | true =>
    have hname := isDocumentName_eq_true h
    unfold selectTag
    split <;> grind

section Rest

variable {t : Token} (ht : Token.Fits F t)

include ht

theorem stays_inSelect : Stays F (inSelect t) := by
  have hbody := stays_inBody ht
  unfold inSelect
  grind

theorem stays_inSelectInTable : Stays F (inSelectInTable t) := by
  have hselect := stays_inSelect ht
  unfold inSelectInTable
  grind

/-! ### Templates -/

/-- The rules for the content of a template depend on what comes first in it. -/
@[grind ←]
theorem stays_asTemplateContent {mode : Mode} (hmode : Mode.isInner mode = true) :
    Stays F (asTemplateContent mode t) := by
  unfold asTemplateContent
  grind

theorem stays_inTemplate : Stays F (inTemplate t) := by
  have hbody := stays_inBody ht
  unfold inTemplate
  split
  · exact hbody
  · exact hbody
  · exact stays_endInTemplate
  · next tag =>
    cases h : isDocumentName tag.name with
    | false => grind
    | true =>
      have hhead : headContent.contains tag.name = false := by
        obtain hname | hname | hname := isDocumentName_eq_true h <;> simp [headContent, hname]
      grind
  · exact stays_done

/-! ### After the body -/

/-- What comes after a body goes into it, or under the outermost element as a comment. -/
theorem stays_afterBody : Stays F (afterBody t) := by
  have hbody := stays_inBody ht
  unfold afterBody
  grind

theorem stays_afterAfterBody : Stays F (afterAfterBody t) := by
  have hbody := stays_inBody ht
  unfold afterAfterBody
  grind

/-! ### Framesets -/

omit ht in
/-- What the rules for framesets have in common. -/
@[grind ←]
theorem stays_aroundFrameset {tag : Tag → Construction Next} (htag : ∀ t, Stays F (tag t))
    (t : Token) : Stays F (aroundFrameset tag t) := by
  unfold aroundFrameset
  grind

omit ht in
@[grind ←]
theorem stays_framesetEnd : Stays F framesetEnd := by
  unfold framesetEnd
  grind

omit ht in
theorem stays_inFrameset (t : Token) : Stays F (inFrameset t) := by
  refine stays_aroundFrameset (fun t => ?_) t
  have hname (h : t.name = "frameset" ∨ t.name = "frame" ∨ t.name = "noframes") :
      isDocumentName t.name = false := by
    obtain h | h | h := h <;> rw [h] <;> rfl
  split <;> grind

omit ht in
theorem stays_afterFrameset (t : Token) : Stays F (afterFrameset t) := by
  refine stays_aroundFrameset (fun t => ?_) t
  have hname (h : t.name = "noframes") : isDocumentName t.name = false := by rw [h]; rfl
  split <;> grind

theorem stays_afterAfterFrameset : Stays F (afterAfterFrameset t) := by
  have hbody := stays_inBody ht
  have hname (t : Tag) (h : t.name = "noframes") : isDocumentName t.name = false := by rw [h]; rfl
  unfold afterAfterFrameset
  grind

/-! ### The rules in force -/

/-- Whatever rules are in force, as long as they are for a body or for what is inside it. -/
theorem stays_apply {mode : Mode} (hmode : Mode.isInner mode = true) : Stays F (apply mode t) := by
  cases mode with
  | start | beforeHtml | beforeHead | inHead | afterHead => cases hmode
  | inBody => exact stays_inBody ht
  | inText => exact stays_inText ht
  | inTable => exact stays_inTable ht
  | inTableText => exact stays_inTableText ht
  | inCaption => exact stays_inCaption ht
  | inColumnGroup => exact stays_inColumnGroup ht
  | inTableBody => exact stays_inTableBody ht
  | inRow => exact stays_inRow ht
  | inCell => exact stays_inCell ht
  | inSelect => exact stays_inSelect ht
  | inSelectInTable => exact stays_inSelectInTable ht
  | inTemplate => exact stays_inTemplate ht
  | afterBody => exact stays_afterBody ht
  | inFrameset => exact stays_inFrameset t
  | afterFrameset => exact stays_afterFrameset t
  | afterAfterBody => exact stays_afterAfterBody ht
  | afterAfterFrameset => exact stays_afterAfterFrameset ht

end Rest

/-- A token is handled in so many rounds at most. -/
theorem stays_handle (n : Nat) {t : Token} (ht : Token.Fits F t) : Stays F (handle n t) := by
  induction n generalizing t with
  | zero => exact .pure trivial
  | succ n ih =>
    have hordinary : ∀ t, Token.Fits F t → Stays F (do apply (← get).mode t) := fun t ht =>
      .bind .get fun b hb => stays_apply ht hb.mode
    unfold handle
    -- the foreign rules are for the state in which they are chosen
    intro b hb
    refine .get_bind ?_
    dsimp only
    split_ifs with hforeign
    · exact (staysAt_foreign hordinary ht hb hforeign).bind fun next hnext => by grind
    · exact (hordinary t ht b hb).bind fun next hnext => by grind

/-- The characters of a text, run by run. -/
theorem stays_takeText (n : Nat) (cs : List Char) : Stays F (takeText n cs) := by
  induction n generalizing cs with
  | zero => exact .pure trivial
  | succ n ih =>
    unfold takeText
    cases cs with
    | nil => exact .pure trivial
    | cons c cs => exact .bind .get fun b _ => .bind (stays_handle _ trivial) fun _ _ => ih _

/-- A document type declaration is left out. -/
theorem stays_takeDoctype (d : Doctype) : Stays F (takeDoctype d) := by
  unfold takeDoctype
  refine .bind .get fun b hb => ?_
  have hmode := hb.mode
  have hstart : (b.mode == .start) = false := by
    cases h : b.mode <;> simp_all [Mode.isInner]
  rw [hstart]
  exact .pure trivial

/-- Taking a token goes on with the content of a body. -/
theorem stays_take {t : Token} (ht : Token.Fits F t) : Stays F (take t) := by
  unfold take
  refine .bind .get fun b hb => .bind (.modify fun b hb => by grind) fun _ _ => ?_
  split
  · exact stays_takeDoctype _
  · exact .pure trivial
  · exact stays_takeText _ _
  · exact .bind (.modify fun b hb => by grind) fun _ _ => .bind .get fun b _ => stays_handle _ ht
  · exact .bind .get fun b _ => stays_handle _ ht

end SourceEdit.Markup.Builder
