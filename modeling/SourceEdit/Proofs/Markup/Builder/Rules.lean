import SourceEdit.Markup.Builder.Rules
import SourceEdit.Proofs.Markup.Builder.Table

/-!
# All rules

Every rule keeps states sound, and so does taking a token (`keeps_take`).
-/

namespace SourceEdit.Markup.Builder

/-! ### Selections -/

/-- A selection is closed if one is open. -/
@[grind ←]
theorem keeps_leaveSelect {t : Token} (ht : IsSound t) : Keeps (leaveSelect t) := by
  unfold leaveSelect
  grind

@[grind ←]
theorem keeps_optionGroupEnd : Keeps optionGroupEnd := by
  unfold optionGroupEnd
  grind

/-- Every tag inside a selection. -/
@[grind ←]
theorem keeps_selectTag {t : Tag} (ht : IsSound t) : Keeps (selectTag t) := by
  unfold selectTag
  split <;> grind

section Tokens

variable {t : Token} (ht : IsSound t)

include ht

theorem keeps_inSelect : Keeps (inSelect t) := by
  have hbody := keeps_inBody ht
  unfold inSelect
  grind

theorem keeps_inSelectInTable : Keeps (inSelectInTable t) := by
  have hselect := keeps_inSelect ht
  unfold inSelectInTable
  grind

/-! ### Templates -/

/-- The rules for the content of a template depend on what comes first in it. -/
@[grind ←]
theorem keeps_asTemplateContent (mode : Mode) : Keeps (asTemplateContent mode t) := by
  unfold asTemplateContent
  grind

theorem keeps_inTemplate : Keeps (inTemplate t) := by
  have hbody := keeps_inBody ht
  unfold inTemplate
  grind

/-! ### After the body -/

theorem keeps_afterBody : Keeps (afterBody t) := by
  have hbody := keeps_inBody ht
  unfold afterBody
  grind

theorem keeps_afterAfterBody : Keeps (afterAfterBody t) := by
  have hbody := keeps_inBody ht
  unfold afterAfterBody
  grind

/-! ### Framesets -/

/-- What the rules for framesets have in common. -/
@[grind ←]
theorem keeps_aroundFrameset {tag : Tag → Construction Next}
    (htag : ∀ t, IsSound t → Keeps (tag t)) : Keeps (aroundFrameset tag t) := by
  unfold aroundFrameset
  grind

omit ht in
@[grind ←]
theorem keeps_framesetEnd : Keeps framesetEnd := by
  unfold framesetEnd
  grind

theorem keeps_inFrameset : Keeps (inFrameset t) := by
  refine keeps_aroundFrameset ht fun t ht => ?_
  split <;> grind

theorem keeps_afterFrameset : Keeps (afterFrameset t) := by
  refine keeps_aroundFrameset ht fun t ht => ?_
  split <;> grind

theorem keeps_afterAfterFrameset : Keeps (afterAfterFrameset t) := by
  have hbody := keeps_inBody ht
  unfold afterAfterFrameset
  grind

/-! ### The rules in force -/

/-- Whatever rules are in force. -/
theorem keeps_apply (mode : Mode) : Keeps (apply mode t) := by
  cases mode with
  | start => exact keeps_atStart ht
  | beforeHtml => exact keeps_beforeHtml ht
  | beforeHead => exact keeps_beforeHead ht
  | inHead => exact keeps_inHead ht
  | afterHead => exact keeps_afterHead ht
  | inBody => exact keeps_inBody ht
  | inText => exact keeps_inText ht
  | inTable => exact keeps_inTable ht
  | inTableText => exact keeps_inTableText ht
  | inCaption => exact keeps_inCaption ht
  | inColumnGroup => exact keeps_inColumnGroup ht
  | inTableBody => exact keeps_inTableBody ht
  | inRow => exact keeps_inRow ht
  | inCell => exact keeps_inCell ht
  | inSelect => exact keeps_inSelect ht
  | inSelectInTable => exact keeps_inSelectInTable ht
  | inTemplate => exact keeps_inTemplate ht
  | afterBody => exact keeps_afterBody ht
  | inFrameset => exact keeps_inFrameset ht
  | afterFrameset => exact keeps_afterFrameset ht
  | afterAfterBody => exact keeps_afterAfterBody ht
  | afterAfterFrameset => exact keeps_afterAfterFrameset ht

end Tokens

/-- A token is handled in so many rounds at most. -/
@[grind ←]
theorem keeps_handle (n : Nat) {t : Token} (ht : IsSound t) : Keeps (handle n t) := by
  induction n generalizing t with
  | zero => exact .pure trivial
  | succ n ih =>
    have hordinary : ∀ t, IsSound t → Keeps (do apply (← get).mode t) := fun t ht =>
      .bind .get fun b _ => keeps_apply ht b.mode
    unfold handle
    -- the foreign rules are for the state in which they are chosen
    intro b hb
    refine .get_bind ?_
    dsimp only
    split_ifs with hforeign
    · exact (keepsAt_foreign hordinary ht hb hforeign).bind fun next hnext => by grind
    · exact (hordinary t ht b hb).bind fun next hnext => by grind

/-- The characters of a text, run by run. -/
@[grind ←]
theorem keeps_takeText (n : Nat) (cs : List Char) : Keeps (takeText n cs) := by
  induction n generalizing cs with
  | zero => exact .pure trivial
  | succ n ih =>
    unfold takeText
    cases cs with
    | nil => exact .pure trivial
    | cons c cs => grind

/-- A doctype becomes a node if it comes first, and is left out otherwise. -/
@[grind ←]
theorem keeps_takeDoctype (d : Doctype) : Keeps (takeDoctype d) := by
  unfold takeDoctype
  grind

/-- Every token of a text. -/
@[grind ←]
theorem keeps_take {t : Token} (ht : IsSound t) : Keeps (take t) := by
  unfold take
  refine .bind .get fun b hb => .bind (.modify fun b hb => hb) fun _ _ => ?_
  split <;> grind

end SourceEdit.Markup.Builder
