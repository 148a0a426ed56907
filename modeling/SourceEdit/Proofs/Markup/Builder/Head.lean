import SourceEdit.Markup.Builder.Foreign
import SourceEdit.Markup.Builder.Head
import SourceEdit.Proofs.Markup.Builder.Formatting

/-!
# The rules up to the head, and for foreign content

These rules keep states sound.  The rules for foreign content make elements in the namespace of the
current one, so there has to be a current element that is not ordinary markup.
-/

namespace SourceEdit.Markup.Builder

/-! ### Foreign content -/

/-- Nothing is asked of an element of graphics or formulas. -/
@[grind ←]
theorem keeps_insertForeign {space : Namespace} (h : space ≠ .html) (t : Tag) :
    Keeps (insertForeign space t) := by
  unfold insertForeign
  dsimp only
  split <;> grind

/-- The rules for foreign content are for tokens inside a foreign element. -/
theorem exists_of_isForeign {b : Builder} {t : Token} (h : isForeign b t = true) :
    ∃ e rest, b.stack = e :: rest ∧ e.name.space ≠ .html := by
  unfold isForeign at h
  split at h
  · cases h
  · next e rest hstack =>
    refine ⟨e, rest, hstack, fun hspace => ?_⟩
    rw [hspace] at h
    simp at h

/-- In foreign content, the rules for it keep the state sound. -/
theorem keepsAt_foreign {ordinary : Token → Construction Next}
    (hordinary : ∀ t, IsSound t → Keeps (ordinary t)) {t : Token} (ht : IsSound t) {b : Builder}
    (hb : IsSound b) (hforeign : isForeign b t = true) : KeepsAt (foreign ordinary t) b := by
  obtain ⟨e, rest, hstack, hspace⟩ := exists_of_isForeign hforeign
  unfold foreign
  split
  · exact (by grind : Keeps _) b hb
  · exact (by grind : Keeps _) b hb
  · exact (by grind : Keeps _) b hb
  · next tag =>
    split_ifs with hleaves hend
    · exact (by grind : Keeps _) b hb
    · exact (by grind : Keeps _) b hb
    · have hcurrent : current?.run b = (some e, b) :=
        show (b.stack.head?, b) = (some e, b) by rw [hstack, List.head?_cons]
      unfold KeepsAt
      rw [StateT.run_bind, hcurrent]
      exact keeps_insertForeign hspace _ b hb
  · exact (by grind : Keeps _) b hb

/-! ### Templates -/

/-- Finding the rules that fit the open elements changes nothing. -/
@[grind ←]
theorem keeps_fittingMode : Keeps fittingMode := by
  unfold fittingMode
  grind

@[grind ←]
theorem keeps_enterFitting : Keeps enterFitting := by
  unfold enterFitting
  grind

/-- A template is a barrier for formatting elements, and has rules for its content. -/
@[grind ←]
theorem keeps_openTemplate {t : Tag} (ht : IsSound t) : Keeps (openTemplate t) := by
  unfold openTemplate
  grind

/-- A template is closed with what is open in it. -/
@[grind ←]
theorem keeps_closeTemplate : Keeps closeTemplate := by
  unfold closeTemplate
  grind

/-- A text may end inside a template. -/
@[grind ←]
theorem keeps_endInTemplate : Keeps endInTemplate := by
  unfold endInTemplate
  grind

/-! ### The root -/

/-- A repeated tag of the outermost element gives its attributes to the one that is there. -/
@[grind ←]
theorem keeps_mergeRoot {t : Tag} (ht : IsSound t) : Keeps (mergeRoot t) := by
  unfold mergeRoot
  grind

variable {t : Token} (ht : IsSound t)

include ht

/-- Before the doctype. -/
theorem keeps_atStart : Keeps (atStart t) := by
  unfold atStart
  grind

/-- Before the outermost element, which is made when anything else comes. -/
theorem keeps_beforeHtml : Keeps (beforeHtml t) := by
  unfold beforeHtml
  grind

/-- Before the head, which is made when anything else comes. -/
theorem keeps_beforeHead : Keeps (beforeHead t) := by
  unfold beforeHead
  grind

/-! ### The head -/

omit ht in
/-- The start tags that belong into a head. -/
@[grind ←]
theorem keeps_headStart {t : Tag} (ht : IsSound t) : Keeps (headStart t) := by
  unfold headStart
  grind

theorem keeps_inHead : Keeps (inHead t) := by
  unfold inHead
  grind

omit ht in
/-- The start tags of a head that has been closed, which is opened for them once more. -/
@[grind ←]
theorem keeps_lateHeadStart {t : Tag} (ht : IsSound t) : Keeps (lateHeadStart t) := by
  unfold lateHeadStart
  grind

theorem keeps_afterHead : Keeps (afterHead t) := by
  unfold afterHead
  grind

end SourceEdit.Markup.Builder
