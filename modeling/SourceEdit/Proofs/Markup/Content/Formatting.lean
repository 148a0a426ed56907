import SourceEdit.Proofs.Markup.Content.Basic

/-!
# Formatting, templates and foreign content in the content of a body

Closing a formatting element around a block moves the block and its children.  These stand inside the
outermost element, so none of them is node 1.  The rules that fit the open elements are never those for
what comes before a body, since no wrapper is open inside the outermost element.
-/

namespace SourceEdit.Markup.Builder

variable {F : String → Prop}

/-! ### Formatting elements -/

/-- A change to the list of formatting elements alone. -/
@[grind ←]
theorem stays_editFormatting {f : List Formatting → List Formatting}
    (h : ∀ l, (∀ i ∈ l, Formatting.Fits i) → ∀ i ∈ f l, Formatting.Fits i) :
    Stays F (editFormatting f) := by
  unfold editFormatting
  grind

@[grind ←]
theorem stays_markFormatting : Stays F markFormatting :=
  stays_editFormatting fun _ h => List.forall_mem_cons.mpr ⟨trivial, h⟩

/-- The formatting elements since the last mark are forgotten. -/
@[grind ←]
theorem stays_dropToMark : Stays F dropToMark :=
  stays_editFormatting fun _ h i hi =>
    h i ((List.dropWhile_sublist _).subset (List.mem_of_mem_drop hi))

/-- A formatting element is forgotten. -/
@[grind ←]
theorem stays_removeFormatting (id : NodeId) : Stays F (removeFormatting id) :=
  stays_editFormatting fun _ h i hi => h i (List.mem_of_mem_eraseP hi)

/-- The formatting elements since the last mark are not called like wrappers. -/
theorem fits_sinceMark {items : List Formatting} (h : ∀ i ∈ items, Formatting.Fits i)
    {id : NodeId} {tag : Tag} (hmem : (id, tag) ∈ sinceMark items) :
    isDocumentName tag.name = false := by
  obtain ⟨item, hitem, heq⟩ := List.mem_filterMap.mp hmem
  have hitem := h item ((List.takeWhile_prefix _).subset hitem)
  cases item with
  | mark => cases heq
  | element other t =>
    cases heq
    exact hitem

/-- The element of a tag is opened and remembered. -/
@[grind ←]
theorem stays_insertFormatting {t : Tag} (h : isDocumentName t.name = false) :
    Stays F (insertFormatting t) := by
  have hitem (id : NodeId) : Formatting.Fits (.element id t) := h
  unfold insertFormatting
  grind

/-- Formatting elements are opened again with the tags that they were opened with. -/
@[grind ←]
theorem stays_reopenAll {items : List Formatting} (h : ∀ i ∈ items, Formatting.Fits i) :
    Stays F (reopenAll items) := by
  induction items with
  | nil =>
    unfold reopenAll
    grind
  | cons item rest ih =>
    obtain ⟨hitem, hrest⟩ := List.forall_mem_cons.mp h
    have ih := ih hrest
    cases item with
    | mark =>
      unfold reopenAll
      grind
    | element id tag =>
      have htag : isDocumentName tag.name = false := hitem
      unfold reopenAll
      grind

@[grind ←]
theorem stays_reopenFormatting : Stays F reopenFormatting := by
  unfold reopenFormatting
  refine .bind .get fun b hb => .bind (stays_reopenAll fun i hi => ?_) fun opened hopened => ?_
  · exact hb.formatting i ((List.takeWhile_prefix _).subset (List.mem_reverse.mp hi))
  · refine stays_editFormatting fun items h i hi => ?_
    obtain hi | hi := List.mem_append.mp hi
    · exact hopened i (List.mem_reverse.mp hi)
    · exact h i (List.mem_of_mem_drop hi)

/-! ### Closing in another order -/

/-- The elements between a formatting element and the block in it get copies, which are not
outermost. -/
@[grind ←]
theorem stays_splitBetween (count : Nat) {s : Split} (hs : Result.Fits F s) (es : List OpenElement) :
    Stays F (splitBetween count s es) := by
  induction es generalizing count s with
  | nil => exact .pure hs
  | cons e rest ih =>
    unfold splitBetween
    refine .bind .get fun b hb => ?_
    dsimp only
    split
    · next id tag hfind =>
      have htag : isDocumentName tag.name = false :=
        hb.formatting _ (List.mem_of_find?_eq_some hfind)
      refine .ite (.bind (stays_removeFormatting _) fun _ _ => ih _ hs) ?_
      refine .bind (stays_alloc (fits_ordinary htag _)) fun id hid => .bind ?_ fun _ _ => .bind ?_
        fun _ _ => ih _ ⟨hid, ?_⟩
      · refine stays_editFormatting fun items h i hi => ?_
        obtain ⟨item, hitem, rfl⟩ := List.mem_map.mp hi
        split
        · exact htag
        · exact h item hitem
      · exact stays_editTree fun tree htree =>
          isContentTree_appendChild (isContentTree_detach htree _) id hs.1
      · exact List.forall_mem_append.mpr
          ⟨hs.2, List.forall_mem_singleton.mpr ⟨hid, fun _ => htag⟩⟩
    · exact ih _ hs

/-- One formatting element takes the place of another one, or stands after the bookmark. -/
theorem fits_moveItem (old : NodeId) (bookmark : Option NodeId) {new : Formatting}
    (hnew : Formatting.Fits new) {items : List Formatting} (h : ∀ i ∈ items, Formatting.Fits i) :
    ∀ i ∈ moveItem old bookmark new items, Formatting.Fits i := by
  intro i hi
  unfold moveItem at hi
  cases bookmark with
  | none =>
    obtain ⟨item, hitem, rfl⟩ := List.mem_map.mp hi
    split
    · exact hnew
    · exact h item hitem
  | some id =>
    obtain ⟨item, hitem, hi⟩ := List.mem_flatMap.mp (List.mem_of_mem_eraseP hi)
    have hitem := h item hitem
    split at hi <;> grind

/-- A formatting element that a block was opened in is closed around the block and opened inside it.
-/
@[grind ←]
theorem stays_splitAround (id : NodeId) {tag : Tag} (htag : isDocumentName tag.name = false)
    {inside : List OpenElement} (hinside : ∀ e ∈ inside, IsInner e) (parent : OpenElement) :
    Stays F (splitAround id tag inside parent) := by
  unfold splitAround
  dsimp only
  split
  · exact .pure trivial
  · next block hblock =>
    have hmem := List.mem_of_getLast? hblock
    have hblock : IsInner block := hinside block (List.mem_of_mem_take hmem)
    refine .bind (stays_splitBetween 0 ⟨hblock.two_le, List.forall_mem_nil _⟩ _) fun s hs => ?_
    refine .bind (stays_editTree fun _ htree => isContentTree_detach htree _) fun _ _ => ?_
    refine .bind (stays_placeIn parent) fun p _ => .bind (stays_putAt p hs.1) fun _ _ => ?_
    refine .bind (stays_alloc (fits_ordinary htag _)) fun new hnew => ?_
    refine .bind (stays_editTree fun tree htree => ?_) fun _ _ => ?_
    · refine isContentTree_appendChild (isContentTree_foldl_appendChild htree new fun c hc => ?_) _ hnew
      exact (htree.children _ c hc).2 (Nat.ne_of_gt (Nat.lt_of_lt_of_le Nat.two_pos hblock.two_le))
    have hitem : Formatting.Fits (.element new tag) := htag
    refine .bind (stays_editFormatting fun items h => fits_moveItem _ _ hitem h) fun _ _ => ?_
    refine .modify fun b hb => ?_
    -- outside and inside of the block, only copies and the new element have been opened
    have houtside : AreInner ((b.stack.dropWhile (·.id != id)).drop 1) :=
      areInner_drop (areInner_dropWhile hb.stack _) 1
    have hcopies : AreInner (s.copies ++ (b.stack.dropWhile (·.id != id)).drop 1) :=
      areInner_append hs.2 houtside
    have hup : ∀ e ∈ (inside.take (inside.length -
        (inside.reverse.takeWhile fun e => !isSpecial e.name).reverse.length)).dropLast, IsInner e :=
      fun e he => hinside e (List.mem_of_mem_take (List.dropLast_subset _ he))
    have hstack := areInner_append hup (areInner_cons (e := ⟨new, { localName := tag.name }⟩)
      ⟨hnew, fun _ => htag⟩ (areInner_cons hblock hcopies))
    rw [isContent_iff] at hb ⊢
    simp only [List.append_assoc, List.cons_append] at hstack ⊢
    exact ⟨hb.1, hb.2.1, hb.2.2.1, hb.2.2.2.1, hstack, hb.2.2.2.2.2⟩

/-- An end tag that no rule is made for. -/
@[grind ←]
theorem stays_closeAnyOther (name : String) : Stays F (closeAnyOther name) := by
  unfold closeAnyOther
  grind

/-- One round of closing a formatting element. -/
@[grind ←]
theorem stays_closeRound (name : String) : Stays F (closeRound name) := by
  unfold closeRound
  refine .bind .get fun b hb => ?_
  dsimp only
  split
  · grind
  · next id tag hfind =>
    have htag := fits_sinceMark hb.formatting (List.mem_of_find?_eq_some hfind)
    split
    · grind
    · next e outside hdrop =>
      have hstack : b.stack.takeWhile (·.id != id) ++ e :: outside = b.stack := by
        rw [← hdrop]
        conv_rhs => rw [← List.take_append_drop (b.stack.takeWhile (·.id != id)).length b.stack]
        rw [← List.prefix_iff_eq_take.mp (List.takeWhile_prefix _)]
      have hall : AreInner (b.stack.takeWhile (·.id != id) ++ e :: outside) := by
        rw [hstack]
        exact hb.stack
      have hinside := hall.forall_mem_of_append_cons
      have houtside : AreInner outside :=
        hall.sublist ((List.sublist_cons_self e outside).trans (List.sublist_append_right ..))
      grind

/-- A step that is repeated up to a number of times. -/
@[grind ←]
theorem stays_repeatUpTo {step : Construction Bool} (h : Stays F step) (n : Nat) :
    Stays F (repeatUpTo step n) := by
  induction n with
  | zero =>
    unfold repeatUpTo
    grind
  | succ n ih =>
    unfold repeatUpTo
    grind

@[grind ←]
theorem stays_closeFormatting (name : String) : Stays F (closeFormatting name) := by
  unfold closeFormatting
  grind

/-- A link is closed before another one is opened. -/
@[grind ←]
theorem stays_closeLink : Stays F closeLink := by
  unfold closeLink
  grind

/-! ### Templates -/

/-- The rules for a selection are never those for what comes before a body. -/
theorem isInner_selectMode (stack : List OpenElement) : Mode.isInner (selectMode stack) = true := by
  induction stack with
  | nil => rfl
  | cons e stack ih =>
    unfold selectMode
    split_ifs
    · rfl
    · rfl
    · exact ih

/-- The rules that fit the open elements are for a body, since the outermost element is no head. -/
theorem isInner_modeFor {b : Builder} (hb : IsContent F b) {stack : List OpenElement}
    (hstack : AreInner stack) : Mode.isInner (modeFor b stack) = true := by
  have htemplates := hb.templateModes
  induction stack with
  | nil => rfl
  | cons e stack ih =>
    have ih := ih (areInner_of_cons hstack)
    unfold modeFor
    dsimp only
    split
    · exact ih
    · next hspace =>
      split
      · rfl
      next houtermost =>
      -- inside the outermost element, neither a head nor a root can be open
      have hne : stack ≠ [] := by
        rintro rfl
        simp [hb.isFragment] at houtermost
      have he : IsInner e := hstack e (by simp [List.dropLast_cons_of_ne_nil hne])
      have hname := he.not_document (by simpa using hspace)
      have hempty : stack.isEmpty = false := by simpa using hne
      simp only [hempty, Bool.false_eq_true, if_false]
      split
      · exact isInner_selectMode stack
      all_goals grind

/-- Finding the rules that fit the open elements. -/
@[grind ←]
theorem stays_fittingMode : Stays F fittingMode := by
  unfold fittingMode
  exact .bind .get fun b hb => .pure (isInner_modeFor hb hb.stack)

@[grind ←]
theorem stays_enterFitting : Stays F enterFitting := by
  unfold enterFitting
  grind

/-- A template is a barrier for formatting elements, and has rules for its content. -/
@[grind ←]
theorem stays_openTemplate {t : Tag} (h : isDocumentName t.name = false) :
    Stays F (openTemplate t) := by
  unfold openTemplate
  grind

/-- The rules for the content of the innermost template are given up. -/
theorem stays_dropTemplateMode :
    Stays F (modify fun b => { b with templateModes := b.templateModes.drop 1 }) := by
  grind

/-- A template is closed with what is open in it. -/
@[grind ←]
theorem stays_closeTemplate : Stays F closeTemplate := by
  have hmodes := @stays_dropTemplateMode F
  unfold closeTemplate
  grind

/-- A text may end inside a template. -/
@[grind ←]
theorem stays_endInTemplate : Stays F endInTemplate := by
  have hend : Token.Fits F .endOfText := trivial
  have hmodes := @stays_dropTemplateMode F
  unfold endInTemplate
  grind

/-- A tag of the outermost element gives its attributes to the one that is there. -/
@[grind ←]
theorem stays_mergeRoot (t : Tag) : Stays F (mergeRoot t) := by
  unfold mergeRoot
  grind

/-- The start tags that belong into a head may stand in a body, too. -/
@[grind ←]
theorem stays_headStart {t : Tag} (h : isDocumentName t.name = false) : Stays F (headStart t) := by
  unfold headStart
  grind

/-! ### Foreign content -/

/-- The end tag of a foreign element closes elements, and opens none. -/
theorem areInner_afterForeignEnd {name : List Char} {isFirst : Bool} {all stack fewer : List OpenElement}
    (hall : AreInner all) (hstack : AreInner stack)
    (h : afterForeignEnd? name isFirst all stack = some fewer) : AreInner fewer := by
  induction stack generalizing isFirst with
  | nil => exact Option.some.inj h ▸ hall
  | cons e stack ih =>
    have hstack := areInner_of_cons hstack
    cases stack with
    | nil => exact Option.some.inj h ▸ hall
    | cons d stack =>
      rw [afterForeignEnd?] at h
      · split at h
        · cases h
        · split at h
          · exact Option.some.inj h ▸ hstack
          · exact ih hstack h
      · exact List.cons_ne_nil d stack

/-- A foreign element has the name of its tag. -/
theorem stays_insertForeign {space : Namespace} (hspace : space ≠ .html) {t : Tag} (h : F t.name) :
    Stays F (insertForeign space t) := by
  have hname (attributes : List Attribute) :
      Node.Fits F (.element { space, localName := t.name } attributes) :=
    ⟨fun heq => absurd heq hspace, fun _ => h⟩
  unfold insertForeign
  dsimp only
  split <;> grind

/-- In foreign content, the rules for it make elements that are called like the tag. -/
theorem staysAt_foreign {ordinary : Token → Construction Next}
    (hordinary : ∀ t, Token.Fits F t → Stays F (ordinary t)) {t : Token} (ht : Token.Fits F t)
    {b : Builder} (hb : IsContent F b) (hforeign : isForeign b t = true) :
    StaysAt F (foreign ordinary t) b := by
  obtain ⟨e, rest, hstack, hspace⟩ := exists_of_isForeign hforeign
  unfold foreign
  split
  · exact (by grind : Stays F _) b hb
  · exact (by grind : Stays F _) b hb
  · exact (by grind : Stays F _) b hb
  · next tag =>
    split_ifs with hleaves hend
    · exact (by grind : Stays F _) b hb
    · refine StaysAt.get_bind ?_
      dsimp only
      split
      · next stack hend =>
        have hstack := areInner_afterForeignEnd hb.stack hb.stack hend
        exact (by grind : Stays F _) b hb
      · exact hordinary _ ht b hb
    · have hcurrent : current?.run b = (some e, b) :=
        show (b.stack.head?, b) = (some e, b) by rw [hstack, List.head?_cons]
      have hname : F tag.name ∧ F (respelled graphicsElements tag.name) :=
        ht (Bool.eq_false_iff.mpr hend)
      unfold StaysAt
      rw [StateT.run_bind, hcurrent]
      refine stays_insertForeign hspace ?_ b hb
      dsimp only
      split
      · exact hname.2
      · exact hname.1
  · exact (by grind : Stays F _) b hb

end SourceEdit.Markup.Builder
