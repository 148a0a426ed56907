import SourceEdit.Proofs.Markup.Flow.Basic

/-!
# The tags of flow content

In a state in which an element may stand where its start tag is read, the tag puts it at the end of the
current element and opens it, unless it has no content (`run_bodyStart`, `run_bodyStart_void`).  Its end
tag closes it and nothing else, if it is the current element (`run_bodyEnd`).
-/

namespace SourceEdit.Markup.Builder

variable {around : List ElementName} {b : Builder} {e : OpenElement} {outer : List OpenElement}
  {t : Tag} {name : String} {kind : FlowKind}

/-! ### The rule for a kind -/

/-- A name is not in a list that has no name of its kind. -/
theorem contains_eq_false (h : flowKind? name = some kind) (names : List String)
    (hnames : names.all (fun n => flowKind? n != some kind) = true) :
    names.contains name = false := by
  rw [Bool.eq_false_iff]
  intro hmem
  have hne := List.all_eq_true.mp hnames name (List.contains_iff_mem.mp hmem)
  simp [h] at hne

/-- A name of a kind is not a name of another kind. -/
theorem ne_of_flowKind? (h : flowKind? name = some kind) (other : String)
    (hother : flowKind? other ≠ some kind) : name ≠ other :=
  fun heq => hother (heq ▸ h)

/-- Elements without content are put in at once, whether they may stand in a frameset or not. -/
theorem bodyStart_void (h : flowKind? t.name = some .void) :
    bodyStart t = (do insertEmpty t; done) ∨ bodyStart t = emptyStart t := by
  have hblock := contains_eq_false h blocks (by decide)
  have hheading := contains_eq_false h ["h1", "h2", "h3", "h4", "h5", "h6"] (by decide)
  have hkept := contains_eq_false h ["pre", "listing"] (by decide)
  have hitem := contains_eq_false h ["li", "dd", "dt"] (by decide)
  have hformatting := contains_eq_false h formattingNames (by decide)
  have hobject := contains_eq_false h ["applet", "marquee", "object"] (by decide)
  -- the elements that may stand in a head have their rule there
  by_cases hhead : headContent.contains t.name = true
  · left
    simp only [bodyStart, hhead, if_true]
    unfold headStart
    split
    case h_7 => rfl
    all_goals
      next heq => exact absurd heq (ne_of_flowKind? h _ (by decide))
  · rw [Bool.not_eq_true] at hhead
    simp only [bodyStart, hhead, hblock, hheading, hkept, hitem, hformatting, hobject,
      Bool.false_eq_true, if_false]
    split
    · exact .inr rfl
    · next hempty =>
      have hall : ∀ n ∈ flowVoids, headContent.contains n = true ∨
          ["area", "br", "embed", "img", "keygen", "wbr", "input"].contains n = true ∨
          ["param", "source", "track"].contains n = true := by
        decide
      obtain hhead' | hempty' | hparam :=
        hall t.name (List.contains_iff_mem.mp (isOf_of_flowKind? h))
      · rw [hhead] at hhead'
        cases hhead'
      · exact absurd hempty' hempty
      · rw [if_pos hparam]
        exact .inl rfl

/-- The rule for blocks. -/
theorem bodyStart_block (h : flowKind? t.name = some .block) : bodyStart t = blockStart t := by
  have hblock : blocks.contains t.name = true := isOf_of_flowKind? h
  have hhead := contains_eq_false h headContent (by decide)
  simp only [bodyStart, hhead, hblock, Bool.false_eq_true, if_true, if_false]

/-- The rule for headings. -/
theorem bodyStart_heading (h : flowKind? t.name = some .heading) :
    bodyStart t = headingStart t := by
  have hheading : ["h1", "h2", "h3", "h4", "h5", "h6"].contains t.name = true :=
    isOf_of_flowKind? h
  have hhead := contains_eq_false h headContent (by decide)
  have hblock := contains_eq_false h blocks (by decide)
  simp only [bodyStart, hhead, hblock, hheading, Bool.false_eq_true, if_true, if_false]

/-- The rule for items. -/
theorem bodyStart_item {names : List String} (h : flowKind? t.name = some (.item names)) :
    bodyStart t = itemStart t := by
  obtain ⟨hitem, -⟩ := Bool.and_eq_true_iff.mp (isOf_of_flowKind? h)
  have hother (others : List String) (hothers : ["li", "dd", "dt"].all (!others.contains ·) = true) :
      others.contains t.name = false := by
    simpa using List.all_eq_true.mp hothers t.name (List.contains_iff_mem.mp hitem)
  have hhead := hother headContent (by decide)
  have hblock := hother blocks (by decide)
  have hheading := hother ["h1", "h2", "h3", "h4", "h5", "h6"] (by decide)
  have hkept := hother ["pre", "listing"] (by decide)
  simp only [bodyStart, hhead, hblock, hheading, hkept, hitem, Bool.false_eq_true, if_true, if_false]

/-- The rule for formatting elements. -/
theorem bodyStart_formatting (h : flowKind? t.name = some .formatting) :
    bodyStart t = formattingStart t := by
  have hformatting : formattingNames.contains t.name = true := isOf_of_flowKind? h
  have hhead := contains_eq_false h headContent (by decide)
  have hblock := contains_eq_false h blocks (by decide)
  have hheading := contains_eq_false h ["h1", "h2", "h3", "h4", "h5", "h6"] (by decide)
  have hkept := contains_eq_false h ["pre", "listing"] (by decide)
  have hitem := contains_eq_false h ["li", "dd", "dt"] (by decide)
  simp only [bodyStart, hhead, hblock, hheading, hkept, hitem, hformatting, Bool.false_eq_true,
    if_true, if_false]

/-- The kinds whose start tags are left to the rules for single names. -/
def isNamedKind (kind : FlowKind) : Bool := [.rule, .link, .button, .form, .other].contains kind

/-- Links, buttons and forms come under the rules for single names. -/
theorem bodyStart_named (h : flowKind? t.name = some kind) (hkind : isNamedKind kind = true) :
    bodyStart t = namedStart t := by
  have hne (names : List String)
      (hnames : names.all (fun n => !(flowKind? n).any isNamedKind) = true) :
      names.contains t.name = false := by
    rw [Bool.eq_false_iff]
    intro hmem
    have hnot := List.all_eq_true.mp hnames t.name (List.contains_iff_mem.mp hmem)
    simp [h, hkind] at hnot
  have hhead := hne headContent (by decide)
  have hblock := hne blocks (by decide)
  have hheading := hne ["h1", "h2", "h3", "h4", "h5", "h6"] (by decide)
  have hkept := hne ["pre", "listing"] (by decide)
  have hitem := hne ["li", "dd", "dt"] (by decide)
  have hformatting := hne formattingNames (by decide)
  have hobject := hne ["applet", "marquee", "object"] (by decide)
  have hempty := hne ["area", "br", "embed", "img", "keygen", "wbr", "input"] (by decide)
  have hparam := hne ["param", "source", "track"] (by decide)
  have hraw := hne ["xmp", "iframe", "noembed", "noscript"] (by decide)
  have hoption := hne ["optgroup", "option"] (by decide)
  have hbase := hne ["rb", "rtc"] (by decide)
  have hannotation := hne ["rp", "rt"] (by decide)
  have hmisplaced := hne misplaced (by decide)
  simp only [bodyStart, hhead, hblock, hheading, hkept, hitem, hformatting, hobject, hempty, hparam,
    hraw, hoption, hbase, hannotation, hmisplaced, Bool.false_eq_true, if_false]

/-- No rule is made for the other names. -/
theorem namedStart_other (h : flowKind? t.name = some .other) :
    namedStart t = (do reopenFormatting; openElement t) := by
  unfold namedStart
  split
  case h_16 => rfl
  all_goals
    next heq => exact absurd heq (ne_of_flowKind? h _ (by decide))

/-! ### Steps that do nothing -/

/-- No paragraph is open that a block could end. -/
theorem run_endParagraph (h : seen hidesParagraph (isNamed "p" ·.name) b.stack = false) :
    endParagraph.run b = pure ((), b) := by
  simp [endParagraph, inScope, h]

/-- No formatting element is opened again if all of them are open. -/
theorem run_reopenFormatting (h : Settled b.formatting b.stack) :
    reopenFormatting.run b = pure ((), b) := by
  have hclosed : b.formatting.takeWhile (fun item => !isSettled b.stack item) = [] :=
    List.takeWhile_eq_nil_iff.mpr fun hlt => by simp [h.isSettled _ (List.getElem_mem hlt)]
  simp [reopenFormatting, hclosed, reopenAll, editFormatting]

/-- No link is open that another one could end. -/
theorem run_closeLink (h : Settled b.formatting b.stack)
    (hname : ∀ e ∈ b.stack, e.name.localName ≠ "a") : closeLink.run b = pure ((), b) := by
  simp [closeLink, h.find?_sinceMark hname]

/-! ### New elements -/

/-- The next node is put at the end of the current element. -/
theorem run_place (h : IsReady around b) (hstack : b.stack = e :: outer) :
    place.run b = pure (.last e.id, b) := by
  simp [place, current?, placeIn, hstack, h.movesOutOfTable]

/-- An element is put at the end of the current one. -/
theorem run_insertNode (h : IsReady around b) (hstack : b.stack = e :: outer) (name : ElementName)
    (attributes : List Attribute) :
    (insertNode name attributes).run b =
      pure (b.tree.size, b.withNode (.element name attributes)) := by
  simp [insertNode, run_place h hstack, alloc, putAt, editTree, withNode, hstack]

/-- An element is put at the end of the current one and opened. -/
theorem run_insert (h : IsReady around b) (hstack : b.stack = e :: outer) (t : Tag) :
    (insert t).run b = pure (b.tree.size, b.afterOpening { localName := t.name }
      (plainAttributes t.attributes) b.formatting b.form b.allowsFrameset) := by
  simp [insert, insertOpen, run_insertNode h hstack, push, withNode, afterOpening]

/-- An element is put at the end of the current one and closed at once. -/
theorem run_insertEmpty (h : IsReady around b) (hstack : b.stack = e :: outer) (t : Tag) :
    (insertEmpty t).run b =
      pure ((), b.withNode (.element { localName := t.name } (plainAttributes t.attributes))) := by
  simp [insertEmpty, run_insertNode h hstack]

/-! ### Start tags -/

theorem run_forbidFrameset : forbidFrameset.run b = pure ((), { b with allowsFrameset := false }) :=
  rfl

theorem IsReady.forbidFrameset (h : IsReady around b) :
    IsReady around { b with allowsFrameset := false } :=
  h.of_eq rfl h.reading rfl h.skipsLineFeed rfl rfl rfl rfl (Nat.le_refl _) h.wellFormed

/-- The open elements when the element of a tag has been opened. -/
def stackWith (t : Tag) (b : Builder) : List OpenElement :=
  ⟨b.tree.size, { localName := t.name }⟩ :: b.stack

/-- A rule opens the element of a tag in the current one. -/
def Opens (t : Tag) (b : Builder) (rule : Construction Next) : Prop :=
  ∃ formatting form allowsFrameset,
    rule.run b = pure (.done, b.afterOpening { localName := t.name }
      (plainAttributes t.attributes) formatting form allowsFrameset) ∧
    Settled formatting (stackWith t b) ∧ PointsAt form (stackWith t b)

/-- The element of a tag is opened, and nothing else is done about it. -/
theorem run_openElement (h : IsReady around b) (hstack : b.stack = e :: outer) (t : Tag) :
    (openElement t).run b = pure (.done, b.afterOpening { localName := t.name }
      (plainAttributes t.attributes) b.formatting b.form b.allowsFrameset) := by
  simp [openElement, run_insert h hstack, done]

/-- A block opens where it ends no paragraph. -/
theorem opens_blockStart (h : IsReady around b) (hstack : b.stack = e :: outer)
    (hpoints : PointsAt b.form (stackWith t b))
    (hp : seen hidesParagraph (isNamed "p" ·.name) b.stack = false) : Opens t b (blockStart t) := by
  refine ⟨b.formatting, b.form, b.allowsFrameset, ?_, .skip _ h.settled, hpoints⟩
  simp [blockStart, run_endParagraph hp, run_openElement h hstack]

/-- A heading opens where it ends neither a paragraph nor a heading. -/
theorem opens_headingStart (h : IsReady around b) (hstack : b.stack = e :: outer)
    (hpoints : PointsAt b.form (stackWith t b))
    (hp : seen hidesParagraph (isNamed "p" ·.name) b.stack = false)
    (he : isHeading e.name = false) : Opens t b (headingStart t) := by
  refine ⟨b.formatting, b.form, b.allowsFrameset, ?_, .skip _ h.settled, hpoints⟩
  simp [headingStart, run_endParagraph hp, currentIs, hstack, he, run_openElement h hstack]

/-- An item opens where it ends neither a paragraph nor an item. -/
theorem opens_itemStart (h : IsReady around b) (hstack : b.stack = e :: outer)
    (hpoints : PointsAt b.form (stackWith t b))
    (hp : seen hidesParagraph (isNamed "p" ·.name) b.stack = false)
    (hitem : itemToEnd? (if t.name == "li" then ["li"] else ["dd", "dt"]) b.stack = none) :
    Opens t b (itemStart t) := by
  refine ⟨b.formatting, b.form, false, ?_, .skip _ h.settled, hpoints⟩
  rw [itemStart]
  simp only [StateT.run_bind, run_forbidFrameset, pure_bind, StateT.run_get, hitem]
  rw [run_endParagraph (b := { b with allowsFrameset := false }) hp, pure_bind,
    run_openElement h.forbidFrameset hstack]
  rfl

theorem IsReady.withFormatting (h : IsReady around b) {items : List Formatting}
    (hsub : items.Sublist b.formatting) : IsReady around { b with formatting := items } :=
  { h with settled := h.settled.sublist hsub }

/-- A formatting element opens and is remembered; it may crowd out one like it. -/
theorem run_insertFormatting (h : IsReady around b) (hstack : b.stack = e :: outer) (t : Tag) :
    ∃ items, items.Sublist b.formatting ∧
      (insertFormatting t).run b = pure ((), b.afterOpening { localName := t.name }
        (plainAttributes t.attributes) (.element b.tree.size t :: items) b.form
        b.allowsFrameset) := by
  have hinsert {items : List Formatting} (hsub : items.Sublist b.formatting) :
      (do let id ← insert t; editFormatting (.element id t :: ·)).run { b with formatting := items } =
        pure ((), b.afterOpening { localName := t.name } (plainAttributes t.attributes)
          (.element b.tree.size t :: items) b.form b.allowsFrameset) := by
    simp only [StateT.run_bind, run_insert (h.withFormatting hsub) hstack, pure_bind]
    rfl
  rw [insertFormatting]
  simp only [StateT.run_bind, StateT.run_get, pure_bind]
  split
  · next id _ _ =>
    split
    · exact ⟨_, List.eraseP_sublist, hinsert List.eraseP_sublist⟩
    · exact ⟨_, .refl _, hinsert (.refl _)⟩
  · exact ⟨_, .refl _, hinsert (.refl _)⟩

/-- A formatting element opens anywhere. -/
theorem opens_formattingStart (h : IsReady around b) (hstack : b.stack = e :: outer)
    (hpoints : PointsAt b.form (stackWith t b)) (hname : isFormattingName t.name = true) :
    Opens t b (formattingStart t) := by
  obtain ⟨items, hsub, hrun⟩ := run_insertFormatting h hstack t
  refine ⟨_, b.form, b.allowsFrameset, ?_, .keep rfl hname (h.settled.sublist hsub), hpoints⟩
  simp [formattingStart, run_reopenFormatting h.settled, hrun, done]

/-- A link opens where no link is open. -/
theorem opens_linkStart (h : IsReady around b) (hstack : b.stack = e :: outer)
    (hpoints : PointsAt b.form (stackWith t b)) (ht : t.name = "a")
    (hlink : ∀ e ∈ b.stack, e.name.localName ≠ "a") : Opens t b (namedStart t) := by
  obtain ⟨formatting, form, allowsFrameset, hrun, hkept⟩ :=
    opens_formattingStart (t := t) h hstack hpoints (ht ▸ rfl)
  refine ⟨formatting, form, allowsFrameset, ?_, hkept⟩
  simp only [namedStart, ht, StateT.run_bind, run_closeLink h.settled hlink, pure_bind]
  exact ht ▸ hrun

/-- A button opens where no button is open. -/
theorem opens_buttonStart (h : IsReady around b) (hstack : b.stack = e :: outer)
    (hpoints : PointsAt b.form (stackWith t b))
    (hbutton : seen hidesOutside (isNamed "button" ·.name) b.stack = false) :
    Opens t b (buttonStart t) := by
  refine ⟨b.formatting, b.form, false, ?_, .skip _ h.settled, hpoints⟩
  simp [buttonStart, inScope, hbutton, run_reopenFormatting h.settled, run_insert h hstack,
    run_forbidFrameset, done]
  rfl

/-- A form is opened where no other one is open. -/
theorem opens_formStart (h : IsReady around b) (hstack : b.stack = e :: outer)
    (ht : t.name = "form") (hp : seen hidesParagraph (isNamed "p" ·.name) b.stack = false)
    (hnone : ∀ e ∈ b.stack, isNamed "form" e.name = false ∧ isNamed "template" e.name = false) :
    Opens t b (formStart t) := by
  have hform : b.form = none := h.pointsAt.eq_none fun e he => (hnone e he).1
  have htemplate : (isOpen "template").run b = pure (false, b) := by
    have hany : b.stack.any (isNamed "template" ·.name) = false :=
      List.any_eq_false.mpr fun e he => by simp [(hnone e he).2]
    simp [isOpen, hany]
  refine ⟨b.formatting, some b.tree.size, b.allowsFrameset, ?_, .skip _ h.settled,
    pointsAt_cons_form (e := ⟨b.tree.size, { localName := t.name }⟩) (fun e he => (hnone e he).1)
      (by simp [isNamed, ht])⟩
  simp [formStart, htemplate, hform, run_endParagraph hp, run_insert h hstack, done]
  rfl


/-- An element of another kind is no form. -/
theorem isNamed_form_eq_false (hkind : flowKind? name = some kind) (hform : kind ≠ .form) :
    isNamed "form" { localName := name } = false := by
  have hother : flowKind? "form" ≠ some kind := fun heq => hform (Option.some.inj heq).symm
  simpa [isNamed] using ne_of_flowKind? hkind "form" hother

/-- An element of a kind opens where the kind fits. -/
theorem opens_bodyStart (h : IsReady around b) (hstack : b.stack = e :: outer)
    (hkind : flowKind? t.name = some kind) (hvoid : kind.isVoid = false)
    (hfits : kind.fits around = true) : Opens t b (bodyStart t) := by
  have hpoints (hform : kind ≠ .form) : PointsAt b.form (stackWith t b) :=
    h.pointsAt.cons (isNamed_form_eq_false hkind hform)
  cases kind with
  | void | rule => cases hvoid
  | block =>
    rw [bodyStart_block hkind]
    exact opens_blockStart h hstack (hpoints (by cases ·))
      (h.inParagraph (Bool.not_eq_true' _ ▸ hfits))
  | heading =>
    simp only [FlowKind.fits, Bool.and_eq_true, Bool.not_eq_true'] at hfits
    have hcurrent : isHeading e.name = false := by
      simpa [← h.names, hstack] using hfits.2
    rw [bodyStart_heading hkind]
    exact opens_headingStart h hstack (hpoints (by cases ·)) (h.inParagraph hfits.1) hcurrent
  | item names =>
    simp only [FlowKind.fits, Bool.and_eq_true, Bool.not_eq_true', Option.isNone_iff_eq_none] at hfits
    obtain ⟨-, hnames⟩ := Bool.and_eq_true_iff.mp (isOf_of_flowKind? hkind)
    rw [bodyStart_item hkind]
    refine opens_itemStart h hstack (hpoints (by cases ·)) (h.inParagraph hfits.1) ?_
    rw [← beq_iff_eq.mp hnames, ← itemToEnd?_openAs, h.names]
    exact hfits.2
  | formatting =>
    rw [bodyStart_formatting hkind]
    exact opens_formattingStart h hstack (hpoints (by cases ·))
      (Bool.or_eq_true_iff.mpr (.inr (isOf_of_flowKind? hkind)))
  | link =>
    rw [bodyStart_named hkind rfl]
    refine opens_linkStart h hstack (hpoints (by cases ·)) (beq_iff_eq.mp (isOf_of_flowKind? hkind))
      fun d hd hname => ?_
    -- a link that is open is around the new one
    have hany : around.any (isNamed "a") = true :=
      List.any_eq_true.mpr ⟨d.name, h.names ▸ List.mem_map_of_mem hd, by
        simp [isNamed, h.ordinary d hd, hname]⟩
    simp [FlowKind.fits, hany] at hfits
  | button =>
    have hname : t.name = "button" := beq_iff_eq.mp (isOf_of_flowKind? hkind)
    have hbutton : seen hidesOutside (isNamed "button" ·.name) b.stack = false := by
      rw [← seen_openAs, h.names]
      exact Bool.not_eq_true' _ ▸ hfits
    rw [bodyStart_named hkind rfl, namedStart, hname]
    exact opens_buttonStart h hstack (hpoints (by cases ·)) hbutton
  | form =>
    have hname : t.name = "form" := beq_iff_eq.mp (isOf_of_flowKind? hkind)
    simp only [FlowKind.fits, Bool.and_eq_true, Bool.not_eq_true', List.any_eq_false,
      Bool.or_eq_true, not_or, Bool.not_eq_true] at hfits
    rw [bodyStart_named hkind rfl, namedStart, hname]
    refine opens_formStart h hstack hname (h.inParagraph hfits.1) fun d hd => ?_
    exact hfits.2 d.name (h.names ▸ List.mem_map_of_mem hd)
  | other =>
    refine ⟨b.formatting, b.form, b.allowsFrameset, ?_, .skip _ h.settled, hpoints (by cases ·)⟩
    simp [bodyStart_named hkind rfl, namedStart_other hkind, run_reopenFormatting h.settled,
      run_openElement h hstack]

/-- The start tag of an element without content puts the element at the end of the current one. -/
theorem run_bodyStart_void (h : IsReady around b) (hstack : b.stack = e :: outer)
    (hkind : flowKind? t.name = some kind) (hvoid : kind.isVoid = true)
    (hfits : kind.fits around = true) :
    ∃ allowsFrameset, (bodyStart t).run b = pure (.done,
      { b.withNode (.element { localName := t.name } (plainAttributes t.attributes)) with
        allowsFrameset }) := by
  cases kind with
  | void =>
    obtain heq | heq := bodyStart_void hkind <;> rw [heq]
    · refine ⟨b.allowsFrameset, ?_⟩
      simp [run_insertEmpty h hstack, done]
      rfl
    · simp only [emptyStart, StateT.run_bind, run_reopenFormatting h.settled, run_insertEmpty h hstack,
        pure_bind]
      split
      · exact ⟨false, rfl⟩
      · exact ⟨b.allowsFrameset, rfl⟩
  | rule =>
    -- a rule ends a paragraph, and there is none to end
    have hname : t.name = "hr" := beq_iff_eq.mp (isOf_of_flowKind? hkind)
    have hp := h.inParagraph (Bool.not_eq_true' _ ▸ hfits)
    refine ⟨false, ?_⟩
    have hrule : namedStart t = (do endParagraph; insertEmpty t; forbidFrameset; done) := by
      simp only [namedStart, hname]
    rw [bodyStart_named hkind rfl, hrule]
    simp only [StateT.run_bind, run_endParagraph hp, run_insertEmpty h hstack, pure_bind]
    rfl
  | _ => cases hvoid


/-! ### End tags -/

/-- A rule closes the current element and nothing else. -/
def Closes (b : Builder) (outer : List OpenElement) (rule : Construction Next) : Prop :=
  ∃ formatting form, rule.run b = pure (.done, { b with stack := outer, formatting, form }) ∧
    Settled formatting outer ∧ PointsAt form outer

/-- The current element is seen whatever hides others. -/
theorem seen_of_head {hides : ElementName → Bool} {p : OpenElement → Bool} (hp : p e = true) :
    seen hides p (e :: outer) = true := by
  rw [seen, hp, Bool.true_or]

/-- The current element is the one that is looked for. -/
theorem run_popThrough {p : ElementName → Bool} (hstack : b.stack = e :: outer)
    (he : p e.name = true) : (popThrough p).run b = pure ((), { b with stack := outer }) := by
  simp [popThrough, hstack, he]

/-- The current element is not to be closed. -/
theorem run_popWhile {p : ElementName → Bool} (hstack : b.stack = e :: outer)
    (he : p e.name = false) : (popWhile p).run b = pure ((), b) := by
  have hsame : b.stack.dropWhile (fun e => p e.name) = b.stack := by simp [hstack, he]
  simp [popWhile, popTo, hsame]

/-- The end tag of a block closes the current element. -/
theorem closes_blockEnd (hsettled : Settled b.formatting outer) (hpoints : PointsAt b.form outer)
    (hstack : b.stack = e :: outer) (hname : isNamed name e.name = true)
    (himplied : endsImplied e.name = false) : Closes b outer (blockEnd name) := by
  refine ⟨b.formatting, b.form, ?_, hsettled, hpoints⟩
  have hseen : seen hidesOutside (isNamed name ·.name) b.stack = true := hstack ▸ seen_of_head hname
  simp [blockEnd, inScope, hseen, implyEnds, run_popWhile hstack himplied, close,
    run_popThrough hstack hname, done]

/-- The current element is the one that is not to be closed. -/
theorem run_implyEndsExcept (hstack : b.stack = e :: outer) (hname : isNamed name e.name = true) :
    (implyEndsExcept name).run b = pure ((), b) :=
  run_popWhile hstack (by simp [hname])

/-- The end of the form that is pointed at closes it. -/
theorem closes_formEnd (hsettled : Settled b.formatting outer) (hpoints : PointsAt b.form b.stack)
    (hnodup : (b.stack.map (·.id)).Nodup) (hstack : b.stack = e :: outer)
    (hname : isNamed "form" e.name = true) (himplied : endsImplied e.name = false)
    (htemplate : b.stack.any (isNamed "template" ·.name) = false) : Closes b outer formEnd := by
  rw [hstack] at hpoints hnodup
  have hform : b.form = some e.id := hpoints.eq_some e List.mem_cons_self hname
  have hseen : seen hidesOutside (·.id == e.id) (e :: outer) = true :=
    seen_of_head (beq_self_eq_true e.id)
  refine ⟨b.formatting, none, ?_, hsettled, hpoints.closed hname hnodup⟩
  have hopen : (isOpen "template").run b = pure (false, b) := by simp [isOpen, htemplate]
  have himply : implyEnds.run { b with form := none } = pure ((), { b with form := none }) :=
    run_popWhile (b := { b with form := none }) hstack himplied
  simp only [hstack] at himply
  simp [formEnd, hopen, hform, hseen, himply, removeFromStack, hstack, done]

/-- The end tag of a paragraph closes the current element. -/
theorem closes_paragraphEnd (hsettled : Settled b.formatting outer) (hpoints : PointsAt b.form outer)
    (hstack : b.stack = e :: outer) (hname : isNamed "p" e.name = true) :
    Closes b outer paragraphEnd := by
  refine ⟨b.formatting, b.form, ?_, hsettled, hpoints⟩
  have hseen : seen hidesParagraph (isNamed "p" ·.name) b.stack = true :=
    hstack ▸ seen_of_head hname
  simp [paragraphEnd, inScope, hseen, closeParagraph, run_implyEndsExcept hstack hname, close,
    run_popThrough hstack hname, done]

/-- The end tag of a heading closes the current element. -/
theorem closes_headingEnd (hsettled : Settled b.formatting outer) (hpoints : PointsAt b.form outer)
    (hstack : b.stack = e :: outer) (hname : isHeading e.name = true)
    (himplied : endsImplied e.name = false) : Closes b outer headingEnd := by
  refine ⟨b.formatting, b.form, ?_, hsettled, hpoints⟩
  have hseen : seen hidesOutside (isHeading ·.name) b.stack = true := hstack ▸ seen_of_head hname
  simp [headingEnd, hseen, implyEnds, run_popWhile hstack himplied, run_popThrough hstack hname,
    done]

/-- The end tag of an item closes the current element. -/
theorem closes_itemEnd (hsettled : Settled b.formatting outer) (hpoints : PointsAt b.form outer)
    (hstack : b.stack = e :: outer) (hname : isNamed name e.name = true) :
    Closes b outer (itemEnd name) := by
  refine ⟨b.formatting, b.form, ?_, hsettled, hpoints⟩
  have hseen (hides : ElementName → Bool) : seen hides (isNamed name ·.name) b.stack = true :=
    hstack ▸ seen_of_head hname
  simp [itemEnd, inScope, hseen, run_implyEndsExcept hstack hname, close,
    run_popThrough hstack hname, done]

/-- An end tag without a rule closes the current element. -/
theorem run_closeAnyOther (hstack : b.stack = e :: outer) (hname : isNamed name e.name = true) :
    (closeAnyOther name).run b = pure ((), { b with stack := outer }) := by
  simp [closeAnyOther, hstack, hname, run_implyEndsExcept hstack hname]

/-- A formatting element that is the current element is closed without splitting anything. -/
theorem closes_closeFormatting (hsettled : Settled b.formatting b.stack)
    (hpoints : PointsAt b.form outer) (hnodup : (b.stack.map (·.id)).Nodup)
    (hstack : b.stack = e :: outer) (hname : isNamed name e.name = true) :
    Closes b outer (do closeFormatting name; done) := by
  rw [hstack] at hsettled hnodup
  generalize hitems : b.formatting = items at hsettled
  cases hsettled with
  | skip _ h =>
    have hnone : ∀ item ∈ b.formatting, standsFor e.id item = false := by
      intro item hitem
      obtain ⟨d, hd, tag, rfl, -⟩ := h.exists_open (hitems ▸ hitem)
      refine beq_eq_false_iff_ne.mpr fun hid => (List.nodup_cons.mp hnodup).1 ?_
      exact List.mem_map.mpr ⟨d, hd, hid⟩
    refine ⟨items, b.form, ?_, h, hpoints⟩
    simp [closeFormatting, hstack, hname, if_pos hnone, ← hitems, done]
  | @keep rest _ _ tag htag hformatting h =>
    refine ⟨rest, b.form, ?_, h, hpoints⟩
    have htag : tag.name = name := by
      simp [isNamed] at hname
      exact htag.trans hname.2
    simp [closeFormatting, hstack, hname, hitems, standsFor, repeatUpTo, closeRound, sinceMark, htag,
      removeFormatting, editFormatting, done]

/-! ### The rule for an end tag -/

theorem bodyEnd_paragraph (h : t.name = "p") : bodyEnd t = paragraphEnd := by
  have hblock : "p" ∉ endedBlocks := by decide
  have hformatting : "p" ∉ formattingNames := by decide
  simp [bodyEnd, h, hblock, hformatting]

/-- The rule for the end tags of blocks. -/
theorem bodyEnd_block (h : endedBlocks.contains t.name = true) :
    bodyEnd t = blockEnd t.name := by
  simp only [bodyEnd, h, if_true]

/-- The rule for the end tags of headings. -/
theorem bodyEnd_heading (h : flowKind? t.name = some .heading) : bodyEnd t = headingEnd := by
  have hheading : ["h1", "h2", "h3", "h4", "h5", "h6"].contains t.name = true :=
    isOf_of_flowKind? h
  have hblock := contains_eq_false h endedBlocks (by decide)
  simp only [bodyEnd, hblock, hheading, Bool.false_eq_true, if_true, if_false]

/-- The rule for the end tags of items. -/
theorem bodyEnd_item (h : ["li", "dd", "dt"].contains t.name = true) :
    bodyEnd t = itemEnd t.name := by
  have hother (others : List String)
      (hothers : ["li", "dd", "dt"].all (!others.contains ·) = true) : others.contains t.name = false := by
    simpa using List.all_eq_true.mp hothers t.name (List.contains_iff_mem.mp h)
  have hblock := hother endedBlocks (by decide)
  have hheading := hother ["h1", "h2", "h3", "h4", "h5", "h6"] (by decide)
  simp only [bodyEnd, hblock, hheading, h, Bool.false_eq_true, if_true, if_false]

/-- The rule for the end tags of formatting elements. -/
theorem bodyEnd_formatting (h : isFormattingName t.name = true) :
    bodyEnd t = (do closeFormatting t.name; done) := by
  have hname : t.name ∈ "a" :: formattingNames := by simpa [isFormattingName] using h
  have hother (others : List String)
      (hothers : ("a" :: formattingNames).all (!others.contains ·) = true) :
      others.contains t.name = false := by
    simpa using List.all_eq_true.mp hothers t.name hname
  have hblock := hother endedBlocks (by decide)
  have hheading := hother ["h1", "h2", "h3", "h4", "h5", "h6"] (by decide)
  have hitem := hother ["li", "dd", "dt"] (by decide)
  have hformatting : ("a" :: "nobr" :: formattingNames).contains t.name = true := by
    simp at hname ⊢
    tauto
  simp only [bodyEnd, hblock, hheading, hitem, hformatting, Bool.false_eq_true, if_true, if_false]

/-- No rule is made for the end tags of other names. -/
theorem bodyEnd_other (h : flowKind? t.name = some .other) :
    bodyEnd t = (do closeAnyOther t.name; done) := by
  have hblock := contains_eq_false h endedBlocks (by decide)
  have hheading := contains_eq_false h ["h1", "h2", "h3", "h4", "h5", "h6"] (by decide)
  have hitem := contains_eq_false h ["li", "dd", "dt"] (by decide)
  have hformatting := contains_eq_false h ("a" :: "nobr" :: formattingNames) (by decide)
  have hobject := contains_eq_false h ["applet", "marquee", "object"] (by decide)
  simp only [bodyEnd, hblock, hheading, hitem, hformatting, hobject, Bool.false_eq_true, if_false]
  split
  case h_7 => rfl
  all_goals
    next heq => exact absurd heq (ne_of_flowKind? h _ (by decide))

theorem bodyEnd_form (h : t.name = "form") : bodyEnd t = formEnd := by
  have hblock : "form" ∉ endedBlocks := by decide
  have hformatting : "form" ∉ formattingNames := by decide
  simp [bodyEnd, h, hblock, hformatting]

/-- The end tag of an element that fits closes the current element. -/
theorem closes_bodyEnd (h : IsReady around b) (hstack : b.stack = e :: outer)
    (hname : e.name = { localName := t.name }) (hkind : flowKind? t.name = some kind)
    (hvoid : kind.isVoid = false) (hfits : kind.fits (outer.map (·.name)) = true) :
    Closes b outer (bodyEnd t) := by
  have hpoints (hform : kind ≠ .form) : PointsAt b.form outer :=
    (hstack ▸ h.pointsAt).of_cons (hname ▸ isNamed_form_eq_false hkind hform)
  have hnamed : isNamed t.name e.name = true := by simp [isNamed, hname]
  have hof := isOf_of_flowKind? hkind
  have himplied (h : ["dd", "dt", "li", "option", "optgroup", "p", "rb", "rp", "rt",
      "rtc"].contains t.name = false) : endsImplied e.name = false := by
    rw [endsImplied, isOneOf, hname, h, Bool.and_false]
  -- an element that is not remembered leaves what is remembered settled
  have hrest (hformatting : ("a" :: formattingNames).contains t.name = false) :
      Settled b.formatting outer := by
    refine (hstack ▸ h.settled).of_cons ?_
    rw [hname]
    exact hformatting
  cases kind with
  | void | rule => cases hvoid
  | block =>
    have hsettled := hrest (contains_eq_false hkind _ (by decide))
    by_cases hp : t.name = "p"
    · rw [bodyEnd_paragraph hp]
      exact closes_paragraphEnd hsettled (hpoints (by cases ·)) hstack (hp ▸ hnamed)
    · -- the end tag of a paragraph has a rule of its own
      have hall : ∀ n ∈ blocks, n = "p" ∨ endedBlocks.contains n = true := by decide
      rw [bodyEnd_block ((hall t.name (List.contains_iff_mem.mp hof)).resolve_left hp)]
      refine closes_blockEnd hsettled (hpoints (by cases ·)) hstack hnamed (himplied ?_)
      have hrare := contains_eq_false hkind
        ["dd", "dt", "li", "option", "optgroup", "rb", "rp", "rt", "rtc"] (by decide)
      simp only [List.contains_cons, Bool.or_eq_false_iff] at hrare ⊢
      simp [hrare, hp]
  | heading =>
    rw [bodyEnd_heading hkind]
    refine closes_headingEnd (hrest (contains_eq_false hkind _ (by decide))) (hpoints (by cases ·))
      hstack ?_ (himplied (contains_eq_false hkind _ (by decide)))
    rw [isHeading, isOneOf, hname]
    exact hof
  | item names =>
    obtain ⟨hitem, -⟩ := Bool.and_eq_true_iff.mp hof
    have hmem : t.name ∈ ["li", "dd", "dt"] := List.contains_iff_mem.mp hitem
    have hall : ∀ n ∈ ["li", "dd", "dt"], ("a" :: formattingNames).contains n = false := by decide
    rw [bodyEnd_item hitem]
    exact closes_itemEnd (hrest (hall _ hmem)) (hpoints (by cases ·)) hstack hnamed
  | formatting =>
    rw [bodyEnd_formatting (Bool.or_eq_true_iff.mpr (.inr hof))]
    exact closes_closeFormatting h.settled (hpoints (by cases ·)) h.nodup hstack hnamed
  | link =>
    rw [bodyEnd_formatting (Bool.or_eq_true_iff.mpr (.inl hof))]
    exact closes_closeFormatting h.settled (hpoints (by cases ·)) h.nodup hstack hnamed
  | button =>
    have hname : t.name = "button" := beq_iff_eq.mp hof
    rw [bodyEnd_block (by rw [hname]; decide)]
    exact closes_blockEnd (hrest (contains_eq_false hkind _ (by decide))) (hpoints (by cases ·)) hstack
      hnamed (himplied (contains_eq_false hkind _ (by decide)))
  | form =>
    have hform : t.name = "form" := beq_iff_eq.mp hof
    simp only [FlowKind.fits, Bool.and_eq_true, Bool.not_eq_true', List.any_eq_false,
      Bool.or_eq_true, not_or, Bool.not_eq_true, List.forall_mem_map] at hfits
    rw [bodyEnd_form hform]
    refine closes_formEnd (hrest (contains_eq_false hkind _ (by decide))) h.pointsAt h.nodup hstack
      (hform ▸ hnamed) (himplied (contains_eq_false hkind _ (by decide))) ?_
    rw [hstack, List.any_cons, Bool.or_eq_false_iff]
    exact ⟨by simp [isNamed, hname, hform], List.any_eq_false.mpr fun d hd => by
      simp [(hfits.2 d hd).2]⟩
  | other =>
    rw [bodyEnd_other hkind]
    exact ⟨b.formatting, b.form, by simp [run_closeAnyOther hstack hnamed, done],
      hrest (contains_eq_false hkind _ (by decide)), hpoints (by cases ·)⟩

end SourceEdit.Markup.Builder
