import SourceEdit.Proofs.Markup.Flow.Rules

/-!
# Flow content is read back as it was written

Each piece of what is written for flow content is one token.  Taking it puts a node at the end of the
current element, opens an element there or closes the current element, so that reading what is written
for a forest grafts the forest under the current element (`reads_forest`).  It follows that flow content
that is written and read as the content of a body comes back as it is (`fragmentOf_write`).
-/

namespace SourceEdit.Markup

namespace Builder

variable {around : List ElementName} {b b' b'' : Builder} {e : OpenElement}
  {outer : List OpenElement} {t : Tag}

/-! ### Taking a token -/

/-- A token that is done with by the rules for a body. -/
theorem run_handle (h : IsReady around b) {token : Token}
    (hrun : (inBody token).run b = pure (.done, b')) (n : Nat) :
    (handle (n + 1) token).run b = pure ((), b') := by
  rw [handle]
  simp only [StateT.run_bind, StateT.run_get, pure_bind, h.isForeign, Bool.false_eq_true, if_false,
    apply, h.mode, hrun]
  rfl

/-- The first of the rounds that a token is given is enough. -/
theorem run_handle_rounds (h : IsReady around b) {token : Token}
    (hrun : (inBody token).run b = pure (.done, b')) :
    (handle (rounds b) token).run b = pure ((), b') :=
  run_handle h hrun _

theorem IsReady.eta (h : IsReady around b) : { b with skipsLineFeed := false } = b := by
  rw [← h.skipsLineFeed]

theorem IsReady.etaReading (h : IsReady around b) : { b with reading := .markup } = b := by
  rw [← h.reading]

/-- A change that leaves the state as it is may be left out. -/
theorem run_modify_get {α : Type} (f : Builder → Builder) (p : Builder → Construction α)
    (hf : f b = b) : (do modify f; p (← get)).run b = (p b).run b := by
  show (p (f b)).run (f b) = _
  rw [hf]

/-- What is done about every token. -/
theorem run_skips (h : IsReady around b) (p : Bool → Construction Unit) :
    (do let skips := (← get).skipsLineFeed
        modify fun b => { b with skipsLineFeed := false }
        p skips : Construction Unit).run b = (p false).run b := by
  show (p b.skipsLineFeed).run { b with skipsLineFeed := false } = _
  rw [h.eta, h.skipsLineFeed]

/-- A tag is done with by the rules for a body. -/
theorem run_take_tag (h : IsReady around b)
    (hrun : (inBody (.tag t)).run b = pure (.done, b')) :
    (take (.tag t)).run b = pure ((), b') := by
  rw [take, run_skips h fun _ => do
      modify fun b => { b with reading := .markup }
      handle (rounds (← get)) (.tag t),
    run_modify_get _ (fun b => handle (rounds b) (.tag t)) h.etaReading, run_handle_rounds h hrun]

/-- A comment is put at the end of the current element. -/
theorem run_take_comment (h : IsReady around b) (hstack : b.stack = e :: outer) (cs : List Char) :
    (take (.comment cs)).run b = pure ((), b.withNode (.comment (String.ofList cs))) := by
  have hrun : (inBody (.comment cs)).run b =
      pure (.done, b.withNode (.comment (String.ofList cs))) := by
    simp [inBody, appendComment, run_place h hstack, alloc, putAt, editTree, withNode, hstack, done]
  rw [take, run_skips h fun _ => do handle (rounds (← get)) (.comment cs), StateT.run_bind,
    StateT.run_get, pure_bind, run_handle_rounds h hrun]

/-- Nothing is left to do at the end of the text. -/
theorem run_take_endOfText (h : IsReady around b) : (take .endOfText).run b = pure ((), b) := by
  have hrun : (inBody .endOfText).run b = pure (.done, b) := by
    simp [inBody, h.templateModes, done]
  rw [take, run_skips h fun _ => do handle (rounds (← get)) .endOfText, StateT.run_bind,
    StateT.run_get, pure_bind, run_handle_rounds h hrun]

/-- Whether the last child of a node is a text. -/
def endsInText (tree : Markup) (id : NodeId) : Bool :=
  (tree.children id).getLast?.any fun c => ((tree.get? c).bind Node.text?).isSome

/-- A text becomes a node of its own unless the current element ends in a text. -/
theorem run_appendText (h : IsReady around b) (hstack : b.stack = e :: outer)
    (hlast : endsInText b.tree e.id = false) (cs : List Char) :
    (appendText cs).run b = pure ((), b.withNode (.text (String.ofList cs))) := by
  have hbefore : (do
      let id ← nodeBefore? b.tree (.last e.id)
      let _ ← (← b.tree.get? id).text?
      return id) = none := by
    rw [nodeBefore?]
    cases hc : (b.tree.children e.id).getLast? with
    | none => rfl
    | some c =>
      rw [endsInText, hc, Option.any_some] at hlast
      cases hget : b.tree.get? c with
      | none => simp [hget]
      | some v =>
        rw [hget] at hlast
        cases v <;> simp_all [Node.text?]
  rw [appendText, StateT.run_bind, run_place h hstack, pure_bind, putText, StateT.run_bind,
    StateT.run_get, pure_bind]
  simp only [hbefore]
  simp [alloc, putAt, editTree, withNode, hstack]

/-- A text that is done with in one piece. -/
theorem run_takeText (h : IsReady around b) {cs : List Char} (hcs : cs ≠ [])
    (hrun : (inBody (.text cs)).run b = pure (.done, b')) :
    (takeText cs.length cs).run b = pure ((), b') := by
  cases cs with
  | nil => exact absurd rfl hcs
  | cons c cs =>
    have hrest (n : Nat) : takeText n [] = pure () := by cases n <;> rfl
    rw [List.length_cons, takeText]
    · simp only [StateT.run_bind, StateT.run_get, pure_bind, h.mode, splitsText, Bool.false_and,
        Bool.false_eq_true, if_false, List.drop_length, hrest]
      rw [run_handle_rounds h hrun]
      rfl
    · exact List.cons_ne_nil c cs

/-- A text that is not empty is put at the end of the current element. -/
theorem run_take_text (h : IsReady around b) (hstack : b.stack = e :: outer)
    (hlast : endsInText b.tree e.id = false) {cs : List Char} (hcs : cs ≠ []) :
    ∃ allowsFrameset, (take (.text cs)).run b = pure ((),
      { b.withNode (.text (String.ofList cs)) with allowsFrameset }) := by
  obtain ⟨allowsFrameset, hrun⟩ : ∃ allowsFrameset, (inBody (.text cs)).run b = pure (.done,
      { b.withNode (.text (String.ofList cs)) with allowsFrameset }) := by
    rw [inBody]
    simp only [StateT.run_bind, run_reopenFormatting h.settled, pure_bind]
    split
    · refine ⟨false, ?_⟩
      rw [StateT.run_bind, run_forbidFrameset, pure_bind, StateT.run_bind,
        run_appendText (b := { b with allowsFrameset := false }) h.forbidFrameset hstack hlast]
      rfl
    · refine ⟨b.allowsFrameset, ?_⟩
      rw [StateT.run_bind, run_appendText h hstack hlast]
      rfl
  refine ⟨allowsFrameset, ?_⟩
  rw [take, StateT.run_bind, StateT.run_get, pure_bind]
  dsimp only
  rw [StateT.run_bind, StateT.run_modify, pure_bind]
  dsimp only
  rw [h.eta, h.skipsLineFeed]
  -- no line feed is left out
  split <;> exact run_takeText h hcs hrun

/-! ### States after a token -/

/-- A new node is grafted under the current element. -/
theorem IsReady.graftedUnder (h : IsReady around b) (hstack : b.stack = e :: outer) (n : Node) :
    Arena.GraftedUnder b.tree e.id [.node n []] (b.withNode n).tree := by
  rw [Builder.withNode, hstack]
  exact .of_alloc h.wellFormed (h.lt_size e (hstack ▸ List.mem_cons_self)) n

/-- A node without an end tag leaves the same elements open. -/
theorem IsReady.withNode (h : IsReady around b) (hstack : b.stack = e :: outer) (n : Node)
    (allowsFrameset : Bool) : IsReady around { b.withNode n with allowsFrameset } :=
  h.of_eq rfl h.reading rfl h.skipsLineFeed rfl rfl rfl rfl (h.graftedUnder hstack n).size_le
    (h.graftedUnder hstack n).wellFormed

/-- A start tag opens an element in those that are open. -/
theorem IsReady.afterOpening (h : IsReady around b) (hstack : b.stack = e :: outer)
    {name : ElementName} (hname : name.space = .html) (attributes : List Attribute)
    {formatting : List Formatting} {form : Option NodeId} (allowsFrameset : Bool)
    (hsettled : Settled formatting (⟨b.tree.size, name⟩ :: b.stack))
    (hpoints : PointsAt form (⟨b.tree.size, name⟩ :: b.stack)) :
    IsReady (name :: around) (b.afterOpening name attributes formatting form allowsFrameset) := by
  have hsize : (b.withNode (.element name attributes)).tree.size = b.tree.size + 1 := by
    simp [Builder.withNode]
  exact {
    mode := h.mode
    reading := h.reading
    templateModes := h.templateModes
    skipsLineFeed := h.skipsLineFeed
    movesOutOfTable := h.movesOutOfTable
    names := congrArg (name :: ·) h.names
    ordinary := List.forall_mem_cons.mpr ⟨hname, h.ordinary⟩
    nodup := List.nodup_cons.mpr ⟨fun hmem => by
      obtain ⟨d, hd, hid⟩ := List.mem_map.mp hmem
      exact absurd (h.lt_size d hd) (hid ▸ Nat.lt_irrefl _), h.nodup⟩
    lt_size := List.forall_mem_cons.mpr ⟨hsize ▸ Nat.lt_succ_self _, fun d hd =>
      hsize ▸ Nat.lt_succ_of_lt (h.lt_size d hd)⟩
    settled := hsettled
    pointsAt := hpoints
    wellFormed := (h.graftedUnder hstack _).wellFormed }

/-- An end tag leaves the elements open that were open around its element. -/
theorem IsReady.afterClosing {name : ElementName} (h : IsReady (name :: around) b)
    (hstack : b.stack = e :: outer) {formatting : List Formatting} {form : Option NodeId}
    (hsettled : Settled formatting outer) (hpoints : PointsAt form outer) :
    IsReady around { b with stack := outer, formatting, form } :=
  { h with
    names := by simpa [hstack] using (List.cons.inj (hstack ▸ h.names)).2
    ordinary := fun d hd => h.ordinary d (hstack ▸ List.mem_cons_of_mem e hd)
    nodup := (List.nodup_cons.mp (by simpa [hstack] using h.nodup)).2
    lt_size := fun d hd => h.lt_size d (hstack ▸ List.mem_cons_of_mem e hd)
    settled := hsettled
    pointsAt := hpoints }

/-! ### Steps of reading -/

/-- Reading goes on from a state and a text to others, in so many steps that the rest of them is enough
for the rest of the text. -/
def Advances (b : Builder) (cs : List Char) (b' : Builder) (rest : List Char) : Prop :=
  ∃ k, k + rest.length ≤ cs.length ∧
    ∀ n, (readText (n + k) cs).run b = (readText n rest).run b'

theorem Advances.refl (b : Builder) (cs : List Char) : Advances b cs b cs :=
  ⟨0, (Nat.zero_add _).le, fun _ => rfl⟩

theorem Advances.trans {cs ds es : List Char} (h : Advances b cs b' ds)
    (h' : Advances b' ds b'' es) : Advances b cs b'' es := by
  obtain ⟨k, hk, hrun⟩ := h
  obtain ⟨l, hl, hrun'⟩ := h'
  refine ⟨l + k, by omega, fun n => ?_⟩
  rw [← Nat.add_assoc, hrun, hrun']

/-- A token that is read and taken is one step. -/
theorem Advances.of_next (h : IsReady around b) {cs rest : List Char} {token : Token}
    (hne : cs ≠ []) (hnext : Lexer.next false .markup (cs ++ rest) = ([token], rest))
    (hrun : (take token).run b = pure ((), b')) : Advances b (cs ++ rest) b' rest := by
  have hforeign : isInForeign b = false := by
    rw [isInForeign]
    cases hstack : b.stack with
    | nil => rfl
    | cons e outer => simp [h.ordinary e (hstack ▸ List.mem_cons_self)]
  have hlt : 0 < cs.length := List.length_pos_iff.mpr hne
  have hone : [token].forM take = (do take token) := by simp
  refine ⟨1, by rw [List.length_append]; omega, fun n => ?_⟩
  rw [readText]
  · simp only [StateT.run_bind, StateT.run_get, pure_bind, hforeign, h.reading, hnext, hone, hrun]
  · exact fun hnil => hne (List.append_eq_nil_iff.mp hnil).1

end Builder

open Builder

/-! ### Attributes and kinds -/

/-- The attributes of flow content have different names in small letters. -/
theorem areDistinct_of_flow {attributes : List Attribute}
    (h : areFlowAttributes attributes = true) :
    AreDistinct attributes ∧ ∀ a ∈ attributes, isSmall a.localName.toList = true := by
  simp only [areFlowAttributes, Bool.and_eq_true, List.all_eq_true, decide_eq_true_eq,
    beq_iff_eq] at h
  obtain ⟨hall, hnodup⟩ := h
  refine ⟨⟨fun a ha => ⟨(hall a ha).1.1, (hall a ha).1.2⟩, ?_⟩, fun a ha => (hall a ha).2⟩
  have hlower : (attributes.map fun a => asciiLower a.localName.toList) =
      (attributes.map (·.localName)).map String.toList := by
    rw [List.map_map]
    exact List.map_congr_left fun a ha => isSmall_iff.mp (hall a ha).2
  rw [hlower]
  exact hnodup.map fun _ _ h => String.toList_inj.mp h

/-- The element of a start tag may stand in elements of names, the innermost first. -/
structure IsFlowElement (around : List ElementName) (name : ElementName)
    (attributes : List Attribute) (kind : FlowKind) : Prop where
  space : name.space = .html
  isTagName : isTagName name.localName.toList = true
  isSmall : isSmall name.localName.toList = true
  attributes : areFlowAttributes attributes = true
  flowKind? : flowKind? name.localName = some kind
  fits : kind.fits around = true

namespace IsFlowElement

variable {around : List ElementName} {name : ElementName} {attributes : List Attribute}
  {kind : FlowKind}

/-- The start tag of an element in flow content is read back. -/
theorem next_startTag (h : IsFlowElement around name attributes kind)
    (hclean : IsClean (startTag name attributes)) (rest : List Char) :
    ∃ t : Tag, t.isEnd = false ∧ { localName := t.name } = name ∧
      plainAttributes t.attributes = attributes ∧
      Lexer.next false .markup (startTag name attributes ++ rest) = ([.tag t], rest) := by
  obtain ⟨hdistinct, hsmalls⟩ := areDistinct_of_flow h.attributes
  have hnext := Lexer.next_startTag h.isTagName h.isSmall hdistinct.isWritable false rest
  rw [hdistinct.withoutRepeats_eq] at hnext
  refine ⟨_, rfl, by rw [← h.space], ?_, hnext⟩
  refine hdistinct.plainAttributes_eq_iff.mpr fun a ha => ⟨hsmalls a ha, fun hnul => ?_⟩
  -- a zero would stand in the start tag
  refine hclean.nul_not_mem ?_
  have hvalue : '\x00' ∈ a.value.toList.flatMap escapeInAttribute :=
    List.mem_flatMap.mpr ⟨_, hnul, List.mem_singleton.mpr rfl⟩
  have hwrite : '\x00' ∈ attributes.flatMap Attribute.write :=
    List.mem_flatMap.mpr ⟨a, ha, by simp [Attribute.write, hvalue]⟩
  simp [startTag, hwrite]

/-- The content of an element in flow content is escaped. -/
theorem isRaw (h : IsFlowElement around name attributes kind) : name.isRaw = false := by
  have hall : ∀ n ∈ rawNames, Markup.flowKind? n = none := by decide
  rw [ElementName.isRaw, Bool.and_eq_false_iff]
  right
  rw [Bool.eq_false_iff]
  intro hmem
  have hkind := h.flowKind?
  rw [hall _ (List.contains_iff_mem.mp hmem)] at hkind
  cases hkind

/-- An element is written without an end tag if no content is read in it. -/
theorem isVoid (h : IsFlowElement around name attributes kind) : name.isVoid = kind.isVoid := by
  have hvoid : ∀ n ∈ voidNames, (Markup.flowKind? n).all FlowKind.isVoid = true := by decide
  have hflow : ∀ n ∈ "hr" :: flowVoids, voidNames.contains n = true := by decide
  have hof := isOf_of_flowKind? h.flowKind?
  rw [ElementName.isVoid, h.space]
  cases hmem : voidNames.contains name.localName with
  | true =>
    have hall := hvoid _ (List.contains_iff_mem.mp hmem)
    rw [h.flowKind?, Option.all_some] at hall
    rw [hall]
    rfl
  | false =>
    refine (Bool.eq_false_iff.mpr fun hkind => ?_).symm
    have hname : name.localName ∈ "hr" :: flowVoids := by
      cases kind with
      | void => exact List.mem_cons_of_mem _ (List.contains_iff_mem.mp hof)
      | rule => exact List.mem_cons.mpr (.inl (beq_iff_eq.mp hof))
      | _ => cases hkind
    rw [hflow _ hname] at hmem
    cases hmem

end IsFlowElement

/-! ### What is written -/

theorem writeTree_text (around : Surrounding) (s : String) (cs : List (Tree Node)) :
    writeTree around (.node (.text s) cs) =
      if around.isRaw then s.toList else s.toList.flatMap escapeInText := rfl

theorem writeTree_comment (around : Surrounding) (s : String) (cs : List (Tree Node)) :
    writeTree around (.node (.comment s) cs) = "<!--".toList ++ s.toList ++ "-->".toList := rfl

theorem writeTree_element (around : Surrounding) (name : ElementName)
    (attributes : List Attribute) (cs : List (Tree Node)) :
    writeTree around (.node (.element name attributes) cs) =
      if around.isVoid then
        writeForest { isRaw := name.isRaw, isVoid := around.isVoid || name.isVoid } cs
      else startTag name attributes ++
        writeForest { isRaw := name.isRaw, isVoid := around.isVoid || name.isVoid } cs ++
          (if around.isVoid || name.isVoid then [] else endTag name) := rfl

theorem writeForest_cons (around : Surrounding) (t : Tree Node) (ts : List (Tree Node)) :
    writeForest around (t :: ts) = writeTree around t ++ writeForest around ts := rfl

/-! ### Texts side by side -/

/-- What is written for flow content that is no text starts a piece of markup. -/
theorem head?_writeTree {around : List ElementName} {t : Tree Node} (h : isFlowTree around t = true)
    (htext : isTextTree t = false) (rest : List Char) :
    ∀ c ∈ (writeTree {} t ++ rest).head?, c = '<' := by
  obtain ⟨v, cs⟩ := t
  cases v with
  | text s => simp [isTextTree, Tree.value, Node.text?] at htext
  | comment s =>
    rw [writeTree_comment]
    simp
  | element name attributes =>
    rw [writeTree_element]
    simp [startTag]
  | _ => simp [isFlowTree] at h

/-- An element does not end in a text after something else has been put at its end. -/
theorem endsInText_eq_false {a b : Markup} {p : NodeId} {t : Tree Node}
    (h : a.GraftedUnder p [t] b) (htext : isTextTree t = false) : endsInText b p = false := by
  obtain ⟨ids, hids, hview⟩ := h.children_parent
  obtain ⟨c, rfl⟩ : ∃ c, ids = [c] := by
    rw [← List.length_eq_one_iff, ← List.length_map b.view, hview]
    rfl
  obtain rfl : b.view c = t := by simpa using hview
  rw [isTextTree, h.wellFormed.view_eq c, Tree.value] at htext
  rw [endsInText, hids, List.getLast?_append, List.getLast?_singleton, Option.some_or,
    Option.any_some]
  cases hget : b.get? c with
  | none => rfl
  | some v =>
    rw [hget] at htext
    exact htext

/-! ### Trees and forests -/

section Reads

variable {around : List ElementName} {b b' : Builder} {e : OpenElement} {outer : List OpenElement}

/-- What is left of a text is read, with a forest put under the current element. -/
def Reads (around : List ElementName) (b : Builder) (e : OpenElement) (cs rest : List Char)
    (ts : List (Tree Node)) : Prop :=
  ∃ b', Advances b (cs ++ rest) b' rest ∧ IsReady around b' ∧ b'.stack = b.stack ∧
    b.tree.GraftedUnder e.id ts b'.tree

/-- A text is read up to the next piece of markup, and is not joined to another text. -/
theorem reads_text (h : IsReady around b) (hstack : b.stack = e :: outer) {s : String}
    (hs : s.toList ≠ []) (hnul : '\x00' ∉ s.toList) (hlast : endsInText b.tree e.id = false)
    {rest : List Char} (hrest : ∀ c ∈ rest.head?, c = '<') :
    Reads around b e (s.toList.flatMap escapeInText) rest [.node (.text s) []] := by
  obtain ⟨allowsFrameset, hrun⟩ := run_take_text h hstack hlast hs
  rw [String.ofList_toList] at hrun
  have hne : s.toList.flatMap escapeInText ≠ [] := by
    obtain ⟨c, cs, hcs⟩ := List.exists_cons_of_ne_nil hs
    rw [hcs, List.flatMap_cons]
    exact fun hnil => escapeInText_ne_nil c (List.append_eq_nil_iff.mp hnil).1
  exact ⟨_, .of_next h hne (Lexer.next_text hs hnul hrest false) hrun, h.withNode hstack _ _, rfl,
    h.graftedUnder hstack _⟩

/-- A comment is read back. -/
theorem reads_comment (h : IsReady around b) (hstack : b.stack = e :: outer) {s : String}
    (hs : isCommentText s.toList = true) (hnul : '\x00' ∉ s.toList) (rest : List Char) :
    Reads around b e ("<!--".toList ++ s.toList ++ "-->".toList) rest [.node (.comment s) []] := by
  have hrun := run_take_comment h hstack s.toList
  rw [String.ofList_toList] at hrun
  exact ⟨_, .of_next h (by simp) (Lexer.next_comment hnul hs false rest) hrun,
    h.withNode hstack _ _, rfl, h.graftedUnder hstack _⟩

/-- An element without content is read back. -/
theorem reads_void (h : IsReady around b) (hstack : b.stack = e :: outer) {name : ElementName}
    {attributes : List Attribute} {kind : FlowKind}
    (helement : IsFlowElement around name attributes kind)
    (hclean : IsClean (startTag name attributes)) (hvoid : kind.isVoid = true) (rest : List Char) :
    Reads around b e (startTag name attributes) rest [.node (.element name attributes) []] := by
  obtain ⟨t, hstart, rfl, rfl, hnext⟩ := helement.next_startTag hclean rest
  obtain ⟨allowsFrameset, hrun⟩ := run_bodyStart_void h hstack helement.flowKind? hvoid helement.fits
  have hbody : (inBody (.tag t)).run b = (bodyStart t).run b := by
    rw [inBody, hstart]
    rfl
  exact ⟨_, .of_next h (by simp [startTag]) hnext (run_take_tag h (hbody.trans hrun)),
    h.withNode hstack _ _, rfl, h.graftedUnder hstack _⟩

/-- What is read between the tags of an element becomes its content. -/
theorem reads_element (h : IsReady around b) (hstack : b.stack = e :: outer) {name : ElementName}
    {attributes : List Attribute} {kind : FlowKind}
    (helement : IsFlowElement around name attributes kind)
    (hclean : IsClean (startTag name attributes)) (hvoid : kind.isVoid = false)
    {content rest : List Char} {ts : List (Tree Node)}
    (hcontent : ∀ inner : Builder, IsReady (name :: around) inner →
      inner.stack = ⟨b.tree.size, name⟩ :: b.stack → endsInText inner.tree b.tree.size = false →
      Reads (name :: around) inner ⟨b.tree.size, name⟩ content (endTag name ++ rest) ts) :
    Reads around b e (startTag name attributes ++ content ++ endTag name) rest
      [.node (.element name attributes) ts] := by
  obtain ⟨t, hstart, rfl, rfl, hnext⟩ :=
    helement.next_startTag hclean (content ++ (endTag name ++ rest))
  -- the start tag
  obtain ⟨formatting, form, allowsFrameset, hopen, hsettled, hpoints⟩ :=
    opens_bodyStart h hstack helement.flowKind? hvoid helement.fits
  have hbody : (inBody (.tag t)).run b = (bodyStart t).run b := by
    rw [inBody, hstart]
    rfl
  have hfirst := Advances.of_next h (by simp [startTag]) hnext (run_take_tag h (hbody.trans hopen))
  have hp : e.id < b.tree.size := h.lt_size e (hstack ▸ List.mem_cons_self)
  have htree : (b.afterOpening { localName := t.name } (plainAttributes t.attributes) formatting form
      allowsFrameset).tree =
      (b.tree.alloc (.element { localName := t.name } (plainAttributes t.attributes))).1.appendChild
        e.id b.tree.size := by
    rw [Builder.afterOpening, Builder.withNode, hstack]
    rfl
  -- the content
  have hempty : endsInText (b.afterOpening { localName := t.name } (plainAttributes t.attributes)
      formatting form allowsFrameset).tree b.tree.size = false := by
    rw [endsInText, htree, Arena.children_appendChild_alloc h.wellFormed hp]
    rfl
  obtain ⟨inner, hinner, hready, hstackInner, hgraft⟩ :=
    hcontent _ (h.afterOpening hstack rfl _ allowsFrameset hsettled hpoints) rfl hempty
  -- the end tag
  obtain ⟨formatting', form', hclose, hsettled', hpoints'⟩ :=
    closes_bodyEnd (t := { isEnd := true, name := t.name }) hready hstackInner rfl
      helement.flowKind? hvoid (h.names ▸ helement.fits)
  have hlast := Advances.of_next hready (by simp [endTag])
    (Lexer.next_endTag helement.isTagName helement.isSmall false rest) (run_take_tag hready hclose)
  refine ⟨_, ?_, hready.afterClosing hstackInner hsettled' hpoints', rfl, ?_⟩
  · simpa using (hfirst.trans hinner).trans hlast
  · rw [htree] at hgraft
    exact .node h.wellFormed hp hgraft

end Reads

mutual

/-- A tree of flow content is read back. -/
theorem reads_tree {around : List ElementName} {b : Builder} {e : OpenElement}
    {outer : List OpenElement} (h : IsReady around b) (hstack : b.stack = e :: outer)
    {rest : List Char} :
    (t : Tree Node) → isFlowTree around t = true → IsClean (writeTree {} t) →
      (isTextTree t = true → endsInText b.tree e.id = false ∧ ∀ c ∈ rest.head?, c = '<') →
      Reads around b e (writeTree {} t) rest [t]
  | .node (.text s) cs, hflow, hclean, htext => by
    simp only [isFlowTree, Bool.and_eq_true, Bool.not_eq_true', List.isEmpty_iff,
      List.isEmpty_eq_false_iff] at hflow
    obtain ⟨hs, rfl⟩ := hflow
    -- nothing that is written next to it joins the text
    obtain ⟨hlast, hrest⟩ := htext rfl
    rw [writeTree_text, if_neg Bool.false_ne_true] at hclean ⊢
    refine reads_text h hstack hs (fun hnul => hclean.nul_not_mem ?_) hlast hrest
    exact List.mem_flatMap.mpr ⟨_, hnul, List.mem_singleton.mpr rfl⟩
  | .node (.comment s) cs, hflow, hclean, _ => by
    simp only [isFlowTree, Bool.and_eq_true, List.isEmpty_iff] at hflow
    obtain ⟨hs, rfl⟩ := hflow
    rw [writeTree_comment] at hclean ⊢
    refine reads_comment h hstack hs (fun hnul => hclean.nul_not_mem ?_) rest
    simp [hnul]
  | .node (.element name attributes) cs, hflow, hclean, _ => by
    simp only [isFlowTree, Bool.and_eq_true, beq_iff_eq] at hflow
    obtain ⟨⟨⟨⟨hspace, hname⟩, hsmall⟩, hattributes⟩, hflow⟩ := hflow
    cases hkind : flowKind? name.localName with
    | none => simp [hkind] at hflow
    | some kind =>
      simp only [hkind, Bool.and_eq_true] at hflow
      obtain ⟨hfits, hflow⟩ := hflow
      have helement : IsFlowElement around name attributes kind :=
        ⟨hspace, hname, hsmall, hattributes, hkind, hfits⟩
      rw [writeTree_element, if_neg Bool.false_ne_true, Bool.false_or, helement.isRaw,
        helement.isVoid] at hclean ⊢
      rw [IsClean.append_iff, IsClean.append_iff] at hclean
      obtain ⟨⟨hstart, hcontent⟩, -⟩ := hclean
      cases hvoid : kind.isVoid with
      | true =>
        rw [hvoid, if_pos rfl, List.isEmpty_iff] at hflow
        subst hflow
        rw [if_pos rfl, List.append_nil, writeForest, List.append_nil]
        exact reads_void h hstack helement hstart hvoid rest
      | false =>
        rw [hvoid] at hflow hcontent
        refine reads_element h hstack helement hstart hvoid fun inner hready hstackInner hempty => ?_
        exact reads_forest hready hstackInner (by simp [endTag]) cs hflow hcontent fun _ => hempty
  | .node .document cs, hflow, _, _ => by simp [isFlowTree] at hflow
  | .node (.doctype _) cs, hflow, _, _ => by simp [isFlowTree] at hflow

/-- A forest of flow content is read back. -/
theorem reads_forest {around : List ElementName} {b : Builder} {e : OpenElement}
    {outer : List OpenElement} (h : IsReady around b) (hstack : b.stack = e :: outer)
    {rest : List Char} (hrest : ∀ c ∈ rest.head?, c = '<') :
    (ts : List (Tree Node)) → isFlowForest around ts = true → IsClean (writeForest {} ts) →
      (ts.head?.any isTextTree = true → endsInText b.tree e.id = false) →
      Reads around b e (writeForest {} ts) rest ts
  | [], _, _, _ => ⟨b, .refl b rest, h, rfl, .refl h.wellFormed e.id⟩
  | t :: ts, hflow, hclean, hlast => by
    rw [writeForest_cons] at hclean ⊢
    obtain ⟨hcleanTree, hcleanForest⟩ := IsClean.append_iff.mp hclean
    simp only [isFlowForest, Bool.and_eq_true, Bool.not_eq_true'] at hflow
    obtain ⟨⟨htree, happart⟩, hforest⟩ := hflow
    -- what follows a text starts a piece of markup
    have hnext (htext : isTextTree t = true) : ∀ c ∈ (writeForest {} ts ++ rest).head?, c = '<' := by
      cases ts with
      | nil => exact hrest
      | cons u us =>
        simp only [isFlowForest, Bool.and_eq_true] at hforest
        rw [writeForest_cons, List.append_assoc]
        refine head?_writeTree hforest.1.1 ?_ _
        simpa [htext] using happart
    obtain ⟨b₁, hfirst, hready, hstack₁, hgraft⟩ :=
      reads_tree h hstack t htree hcleanTree fun htext => ⟨hlast htext, hnext htext⟩
    have hlast' (htext : ts.head?.any isTextTree = true) : endsInText b₁.tree e.id = false := by
      rw [htext, Bool.and_true] at happart
      exact endsInText_eq_false hgraft happart
    obtain ⟨b₂, hmore, hready', hstack₂, hgraft'⟩ :=
      reads_forest hready (hstack₁.trans hstack) hrest ts hforest hcleanForest hlast'
    rw [← List.append_assoc] at hfirst
    exact ⟨b₂, hfirst.trans hmore, hready', hstack₂.trans hstack₁, hgraft.trans hgraft'⟩

end

/-! ### The content of a body -/

namespace Builder

/-- The outermost element is there before anything is read. -/
theorem graftedUnder_ofFragment :
    (Arena.withRoot Node.document).GraftedUnder 0 [.node (.element { localName := "html" } []) []]
      ofFragment.tree :=
  .of_alloc (.withRoot _) Nat.one_pos _

/-- Reading the content of a body starts inside the outermost element. -/
theorem isReady_ofFragment : IsReady [{ localName := "html" }] ofFragment where
  mode := rfl
  reading := rfl
  templateModes := rfl
  skipsLineFeed := rfl
  movesOutOfTable := rfl
  names := rfl
  ordinary := List.forall_mem_singleton.mpr rfl
  nodup := List.nodup_singleton 1
  lt_size := List.forall_mem_singleton.mpr Nat.one_lt_two
  settled := .skip _ .nil
  pointsAt := ⟨nofun, List.forall_mem_singleton.mpr nofun⟩
  wellFormed := graftedUnder_ofFragment.wellFormed

/-- A text that is read without rest is read to its end. -/
theorem read_eq {around : List ElementName} {b b' : Builder} {text : String}
    (hclean : IsClean text.toList) (h : Advances b text.toList b' []) (hready : IsReady around b') :
    b.read text = b'.tree := by
  obtain ⟨k, hk, hrun⟩ := h
  obtain ⟨n, hn⟩ : ∃ n, text.toList.length + 1 = n + 1 + k := ⟨text.toList.length - k, by
    rw [List.length_nil] at hk
    omega⟩
  have hend : (readText (n + 1) []).run b' = pure ((), b') := by
    rw [readText, run_take_endOfText hready]
  unfold read
  dsimp only
  rw [Lexer.prepare_eq_self hclean, hn, hrun, hend]
  rfl

end Builder

/-- Flow content that is written and read as the content of a body comes back as it is. -/
theorem fragmentOf_write {ts : List (Tree Node)} (h : isFlow ts = true) :
    fragmentOf (String.ofList (writeForest {} ts)) = ts := by
  obtain ⟨hflow, hclean⟩ := Bool.and_eq_true_iff.mp h
  have hclean : IsClean (writeForest {} ts) := List.all_eq_true.mp hclean
  have hreads : Reads [{ localName := "html" }] ofFragment ⟨1, { localName := "html" }⟩
      (writeForest {} ts) [] ts :=
    reads_forest isReady_ofFragment rfl (by simp) ts hflow hclean fun _ => rfl
  obtain ⟨b, hadvances, hready, -, hgraft⟩ := hreads
  rw [List.append_nil] at hadvances
  have hread : ofFragment.read (String.ofList (writeForest {} ts)) = b.tree :=
    read_eq (by simpa using hclean) (by simpa using hadvances) hready
  have hroot : (Arena.withRoot Node.document).GraftedUnder 0
      [.node (.element { localName := "html" } []) ts] b.tree :=
    .node (.withRoot _) Nat.one_pos hgraft
  obtain ⟨ids, hids, hview⟩ := hroot.children_parent
  have hchildren : (b.tree.view b.tree.root).children =
      [.node (.element { localName := "html" } []) ts] := by
    rw [← hview, hready.wellFormed.view_eq]
    exact congrArg (List.map b.tree.view) hids
  rw [fragmentOf_eq, hread, hchildren]
  rfl

end SourceEdit.Markup
