import SourceEdit.Proofs.Stylesheet.CleanItem

/-!
# Marks

A text is not what its items are written as: items are trimmed, semicolons and at-signs are left out
where they say nothing, and an unclosed string takes in what stands behind it.  What is lost shows in
the marks, the characters that begin an item or its value.  A text has at least the marks of the items
that are read from it (`Reads.marks_le`), and a text that has no more marks than these has none
between the items.  An item of such a text that is written where it stands is then the text that it is
written as, up to white space: `eq_of_ofLeaf?` for an item without a block, `eq_of_ofPrelude` for the
text before a block.
-/

namespace SourceEdit.Stylesheet

/-! ### Marks -/

/-- A character that shows an item: the colon of a declaration, the sign of an at-rule and the brace of
a block.  Cleaning an item may leave marks out, but adds none, and neither does writing it. -/
def isMark (c : Char) : Bool := c == ':' || c == '@' || c == '\x7b'

/-- The number of marks in a text. -/
def marks (text : List Char) : Nat := text.countP isMark

@[simp]
theorem marks_nil : marks [] = 0 := rfl

/-- The marks of two texts add up. -/
@[simp]
theorem marks_append (a b : List Char) : marks (a ++ b) = marks a + marks b := List.countP_append

theorem marks_cons_of_isMark {c : Char} (hc : isMark c = true) (cs : List Char) :
    marks (c :: cs) = marks cs + 1 := by
  rw [marks, List.countP_cons_of_pos hc, marks]

theorem marks_cons_of_not_isMark {c : Char} (hc : isMark c = false) (cs : List Char) :
    marks (c :: cs) = marks cs := by
  rw [marks, List.countP_cons_of_neg (by simp [hc]), marks]

theorem marks_eq_zero {w : List Char} (hw : ∀ c ∈ w, isMark c = false) : marks w = 0 :=
  List.countP_eq_zero.mpr fun c hc => by simp [hw c hc]

/-- Blank characters are no marks. -/
theorem isMark_eq_false_of_isBlank {c : Char} (hc : isBlank c = true) : isMark c = false := by
  rw [Bool.eq_false_iff]
  intro hmark
  simp only [isMark, Bool.or_eq_true, beq_iff_eq] at hmark
  obtain (rfl | rfl) | rfl := hmark <;> exact absurd hc (by decide)

theorem marks_eq_zero_of_isBlank {w : List Char} (hw : ∀ c ∈ w, isBlank c = true) : marks w = 0 :=
  marks_eq_zero fun c hc => isMark_eq_false_of_isBlank (hw c hc)

/-- Two ways to go up to a mark in a text are the same if they pass the same number of marks. -/
theorem eq_of_marks_eq {a b s s' : List Char} {c c' : Char} (hc : isMark c = true)
    (hc' : isMark c' = true) (h : a ++ c :: s = b ++ c' :: s') (hmarks : marks a = marks b) :
    a = b ∧ s = s' := by
  obtain ⟨r, rfl, hr⟩ | ⟨r, rfl, hr⟩ := List.append_eq_append_iff.mp h
  all_goals
    cases r with
    | nil => simp_all
    | cons d r =>
      obtain ⟨rfl, -⟩ := List.cons.inj hr
      rw [marks_append, marks_cons_of_isMark (by assumption)] at hmarks
      omega

/-! ### Where texts agree -/

/-- What has no `c` in it ends before the first `c`. -/
theorem exists_append_of_not_mem {d text w s : List Char} {c : Char} (h : d ++ text = w ++ c :: s)
    (hc : c ∉ d) : ∃ b, w = d ++ b ∧ text = b ++ c :: s := by
  obtain ⟨b, hw, htext⟩ | ⟨b, rfl, hb⟩ := List.append_eq_append_iff.mp h
  · exact ⟨b, hw, htext⟩
  · cases b with
    | nil => exact ⟨[], by simp, by simpa using hb.symm⟩
    | cons e b =>
      obtain ⟨rfl, -⟩ := List.cons.inj hb
      exact absurd (List.mem_append_right _ List.mem_cons_self) hc

/-- What is behind white space and a trimmed text does not depend on the white space. -/
theorem eq_of_blank_append {w u v s s' : List Char} (hw : ∀ c ∈ w, isBlank c = true)
    (hu : ∀ c ∈ u, isBlank c = true) (hv : Trimmed v) (hne : v ≠ [])
    (h : w ++ (v ++ s) = u ++ (v ++ s')) : w = u ∧ s = s' := by
  have htake {w s : List Char} (hw : ∀ c ∈ w, isBlank c = true) :
      (w ++ (v ++ s)).takeWhile isBlank = w := by
    rw [List.takeWhile_append_of_pos hw, takeWhile_eq_nil_of_head (head_append hv hne),
      List.append_nil]
  have hwu : w = u := by rw [← htake hw (s := s), h, htake hu]
  subst hwu
  exact ⟨rfl, List.append_cancel_left (List.append_cancel_left h)⟩

/-- What is before a trimmed text does not depend on white space behind it. -/
theorem eq_of_append_blank {y b v w : List Char} (hw : ∀ c ∈ w, isBlank c = true) (hv : Trimmed v)
    (hne : v ≠ []) (h : y ++ (v ++ w) = b ++ v) : w = [] ∧ y = b := by
  obtain rfl : w = [] := by
    obtain rfl | ⟨w, c, rfl⟩ := List.eq_nil_or_concat w
    · rfl
    · have hlast : (b ++ v).getLast? = some c := by rw [← h]; simp [← List.append_assoc]
      rw [List.getLast?_append, Option.or_of_isSome (by simpa using hne)] at hlast
      exact absurd (hw c (by simp)) (by simp [hv.last c hlast])
  rw [List.append_nil] at h
  exact ⟨rfl, List.append_cancel_right h⟩

/-! ### Marks of items -/

/-- What may go astray is no mark. -/
theorem isMark_eq_false_of_isStray {c : Char} (hc : IsStray c) : isMark c = false := by
  obtain hc | rfl := hc
  · exact isMark_eq_false_of_isBlank hc
  · decide

/-- An at-rule has the mark that it starts with. -/
theorem marks_atRuleText (name params : List Char) :
    marks (atRuleText name params) = marks name + marks params + 1 := by
  rw [atRuleText, marks_cons_of_isMark (by decide), marks_append, marks_append]
  split_ifs
  · simp [Nat.add_assoc]
  · rw [marks_eq_zero (w := [' ']) (by simp [isMark])]
    omega

/-- An at-rule is read from its sign, its name and its parameters; every further sign before them is a
mark that is not written again. -/
theorem exists_atRule {x : List Char} (hx : Trimmed x) (hat : x.head? = some '@') :
    ∃ n w, x = List.replicate n '@' ++
        ('@' :: (splitAtRule x).1.toList ++ (w ++ (splitAtRule x).2.toList)) ∧
      (∀ c ∈ w, isBlank c = true) ∧ Trimmed (splitAtRule x).2.toList ∧
      ((splitAtRule x).2.toList = [] → w = []) ∧
      marks x = marks (atRuleText (splitAtRule x).1.toList (splitAtRule x).2.toList) + n := by
  obtain ⟨n, w, hsplit, hw, hparams, hnil, -⟩ := exists_splitAtRule hx hat
  refine ⟨n, w, hsplit, hw, hparams, hnil, ?_⟩
  have hsigns : marks (List.replicate n '@') = n := by simp [marks, List.countP_replicate, isMark]
  conv_lhs => rw [hsplit]
  rw [marks_append, marks_append, marks_append, marks_cons_of_isMark (by decide), hsigns,
    marks_eq_zero_of_isBlank hw, marks_atRuleText]
  omega

/-- The text of a comment loses characters only. -/
theorem sublist_commentBody (text : List Char) : (Lexeme.commentBody text).Sublist text := by
  unfold Lexeme.commentBody
  dsimp only
  split
  · exact (List.take_sublist ..).trans (List.drop_sublist ..)
  · exact List.drop_sublist ..

/-- A comment that is trimmed has no more marks than before. -/
theorem marks_stem_comment (text : List Char) :
    marks (Node.stem (.comment (String.ofList (trim (Lexeme.commentBody text))))) ≤ marks text := by
  have hle : marks (trim (Lexeme.commentBody text)) ≤ marks text :=
    ((sublist_trim _).trans (sublist_commentBody text)).countP_le
  have hstem : marks (Node.stem (.comment (String.ofList (trim (Lexeme.commentBody text))))) =
      marks (trim (Lexeme.commentBody text)) := by
    simp [Node.stem, marks, isMark]
  omega

/-- The block of an at-rule is one more mark. -/
theorem marks_stem_atRule (name params : String) (block : Bool) :
    marks (Node.stem (.atRule name params block)) =
      marks (atRuleText name.toList params.toList) + if block then 1 else 0 := by
  rw [stem_atRule, marks_append]
  cases block <;> rfl

/-- A declaration has the mark between its name and its value. -/
theorem marks_stem_declaration (property value : String) :
    marks (Node.stem (.declaration property value)) =
      marks property.toList + marks value.toList + 1 := by
  simp [Node.stem, marks, isMark]
  omega

/-- A rule has the mark that opens its block. -/
theorem marks_stem_rule (selector : String) :
    marks (Node.stem (.rule selector)) = marks selector.toList + 1 := by
  by_cases hempty : selector = "" <;> simp [Node.stem, hempty, marks, isMark]

/-- The text of an item without a block has the marks of the item, and perhaps more. -/
theorem marks_stem_le_of_ofLeaf? {x : List Char} {n : Node} (hx : Trimmed x)
    (h : Node.ofLeaf? x = some n) : marks n.stem ≤ marks x := by
  obtain ⟨hat, rfl⟩ | ⟨-, value, -, -, rfl⟩ := Node.ofLeaf?_cases h
  · obtain ⟨k, w, -, -, -, -, hmarks⟩ := exists_atRule hx hat
    rw [marks_stem_atRule, hmarks]
    simp
  · obtain ⟨w, w', hsplit, -⟩ := exists_of_ofLeaf?_declaration hx h
    have hmarks := congrArg marks hsplit
    rw [marks_append, marks_append, marks_cons_of_isMark (by decide), marks_append] at hmarks
    rw [marks_stem_declaration]
    omega

/-- The text before a block has the marks of the item but for the brace, and perhaps more. -/
theorem marks_stem_ofPrelude_le {x : List Char} (hx : Trimmed x) :
    marks (Node.ofPrelude x).stem ≤ marks x + 1 := by
  by_cases hat : x.head? = some '@'
  · obtain ⟨k, w, -, -, -, -, hmarks⟩ := exists_atRule hx hat
    rw [Node.ofPrelude_atRule hat, marks_stem_atRule, hmarks]
    simp
  · rw [Node.ofPrelude_of_ne hat, marks_stem_rule, String.toList_ofList]

/-- The text of an item has the marks of the item, and perhaps more. -/
theorem Scans.marks_stem_le {nested : Bool} {text raw rest : List Char} {ending : Ending} {n : Node}
    (h : Scans nested [] text raw ending rest) (hnode : Node.ofScan? raw ending = some n) :
    marks n.stem ≤ marks raw := by
  have hleaf (hnode : Node.ofLeaf? (leafOf raw) = some n) : marks n.stem ≤ marks raw := by
    obtain ⟨a, g, hraw, -⟩ := exists_leafOf raw
    have hle : marks n.stem ≤ marks (leafOf raw) :=
      marks_stem_le_of_ofLeaf? (trimmed_trim _) hnode
    conv_rhs => rw [hraw]
    rw [marks_append, marks_append]
    omega
  cases ending with
  | semicolon | exhausted => exact hleaf hnode
  | block =>
    obtain ⟨t, rfl⟩ := h.raw_eq_of_block rfl
    obtain rfl := Option.some.inj hnode
    obtain ⟨a, g, ht, -⟩ := exists_preludeOf t
    have hle := marks_stem_ofPrelude_le (trimmed_trim (trimEndBy (· == '\x7b') t))
    rw [← preludeOf_append] at hle
    conv_rhs => rw [ht]
    rw [marks_append, marks_append, marks_append, marks_cons_of_isMark (by decide)]
    omega

/-- The texts of all items of a forest, up to their semicolons and the braces of their blocks. -/
def stems (ts : List (Tree Node)) : List Char := (ts.flatMap Tree.values).flatMap Node.stem

@[simp]
theorem stems_nil : stems [] = [] := rfl

/-- The text of an item goes before those of the items in it. -/
@[simp]
theorem stems_cons (n : Node) (cs ts : List (Tree Node)) :
    stems (.node n cs :: ts) = n.stem ++ (stems cs ++ stems ts) := by
  simp [stems, Tree.values_node]

@[simp]
theorem stems_append (ts ts' : List (Tree Node)) : stems (ts ++ ts') = stems ts ++ stems ts' := by
  simp [stems]

/-- Indentation and gaps have no marks. -/
theorem marks_flatMap_writeItem {indent : String} {gap : List Char}
    (hgap : ∀ c ∈ gap, Lexeme.isSpace c = true) {depth : Nat} {ts : List (Tree Node)}
    (hts : ∀ t ∈ ts, marks (writeItem indent depth t).toList = marks (stems [t])) :
    marks (ts.flatMap fun t => gap ++ (writeItem indent depth t).toList) = marks (stems ts) := by
  induction ts with
  | nil => rfl
  | cons t ts ih =>
    obtain ⟨n, cs⟩ := t
    obtain ⟨ht, hts⟩ := List.forall_mem_cons.mp hts
    have hgap := marks_eq_zero_of_isBlank fun c hc => isBlank_of_isSpace (hgap c hc)
    rw [List.flatMap_cons, marks_append, marks_append, ih hts, hgap, ht]
    simp [Nat.add_assoc]

/-- An item is written with the marks of the items of its tree. -/
theorem marks_writeItem {indent : String} (hindent : ∀ c ∈ indent.toList, Lexeme.isSpace c = true)
    {t : Tree Node} (ht : ItemTree t) (depth : Nat) :
    marks (writeItem indent depth t).toList = marks (stems [t]) := by
  induction ht generalizing depth with
  | @node n cs hroot hblock _ ih =>
    have hblank (depth : Nat) : marks (repeatText indent depth).toList = 0 :=
      marks_eq_zero_of_isBlank fun c hc => isBlank_of_isSpace (isSpace_repeatText hindent depth c hc)
    obtain ⟨w, hw, hwritten⟩ := exists_toList_writeItem hindent hroot depth cs
    have hwmarks : marks w = 0 := marks_eq_zero_of_isBlank fun c hc => isBlank_of_isSpace (hw c hc)
    rw [hwritten, marks_append, marks_append, hwmarks]
    simp only [stems_cons, stems_nil, List.append_nil, marks_append, Nat.zero_add]
    congr 1
    -- the white space and the closing brace of the block have no marks
    by_cases hne : cs = []
    · subst hne
      split_ifs
      · rw [toList_writeBlock_nil]
        decide
      · rfl
    · have hitems := marks_flatMap_writeItem isSpace_lineBreak fun t ht => ih t ht (depth + 1)
      have hend : marks ('\n' :: ((repeatText indent depth).toList ++ ['\x7d'])) = 0 := by
        rw [marks_cons_of_not_isMark (by decide), marks_append, hblank]
        rfl
      rw [if_pos (hblock hne), toList_writeBlock_of_ne_nil hne, ← hitems]
      simp only [List.drop_succ_cons, List.drop_zero, marks_append, hend]
      rfl

section Reads

variable {nested : Bool} {text rest : List Char} {ts : List (Tree Node)}

/-- What an item ends with is no mark. -/
theorem Reads.marks_drop (h : Reads nested text ts rest) : marks (rest.drop 1) = marks rest := by
  obtain rfl | ⟨-, after, rfl⟩ := h.rest_eq
  · rfl
  · exact (marks_cons_of_not_isMark (by decide) after).symm

/-- A text has the marks of the items that are read from it, and perhaps more. -/
theorem Reads.marks_le (h : Reads nested text ts rest) :
    marks (stems ts) + marks rest ≤ marks text := by
  induction h with
  | nil | closing => simp
  | skip hbegins _ _ ih =>
    rw [hbegins.eq_append, marks_append]
    omega
  | @comment _ _ _ _ _ l hbegins _ _ ih =>
    have hle := marks_stem_comment l.text
    rw [hbegins.eq_append, Tree.leaf, stems_cons, stems_nil, marks_append, marks_append, marks_append,
      marks_nil]
    omega
  | @leaf _ _ _ raw _ _ _ _ ending _ _ hscans hending _ ih =>
    rw [hscans.eq_append, stems_append, marks_append, marks_append]
    cases hnode : Node.ofLeaf? (leafOf raw) with
    | none =>
      simp only [Option.toList_none, List.map_nil, stems_nil, marks_nil]
      omega
    | some n =>
      have hle : marks n.stem ≤ marks raw := hscans.marks_stem_le (by cases ending <;> trivial)
      simp only [Option.toList_some, List.map_cons, List.map_nil, Tree.leaf, stems_cons, stems_nil,
        List.append_nil]
      omega
  | block _ _ hscans hchildren _ ihchildren ih =>
    have hle := hscans.marks_stem_le rfl
    -- what closes the block is no mark
    rw [hchildren.marks_drop] at ih
    rw [hscans.eq_append, stems_cons, marks_append, marks_append, marks_append]
    omega

end Reads

/-! ### Items that are written where they stand -/

section Aligned

variable {x y w s s' : List Char}

/-- An at-rule that is written where it stands is the text that it is written as. -/
theorem eq_atRuleText (hx : Trimmed x) (hat : x.head? = some '@')
    (hmarks : marks x ≤ marks (atRuleText (splitAtRule x).1.toList (splitAtRule x).2.toList))
    (hy : marks y = 0) (hw : ∀ c ∈ w, isBlank c = true)
    (h : y ++ (x ++ s) =
      w ++ (atRuleText (splitAtRule x).1.toList (splitAtRule x).2.toList ++ s')) :
    y = w ∧ x = atRuleText (splitAtRule x).1.toList (splitAtRule x).2.toList ∧ s = s' := by
  obtain ⟨n, w', hsplit, hw', hparams, hnil, hcount⟩ := exists_atRule hx hat
  obtain rfl : n = 0 := by omega
  generalize (splitAtRule x).1.toList = name at *
  generalize (splitAtRule x).2.toList = params at *
  subst hsplit
  simp only [List.replicate_zero, List.nil_append, atRuleText, List.cons_append,
    List.append_assoc] at h ⊢
  obtain ⟨hyw, hrest⟩ := eq_of_marks_eq (by decide) (by decide) h
    (hy.trans (marks_eq_zero_of_isBlank hw).symm)
  have hrest := List.append_cancel_left hrest
  by_cases hne : params = []
  · obtain rfl := hnil hne
    subst hne
    simpa [hyw] using hrest
  · rw [if_neg hne] at hrest
    obtain ⟨rfl, hs⟩ := eq_of_blank_append hw' (by simp [isBlank]) hparams hne hrest
    exact ⟨hyw, by rw [if_neg hne], hs⟩

/-- A declaration that is written where it stands is the text that it is written as, but for the blank
of an empty value. -/
theorem eq_declaration {property value : String} (hx : Trimmed x)
    (hnode : Node.ofLeaf? x = some (.declaration property value)) (hy : marks y = 0)
    (hw : ∀ c ∈ w, isBlank c = true)
    (h : y ++ (x ++ s) = w ++ (property.toList ++ ':' :: ' ' :: (value.toList ++ s'))) :
    y = w ∧ ∃ u, (u = [] ∨ u = [' ']) ∧
      property.toList ++ ':' :: ' ' :: value.toList = x ++ u ∧ s = u ++ s' := by
  obtain ⟨w₁, w₂, rfl, hw₁, hw₂, hp, hpne, -, -, hv, hnil⟩ := exists_of_ofLeaf?_declaration hx hnode
  generalize property.toList = p at *
  generalize value.toList = v at *
  -- the colon is the first mark of both texts
  have hcolon :
      (y ++ (p ++ w₁)) ++ ':' :: (w₂ ++ (v ++ s)) = (w ++ p) ++ ':' :: (' ' :: (v ++ s')) := by
    simpa using h
  obtain ⟨hbefore, hbehind⟩ := eq_of_marks_eq (by decide) (by decide) hcolon (by
    simp [hy, marks_eq_zero_of_isBlank hw, marks_eq_zero_of_isBlank hw₁])
  obtain ⟨rfl, rfl⟩ := eq_of_append_blank hw₁ hp hpne hbefore
  refine ⟨rfl, ?_⟩
  by_cases hne : v = []
  · obtain rfl := hnil hne
    subst hne
    exact ⟨[' '], .inr rfl, by simp, by simpa using hbehind⟩
  · obtain ⟨rfl, rfl⟩ := eq_of_blank_append (u := [' ']) hw₂ (by simp [isBlank]) hv hne hbehind
    exact ⟨[], .inl rfl, by simp, rfl⟩

/-- A rule that is written where it stands has one blank before its brace. -/
theorem eq_rule {g rest after : List Char} (hx : Trimmed x) (hne : x ≠ []) (hy : marks y = 0)
    (hw : ∀ c ∈ w, isBlank c = true) (hg : ∀ c ∈ g, isBlank c = true)
    (h : y ++ (x ++ (g ++ '\x7b' :: rest)) = w ++ (x ++ ' ' :: '\x7b' :: after)) :
    y = w ∧ g = [' '] ∧ rest = after := by
  have hbrace : (y ++ (x ++ g)) ++ '\x7b' :: rest = (w ++ (x ++ [' '])) ++ '\x7b' :: after := by
    simpa using h
  obtain ⟨hbefore, hbehind⟩ := eq_of_marks_eq (by decide) (by decide) hbrace (by
    simp [hy, marks_eq_zero_of_isBlank hw, marks_eq_zero_of_isBlank hg,
      marks_eq_zero (w := [' ']) (by simp [isMark])])
  obtain rfl | ⟨g, c, rfl⟩ := List.eq_nil_or_concat g
  · rw [List.append_nil] at hbefore
    exact absurd (eq_of_append_blank (by simp [isBlank]) hx hne hbefore.symm).1 (by simp)
  · -- the blank that is written is the last one before the brace
    have hlast : (y ++ (x ++ g)) ++ [c] = (w ++ x) ++ [' '] := by simpa using hbefore
    obtain ⟨hbefore, hc⟩ := List.append_inj' hlast rfl
    obtain ⟨rfl, rfl⟩ := eq_of_append_blank (fun c hc => hg c (by simp [hc])) hx hne hbefore
    exact ⟨rfl, hc, hbehind⟩

/-- An item without a block that is written where it stands is the text that it is written as, but for
its semicolon and for the blank of an empty value. -/
theorem eq_of_ofLeaf? {n : Node} (hx : Trimmed x) (hnode : Node.ofLeaf? x = some n)
    (hmarks : marks x ≤ marks n.stem) (hy : marks y = 0) (hw : ∀ c ∈ w, isBlank c = true)
    (h : y ++ (x ++ s) = w ++ (n.stem ++ s')) :
    y = w ∧ ∃ u, (u = [] ∨ u = [' ']) ∧ n.stem = x ++ (u ++ [';']) ∧ s = u ++ ';' :: s' := by
  obtain ⟨hat, rfl⟩ | ⟨-, value, -, -, hdeclaration⟩ := Node.ofLeaf?_cases hnode
  · have hstem := stem_atRule (splitAtRule x).1 (splitAtRule x).2 false
    rw [marks_stem_atRule, if_neg Bool.false_ne_true, Nat.add_zero] at hmarks
    have h : y ++ (x ++ s) = w ++
        (atRuleText (splitAtRule x).1.toList (splitAtRule x).2.toList ++ ';' :: s') := by
      simpa [hstem] using h
    obtain ⟨hyw, htext, hs⟩ := eq_atRuleText hx hat hmarks hy hw h
    exact ⟨hyw, [], .inl rfl, by rw [hstem, ← htext]; rfl, hs⟩
  · generalize String.ofList _ = property at hdeclaration
    generalize String.ofList (trim value) = value at hdeclaration
    subst hdeclaration
    have h : y ++ (x ++ s) = w ++ (property.toList ++ ':' :: ' ' :: (value.toList ++ ';' :: s')) := by
      simpa [Node.stem] using h
    obtain ⟨hyw, u, hu, htext, hs⟩ := eq_declaration hx hnode hy hw h
    refine ⟨hyw, u, hu, ?_, hs⟩
    rw [← List.append_assoc, ← htext]
    simp [Node.stem]

/-- The text before a block that is written where it stands is the text that the item is written as.
If it is empty the white space before the brace may be a part of what is written before the item. -/
theorem eq_of_ofPrelude {g : List Char} (hx : Trimmed x)
    (hmarks : marks x + 1 ≤ marks (Node.ofPrelude x).stem) (hy : marks y = 0)
    (hw : ∀ c ∈ w, isBlank c = true) (hg : ∀ c ∈ g, isBlank c = true)
    (h : y ++ (x ++ (g ++ '\x7b' :: s)) = w ++ ((Node.ofPrelude x).stem ++ s')) :
    ∃ b, y ++ b = w ∧ x ++ (g ++ ['\x7b']) = b ++ (Node.ofPrelude x).stem ∧ s = s' := by
  have hgmarks : marks g = 0 := marks_eq_zero_of_isBlank hg
  by_cases hat : x.head? = some '@'
  · have hstem := stem_atRule (splitAtRule x).1 (splitAtRule x).2 true
    rw [Node.ofPrelude_atRule hat] at h hmarks ⊢
    rw [marks_stem_atRule, if_pos rfl] at hmarks
    have h : y ++ (x ++ (g ++ '\x7b' :: s)) = w ++
        (atRuleText (splitAtRule x).1.toList (splitAtRule x).2.toList ++ (' ' :: '\x7b' :: s')) := by
      simpa [hstem] using h
    obtain ⟨hyw, htext, hbehind⟩ := eq_atRuleText hx hat (by omega) hy hw h
    obtain ⟨rfl, hs⟩ := eq_of_marks_eq (b := [' ']) (by decide) (by decide) hbehind hgmarks
    exact ⟨[], by simpa using hyw, by rw [hstem, ← htext]; simp, hs⟩
  · rw [Node.ofPrelude_of_ne hat] at h ⊢
    by_cases hne : x = []
    · subst hne
      have h : (y ++ g) ++ '\x7b' :: s = w ++ '\x7b' :: s' := by simpa [Node.stem] using h
      obtain ⟨hyw, hs⟩ := eq_of_marks_eq (by decide) (by decide) h
        (by rw [marks_append, hy, hgmarks, marks_eq_zero_of_isBlank hw])
      exact ⟨g, hyw, by simp [Node.stem], hs⟩
    · have hstem : (Node.rule (String.ofList x)).stem = x ++ [' ', '\x7b'] := by
        simp [Node.stem, hne]
      have h : y ++ (x ++ (g ++ '\x7b' :: s)) = w ++ (x ++ ' ' :: '\x7b' :: s') := by
        simpa [hstem] using h
      obtain ⟨hyw, rfl, hs⟩ := eq_rule hx hne hy hw hg h
      exact ⟨[], by simpa using hyw, by simp [hstem], hs⟩

end Aligned

end SourceEdit.Stylesheet
