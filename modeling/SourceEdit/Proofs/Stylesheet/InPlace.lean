import SourceEdit.Proofs.Stylesheet.Marks

/-!
# Items in their places

Formatting leaves a text as it is when the items that are read from it are written as that text.  Each
of them is then read from where it is written: the text has just the marks of the items that are
written to it, so no item begins before its place (`Scans.eq_leaf`, `Scans.eq_block`), and what is
behind an item is read in its place again.  Only the last item of a block may go further than it is
written, and then to the end of the block (`InPlace.of_leaf`).  So the items of such a text are written
as they are read (`itemsWrittenAs_of_stable`).
-/

namespace SourceEdit.Stylesheet

/-! ### The first item -/

/-- An item is read from the front of a text, and others after it. -/
inductive ReadsItem (nested : Bool) :
    List Char → Node → List (Tree Node) → List (Tree Node) → List Char → Prop
  | comment {text next rest : List Char} {ts : List (Tree Node)} {l : Lexeme} :
      Begins text l next → l.kind = .comment → Reads nested next ts rest →
      ReadsItem nested text (.comment (String.ofList (trim (Lexeme.commentBody l.text)))) [] ts rest
  | leaf {text next raw after rest : List Char} {ts : List (Tree Node)} {l : Lexeme}
      {ending : Ending} {n : Node} :
      Begins text l next → l.OpensItem → Scans nested [] text raw ending after → ending ≠ .block →
      Node.ofLeaf? (leafOf raw) = some n → Reads nested after ts rest →
      ReadsItem nested text n [] ts rest
  | block {text next raw inner after rest : List Char} {cs ts : List (Tree Node)} {l : Lexeme} :
      Begins text l next → l.OpensItem → Scans nested [] text raw .block inner →
      Reads true inner cs after → Reads nested (after.drop 1) ts rest →
      ReadsItem nested text (.ofPrelude (preludeOf raw)) cs ts rest

section First

variable {nested : Bool} {text rest : List Char} {n : Node} {cs ts : List (Tree Node)}

theorem ReadsItem.reads (h : ReadsItem nested text n cs ts rest) :
    Reads nested text (.node n cs :: ts) rest := by
  cases h with
  | comment hbegins hkind hafter => exact .comment hbegins hkind hafter
  | leaf hbegins hopens hscans hending hnode hafter =>
    have hreads := Reads.leaf hbegins hopens hscans hending hafter
    rwa [hnode] at hreads
  | block hbegins hopens hscans hchildren hafter =>
    exact .block hbegins hopens hscans hchildren hafter

/-- What stands before the first item that is read gives no item. -/
theorem Reads.exists_first (h : Reads nested text (.node n cs :: ts) rest) :
    ∃ d text', text = d ++ text' ∧ ReadsItem nested text' n cs ts rest := by
  generalize hforest : Tree.node n cs :: ts = forest at h
  induction h with
  | nil | closing => cases hforest
  | skip hbegins _ _ ih =>
    obtain ⟨d, text', rfl, hfirst⟩ := ih hforest
    exact ⟨_, text', by rw [hbegins.eq_append, List.append_assoc], hfirst⟩
  | comment hbegins hkind hafter =>
    obtain ⟨⟨rfl, rfl⟩, rfl⟩ := by simpa [Tree.leaf] using hforest
    exact ⟨[], _, rfl, .comment hbegins hkind hafter⟩
  | @leaf _ _ _ raw _ _ _ _ ending hbegins hopens hscans hending hafter ih =>
    cases hnode : Node.ofLeaf? (leafOf raw) with
    | none =>
      obtain ⟨d, text', rfl, hfirst⟩ := ih (by simpa [hnode] using hforest)
      exact ⟨_, text', by rw [hscans.eq_append, List.append_assoc], hfirst⟩
    | some n' =>
      obtain ⟨⟨rfl, rfl⟩, rfl⟩ := by simpa [hnode, Tree.leaf] using hforest
      exact ⟨[], _, rfl, .leaf hbegins hopens hscans hending hnode hafter⟩
  | block hbegins hopens hscans hchildren hafter =>
    obtain ⟨⟨rfl, rfl⟩, rfl⟩ := by simpa using hforest
    exact ⟨[], _, rfl, .block hbegins hopens hscans hchildren hafter⟩

end First

/-! ### Items in their places -/

theorem eq_nil_of_opensItem {b s next : List Char} {l : Lexeme} (h : Begins (b ++ s) l next)
    (hopens : l.OpensItem) (hb : ∀ c ∈ b, Lexeme.isSpace c = true) : b = [] := by
  cases b with
  | nil => rfl
  | cons c b =>
    obtain ⟨rfl, -⟩ := h.unique (begins_blank (hb c List.mem_cons_self) (b ++ s))
    exact absurd rfl hopens.1

section Scans

variable {nested : Bool} {text raw rest next : List Char} {ending : Ending} {l : Lexeme}

theorem Scans.rest_eq {open_ : List Bracket} (h : Scans nested open_ text raw ending rest)
    (hending : ending = .exhausted) : rest = [] ∨ nested = true ∧ ∃ after, rest = '\x7d' :: after := by
  induction h with
  | nil => exact .inl rfl
  | closing hnested after => exact .inr ⟨hnested, after, rfl⟩
  | semicolon | block => cases hending
  | step _ _ _ ih => exact ih hending

/-- The text of an item without a block that has ended goes on at least as far as to a semicolon that
follows the item. -/
theorem Scans.exists_eq_leafOf (h : Scans nested [] text raw ending rest) (hending : ending ≠ .block) :
    ∃ a g, raw = a ++ (leafOf raw ++ g) ∧ (∀ c ∈ a, isBlank c = true) ∧ (∀ c ∈ g, IsStray c) ∧
      ∀ u after, (u = [] ∨ u = [' ']) → g ++ rest = u ++ ';' :: after →
        ∃ g', g = u ++ ';' :: g' ∧ g' ++ rest = after := by
  cases hcase : ending with
  | block => exact absurd hcase hending
  | semicolon =>
    obtain ⟨t, rfl⟩ := h.raw_eq_of_semicolon hcase
    obtain ⟨a, g, ht, ha, hg⟩ := exists_leafOf_append t
    refine ⟨a, g ++ [';'], ?_, ha, List.forall_mem_append.mpr ⟨hg, by simp [IsStray]⟩, ?_⟩
    · conv_lhs => rw [ht]
      simp
    · intro u after hu hafter
      have hnot : ';' ∉ u := by obtain rfl | rfl := hu <;> simp
      rw [List.append_assoc, List.singleton_append] at hafter
      obtain ⟨b, rfl, hb⟩ := exists_append_of_not_mem hafter.symm hnot
      -- either no semicolon is cut off before the last one, or the one behind the item is
      cases b with
      | nil => exact ⟨[], by simp, by simpa using hb.symm⟩
      | cons c b =>
        obtain ⟨rfl, rfl⟩ := List.cons.inj hb
        exact ⟨b ++ [';'], by simp, by simp⟩
  | exhausted =>
    obtain ⟨a, g, hraw, ha, hg⟩ := exists_leafOf raw
    refine ⟨a, g, hraw, ha, hg, fun u after hu hafter => ?_⟩
    obtain rfl | ⟨-, after', rfl⟩ := h.rest_eq hcase
    · exact ⟨after, by simpa using hafter, by simp⟩
    · -- the brace that ends the block is behind the semicolon
      have hnot : '\x7d' ∉ u ++ [';'] := by obtain rfl | rfl := hu <;> simp
      have hafter : (u ++ [';']) ++ after = g ++ '\x7d' :: after' := by simpa using hafter.symm
      obtain ⟨b, rfl, rfl⟩ := exists_append_of_not_mem hafter hnot
      exact ⟨b, by simp, rfl⟩

variable {d w after : List Char} {n : Node}

/-- An item without a block that is read where it is written begins where it is written, and goes at
least as far. -/
theorem Scans.eq_leaf (h : Scans nested [] text raw ending rest) (hbegins : Begins text l next)
    (hopens : l.OpensItem) (hending : ending ≠ .block) (hnode : Node.ofLeaf? (leafOf raw) = some n)
    (hmarks : marks raw ≤ marks n.stem) (hd : marks d = 0) (hw : ∀ c ∈ w, Lexeme.isSpace c = true)
    (heq : d ++ text = w ++ (n.stem ++ after)) :
    d = w ∧ ∃ g, raw = n.stem ++ g ∧ g ++ rest = after ∧ ∀ c ∈ g, IsStray c := by
  obtain ⟨a, g, hraw, ha, hg, hends⟩ := h.exists_eq_leafOf hending
  have hx : Trimmed (leafOf raw) := trimmed_trim _
  have htext := h.eq_append
  generalize leafOf raw = x at hnode hraw hx
  subst hraw htext
  have hblank : ∀ c ∈ w, isBlank c = true := fun c hc => isBlank_of_isSpace (hw c hc)
  have hda : marks (d ++ a) = 0 := by rw [marks_append, hd, marks_eq_zero_of_isBlank ha]
  rw [marks_append, marks_append] at hmarks
  obtain ⟨hdw, u, hu, hstem, hrest⟩ :=
    eq_of_ofLeaf? (s := g ++ rest) hx hnode (by omega) hda hblank (by simpa using heq)
  -- what is cut off at the end of the text holds the semicolon that is written
  obtain ⟨g', rfl, hafter⟩ := hends u after hu hrest
  obtain rfl : a = [] := by
    rw [List.append_assoc] at hbegins
    exact eq_nil_of_opensItem hbegins hopens fun c hc => hw c (hdw ▸ List.mem_append_right d hc)
  exact ⟨by simpa using hdw, g', by simp [hstem], hafter, fun c hc => hg c (by simp [hc])⟩

/-- An item with a block that is read where it is written begins where it is written, and so does its
block. -/
theorem Scans.eq_block (h : Scans nested [] text raw .block rest) (hbegins : Begins text l next)
    (hopens : l.OpensItem) (hnode : Node.ofPrelude (preludeOf raw) = n)
    (hmarks : marks raw ≤ marks n.stem) (hd : marks d = 0) (hw : ∀ c ∈ w, Lexeme.isSpace c = true)
    (heq : d ++ text = w ++ (n.stem ++ after)) : d = w ∧ raw = n.stem ∧ rest = after := by
  obtain ⟨t, rfl⟩ := h.raw_eq_of_block rfl
  obtain ⟨a, g, ht, ha, hg⟩ := exists_preludeOf t
  have hx : Trimmed (preludeOf (t ++ ['\x7b'])) := trimmed_trim _
  have htext := h.eq_append
  generalize preludeOf (t ++ ['\x7b']) = x at hnode ht hx
  subst ht htext hnode
  have hblank : ∀ c ∈ w, isBlank c = true := fun c hc => isBlank_of_isSpace (hw c hc)
  have hda : marks (d ++ a) = 0 := by rw [marks_append, hd, marks_eq_zero_of_isBlank ha]
  -- the item has all marks of its text, so that no brace is cut off but the one that is written
  have hle := marks_stem_ofPrelude_le hx
  have hbrace := marks_cons_of_isMark (c := '\x7b') (by decide) []
  rw [marks_append, marks_append, marks_append, hbrace, marks_nil] at hmarks
  have hgmarks : marks g = 0 := by omega
  have hgblank : ∀ c ∈ g, isBlank c = true := fun c hc => (hg c hc).resolve_right fun hcurly => by
    subst hcurly
    exact absurd (List.countP_eq_zero.mp hgmarks _ hc) (by decide)
  obtain ⟨b, hdw, hstem, hrest⟩ := eq_of_ofPrelude (s := rest) hx (by omega) hda hblank hgblank
    (by simpa using heq)
  have hraw : a ++ (x ++ g) ++ ['\x7b'] = (a ++ b) ++ (Node.ofPrelude x).stem := by simp [hstem]
  rw [hraw] at hbegins ⊢
  rw [List.append_assoc] at hdw
  have hab : a ++ b = [] := by
    rw [List.append_assoc] at hbegins
    exact eq_nil_of_opensItem hbegins hopens fun c hc => hw c (hdw ▸ List.mem_append_right d hc)
  exact ⟨by simpa [hab] using hdw, by rw [hab, List.nil_append], hrest⟩

/-- An item of which the scan takes just what is written is read back. -/
theorem Scans.readsBack_stem (h : Scans nested [] text n.stem n.ending rest)
    (hbegins : Begins text l next) (hopens : l.OpensItem) (hn : n.isComment = false)
    (hnode : Node.ofScan? n.stem n.ending = some n) : n.ReadsBack nested := by
  have hending := n.ending_ne_exhausted
  have hscan := (h.change_rest hending []).scanItem_eq
  obtain ⟨next', hbegins'⟩ := h.exists_begins_append hending hbegins []
  rw [List.append_nil] at hscan hbegins'
  refine (Node.readsBack_iff hn).mpr ⟨?_, hscan, hnode⟩
  rw [hbegins'.ofText_eq]
  rintro _ ⟨⟩
  exact hopens

/-- An item without a block of which the scan goes to the end of the block is read there whatever
follows the block. -/
theorem Scans.readsAtEnd {space : List Char}
    (h : Scans nested [] (n.stem ++ (space ++ blockEnd nested after)) (n.stem ++ space) ending
      (blockEnd nested after)) (hending : ending ≠ .block)
    (hbegins : Begins (n.stem ++ (space ++ blockEnd nested after)) l next) (hopens : l.OpensItem)
    (hblock : n.hasBlock = false) (hnode : Node.ofLeaf? (leafOf (n.stem ++ space)) = some n) :
    n.ReadsAtEnd nested space n := by
  refine ⟨hblock, fun after' => ?_⟩
  cases nested with
  | false =>
    have hreads := Reads.leaf hbegins hopens h hending (.nil false)
    rwa [hnode] at hreads
  | true =>
    have hstop : Lexeme.IsStop '\x7d' := .inr (.inr rfl)
    have hscans := h.change_behind hstop (v := []) (w := after) rfl after'
    obtain ⟨next', hbegins'⟩ := h.exists_begins_behind hstop (v := []) (w := after) hbegins after'
    have hreads := Reads.leaf hbegins' hopens hscans hending (.closing after')
    rw [hnode] at hreads
    simpa [blockEnd] using hreads

end Scans

/-! ### Comments -/

/-- Where a comment ends before `*/` does not depend on what follows. -/
theorem commentLength_append_congr (v w w' : List Char) :
    Lexeme.commentLength (v ++ '*' :: '/' :: w) = Lexeme.commentLength (v ++ '*' :: '/' :: w') := by
  induction v with
  | nil => rfl
  | cons c v ih =>
    have hhead : (v ++ '*' :: '/' :: w).head? = (v ++ '*' :: '/' :: w').head? := by cases v <;> rfl
    rw [List.cons_append, List.cons_append, Lexeme.commentLength_cons, Lexeme.commentLength_cons,
      hhead, ih]

/-- Before `*/` a comment goes to the first `*/`. -/
theorem exists_commentLength (v w : List Char) :
    ∃ u r, v ++ '*' :: '/' :: w = u ++ '*' :: '/' :: r ∧
      Lexeme.commentLength (v ++ '*' :: '/' :: w) = u.length + 2 := by
  induction v with
  | nil => exact ⟨[], w, rfl, rfl⟩
  | cons c v ih =>
    rw [List.cons_append, Lexeme.commentLength_cons]
    split_ifs with hclose
    · obtain ⟨rfl, hhead⟩ := hclose
      obtain ⟨r, hr⟩ := List.head?_eq_some_iff.mp hhead
      exact ⟨[], r, by rw [hr]; rfl, rfl⟩
    · obtain ⟨u, r, htext, hlength⟩ := ih
      exact ⟨c :: u, r, by rw [htext]; rfl, by rw [hlength]; rfl⟩

/-- Where a comment is written a comment begins that is closed. -/
theorem exists_begins_comment (text : String) (after : List Char) :
    ∃ (l : Lexeme) (next : List Char), Begins (Node.stem (.comment text) ++ after) l next ∧
      l.kind = .comment ∧ l.IsClosed := by
  obtain ⟨u, r, htext, hlength⟩ := exists_commentLength (' ' :: text.toList ++ [' ']) after
  have hstem : Node.stem (.comment text) ++ after = '/' :: '*' :: (u ++ '*' :: '/' :: r) := by
    rw [← htext]
    simp [Node.stem]
  have hbegins (w : List Char) : Begins ('/' :: '*' :: (u ++ '*' :: '/' :: w))
      ⟨.comment, '/' :: '*' :: (u ++ ['*', '/'])⟩ w := by
    have hw := begins_comment ((u ++ ['*', '/']) ++ w)
    have hclose : Lexeme.commentLength ((u ++ ['*', '/']) ++ w) = u.length + 2 := by
      rw [← hlength, htext, commentLength_append_congr u r w]
      simp
    rw [hclose, List.take_left' (by simp), List.drop_left' (by simp)] at hw
    simpa using hw
  -- it is closed, since it does not take in a semicolon behind it
  refine ⟨_, r, hstem ▸ hbegins r, rfl, fun _ => ?_⟩
  have hsemicolon : Lexeme.ofText ('/' :: '*' :: (u ++ '*' :: '/' :: [';'])) =
      [⟨.comment, '/' :: '*' :: (u ++ ['*', '/'])⟩, ⟨.semicolon, [';']⟩] := by
    rw [(hbegins [';']).ofText_eq, (begins_single (c := ';') .semicolon rfl []).ofText_eq]
    rfl
  simpa using hsemicolon

/-- A comment that is read where it is written ends where it is written. -/
theorem Reads.of_comment {nested : Bool} {text : String} {after rest : List Char}
    {cs ts : List (Tree Node)}
    (h : Reads nested (Node.stem (.comment text) ++ after) (.node (.comment text) cs :: ts) rest) :
    cs = [] ∧ Node.ReadsBack nested (.comment text) ∧ Reads nested after ts rest := by
  -- the text begins with a comment that is closed, so it is this one that is read
  obtain ⟨l, next, hfirst, hcomment, hclosed⟩ := exists_begins_comment text after
  have hback : Node.ReadsBack nested (.comment _) := readsBack_comment hclosed hcomment
  generalize hforest : Tree.node (.comment text) cs :: ts = forest at h
  generalize hwritten : Node.stem (.comment text) ++ after = written at h
  cases h with
  | nil | closing => cases hforest
  | skip hbegins hseparates _ =>
    obtain ⟨rfl, -⟩ := hfirst.unique (hwritten ▸ hbegins)
    simp [Lexeme.Separates, hcomment] at hseparates
  | comment hbegins _ hafter =>
    obtain ⟨rfl, rfl⟩ := hfirst.unique (hwritten ▸ hbegins)
    simp only [Tree.leaf, List.cons.injEq, Tree.node.injEq, Node.comment.injEq] at hforest
    obtain ⟨⟨rfl, rfl⟩, rfl⟩ := hforest
    obtain ⟨-, rfl⟩ := hfirst.unique (hback.begins_comment after)
    exact ⟨rfl, hback, hafter⟩
  | leaf hbegins hopens | block hbegins hopens =>
    obtain ⟨rfl, -⟩ := hfirst.unique (hwritten ▸ hbegins)
    exact absurd hcomment hopens.2.1

/-! ### Ends of blocks -/

theorem Node.of_ofLeaf? {x : List Char} {n : Node} (h : Node.ofLeaf? x = some n) :
    n.hasBlock = false ∧ n.isComment = false := by
  obtain ⟨-, rfl⟩ | ⟨-, value, -, -, rfl⟩ := Node.ofLeaf?_cases h <;> exact ⟨rfl, rfl⟩

section Ends

variable {nested : Bool} {text rest : List Char} {ts : List (Tree Node)}

/-- Where a block ends, no item is read. -/
theorem Reads.eq_of_ended (h : Reads nested text ts rest)
    (hend : text = [] ∨ nested = true ∧ ∃ after, text = '\x7d' :: after) : ts = [] ∧ rest = text := by
  have hnot {l : Lexeme} {next : List Char} (hbegins : Begins text l next) :
      nested = true ∧ l.kind = .closing .curly := by
    -- the only lexeme there is the brace
    obtain rfl | ⟨hnested, after, rfl⟩ := hend
    · obtain ⟨c, cs, hnil, -⟩ := hbegins
      cases hnil
    · obtain ⟨rfl, -⟩ := hbegins.unique (begins_single (.closing .curly) rfl after)
      exact ⟨hnested, rfl⟩
  cases h with
  | nil | closing => exact ⟨rfl, rfl⟩
  | skip hbegins hseparates _ =>
    obtain ⟨rfl, hkind⟩ := hnot hbegins
    simp [Lexeme.Separates, hkind] at hseparates
  | comment hbegins hkind _ => exact absurd (hkind.symm.trans (hnot hbegins).2) (by decide)
  | leaf hbegins hopens | block hbegins hopens => exact absurd (hnot hbegins).2 hopens.2.2.2

theorem IsStray.ne {c d : Char} (hc : IsStray c) (hblank : isBlank d = false) (hd : d ≠ ';') :
    c ≠ d := by
  rintro rfl
  exact hc.elim (fun h => Bool.false_ne_true (hblank.symm.trans h)) hd

/-- Behind its last item a block is read to where it was written to end. -/
theorem Reads.eq_blockEnd {d space after : List Char} (h : Reads nested text [] rest)
    (hd : ∀ c ∈ d, IsStray c) (hspace : ∀ c ∈ space, Lexeme.isSpace c = true)
    (heq : d ++ text = space ++ blockEnd nested after) :
    rest = blockEnd nested after ∧ ∀ c ∈ d, Lexeme.isSpace c = true := by
  cases nested with
  | false =>
    rw [blockEnd, if_neg Bool.false_ne_true, List.append_nil] at heq
    exact ⟨h.rest_eq_nil, fun c hc => hspace c (heq ▸ List.mem_append_left text hc)⟩
  | true =>
    obtain ⟨b, rfl, rfl⟩ := exists_append_of_not_mem heq fun hmem =>
      (hd _ hmem).ne (by decide) (by decide) rfl
    obtain ⟨hd, hb⟩ := List.forall_mem_append.mp hspace
    have hend := (reads_append_iff hb).mp h
    exact ⟨(hend.eq_of_ended (.inr ⟨rfl, after, rfl⟩)).2, hd⟩

end Ends

/-! ### Lists of items in their places -/

/-- Whatever is read as items where the text is written is read in its place: the items are written
as they are read, up to the end of their block.  An item before them that has gone too far has taken
white space only. -/
def InPlace (indent : String) (nested : Bool) (depth : Nat) (space after text : List Char)
    (ts : List (Tree Node)) : Prop :=
  ∀ d text' rest : List Char, d ++ text' = text → (∀ c ∈ d, IsStray c) → Reads nested text' ts rest →
    marks text' = marks (stems ts) + marks rest →
      ItemsWrittenAs indent nested depth space ts ts ∧ rest = blockEnd nested after ∧
        ∀ c ∈ d, Lexeme.isSpace c = true

section InPlace

variable {indent : String} {nested : Bool} {depth : Nat} {space after tail w : List Char}
  {cs ts : List (Tree Node)}

theorem inPlace_nil (hspace : ∀ c ∈ space, Lexeme.isSpace c = true) :
    InPlace indent nested depth space after (space ++ blockEnd nested after) [] :=
  fun _ _ _ heq hd h _ => ⟨.nil, h.eq_blockEnd hd hspace heq⟩

/-- A comment begins where it is written, since nothing else does. -/
theorem InPlace.cons_comment (h : InPlace indent nested depth space after tail ts)
    (hw : ∀ c ∈ w, Lexeme.isSpace c = true) (content : String) :
    InPlace indent nested depth space after (w ++ (Node.stem (.comment content) ++ tail))
      (.node (.comment content) cs :: ts) := by
  intro d text rest heq hd hreads hmarks
  obtain ⟨s, hs⟩ : ∃ s, Node.stem (.comment content) ++ tail = '/' :: s := ⟨_, rfl⟩
  rw [hs] at heq
  obtain ⟨b, rfl, rfl⟩ := exists_append_of_not_mem heq fun hmem =>
    (hd _ hmem).ne (by decide) (by decide) rfl
  obtain ⟨hd, hb⟩ := List.forall_mem_append.mp hw
  have hbmarks := marks_eq_zero_of_isBlank fun c hc => isBlank_of_isSpace (hb c hc)
  rw [reads_append_iff hb, ← hs] at hreads
  rw [← hs, marks_append, marks_append, hbmarks, stems_cons, marks_append] at hmarks
  obtain ⟨rfl, hback, hafter⟩ := hreads.of_comment
  obtain ⟨hitems, hrest, -⟩ := h [] tail rest rfl (by simp) hafter (by
    rw [stems_nil, List.nil_append] at hmarks
    omega)
  exact ⟨.cons (.node hback.readsAs .nil) hitems, hrest, hd⟩

/-- An item without a block that goes further than it is written goes to the end of the block. -/
theorem InPlace.of_leaf (h : InPlace indent nested depth space after tail ts)
    (hend : ts = [] → tail = space ++ blockEnd nested after) {n : Node}
    {g rest after' next : List Char} {l : Lexeme} {ending : Ending}
    (hbegins : Begins (n.stem ++ tail) l next) (hopens : l.OpensItem)
    (hscans : Scans nested [] (n.stem ++ tail) (n.stem ++ g) ending after') (hending : ending ≠ .block)
    (hnode : Node.ofLeaf? (leafOf (n.stem ++ g)) = some n) (hg : ∀ c ∈ g, IsStray c)
    (hafter : Reads nested after' ts rest) (hmarks : marks after' = marks (stems ts) + marks rest) :
    ItemsWrittenAs indent nested depth space (.leaf n :: ts) (.leaf n :: ts) ∧
      rest = blockEnd nested after := by
  have htail : g ++ after' = tail := by
    have heq := hscans.eq_append
    rw [List.append_assoc] at heq
    exact (List.append_cancel_left heq).symm
  obtain ⟨hitems, hrest, hspace⟩ := h g after' rest htail hg hafter hmarks
  refine ⟨?_, hrest⟩
  obtain ⟨hblock, hn⟩ := Node.of_ofLeaf? hnode
  cases ending with
  | block => exact absurd rfl hending
  | semicolon =>
    -- the semicolon at the end is the one that is written
    obtain rfl : g = [] := by
      obtain ⟨inner, hinner⟩ := hscans.raw_eq_of_semicolon rfl
      obtain rfl | ⟨g, c, rfl⟩ := List.eq_nil_or_concat g
      · rfl
      · rw [List.concat_eq_append, ← List.append_assoc] at hinner
        obtain ⟨-, hc⟩ := List.append_inj' hinner rfl
        exact absurd (hspace c (by simp)) (by simp [List.singleton_inj.mp hc, Lexeme.isSpace,
          Lexeme.isLineEnd])
    rw [List.append_nil] at hscans hnode
    have hsemicolon : n.ending = .semicolon := by rw [Node.ending, hblock]; rfl
    have hback := Scans.readsBack_stem (hsemicolon ▸ hscans) hbegins hopens hn (hsemicolon ▸ hnode)
    exact .cons (.node hback.readsAs .nil) hitems
  | exhausted =>
    -- nothing is read behind the item, so it is the last one
    obtain ⟨rfl, rfl⟩ := hafter.eq_of_ended (hscans.rest_eq rfl)
    subst hrest
    obtain rfl : g = space := List.append_cancel_right (htail.trans (hend rfl))
    rw [← htail] at hbegins hscans
    exact .last (hscans.readsAtEnd hending hbegins hopens hblock hnode)

/-- The items of the block of a tree are read in their places where the block is written. -/
def BlockInPlace (indent : String) (t : Tree Node) : Prop :=
  ∀ (depth : Nat) (after rest : List Char),
    let inner := (writeBlock indent depth t.children).toList.drop 2 ++ after
    Reads true inner t.children rest → marks inner = marks (stems t.children) + marks rest →
      ItemsWrittenAs indent true (depth + 1) ('\n' :: (repeatText indent depth).toList) t.children
        t.children ∧ rest = '\x7d' :: after

/-- The items of a block are read where they are written, and so are those behind the block. -/
theorem InPlace.of_block {n : Node} (h : InPlace indent nested depth space after tail ts)
    (hplaces : BlockInPlace indent (.node n cs)) (hhas : n.hasBlock = true)
    (hcomment : n.isComment = false) {rest inner after' next : List Char} {l : Lexeme}
    (hbegins : Begins (n.stem ++ inner) l next) (hopens : l.OpensItem)
    (hscans : Scans nested [] (n.stem ++ inner) n.stem .block inner)
    (hnode : Node.ofPrelude (preludeOf n.stem) = n)
    (hinner : inner = (writeBlock indent depth cs).toList.drop 2 ++ tail)
    (hchildren : Reads true inner cs after') (hafter : Reads nested (after'.drop 1) ts rest)
    (hmarks : marks inner = marks (stems cs) + marks (stems ts) + marks rest) :
    ItemsWrittenAs indent nested depth space (.node n cs :: ts) (.node n cs :: ts) ∧
      rest = blockEnd nested after := by
  have hle := hchildren.marks_le
  have hle' := hafter.marks_le
  have hbrace := hchildren.marks_drop
  subst hinner
  obtain ⟨hitems, rfl⟩ := hplaces depth tail _ hchildren (by dsimp only [Tree.children]; omega)
  rw [List.drop_succ_cons, List.drop_zero] at hafter hle' hbrace
  obtain ⟨htail, hrest, -⟩ := h [] tail rest rfl (by simp) hafter (by omega)
  have hending : n.ending = .block := by rw [Node.ending, hhas]; rfl
  have hback := Scans.readsBack_stem (hending ▸ hscans) hbegins hopens hcomment
    (by rw [hending]; exact congrArg some hnode)
  exact ⟨.cons (.node hback.readsAs hitems) htail, hrest⟩

/-- An item begins where it is written, since what stands before it has no marks. -/
theorem InPlace.cons {n : Node} (h : InPlace indent nested depth space after tail ts)
    (hend : ts = [] → tail = space ++ blockEnd nested after)
    (hblock : BlockInPlace indent (.node n cs)) (hw : ∀ c ∈ w, Lexeme.isSpace c = true) :
    InPlace indent nested depth space after
      (w ++ (n.stem ++
        ((if n.hasBlock = true then (writeBlock indent depth cs).toList.drop 2 else []) ++ tail)))
      (.node n cs :: ts) := by
  cases hcomment : n.isComment with
  | true =>
    cases n with
    | comment content => exact h.cons_comment hw content
    | _ => cases hcomment
  | false =>
    intro d text rest heq hd hreads hmarks
    obtain ⟨d', text, rfl, hfirst⟩ := hreads.exists_first
    -- the items take all marks, so what stands before the first one has none
    have hle := hfirst.reads.marks_le
    have hstray := marks_eq_zero fun c hc => isMark_eq_false_of_isStray (hd c hc)
    rw [marks_append] at hmarks
    have hnone : marks (d ++ d') = 0 := by
      rw [marks_append]
      omega
    have hmarks : marks text = marks (stems (.node n cs :: ts)) + marks rest := by omega
    rw [stems_cons, marks_append, marks_append] at hmarks
    rw [← List.append_assoc] at heq
    have hdw (h : d ++ d' = w) : ∀ c ∈ d, Lexeme.isSpace c = true :=
      fun c hc => hw c (h ▸ List.mem_append_left d' hc)
    cases hfirst with
    | comment => cases hcomment
    | leaf hbegins hopens hscans hending hnode hafter =>
      have hle := hafter.marks_le
      rw [(Node.of_ofLeaf? hnode).1, if_neg Bool.false_ne_true, List.nil_append] at heq
      have hstem := hscans.marks_stem_le (n := n) (by cases ‹Ending› <;> trivial)
      rw [hscans.eq_append, marks_append, stems_nil, marks_nil] at hmarks
      obtain ⟨hd', g, rfl, hg, hstray⟩ :=
        hscans.eq_leaf hbegins hopens hending hnode (by omega) hnone hw heq
      rw [hscans.eq_append, List.append_assoc, hg] at hbegins hscans
      obtain ⟨hitems, hrest⟩ :=
        h.of_leaf hend hbegins hopens hscans hending hnode hstray hafter (by omega)
      exact ⟨hitems, hrest, hdw hd'⟩
    | block hbegins hopens hscans hchildren hafter =>
      have hle := hafter.marks_le
      have hle' := hchildren.marks_le
      have hstem := hscans.marks_stem_le rfl
      rw [hchildren.marks_drop] at hle
      rw [hscans.eq_append, marks_append] at hmarks
      obtain ⟨hd', hraw, hinner⟩ := hscans.eq_block hbegins hopens rfl (by omega) hnone hw heq
      generalize hn : Node.ofPrelude _ = n at *
      have hhas : n.hasBlock = true := hn ▸ Node.hasBlock_ofPrelude _
      rw [hhas, if_pos rfl] at hinner
      subst hraw
      obtain ⟨hitems, hrest⟩ := h.of_block hblock hhas hcomment (hscans.eq_append ▸ hbegins) hopens
        (hscans.eq_append ▸ hscans) hn hinner hchildren hafter (by omega)
      exact ⟨hitems, hrest, hdw hd'⟩

variable (hindent : ∀ c ∈ indent.toList, Lexeme.isSpace c = true)

include hindent

theorem inPlace_items {gap : List Char} (hspace : ∀ c ∈ space, Lexeme.isSpace c = true)
    (hgap : ∀ c ∈ gap, Lexeme.isSpace c = true) (hts : ∀ t ∈ ts, ItemTree t)
    (hblocks : ∀ t ∈ ts, BlockInPlace indent t) :
    InPlace indent nested depth space after
      ((ts.flatMap fun t => gap ++ (writeItem indent depth t).toList) ++
        (space ++ blockEnd nested after)) ts := by
  induction ts with
  | nil => exact inPlace_nil hspace
  | cons t ts ih =>
    obtain ⟨n, cs⟩ := t
    obtain ⟨ht, hts⟩ := List.forall_mem_cons.mp hts
    obtain ⟨hblock, hblocks⟩ := List.forall_mem_cons.mp hblocks
    obtain ⟨w, hw, hwritten⟩ :=
      exists_toList_writeItem hindent (by cases ht; assumption) depth (n := n) cs
    have hcons := (ih hts hblocks).cons (fun hnil => by rw [hnil]; rfl) hblock
      (List.forall_mem_append.mpr ⟨hgap, hw⟩)
    simpa [hwritten] using hcons

/-- The items of every block are in their places: the blocks inside it first. -/
theorem blockInPlace {t : Tree Node} (ht : ItemTree t) : BlockInPlace indent t := by
  induction ht with
  | @node n cs _ _ hitems ih =>
    intro depth after rest inner hreads hmarks
    simp only [Tree.children] at hreads hmarks inner ⊢
    by_cases hne : cs = []
    · subst hne
      have hinner : inner = '\x7d' :: after := by simp [inner, Tree.children, toList_writeBlock_nil]
      rw [hinner] at hreads
      exact ⟨.nil, (hreads.eq_of_ended (.inr ⟨rfl, after, rfl⟩)).2⟩
    · have hplaces : InPlace indent true (depth + 1) _ after _ cs :=
        inPlace_items hindent (isSpace_lineBreak_repeatText hindent depth) isSpace_lineBreak hitems ih
      obtain ⟨hwritten, hrest, -⟩ := hplaces [] inner rest
        (by simp [inner, Tree.children, toList_writeBlock_of_ne_nil hne, blockEnd]) (by simp) hreads
        hmarks
      exact ⟨hwritten, hrest⟩

end InPlace

/-- Where formatting leaves a text as it is, the items of the text are written as they are read. -/
theorem itemsWrittenAs_of_stable {options : StylesheetOptions}
    (hindent : ∀ c ∈ options.indent.toList, Lexeme.isSpace c = true)
    (hseparator : ∀ c ∈ options.ruleSeparator.toList, Lexeme.isSpace c = true) {source : String}
    (hstable : writeForest options (itemsOfText source) = source) :
    ItemsWrittenAs options.indent false 0 ['\n'] (itemsOfText source) (itemsOfText source) := by
  have hitems := itemTree_of_mem_itemsOfText source
  obtain ⟨forest, rest, hreads⟩ := exists_reads false source.toList
  obtain rfl := hreads.rest_eq_nil
  rw [hreads.itemsOfText_eq] at hstable hitems ⊢
  by_cases hne : forest = []
  · subst hne
    exact .nil
  -- the separator before the first item is not written, but makes no difference
  have htext : options.ruleSeparator.toList ++ source.toList =
      (forest.flatMap fun t => options.ruleSeparator.toList ++ (writeItem options.indent 0 t).toList) ++
        (['\n'] ++ blockEnd false []) := by
    rw [flatMap_append_eq_intercalate hne, ← hstable]
    simp [writeForest, hne, String.toList_intercalate, Function.comp_def, blockEnd]
  have hmarks : marks (options.ruleSeparator.toList ++ source.toList) = marks (stems forest) := by
    rw [htext, marks_append, marks_flatMap_writeItem hseparator fun t ht =>
      marks_writeItem hindent (hitems t ht) 0]
    rfl
  exact (inPlace_items hindent isSpace_lineBreak hseparator hitems
    (fun t ht => blockInPlace hindent (hitems t ht)) [] _ [] htext (by simp)
    (Reads.append hseparator hreads) (by simpa using hmarks)).1

end SourceEdit.Stylesheet
