import SourceEdit.Proofs.Stylesheet.Reading
import SourceEdit.Proofs.Stylesheet.Shape

/-!
# Reading back what was written

Readings compose, and an item that ends with a semicolon or a brace of its own is read in the same
way whatever follows it.  So a stylesheet is read back if each of its items is.  `Node.ReadsBack` asks
this of a single item: written alone, up to its semicolon or to the brace that opens its block, it is
one item again, and the same.  Not every item that can be read is read back: an item is found by its
lexemes and then cleaned by its characters, and what is cut off may have been part of a lexeme.

An item may also be read as another one than was written.  `WrittenAs` relates the tree that is written
to the one that is read, item by item, and `itemsOfText_writeForest` is the composition.  The last item
of a list may be read up to the end of its block, where an open string or bracket ends with the block
(`Node.ReadsAtEnd`).
-/

namespace SourceEdit.Stylesheet

/-! ### Single items -/

/-- The text of an item up to its semicolon or up to the brace that opens its block. -/
def Node.stem : Node → List Char
  | .root => []
  | .rule selector => if selector.isEmpty then ['\x7b'] else selector.toList ++ [' ', '\x7b']
  | .atRule name params block =>
    '@' :: name.toList ++ (if params.isEmpty then [] else ' ' :: params.toList) ++
      if block then [' ', '\x7b'] else [';']
  | .declaration property value => property.toList ++ ':' :: ' ' :: value.toList ++ [';']
  | .comment text => '/' :: '*' :: ' ' :: text.toList ++ [' ', '*', '/']

/-- How the scan of an item has to end. -/
def Node.ending (n : Node) : Ending := if n.hasBlock then .block else .semicolon

theorem Node.ending_ne_exhausted (n : Node) : n.ending ≠ .exhausted := by
  unfold Node.ending
  split <;> exact Ending.noConfusion

/-- The item that the text of a scan is, when the scan ended in some way. -/
def Node.ofScan? (raw : List Char) : Ending → Option Node
  | .block => some (.ofPrelude (preludeOf raw))
  | _ => Node.ofLeaf? (leafOf raw)

/-- The text of an item is read back as the item: a comment as one lexeme, anything else by a scan
that takes all of it. -/
def Node.ReadsBack (nested : Bool) : Node → Prop
  | .comment text =>
    Lexeme.ofText (stem (.comment text)) = [⟨.comment, stem (.comment text)⟩] ∧
      trim (Lexeme.commentBody (stem (.comment text))) = text.toList
  | n =>
    (∀ l ∈ (Lexeme.ofText n.stem).head?, l.OpensItem) ∧
      scanItem nested [] (Lexeme.ofText n.stem) = (n.stem, n.ending, []) ∧
      ofScan? n.stem n.ending = some n

instance (nested : Bool) : (n : Node) → Decidable (n.ReadsBack nested)
  | .comment _ => inferInstanceAs (Decidable (_ ∧ _))
  | .root | .rule _ | .atRule .. | .declaration .. => inferInstanceAs (Decidable (_ ∧ _ ∧ _))

theorem Node.readsBack_iff {nested : Bool} {n : Node} (hn : n.isComment = false) :
    n.ReadsBack nested ↔ (∀ l ∈ (Lexeme.ofText n.stem).head?, l.OpensItem) ∧
      scanItem nested [] (Lexeme.ofText n.stem) = (n.stem, n.ending, []) ∧
      ofScan? n.stem n.ending = some n := by
  cases n with
  | comment => cases hn
  | _ => rfl

section Stem

variable {nested : Bool} {after rest : List Char} {forest : List (Tree Node)}

/-- An item that is read back is scanned in the same way whatever follows it. -/
theorem Node.ReadsBack.scans {n : Node} (h : n.ReadsBack nested) (hn : n.isComment = false)
    (after : List Char) :
    ofScan? n.stem n.ending = some n ∧ ∃ l next, Begins (n.stem ++ after) l next ∧ l.OpensItem ∧
      Scans nested [] (n.stem ++ after) n.stem n.ending after := by
  obtain ⟨hopens, hscan, hnode⟩ := (Node.readsBack_iff hn).mp h
  have hending := n.ending_ne_exhausted
  have hstem : n.stem ≠ [] := by
    intro hnil
    rw [hnil] at hscan
    exact hending (congrArg (fun r => r.2.1) hscan).symm
  have hscans : Scans nested [] (n.stem ++ []) n.stem n.ending [] := by
    rw [scans_iff, List.append_nil]
    exact hscan
  rw [List.append_nil] at hscans
  obtain ⟨l, next, hbegins⟩ := exists_begins hstem
  obtain ⟨next', hbegins'⟩ := hscans.exists_begins_append hending hbegins after
  refine ⟨hnode, l, next', hbegins', hopens l ?_, hscans.change_rest hending after⟩
  rw [hbegins.ofText_eq]
  rfl

/-- A comment that goes to the end of a text is closed there, whatever follows the text. -/
theorem commentLength_append {v : List Char}
    (h : v.length + 2 ≤ Lexeme.commentLength (v ++ ['*', '/'])) (w : List Char) :
    Lexeme.commentLength (v ++ '*' :: '/' :: w) = v.length + 2 := by
  induction v with
  | nil => rfl
  | cons c v ih =>
    have hhead : (v ++ '*' :: '/' :: w).head? = (v ++ ['*', '/']).head? := by cases v <;> rfl
    rw [List.cons_append, Lexeme.commentLength_cons] at h ⊢
    rw [hhead]
    rw [List.length_cons] at h ⊢
    split_ifs at h ⊢
    · omega
    · rw [ih (by omega)]

/-- A comment that is read back is one lexeme whatever follows it. -/
theorem Node.ReadsBack.begins_comment {text : String} (h : Node.ReadsBack nested (.comment text))
    (after : List Char) :
    Begins (stem (.comment text) ++ after) ⟨.comment, stem (.comment text)⟩ after := by
  obtain ⟨hlexeme, -⟩ := h
  generalize hv : ' ' :: text.toList ++ [' '] = v
  have hstem : Node.stem (.comment text) = '/' :: '*' :: (v ++ ['*', '/']) := by
    simp [Node.stem, ← hv]
  rw [hstem] at hlexeme ⊢
  have hwhole := (Stylesheet.begins_comment (v ++ ['*', '/'])).ofText_eq.symm.trans hlexeme
  simp only [List.cons.injEq, Lexeme.mk.injEq, true_and] at hwhole
  have hlength : Lexeme.commentLength (v ++ ['*', '/'] ++ after) = v.length + 2 := by
    have hle := List.take_eq_self_iff _ |>.mp hwhole.1
    rw [List.append_assoc]
    exact commentLength_append (by simpa using hle) after
  have hbegins := Stylesheet.begins_comment (v ++ ['*', '/'] ++ after)
  rwa [hlength, List.take_left' (by simp), List.drop_left' (by simp)] at hbegins

/-- A comment that is read back is read whatever follows it. -/
theorem reads_comment {text : String} (h : Node.ReadsBack nested (.comment text))
    (hafter : Reads nested after forest rest) :
    Reads nested (Node.stem (.comment text) ++ after) (.leaf (.comment text) :: forest) rest := by
  have hreads := Reads.comment (h.begins_comment after) rfl hafter
  rwa [h.2, String.ofList_toList] at hreads

/-- An item without a block that is read back is read whatever follows it. -/
theorem reads_leaf {n : Node} (h : n.ReadsBack nested) (hn : n.hasBlock = false)
    (hafter : Reads nested after forest rest) :
    Reads nested (n.stem ++ after) (.leaf n :: forest) rest := by
  cases hcomment : n.isComment with
  | true =>
    cases n with
    | comment => exact reads_comment h hafter
    | _ => cases hcomment
  | false =>
    obtain ⟨hnode, l, next, hbegins, hopens, hscans⟩ := h.scans hcomment after
    have hending : n.ending = .semicolon := by rw [Node.ending, hn]; rfl
    rw [hending] at hnode hscans
    have hreads := Reads.leaf hbegins hopens hscans nofun hafter
    have hleaf : Node.ofLeaf? (leafOf n.stem) = some n := hnode
    rwa [hleaf] at hreads

/-- An item with a block that is read back is read if the items of its block are. -/
theorem reads_block {n : Node} (h : n.ReadsBack nested) (hn : n.hasBlock = true)
    {inner : List Char} {children : List (Tree Node)}
    (hinner : Reads true inner children ('\x7d' :: after))
    (hafter : Reads nested after forest rest) :
    Reads nested (n.stem ++ inner) (.node n children :: forest) rest := by
  have hcomment : n.isComment = false := by
    cases n with
    | comment => cases hn
    | _ => rfl
  obtain ⟨hnode, l, next, hbegins, hopens, hscans⟩ := h.scans hcomment inner
  have hending : n.ending = .block := by rw [Node.ending, hn]; rfl
  rw [hending] at hnode hscans
  have hprelude : Node.ofPrelude (preludeOf n.stem) = n := Option.some.inj hnode
  have hreads := Reads.block hbegins hopens hscans hinner hafter
  rwa [hprelude] at hreads

/-- An item is written so that another one is read, whatever follows it.  If it has a block, that goes
for the items of the block as well. -/
structure Node.ReadsAs (nested : Bool) (n n' : Node) : Prop where
  leaf : n.hasBlock = false → ∀ {after rest : List Char} {forest : List (Tree Node)},
    Reads nested after forest rest → Reads nested (n.stem ++ after) (.leaf n' :: forest) rest
  block : n.hasBlock = true → ∀ {inner after rest : List Char} {children forest : List (Tree Node)},
    Reads true inner children ('\x7d' :: after) → Reads nested after forest rest →
    Reads nested (n.stem ++ inner) (.node n' children :: forest) rest

theorem Node.ReadsBack.readsAs {n : Node} (h : n.ReadsBack nested) : n.ReadsAs nested n :=
  ⟨fun hn _ _ _ => reads_leaf h hn, fun hn _ _ _ _ _ => reads_block h hn⟩

end Stem

/-! ### Written items -/

/-- Every item of a tree has a property, those below the topmost one as items of a block. -/
inductive EveryItem (P : Bool → Node → Prop) : Bool → Tree Node → Prop
  | node {nested : Bool} {n : Node} {children : List (Tree Node)} : P nested n →
      (∀ t ∈ children, EveryItem P true t) → EveryItem P nested (.node n children)

section EveryItem

variable {P Q R : Bool → Node → Prop} {nested : Bool}

theorem everyItem_node {n : Node} {children : List (Tree Node)} :
    EveryItem P nested (.node n children) ↔ P nested n ∧ ∀ t ∈ children, EveryItem P true t :=
  ⟨fun | .node hn hchildren => ⟨hn, hchildren⟩, fun h => .node h.1 h.2⟩

theorem everyItem_leaf {n : Node} : EveryItem P nested (.leaf n) ↔ P nested n := by
  rw [Tree.leaf, everyItem_node]
  simp

theorem EveryItem.imp₂ (h : ∀ nested n, P nested n → Q nested n → R nested n) {t : Tree Node}
    (hP : EveryItem P nested t) (hQ : EveryItem Q nested t) : EveryItem R nested t := by
  induction hP with
  | node hn _ ih =>
    obtain ⟨hQ, hchildren⟩ := everyItem_node.mp hQ
    exact .node (h _ _ hn hQ) fun t ht => ih t ht (hchildren t ht)

variable [∀ nested n, Decidable (P nested n)]

mutual

/-- Whether every item of a tree has a property. -/
def decidableEveryItem (nested : Bool) : (t : Tree Node) → Decidable (EveryItem P nested t)
  | .node _ children =>
    have := decidableEveryItems true children
    decidable_of_iff' _ everyItem_node

/-- Whether every item of a forest has a property. -/
def decidableEveryItems (nested : Bool) :
    (ts : List (Tree Node)) → Decidable (∀ t ∈ ts, EveryItem P nested t)
  | [] => .isTrue nofun
  | t :: ts =>
    have := decidableEveryItem nested t
    have := decidableEveryItems nested ts
    decidable_of_iff' _ List.forall_mem_cons

end

instance (ts : List (Tree Node)) : Decidable (∀ t ∈ ts, EveryItem P nested t) :=
  decidableEveryItems nested ts

end EveryItem

/-- What is left where the items of a block end: the brace that closes it, and nothing at the top. -/
def blockEnd (nested : Bool) (after : List Char) : List Char := if nested then '\x7d' :: after else []

/-- Before the end of a block nothing more is read than white space. -/
theorem reads_blockEnd {space : List Char} (hspace : ∀ c ∈ space, Lexeme.isSpace c = true)
    (nested : Bool) (after : List Char) :
    Reads nested (space ++ blockEnd nested after) [] (blockEnd nested after) := by
  refine Reads.append hspace ?_
  cases nested with
  | true => exact .closing after
  | false => exact .nil false

/-- An item without a block is written at the end of a block so that another one is read, with that
white space behind it. -/
structure Node.ReadsAtEnd (nested : Bool) (space : List Char) (n n' : Node) : Prop where
  hasBlock : n.hasBlock = false
  reads (after : List Char) :
    Reads nested (n.stem ++ (space ++ blockEnd nested after)) [.leaf n'] (blockEnd nested after)

mutual

/-- A tree is written at a depth so that another one is read, item by item. -/
inductive WrittenAs (indent : String) : Bool → Nat → Tree Node → Tree Node → Prop
  | node {nested : Bool} {depth : Nat} {n n' : Node} {children children' : List (Tree Node)} :
      n.ReadsAs nested n' →
      ItemsWrittenAs indent true (depth + 1) ('\n' :: (repeatText indent depth).toList) children
        children' →
      WrittenAs indent nested depth (.node n children) (.node n' children')

/-- The items of a block are written so that others are read, one by one.  For the last one it matters
what white space is behind it. -/
inductive ItemsWrittenAs (indent : String) :
    Bool → Nat → List Char → List (Tree Node) → List (Tree Node) → Prop
  | nil {nested : Bool} {depth : Nat} {space : List Char} :
      ItemsWrittenAs indent nested depth space [] []
  | last {nested : Bool} {depth : Nat} {space : List Char} {n n' : Node} :
      n.ReadsAtEnd nested space n' →
      ItemsWrittenAs indent nested depth space [.leaf n] [.leaf n']
  | cons {nested : Bool} {depth : Nat} {space : List Char} {t t' : Tree Node}
      {ts ts' : List (Tree Node)} :
      WrittenAs indent nested depth t t' → ItemsWrittenAs indent nested depth space ts ts' →
      ItemsWrittenAs indent nested depth space (t :: ts) (t' :: ts')

end

section WrittenAs

variable {indent : String} {nested : Bool} {depth : Nat} {space : List Char}

theorem itemsWrittenAs_of_forall {ts : List (Tree Node)}
    (h : ∀ t ∈ ts, WrittenAs indent nested depth t t) :
    ItemsWrittenAs indent nested depth space ts ts := by
  induction ts with
  | nil => exact .nil
  | cons t ts ih =>
    obtain ⟨ht, hts⟩ := List.forall_mem_cons.mp h
    exact .cons ht (ih hts)

/-- A tree is read back if its items are. -/
theorem EveryItem.writtenAs {t : Tree Node} (h : EveryItem Node.ReadsBack nested t) :
    WrittenAs indent nested depth t t := by
  induction h generalizing depth with
  | node hn _ ih => exact .node hn.readsAs (itemsWrittenAs_of_forall fun t ht => ih t ht)

end WrittenAs

/-- A separator before each text is one before the first and one between any two. -/
theorem flatMap_append_eq_intercalate {α : Type} {f : α → List Char} {xs : List α} (h : xs ≠ [])
    (separator : List Char) :
    (xs.flatMap fun x => separator ++ f x) = separator ++ separator.intercalate (xs.map f) := by
  induction xs with
  | nil => exact absurd rfl h
  | cons x xs ih =>
    cases xs with
    | nil => simp
    | cons y ys => simpa [List.intercalate_cons_cons] using ih (by simp)

section Written

variable {indent : String} (hindent : ∀ c ∈ indent.toList, Lexeme.isSpace c = true)

include hindent

theorem isSpace_repeatText (depth : Nat) :
    ∀ c ∈ (repeatText indent depth).toList, Lexeme.isSpace c = true := by
  induction depth with
  | zero => simp [repeatText]
  | succ depth ih =>
    rw [repeatText, String.toList_append]
    exact List.forall_mem_append.mpr ⟨hindent, ih⟩

omit hindent in
theorem isSpace_lineBreak : ∀ c ∈ ['\n'], Lexeme.isSpace c = true := by
  simp [Lexeme.isSpace, Lexeme.isLineEnd]

theorem isSpace_lineBreak_repeatText (depth : Nat) :
    ∀ c ∈ '\n' :: (repeatText indent depth).toList, Lexeme.isSpace c = true :=
  List.forall_mem_append.mpr ⟨isSpace_lineBreak, isSpace_repeatText hindent depth⟩

omit hindent in
theorem cons_toList_writeItems (depth : Nat) (ts : List (Tree Node)) :
    '\n' :: (writeItems indent depth ts).toList =
      (ts.flatMap fun t => '\n' :: (writeItem indent depth t).toList) ++ ['\n'] := by
  induction ts with
  | nil => simp [writeItems]
  | cons t ts ih => simp [writeItems, ih]

omit hindent in
theorem toList_writeBlock_nil (depth : Nat) :
    (writeBlock indent depth []).toList = [' ', '\x7b', '\x7d'] := by
  rw [writeBlock]
  decide +kernel

omit hindent in
theorem toList_writeBlock_of_ne_nil {children : List (Tree Node)} (h : children ≠ []) (depth : Nat) :
    (writeBlock indent depth children).toList = ' ' :: '\x7b' ::
      ((children.flatMap fun t => '\n' :: (writeItem indent (depth + 1) t).toList) ++
        '\n' :: ((repeatText indent depth).toList ++ ['\x7d'])) := by
  obtain ⟨child, rest, rfl⟩ := List.exists_cons_of_ne_nil h
  rw [List.append_cons, ← cons_toList_writeItems]
  simp [writeBlock, writeItems]

/-- An item is written as white space, its stem and, if it has one, the rest of its block. -/
theorem exists_toList_writeItem {n : Node} (hn : n ≠ .root) (depth : Nat)
    (children : List (Tree Node)) :
    ∃ w, (∀ c ∈ w, Lexeme.isSpace c = true) ∧
      (writeItem indent depth (.node n children)).toList = w ++ (n.stem ++
        if n.hasBlock then (writeBlock indent depth children).toList.drop 2 else []) := by
  have hblank := isSpace_repeatText hindent depth
  have hblock : (writeBlock indent depth children).toList =
      [' ', '\x7b'] ++ (writeBlock indent depth children).toList.drop 2 := by
    cases children with
    | nil => rw [toList_writeBlock_nil]; rfl
    | cons child rest => rw [toList_writeBlock_of_ne_nil (by simp)]; rfl
  cases n with
  | root => exact absurd rfl hn
  | rule selector =>
    -- without a selector the blank before the brace goes to the indentation
    by_cases hempty : selector.isEmpty = true
    · refine ⟨(repeatText indent depth).toList ++ [' '],
        List.forall_mem_append.mpr ⟨hblank, by simp [Lexeme.isSpace]⟩, ?_⟩
      have hnil : selector.toList = [] := by simpa using hempty
      rw [writeItem, String.toList_append, String.toList_append, hblock]
      simp [Node.stem, Node.hasBlock, hnil, hempty]
    · refine ⟨_, hblank, ?_⟩
      rw [writeItem, String.toList_append, String.toList_append, hblock]
      simp [Node.stem, Node.hasBlock, hempty]
  | atRule name params block =>
    refine ⟨_, hblank, ?_⟩
    rw [writeItem]
    cases block with
    | true =>
      simp only [String.toList_append, if_true]
      rw [hblock]
      by_cases hempty : params.isEmpty = true <;> simp [Node.stem, Node.hasBlock, hempty]
    | false =>
      by_cases hempty : params.isEmpty = true <;> simp [Node.stem, Node.hasBlock, hempty]
  | declaration property value =>
    refine ⟨_, hblank, ?_⟩
    simp [writeItem, Node.stem, Node.hasBlock]
  | comment text =>
    refine ⟨_, hblank, ?_⟩
    simp [writeItem, Node.stem, Node.hasBlock]

/-- The items of a block are read as those that they are written as, if that goes for each of them. -/
theorem reads_items {nested : Bool} {depth : Nat} {space gap : List Char}
    (hspace : ∀ c ∈ space, Lexeme.isSpace c = true) (hgap : ∀ c ∈ gap, Lexeme.isSpace c = true)
    {ts ts' : List (Tree Node)} (hts : ∀ t ∈ ts, ItemTree t)
    (hread : ∀ t ∈ ts, ∀ t' (after rest : List Char) (forest : List (Tree Node)),
      WrittenAs indent nested depth t t' → Reads nested after forest rest →
        Reads nested ((writeItem indent depth t).toList ++ after) (t' :: forest) rest)
    (h : ItemsWrittenAs indent nested depth space ts ts') (after : List Char) :
    Reads nested ((ts.flatMap fun t => gap ++ (writeItem indent depth t).toList) ++
      (space ++ blockEnd nested after)) ts' (blockEnd nested after) := by
  induction ts generalizing ts' with
  | nil =>
    cases h
    exact reads_blockEnd hspace nested after
  | cons t ts ih =>
    obtain ⟨ht, hts⟩ := List.forall_mem_cons.mp hts
    obtain ⟨hread, hreads⟩ := List.forall_mem_cons.mp hread
    rw [List.flatMap_cons, List.append_assoc, List.append_assoc]
    refine Reads.append hgap ?_
    cases h with
    | @last _ _ _ n n' hlast =>
      obtain ⟨w, hw, hwritten⟩ :=
        exists_toList_writeItem hindent (by cases ht; assumption) depth (n := n) []
      rw [hlast.hasBlock, if_neg Bool.false_ne_true, List.append_nil] at hwritten
      rw [Tree.leaf, hwritten, List.append_assoc]
      exact Reads.append hw (hlast.reads after)
    | cons htt' htail => exact hread _ _ _ _ htt' (ih hts hreads htail)

/-- A tree is read as the one that it is written as. -/
theorem reads_writeItem {nested : Bool} {depth : Nat} {t t' : Tree Node}
    (h : WrittenAs indent nested depth t t') (ht : ItemTree t) {after rest : List Char}
    {forest : List (Tree Node)} (hafter : Reads nested after forest rest) :
    Reads nested ((writeItem indent depth t).toList ++ after) (t' :: forest) rest := by
  induction t using Tree.induction generalizing nested t' depth after rest forest with
  | node n children ih =>
    obtain @⟨_, _, _, n', _, children', hn, hchildren⟩ := h
    obtain ⟨hroot, hblock, hitems⟩ : n ≠ .root ∧ (children ≠ [] → n.hasBlock = true) ∧
        ∀ t ∈ children, ItemTree t := by
      cases ht with
      | node hroot hblock hitems => exact ⟨hroot, hblock, hitems⟩
    obtain ⟨w, hw, hwritten⟩ := exists_toList_writeItem hindent hroot depth children
    rw [hwritten, List.append_assoc, List.append_assoc]
    refine Reads.append hw ?_
    cases hn' : n.hasBlock with
    | false =>
      -- without a block there is nothing inside the item
      obtain rfl : children = [] := by
        by_contra hne
        exact Bool.false_ne_true (hn'.symm.trans (hblock hne))
      cases hchildren
      exact hn.leaf hn' hafter
    | true =>
      refine hn.block hn' ?_ hafter
      rw [if_pos rfl]
      by_cases hne : children = []
      · subst hne
        cases hchildren
        rw [toList_writeBlock_nil]
        exact .closing after
      · have hinner := reads_items hindent (isSpace_lineBreak_repeatText hindent depth)
          isSpace_lineBreak hitems
          (fun t ht t' _ _ _ htt' => ih t ht htt' (hitems t ht)) hchildren after
        rw [toList_writeBlock_of_ne_nil hne]
        simpa [blockEnd] using hinner

/-- A forest is read as the one that it is written as, with white space between its trees. -/
theorem reads_writeForest {separator : List Char}
    (hseparator : ∀ c ∈ separator, Lexeme.isSpace c = true) {forest forest' : List (Tree Node)}
    (h : ItemsWrittenAs indent false 0 ['\n'] forest forest') (hitems : ∀ t ∈ forest, ItemTree t) :
    Reads false (separator.intercalate (forest.map fun t => (writeItem indent 0 t).toList) ++ ['\n'])
      forest' [] := by
  have hreads := reads_items hindent isSpace_lineBreak hseparator hitems
    (fun t ht t' _ _ _ htt' => reads_writeItem hindent htt' (hitems t ht)) h []
  rw [blockEnd, if_neg Bool.false_ne_true, List.append_nil] at hreads
  by_cases hne : forest = []
  · subst hne
    exact hreads
  · -- the separator before the first tree is not written, but makes no difference
    rw [flatMap_append_eq_intercalate hne, List.append_assoc, reads_append_iff hseparator] at hreads
    exact hreads

end Written

/-- What is written for a forest is read as the forest that it is written as, for every indentation and
every separator of white space. -/
theorem itemsOfText_writeForest {options : StylesheetOptions}
    (hindent : ∀ c ∈ options.indent.toList, Lexeme.isSpace c = true)
    (hseparator : ∀ c ∈ options.ruleSeparator.toList, Lexeme.isSpace c = true)
    {forest forest' : List (Tree Node)}
    (h : ItemsWrittenAs options.indent false 0 ['\n'] forest forest')
    (hitems : ∀ t ∈ forest, ItemTree t) :
    itemsOfText (writeForest options forest) = forest' := by
  refine Reads.itemsOfText_eq ?_
  rw [writeForest]
  split
  · next hempty =>
    obtain rfl := List.isEmpty_iff.mp hempty
    cases h
    exact .nil false
  · have hreads := reads_writeForest hindent hseparator h hitems
    simpa [String.toList_intercalate, Function.comp_def] using hreads

/-- What is written of a stylesheet is read as the forest that it is written as. -/
theorem view_ofText_write_of_writtenAs {options : StylesheetOptions}
    (hindent : ∀ c ∈ options.indent.toList, Lexeme.isSpace c = true)
    (hseparator : ∀ c ∈ options.ruleSeparator.toList, Lexeme.isSpace c = true) {sheet : Stylesheet}
    (hs : Shaped sheet) {forest : List (Tree Node)}
    (h : ItemsWrittenAs options.indent false 0 ['\n'] (sheet.view sheet.root).children forest) :
    let again := Stylesheet.ofText (write options sheet)
    again.view again.root = .node .root forest := by
  intro again
  have hitems : itemsOfText (write options sheet) = forest :=
    itemsOfText_writeForest hindent hseparator h hs.itemTree_of_mem_children_view
  rw [← hitems]
  exact Arena.view_ofForest _ _

/-- A stylesheet is read back from what is written if each of its items is read back, for every
indentation and every separator of white space. -/
theorem view_ofText_write_of_readsBack {options : StylesheetOptions}
    (hindent : ∀ c ∈ options.indent.toList, Lexeme.isSpace c = true)
    (hseparator : ∀ c ∈ options.ruleSeparator.toList, Lexeme.isSpace c = true) (source : String)
    (h : ∀ t ∈ itemsOfText source, EveryItem Node.ReadsBack false t) :
    let sheet := Stylesheet.ofText source
    let again := Stylesheet.ofText (write options sheet)
    again.view again.root = sheet.view sheet.root := by
  intro sheet again
  have hview : sheet.view sheet.root = .node .root (itemsOfText source) :=
    Arena.view_ofForest _ _
  rw [hview]
  refine view_ofText_write_of_writtenAs hindent hseparator
    (shaped_withRoot.leads (leads_ofText source)) ?_
  rw [hview, Tree.children]
  exact itemsWrittenAs_of_forall fun t ht => (h t ht).writtenAs

end SourceEdit.Stylesheet
