import SourceEdit.Proofs.Text.Letters
import SourceEdit.Proofs.Stylesheet.Rewriting
import SourceEdit.Proofs.Stylesheet.InPlace

/-!
# Values that stay in their declarations

The value of a declaration is stored and written as it is given, so what is read again depends on the
text of the value: a brace, a semicolon or an open string in it may reach outside the declaration.
`IsContained` is the test for a value that does not.  Written behind a plain property, such a value is
read as one declaration whatever follows, with its white space trimmed (`readsAs_declaration`).

`view_ofText_write_edit` is what follows for an update or an insertion with a contained value, in a
stylesheet that formatting leaves as it is.  The last item of a block may be open there, since it ends
with the block; what is put behind it would go into it, so an insertion at the end of a rule needs a
last item that is closed (`view_ofText_write_edit_reaching`).
-/

namespace SourceEdit.Stylesheet

open Lexeme

/-! ### Names -/

theorem isAsciiDigit_eq_false_of_isNameStart {c : Char} (h : isNameStart c = true) :
    isAsciiDigit c = false := by
  rw [Bool.eq_false_iff]
  intro hdigit
  simp only [isNameStart, isAsciiLetter, isAsciiDigit, Bool.or_eq_true, Bool.and_eq_true,
    decide_eq_true_eq, beq_iff_eq, ge_iff_le, Char.le_def, UInt32.le_iff_toNat_le] at h hdigit
  have hc : c.val.toNat = c.toNat := rfl
  rcases h with ((h | rfl) | rfl) | h
  · simp at h hdigit
    omega
  · simp at hdigit
  · simp at hdigit
  · simp at h hdigit
    omega

/-- A text that may start with a name begins with one, unless it starts with `-->`. -/
theorem measure_of_startsName {c : Char} {cs : List Char} (h : startsName (c :: cs) = true)
    (hclose : ['-', '>'].isPrefixOf cs = false) : Lexeme.measure c cs = nameLexeme (c :: cs) := by
  rw [measure_eq, wordLexeme, if_pos h]
  by_cases hdash : c = '-'
  · -- a dash that starts a name is followed by no digit
    have hnumber : startsNumber cs = false := by
      obtain ⟨d, cs, rfl⟩ : ∃ d ds, cs = d :: ds := by
        cases cs with
        | nil => simp [startsName, hdash] at h
        | cons d ds => exact ⟨d, ds, rfl⟩
      have hd : (isNameStart d = true ∨ d = '-') ∨ d = '\\' := by
        simpa [startsName, hdash] using h
      rw [startsNumber_cons, if_neg]
      · obtain (hd | rfl) | rfl := hd
        · exact isAsciiDigit_eq_false_of_isNameStart hd
        · decide
        · decide
      · rintro rfl
        exact absurd hd (by decide)
    simp [hdash, isSpace, isLineEnd, single?, beginsNumber, hclose, hnumber, isAsciiDigit]
  · -- none of the characters that other lexemes begin with starts a name
    have hstart : isNameStart c = true ∨ c = '\\' := by
      by_cases hback : c = '\\'
      · exact .inr hback
      · simpa [startsName, hdash, hback] using h
    have hplain : ∀ d ∈ [' ', '\t', '\n', '\r', '\x0c', '(', ')', '[', ']', '\x7b', '\x7d', ';', '/',
        '"', '\'', '#', '@', '<', '+', '.'], c ≠ d := by
      have hall : [' ', '\t', '\n', '\r', '\x0c', '(', ')', '[', ']', '\x7b', '\x7d', ';', '/', '"',
          '\'', '#', '@', '<', '+', '.'].all (fun d => !isNameStart d && d != '\\') = true := by decide
      rintro _ hd rfl
      have hc := List.all_eq_true.mp hall c hd
      obtain hstart | rfl := hstart
      · simp [hstart] at hc
      · simp at hc
    have hdigit : isAsciiDigit c = false := by
      obtain hstart | rfl := hstart
      · exact isAsciiDigit_eq_false_of_isNameStart hstart
      · decide
    have hsingle : single? c = none := by
      unfold single?
      split <;> first | rfl | exact absurd rfl (hplain _ (by decide))
    simp only [List.forall_mem_cons] at hplain
    simp [isSpace, isLineEnd, hplain, hsingle, beginsNumber, hdash, hdigit]

/-- A name that a colon follows is one lexeme. -/
theorem begins_name {name : List Char} (h : isName name = true) (r : List Char) :
    Begins (name ++ ':' :: r) ⟨.other, name⟩ (':' :: r) := by
  have hall : ∀ d ∈ name, isNameChar d = true := by
    simp only [isName, Bool.and_eq_true, List.all_eq_true] at h
    exact h.2
  have hstarts := startsName_append_of_isName h (':' :: r)
  have hname : nameLexeme (name ++ ':' :: r) = (.other, name.length) := by
    have hlength : nameLength .none (name ++ ':' :: r) = name.length := by
      rw [nameLength_append_of_all hall]
      simp [nameLength, Escape.takes, isNameChar, isNameStart, isAsciiLetter, isAsciiDigit]
    simp [nameLexeme, hlength]
  cases name with
  | nil => simp [isName, startsName] at h
  | cons c cs =>
    have hcolon : EndsWord (':' :: r) := by
      intro d hd
      obtain rfl := Option.some.inj hd
      decide
    have hclose : ['-', '>'].isPrefixOf (cs ++ ':' :: r) = false := by
      rw [isPrefixOf_append hcolon (by simp [quietChars]), Bool.eq_false_iff]
      intro hprefix
      have hmem : '>' ∈ cs := (List.isPrefixOf_iff_prefix.mp hprefix).subset (by simp)
      exact absurd (hall '>' (List.mem_cons_of_mem c hmem)) (by decide)
    rw [List.cons_append] at hstarts hname ⊢
    rw [begins_cons, measure_of_startsName hstarts hclose, hname]
    simp

/-! ### Case -/

theorem isNameStart_of_isAsciiLetter {c : Char} (h : isAsciiLetter c = true) :
    isNameStart c = true := by
  simp [isNameStart, h]

theorem startsName_asciiLower {cs : List Char} (h : ∀ c ∈ cs, c ≠ '\\') :
    startsName (asciiLower cs) = startsName cs := by
  have hstart : ∀ c : Char, isNameStart c.toLower = isNameStart c :=
    toLower_congr (b := true) fun _ => isNameStart_of_isAsciiLetter
  have hother {d : Char} (hd : isAsciiLetter d = false) (c : Char) : (c.toLower == d) = (c == d) := by
    refine toLower_congr (f := (· == d)) (b := false) (fun c hc => beq_eq_false_iff_ne.mpr ?_) c
    rintro rfl
    exact Bool.false_ne_true (hd.symm.trans hc)
  have hdash := hother (d := '-') (by decide)
  have hback := hother (d := '\\') (by decide)
  cases cs with
  | nil => rfl
  | cons c cs =>
    have hc : (c == '\\') = false := beq_eq_false_iff_ne.mpr (h c List.mem_cons_self)
    cases cs with
    | nil => simp [asciiLower, startsName, hdash, hback, hstart, hc]
    | cons d cs => simp [asciiLower, startsName, hdash, hback, hstart, hc]

theorem isName_asciiLower (cs : List Char) : isName (asciiLower cs) = isName cs := by
  have hchar : ∀ c : Char, isNameChar c.toLower = isNameChar c :=
    toLower_congr (b := true) fun c hc => by simp [isNameChar, isNameStart_of_isAsciiLetter hc]
  have hall : (asciiLower cs).all isNameChar = cs.all isNameChar := by
    rw [asciiLower, List.all_map]
    exact congrArg cs.all (funext hchar)
  rw [isName, isName, hall]
  by_cases hcs : cs.all isNameChar = true
  · rw [startsName_asciiLower]
    rintro c hc rfl
    exact absurd (List.all_eq_true.mp hcs '\\' hc) (by decide)
  · rw [Bool.not_eq_true] at hcs
    rw [hcs, Bool.and_false, Bool.and_false]

theorem trimmed_asciiLower {cs : List Char} : Trimmed (asciiLower cs) ↔ Trimmed cs := by
  have hblank : ∀ c : Char, isBlank c.toLower = isBlank c :=
    toLower_congr (b := false) fun _ => isBlank_eq_false_of_isAsciiLetter
  rw [trimmed_iff, trimmed_iff, asciiLower, List.head?_map, List.getLast?_map]
  simp only [Option.mem_def, Option.map_eq_some_iff, forall_exists_index, and_imp,
    forall_apply_eq_imp_iff₂, hblank]

/-! ### Plain identifiers -/

/-- A plain identifier: a name without escapes that does not begin or end with white space. -/
def IsIdentifier (p : List Char) : Prop := isName p = true ∧ Trimmed p

instance (p : List Char) : Decidable (IsIdentifier p) := inferInstanceAs (Decidable (_ ∧ _))

theorem IsIdentifier.of_eqIgnoringCase {p q : List Char} (h : IsIdentifier p)
    (hpq : eqIgnoringCase q p = true) : IsIdentifier q := by
  have hlower : asciiLower q = asciiLower p := eq_of_beq hpq
  refine ⟨?_, ?_⟩
  · rw [← isName_asciiLower, hlower, isName_asciiLower]
    exact h.1
  · rw [← trimmed_asciiLower, hlower, trimmed_asciiLower]
    exact h.2

/-! ### Contained values -/

/-- The value stays in its declaration: with a semicolon behind it, it is scanned up to that one, and
it does not end in a semicolon of its own. -/
def IsContained (v : List Char) : Prop :=
  scanItem true [] (Lexeme.ofText (v ++ [';'])) = (v ++ [';'], .semicolon, []) ∧
    v.getLast? ≠ some ';'

instance (v : List Char) : Decidable (IsContained v) := inferInstanceAs (Decidable (_ ∧ _))

/-- A contained value is scanned up to its semicolon whatever follows. -/
theorem IsContained.scans {v : List Char} (h : IsContained v) (after : List Char) :
    Scans true [] (v ++ ';' :: after) (v ++ [';']) .semicolon after := by
  have halone : Scans true [] (v ++ [';'] ++ []) (v ++ [';']) .semicolon [] := by
    rw [scans_iff, List.append_nil]
    exact h.1
  simpa using halone.change_rest nofun after

variable {property value : String}

/-- The scan of a declaration goes through the name, the colon and the blank before the value. -/
theorem scans_declaration (hp : IsIdentifier property.toList) (hv : IsContained value.toList)
    (after : List Char) :
    let stem := Node.stem (.declaration property value)
    ∃ l next, Begins (stem ++ after) l next ∧ l.OpensItem ∧
      Scans true [] (stem ++ after) stem .semicolon after := by
  intro stem
  -- from the value back to the beginning: each lexeme before it is one that the scan goes through
  have hvalue : Scans true [] (' ' :: (value.toList ++ ';' :: after)) (' ' :: (value.toList ++ [';']))
      .semicolon after := (hv.scans after).cons_space nofun (by decide)
  have hcolon := Scans.step (begins_colon _) (.inr (by simp [Lexeme.Stops])) hvalue
  have hname := begins_name hp.1 (' ' :: (value.toList ++ ';' :: after))
  have hscans := Scans.step hname (.inr (by simp [Lexeme.Stops])) hcolon
  have hstem : stem = property.toList ++ ([':'] ++ ' ' :: (value.toList ++ [';'])) := by
    simp [stem, Node.stem]
  have htext : stem ++ after = property.toList ++ ':' :: ' ' :: (value.toList ++ ';' :: after) := by
    simp [hstem]
  rw [htext, hstem]
  exact ⟨_, _, hname, by simp [Lexeme.OpensItem], hscans⟩

/-- A declaration of a plain property is read with its value trimmed, if that is contained. -/
theorem readsAs_declaration (hp : IsIdentifier property.toList) (hv : IsContained value.toList) :
    (Node.declaration property value).ReadsAs true
      (.declaration property (String.ofList (trim value.toList))) := by
  refine ⟨fun _ after rest forest hafter => ?_, fun hblock => absurd hblock Bool.false_ne_true⟩
  have hall : ∀ c ∈ property.toList, isNameChar c = true := by
    have hname := hp.1
    simp only [isName, Bool.and_eq_true, List.all_eq_true] at hname
    exact hname.2
  have hne : property.toList ≠ [] := by
    intro hnil
    have hname := hp.1
    rw [hnil] at hname
    exact absurd hname (by decide)
  have hleaf := Node.ofLeaf?_trim_declaration hp.2 hne
    (fun hmem => absurd (hall ':' hmem) (by decide))
    (fun hat => absurd (hall '@' (List.mem_of_mem_head? hat)) (by decide)) (' ' :: value.toList)
  have htrim : trim (' ' :: value.toList) = trim value.toList := by
    simp [trim, trimStart, isBlank]
  have hlast : ∀ c ∈ (property.toList ++ ':' :: ' ' :: value.toList).getLast?, c ≠ ';' := by
    rintro c hc rfl
    obtain hlast | ⟨-, hlast⟩ := last_declaration hc
    · exact hv.2 hlast
    · exact absurd hlast (by decide)
  have hnode : Node.ofLeaf? (leafOf (Node.stem (.declaration property value))) =
      some (.declaration property (String.ofList (trim value.toList))) := by
    rw [htrim, String.ofList_toList] at hleaf
    rw [← hleaf, ← leafOf_append_eq (head_append hp.2 hne) hlast]
    simp [Node.stem]
  obtain ⟨l, next, hbegins, hopens, hscans⟩ := scans_declaration hp hv after
  have hreads := Reads.leaf hbegins hopens hscans (by decide) hafter
  rwa [hnode] at hreads

/-! ### Edits of trees -/

section Items

variable {indent : String} {nested : Bool} {depth : Nat} {space : List Char}
  {ts us us' : List (Tree Node)}

/-- Items that are written as they are read may be changed if that leaves items without a block
alone. -/
theorem ItemsWrittenAs.map {g g' : Tree Node → Tree Node}
    (h : ItemsWrittenAs indent nested depth space ts ts)
    (hg : ∀ t ∈ ts, WrittenAs indent nested depth t t → WrittenAs indent nested depth (g t) (g' t))
    (hleaf : ∀ n : Node, n.hasBlock = false → g (.leaf n) = .leaf n ∧ g' (.leaf n) = .leaf n) :
    ItemsWrittenAs indent nested depth space (ts.map g) (ts.map g') := by
  induction ts with
  | nil => exact .nil
  | cons t ts ih =>
    obtain ⟨ht, hts⟩ := List.forall_mem_cons.mp hg
    cases h with
    | last hlast =>
      obtain ⟨hn, hn'⟩ := hleaf _ hlast.hasBlock
      rw [List.map_singleton, List.map_singleton, hn, hn']
      exact .last hlast
    | cons hfirst hrest => exact .cons (ht hfirst) (ih hrest hts)

/-- Behind items of which the last one is read back whatever follows, there is room for another one. -/
theorem ItemsWrittenAs.append_singleton (h : ItemsWrittenAs indent true depth space us us')
    (hvalues : us.map Tree.value = us'.map Tree.value)
    (hlast : ∀ u ∈ us.getLast?, u.value.ReadsBack true) {t : Tree Node}
    (ht : WrittenAs indent true depth t t) :
    ItemsWrittenAs indent true depth space (us ++ [t]) (us' ++ [t]) := by
  induction us generalizing us' with
  | nil =>
    cases h
    exact .cons ht .nil
  | cons u us ih =>
    cases h with
    | @last _ _ _ n n' _ =>
      obtain rfl : n = n' := (List.cons.inj hvalues).1
      exact .cons (.node (hlast (.leaf n) rfl).readsAs .nil) (.cons ht .nil)
    | @cons _ _ _ _ u' _ us' hfirst hrest =>
      obtain ⟨-, hvalues⟩ := List.cons.inj hvalues
      refine .cons hfirst (ih hrest hvalues fun v hv => hlast v ?_)
      exact List.mem_getLast?_cons hv

/-- Setting the value of a declaration of the property is read as setting the trimmed value.  Where
the declaration is the last item of its block it is closed now, whatever it was. -/
theorem itemsWrittenAs_withValue (hp : IsIdentifier property.toList) (hv : IsContained value.toList)
    (h : ItemsWrittenAs indent true depth space us us')
    (hvalues : us.map Tree.value = us'.map Tree.value) :
    ItemsWrittenAs indent true depth space
      (us.map (Tree.mapValue fun n => if n.declares property then n.withValue value else n))
      (us'.map (Tree.mapValue fun n => if n.declares property then
        n.withValue (String.ofList (trim value.toList)) else n)) := by
  -- a contained value is read back trimmed
  have hreads {n : Node} (hn : n.declares property = true) :
      (n.withValue value).ReadsAs true (n.withValue (String.ofList (trim value.toList))) := by
    cases n with
    | declaration q _ => exact readsAs_declaration (hp.of_eqIgnoringCase hn) hv
    | _ => cases hn
  induction us generalizing us' with
  | nil =>
    cases h
    exact .nil
  | cons u us ih =>
    cases h with
    | @last _ _ _ n n' hlast =>
      obtain rfl : n = n' := (List.cons.inj hvalues).1
      simp only [List.map_cons, List.map_nil, Tree.leaf, Tree.mapValue]
      split_ifs with hdeclares
      · exact .cons (.node (hreads hdeclares) .nil) .nil
      · exact .last hlast
    | cons hfirst hrest =>
      obtain ⟨hvalue, hvalues⟩ := List.cons.inj hvalues
      refine .cons ?_ (ih hrest hvalues)
      cases hfirst with
      | @node _ _ n n' cs cs' hn hchildren =>
        obtain rfl : n = n' := hvalue
        simp only [Tree.mapValue]
        split_ifs with hdeclares
        · exact .node (hreads hdeclares) hchildren
        · exact .node hn hchildren

/-- What an insertion stores is trimmed already. -/
theorem writtenAs_insertedDeclaration (hp : IsIdentifier property.toList)
    (hv : IsContained (trim (trimEndBy (· == ';') (trim value.toList)))) :
    WrittenAs indent true depth (.leaf (insertedDeclaration property value))
      (.leaf (insertedDeclaration property value)) := by
  refine .node ?_ .nil
  rw [← String.toList_ofList (l := trim (trimEndBy (· == ';') (trim value.toList)))] at hv
  have hreads := readsAs_declaration hp hv
  rw [String.toList_ofList, trim_eq_self (trimmed_trim _)] at hreads
  rwa [insertedDeclaration, trim_eq_self hp.2, String.ofList_toList]

/-- Rewriting the children of some nodes of a tree that is written as it is read gives trees of which
one is written as the other, if it does so for the lists of children.  Of the nodes that are rewritten
the last child may be known to satisfy a predicate. -/
theorem itemsWrittenAs_mapChildren {sheet : Stylesheet} (hw : sheet.WellFormed) {q : Node → Bool}
    (hq : ∀ n : Node, n.hasBlock = false → q n = false) {C : Node → Prop}
    (hC : ∀ x, sheet.Below x sheet.root → q (sheet.valueAt x) = true →
      ∀ c ∈ (sheet.children x).getLast?, C (sheet.valueAt c))
    {f f' : List (Tree Node) → List (Tree Node)}
    (hf : ∀ depth space us us', ItemsWrittenAs indent true depth space us us' →
      us.map Tree.value = us'.map Tree.value → (∀ u ∈ us.getLast?, C u.value) →
      ItemsWrittenAs indent true depth space (f us) (f' us'))
    {x : NodeId} (hx : sheet.Below x sheet.root)
    (h : ItemsWrittenAs indent nested depth space ((sheet.children x).map sheet.view)
      ((sheet.children x).map sheet.view)) :
    ItemsWrittenAs indent nested depth space
      (((sheet.children x).map sheet.view).map (Tree.mapChildren q f))
      (((sheet.children x).map sheet.view).map (Tree.mapChildren q f')) := by
  induction x using hw.induction_children generalizing nested depth space with
  | step x ih =>
    refine h.map (List.forall_mem_map.mpr fun c hc ht => ?_) fun n hn => ?_
    · have hbelow : sheet.Below c sheet.root :=
        (Arena.Below.of_parent? ((hw.mem_children_iff x c).mp hc)).trans hx
      rw [hw.view_node] at ht ⊢
      rw [Tree.mapChildren_node, Tree.mapChildren_node]
      cases ht with
      | node hn hitems =>
        have hchildren := ih c hc hbelow hitems
        refine .node hn ?_
        split_ifs with hmatch
        · refine hf _ _ _ _ hchildren (by simp [Tree.value_mapChildren]) ?_
          -- the last item is what the condition on the sheet is about
          simp only [List.getLast?_map, Option.mem_def, Option.map_eq_some_iff]
          rintro _ ⟨_, ⟨d, hd, rfl⟩, rfl⟩
          rw [Tree.value_mapChildren, hw.view_node]
          exact hC c hbelow hmatch d hd
        · exact hchildren
    · rw [Tree.leaf, Tree.mapChildren_node, Tree.mapChildren_node, hq n hn]
      simp

end Items

/-- A declaration with its value trimmed. -/
def Node.trimValue : Node → Node
  | .declaration property value => .declaration property (String.ofList (trim value.toList))
  | n => n

theorem trimValue_withValue (value : String) (n : Node) :
    (n.withValue value).trimValue = n.withValue (String.ofList (trim value.toList)) := by
  cases n <;> rfl

/-- Trimming the values that an update has set is setting the trimmed value. -/
theorem mapChildren_trimValue (p : SelectorPattern) (property value : String) (t : Tree Node) :
    (t.mapChildren (Node.isMatch p) (List.map (Tree.mapValue fun n =>
        if n.declares property then n.withValue value else n))).mapChildren (Node.isMatch p)
        (List.map (Tree.mapValue fun n => if n.declares property then n.trimValue else n)) =
      t.mapChildren (Node.isMatch p) (List.map (Tree.mapValue fun n =>
        if n.declares property then n.withValue (String.ofList (trim value.toList)) else n)) := by
  -- both rewritings go through the children one by one, and none of them makes a rule match or not
  simp only [← Tree.changeChildren_some]
  rw [Tree.changeChildren_changeChildren]
  · refine congrArg (Tree.changeChildren (Node.isMatch p) · t) (funext fun n => ?_)
    rw [Option.bind_some]
    by_cases hn : n.declares property = true
    · simp [hn, Node.declares_withValue, trimValue_withValue]
    · simp [hn]
  · rintro n n' hn
    obtain rfl := Option.some.inj hn
    split_ifs
    · exact Node.isMatch_withValue p value n
    · rfl

variable {options : StylesheetOptions} {m : Modification} {p : SelectorPattern}

section Write

variable (hindent : ∀ c ∈ options.indent.toList, isSpace c = true)
  (hseparator : ∀ c ∈ options.ruleSeparator.toList, isSpace c = true)

include hindent hseparator

/-- What is written of a stylesheet that has come from rewriting the children of some nodes of one that
formatting leaves as it is, is read as another rewriting, if the lists of children are written as
those. -/
theorem view_ofText_write_mapChildren {source : String}
    (hstable : write options (ofText source) = source)
    {after : Stylesheet} (hs : Shaped after) {q : Node → Bool}
    (hq : ∀ n : Node, n.hasBlock = false → q n = false) {C : Node → Prop}
    (hC : ∀ x, (ofText source).Below x (ofText source).root → q ((ofText source).valueAt x) = true →
      ∀ c ∈ ((ofText source).children x).getLast?, C ((ofText source).valueAt c))
    {f f' : List (Tree Node) → List (Tree Node)}
    (hf : ∀ depth space us us', ItemsWrittenAs options.indent true depth space us us' →
      us.map Tree.value = us'.map Tree.value → (∀ u ∈ us.getLast?, C u.value) →
      ItemsWrittenAs options.indent true depth space (f us) (f' us'))
    (hview : after.view after.root = ((ofText source).view (ofText source).root).mapChildren q f) :
    let again := ofText (write options after)
    again.view again.root = ((ofText source).view (ofText source).root).mapChildren q f' := by
  intro again
  have hsheet : IsSheet (ofText source) := isSheet_ofText source
  have hbefore : (ofText source).view (ofText source).root = .node .root (itemsOfText source) :=
    Arena.view_ofForest _ _
  have hitems :
      ItemsWrittenAs options.indent false 0 ['\n'] (itemsOfText source) (itemsOfText source) :=
    itemsWrittenAs_of_stable hindent hseparator (by rwa [write, hbefore] at hstable)
  have hchildren : ((ofText source).children (ofText source).root).map (ofText source).view =
      itemsOfText source := by
    rw [hsheet.toWellFormed.view_node] at hbefore
    exact (Tree.node.inj hbefore).2
  rw [← hchildren] at hitems hbefore
  have hwritten := itemsWrittenAs_mapChildren hsheet.toWellFormed hq hC hf (.refl _ _) hitems
  rw [hbefore, Tree.mapChildren_node, hq .root rfl] at hview ⊢
  refine view_ofText_write_of_writtenAs hindent hseparator hs ?_
  rw [hview, Tree.children]
  simpa using hwritten

/-- What is written after an update or an insertion of a plain property, in a stylesheet that formatting
leaves as it is, is read as the tree that the edit has left, if the value that is stored is contained;
an update does not trim the value, so it is read without the white space around it.  A declaration
behind others is not read where the last one of them is open, so an insertion at the end asks of every
rule that its last item is read back. -/
theorem view_ofText_write_edit {source : String} (hstable : write options (ofText source) = source)
    (hselects : m.target.SelectsRules p) (hproperty : m.target.property = some property)
    (hname : IsIdentifier property.toList) (hvalue : m.valueText? = some value) :
    let before := ofText source
    let after := (before.edit m).tree
    let again := ofText (write options after)
    (m.operation = .update → IsContained value.toList →
      again.view again.root = (after.view after.root).mapChildren (Node.isMatch p)
        (List.map (Tree.mapValue fun n => if n.declares property then n.trimValue else n))) ∧
    (m.operation = .insert → IsContained (trim (trimEndBy (· == ';') (trim value.toList))) →
      (InsertsFirst m.position ∨ ∀ rule ∈ before.rulesMatching p,
        ∀ last ∈ (before.children rule).getLast?, (before.valueAt last).ReadsBack true) →
      again.view again.root = after.view after.root) := by
  intro before after again
  have hs : Shaped before := shaped_withRoot.leads (leads_ofText source)
  have hafter : Shaped after := hs.leads (leads_edit hs m)
  -- only rules are matched, and they have blocks
  have hblock (n : Node) (hn : n.hasBlock = false) : n.isMatch p = false := by
    cases n <;> first | rfl | cases hn
  refine ⟨fun hm hv => ?_, fun hm hv hends => ?_⟩
  · have hview := (leaves_update hs.isSheet hselects hm hproperty hvalue).view_eq
    rw [hview, mapChildren_trimValue]
    exact view_ofText_write_mapChildren hindent hseparator hstable hafter hblock (C := fun _ => True)
      (by simp) (fun _ _ _ _ h hvalues _ => itemsWrittenAs_withValue hname hv h hvalues) hview
  · have hview := (leaves_insert hs.isSheet hselects hm hproperty hvalue).view_eq
    rw [hview]
    refine view_ofText_write_mapChildren hindent hseparator hstable hafter hblock
      (C := fun n => ¬InsertsFirst m.position → n.ReadsBack true)
      (fun x hx hmatch last hlast hfirst => ?_)
      (fun depth space us us' h hvalues hlast => ?_) hview
    · refine hends.resolve_left hfirst x ?_ last hlast
      rw [rulesMatching_eq]
      exact hs.isSheet.mem_matching_iff.mpr ⟨hx, hmatch⟩
    · have hnew : WrittenAs options.indent true depth _ _ := writtenAs_insertedDeclaration hname hv
      split_ifs with hfirst
      · exact .cons hnew h
      · exact h.append_singleton hvalues (fun u hu => hlast u hu hfirst) hnew

end Write

/-- A rule in another one, a property in another case, and a declaration at the end that is open; the
update has a semicolon in a string, one in an escape and white space around it, and the insertion has
semicolons in brackets and behind them. -/
theorem view_ofText_write_edit_nested :
    let source :=
      "a \x7b\n  b: c;\n\x7d\n\n@media x \x7b\n  a \x7b\n    B: d;\n  \x7d\n  e: \"f;\n\x7d\n"
    let update : Modification :=
      { path := "a", operation := .update, target := { selector := some "a", property := some "b" },
        value := some (.text " f( ';' ) \\; ") }
    let insert : Modification := { update with operation := .insert, value := some (.text " [;];; ") }
    let after (m : Modification) := ((ofText source).edit m).tree
    let again (m : Modification) := ofText (write {} (after m))
    let rule := Node.isMatch (.exact ['a'])
    (again update).view (again update).root = ((after update).view (after update).root).mapChildren rule
        (List.map (Tree.mapValue fun n => if n.declares "b" then n.trimValue else n)) ∧
      (again insert).view (again insert).root = (after insert).view (after insert).root := by
  intro source update insert after again rule
  let options : StylesheetOptions := {}
  have hindent : ∀ c ∈ options.indent.toList, isSpace c = true :=
    List.all_eq_true.mp (by decide +kernel)
  have hseparator : ∀ c ∈ options.ruleSeparator.toList, isSpace c = true :=
    List.all_eq_true.mp (by decide +kernel)
  have hstable : write options (ofText source) = source := by decide +kernel
  have hname : IsIdentifier "b".toList := by decide +kernel
  have h (m : Modification) (hselects : m.target.SelectsRules (.exact ['a'])) {value : String}
      (hproperty : m.target.property = some "b") (hvalue : m.valueText? = some value) :=
    view_ofText_write_edit hindent hseparator hstable hselects hproperty hname hvalue
  refine ⟨(h update ⟨"a", rfl, rfl⟩ rfl rfl).1 rfl (by decide +kernel),
    (h insert ⟨"a", rfl, rfl⟩ rfl rfl).2 rfl (by decide +kernel) (.inr (by decide +kernel))⟩

/-- Two stylesheets that formatting leaves as they are.  In the first one the value of an update closes
its rule and opens another one.  In the second one it is the last declaration that is open, so that one
put behind it with a value that is contained is not read as a declaration. -/
theorem view_ofText_write_edit_reaching :
    let edited (source : String) (operation : Operation) (target : Target) (value : String) :=
      ((ofText source).edit { path := "a", operation, target, value := some (.text value) }).tree
    let stable (source : String) : Prop := write {} (ofText source) = source
    let count (q : Node → Bool) (sheet : Stylesheet) : Nat := (sheet.view sheet.root).values.countP q
    let reaching := edited "a \x7b\n  b: c;\n\x7d\n" .update
      { selector := some "a", property := some "b" } "red\x7dx\x7by:z"
    let unclosed := edited "x \x7b\n  p: \"a;\n\x7d\n" .insert
      { selector := some "x", property := some "q" } "r"
    (stable "a \x7b\n  b: c;\n\x7d\n" ∧ IsIdentifier "b".toList ∧
      count Node.isRule reaching = 1 ∧ count Node.isRule (ofText (write {} reaching)) = 2) ∧
    stable "x \x7b\n  p: \"a;\n\x7d\n" ∧ IsIdentifier "q".toList ∧ IsContained "r".toList ∧
      count Node.isDeclaration unclosed = 2 ∧
      count Node.isDeclaration (ofText (write {} unclosed)) = 1 := by
  decide +kernel

end SourceEdit.Stylesheet
