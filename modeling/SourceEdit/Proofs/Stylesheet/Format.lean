import SourceEdit.Proofs.Stylesheet.CleanItem

/-!
# Formatting

A stylesheet is written and read back.  `Tidy` is what the reading of a block keeps: in the text that
is left, all comments, strings and urls are closed, white space outside of them is white space between
lexemes, and the brackets that are open around the block are closed.  So every item stands in such a
text, and if it is clean it is read back (`Scans.readsBack`).  `items_spec` is the induction over the
items of a text, and `view_ofText_write` the result for stylesheets.
-/

namespace SourceEdit.Stylesheet

open Lexeme

/-! ### Closed texts -/

/-- All comments, strings, urls and brackets of a text are closed. -/
def IsClosed (source : String) : Prop :=
  (∀ l ∈ Lexeme.ofText source.toList, l.IsClosed) ∧
    bracketsLeft [] (Lexeme.ofText source.toList) = []

instance (source : String) : Decidable (IsClosed source) := inferInstanceAs (Decidable (_ ∧ _))

/-- The rest of a text in which everything is closed and plain, from a place where some brackets are
open. -/
structure Tidy (outer : List Bracket) (text : List Char) : Prop where
  closed : ∀ l ∈ Lexeme.ofText text, l.IsClosed
  plain : ∀ l ∈ Lexeme.ofText text, l.isPlain = true
  brackets : bracketsLeft outer (Lexeme.ofText text) = []

section Tidy

variable {nested : Bool} {outer : List Bracket} {text next raw rest : List Char} {l : Lexeme}
  {ls : List Lexeme} {ending : Ending}

theorem Tidy.of_lexes (h : Tidy outer text) (hls : Lexes text ls rest) :
    Tidy (bracketsLeft outer ls) rest := by
  have htext := hls.ofText_eq
  refine ⟨fun l hl => h.closed l ?_, fun l hl => h.plain l ?_, ?_⟩
  · exact htext ▸ List.mem_append_right ls hl
  · exact htext ▸ List.mem_append_right ls hl
  · have hbrackets := h.brackets
    rwa [htext, bracketsLeft, List.foldl_append] at hbrackets

theorem Tidy.of_begins (h : Tidy outer text) (hbegins : Begins text l next) :
    Tidy (bracketsAfter outer l.kind) next :=
  h.of_lexes hbegins.lexes

theorem Tidy.eq_nil (h : Tidy outer []) : outer = [] := h.brackets

/-! ### Single items -/

/-- What is left of the text of a scan when it is cleaned. -/
def cleaned (raw : List Char) : Ending → List Char
  | .block => preludeOf raw
  | _ => leafOf raw

theorem trimmed_cleaned (raw : List Char) (ending : Ending) : Trimmed (cleaned raw ending) := by
  cases ending <;> exact trimmed_trim _

/-- An item of a tidy text, and what is left of it. -/
theorem Scans.exists_remains (h : Scans nested [] text raw ending rest) (htidy : Tidy outer text)
    (houter : Surrounds nested outer) (hhead : ∀ c ∈ text.head?, isBlank c = false) :
    ∃ g mid ls, text = cleaned raw ending ++ (g ++ mid) ∧
      Remains nested [] (cleaned raw ending) g mid ls ∧ Tidy outer mid ∧
      (ending = .semicolon ∧ mid = ';' :: rest ∨ ending = .block ∧ mid = '\x7b' :: rest ∨
        ending = .exhausted ∧ mid = rest) := by
  obtain ⟨ls, open', mid, hls, hpasses, hend⟩ := h.exists_passes
  have htext := hls.eq_append
  have hmid : Tidy (open' ++ outer) mid := by
    have := htidy.of_lexes hls
    rwa [← List.nil_append outer, hpasses.bracketsLeft_append houter] at this
  have hbody : ∀ c ∈ (ls.flatMap Lexeme.text).head?, isBlank c = false := fun c hc =>
    hhead c (by rw [htext]; exact List.mem_head?_append_of_mem_head? hc)
  have hremains {x g : List Char} (hx : ls.flatMap Lexeme.text = x ++ g) (hg : ∀ c ∈ g, IsCutOff c)
      (hopen : open' = []) (hstop : ∀ c ∈ mid.head?, IsStop c) :
      text = x ++ (g ++ mid) ∧ Remains nested [] x g mid ls ∧ Tidy outer mid := by
    subst hopen
    rw [hx, List.append_assoc] at htext
    refine ⟨htext, ⟨htext ▸ hls, hpasses, fun l hl => htidy.closed l ?_, fun l hl => htidy.plain l ?_,
      hg, hstop⟩, hmid⟩
    · exact hls.ofText_eq ▸ List.mem_append_left _ hl
    · exact hls.ofText_eq ▸ List.mem_append_left _ hl
  -- The scan ends at a semicolon, at a block or with the text; what is cleaned off differs.
  obtain ⟨hopen, rfl, rfl, rfl⟩ | ⟨hopen, rfl, rfl, rfl⟩ | ⟨rfl, rfl, rfl, hrest⟩ := hend
  · obtain ⟨g, hg, hcut⟩ := exists_append_leafOf_append hbody
    obtain ⟨hsplit, h, hmid⟩ := hremains hg hcut hopen (by simp [IsStop])
    exact ⟨g, _, ls, hsplit, h, hmid, .inl ⟨rfl, rfl⟩⟩
  · obtain ⟨g, hg, hcut⟩ := exists_append_preludeOf_append hbody
    obtain ⟨hsplit, h, hmid⟩ := hremains hg hcut hopen (by simp [IsStop])
    exact ⟨g, _, ls, hsplit, h, hmid, .inr (.inl ⟨rfl, rfl⟩)⟩
  · obtain ⟨g, hg, hcut⟩ := exists_append_leafOf hbody
    have hopen : open' = [] ∧ ∀ c ∈ mid.head?, IsStop c := by
      obtain rfl | ⟨hopen, -, after, rfl⟩ := hrest
      · exact ⟨(List.append_eq_nil_iff.mp hmid.eq_nil).1, by simp⟩
      · exact ⟨hopen, by simp [IsStop]⟩
    obtain ⟨hsplit, h, hmid⟩ := hremains hg hcut hopen.1 hopen.2
    exact ⟨g, _, ls, hsplit, h, hmid, .inr (.inr ⟨rfl, rfl⟩)⟩

theorem Tidy.head (h : Tidy outer text) (hbegins : Begins text l next) (hopens : l.OpensItem) :
    ∀ c ∈ text.head?, isBlank c = false := by
  intro c hc
  obtain ⟨cs, rfl⟩ := List.head?_eq_some_iff.mp hc
  exact hbegins.isBlank_of_opensItem hopens
    (h.plain l (hbegins.ofText_eq ▸ List.mem_cons_self))

/-- An item of a tidy text is read back if it is clean. -/
theorem Scans.readsBack (h : Scans nested [] text raw ending rest) (htidy : Tidy outer text)
    (houter : Surrounds nested outer) (hbegins : Begins text l next) (hopens : l.OpensItem) {n : Node}
    (hnode : Node.ofScan? raw ending = some n) (hclean : n.isClean = true) : n.ReadsBack nested := by
  obtain ⟨g, mid, ls, htext, hremains, -⟩ :=
    h.exists_remains htidy houter (htidy.head hbegins hopens)
  have hx := trimmed_cleaned raw ending
  have hfirst : ∀ l' next', Begins (cleaned raw ending ++ (g ++ mid)) l' next' → l'.OpensItem := by
    intro l' next' hbegins'
    rw [← htext] at hbegins'
    exact (hbegins.unique hbegins').1 ▸ hopens
  cases ending with
  | block =>
    obtain rfl := Option.some.inj hnode
    exact hremains.readsBack_ofPrelude hx hfirst hclean
  | semicolon | exhausted => exact hremains.readsBack_ofLeaf? hx hfirst hnode hclean

/-- The text after an item of a tidy text is tidy. -/
theorem Scans.tidy (h : Scans nested [] text raw ending rest) (htidy : Tidy outer text)
    (houter : Surrounds nested outer) (hbegins : Begins text l next) (hopens : l.OpensItem) :
    Tidy (if ending = .block then .curly :: outer else outer) rest := by
  obtain ⟨g, mid, ls, -, -, hmid, hend⟩ :=
    h.exists_remains htidy houter (htidy.head hbegins hopens)
  obtain ⟨rfl, rfl⟩ | ⟨rfl, rfl⟩ | ⟨rfl, rfl⟩ := hend
  · have hrest := hmid.of_begins (begins_single .semicolon rfl rest)
    cases outer <;> exact hrest
  · have hrest := hmid.of_begins (begins_single (.opening .curly) rfl rest)
    cases outer <;> exact hrest
  · exact hmid

/-! ### The items of a text -/

/-- The item is read back if it is clean. -/
def CleanReadsBack (nested : Bool) (n : Node) : Prop := n.isClean = true → n.ReadsBack nested

/-- The items of a block are read from a tidy text: what is left is tidy and begins with the brace that
closes the block, if it is nested, and the items are read back if they are clean. -/
def ReadsTidy (nested : Bool) (outer : List Bracket) (text : List Char)
    (result : List (Tree Node) × List Lexeme) : Prop :=
  ∃ rest, result.2 = Lexeme.ofText rest ∧ Tidy outer rest ∧
    (nested = true → ∃ after, rest = '\x7d' :: after) ∧
    (Lexeme.ofText rest).length ≤ (Lexeme.ofText text).length ∧
    ∀ t ∈ result.1, EveryItem CleanReadsBack nested t

theorem ReadsTidy.of_le {result : List (Tree Node) × List Lexeme} (h : ReadsTidy nested outer next result)
    (hle : (Lexeme.ofText next).length ≤ (Lexeme.ofText text).length) :
    ReadsTidy nested outer text result := by
  obtain ⟨rest, hresult, hrest, hend, hlength, hitems⟩ := h
  exact ⟨rest, hresult, hrest, hend, hlength.trans hle, hitems⟩

theorem ReadsTidy.cons {result : List (Tree Node) × List Lexeme} {t : Tree Node}
    (h : ReadsTidy nested outer text result) (ht : EveryItem CleanReadsBack nested t) :
    ReadsTidy nested outer text (t :: result.1, result.2) := by
  obtain ⟨rest, hresult, hrest, hend, hlength, hitems⟩ := h
  exact ⟨rest, hresult, hrest, hend, hlength, List.forall_mem_cons.mpr ⟨ht, hitems⟩⟩

/-- At the end of a block nothing is left to read. -/
theorem Tidy.readsTidy_nil (h : Tidy outer text) (houter : Surrounds nested outer)
    (hend : text = [] ∨ ∃ after, text = '\x7d' :: after ∧ nested = true) :
    ReadsTidy nested outer text ([], Lexeme.ofText text) := by
  refine ⟨text, rfl, h, fun hnested => ?_, le_rfl, by simp⟩
  obtain rfl | ⟨after, rfl, -⟩ := hend
  · obtain ⟨-, hcurly⟩ | ⟨hnot, -⟩ := houter
    · rw [h.eq_nil] at hcurly
      cases hcurly
    · rw [hnested] at hnot
      cases hnot
  · exact ⟨after, rfl⟩

/-- The lexemes between the items of a block leave the brackets around it as they are. -/
theorem bracketsAfter_of_not_opensItem (houter : Surrounds nested outer) (hopens : ¬l.OpensItem)
    (hclosing : ¬(nested = true ∧ l.kind = .closing .curly)) :
    bracketsAfter outer l.kind = outer := by
  have hkind : l.kind = .blank ∨ l.kind = .comment ∨ l.kind = .semicolon ∨ l.kind = .closing .curly := by
    simp only [OpensItem] at hopens
    tauto
  obtain hkind | hkind | hkind | hkind := hkind
  · simp [hkind, bracketsAfter]
  · simp [hkind, bracketsAfter]
  · simp [hkind, bracketsAfter]
  · obtain ⟨hnested, -⟩ | ⟨-, rfl⟩ := houter
    · exact absurd ⟨hnested, hkind⟩ hclosing
    · rw [hkind]
      rfl

/-- The items of a block of a tidy text are read up to its closing brace, and those that are clean are
read back. -/
theorem readsTidy_items {fuel : Nat} (hfuel : (Lexeme.ofText text).length < fuel)
    (h : Tidy outer text) (houter : Surrounds nested outer) :
    ReadsTidy nested outer text (items fuel nested (Lexeme.ofText text)) := by
  induction fuel generalizing nested outer text with
  | zero => exact absurd hfuel (Nat.not_lt_zero _)
  | succ fuel ih =>
    by_cases hnil : text = []
    · subst hnil
      exact h.readsTidy_nil houter (.inl rfl)
    obtain ⟨l, next, hbegins⟩ := exists_begins hnil
    have hlength := hbegins.length_ofText
    by_cases hclosing : nested = true ∧ l.kind = .closing .curly
    · have hend := h.readsTidy_nil houter
        (.inr ⟨next, (hbegins.of_closing hclosing.2).1, hclosing.1⟩)
      rw [hbegins.ofText_eq] at hend ⊢
      rwa [items, if_pos (by simpa using hclosing)]
    by_cases hopens : l.OpensItem
    · -- an item, with its block or without one
      obtain ⟨raw, ending, after, hscans⟩ := exists_scans nested [] text
      have hafter := hscans.tidy h houter hbegins hopens
      have hlt := hscans.length_ofText_lt hbegins hopens
      have hscan := hscans.scanItem_eq
      have hclean {n : Node} (hnode : Node.ofScan? raw ending = some n) : CleanReadsBack nested n :=
        hscans.readsBack h houter hbegins hopens hnode
      rw [hbegins.ofText_eq] at hscan
      rw [hbegins.ofText_eq, items_of_opensItem hopens, hscan]
      dsimp only
      by_cases hblock : ending = .block
      · subst hblock
        -- what is in the block is read up to its closing brace
        obtain ⟨rest, hrest, htidy, hend, hle, hchildren⟩ := ih (by omega) hafter (.inl ⟨rfl, rfl⟩)
        obtain ⟨rest, rfl⟩ := hend rfl
        have hclose := begins_single (c := '\x7d') (.closing .curly) rfl rest
        have htidy := htidy.of_begins hclose
        have hlength := hclose.length_ofText
        have hnodes : ReadsTidy nested outer text _ := (ih (by omega) htidy houter).of_le (by omega)
        rw [if_pos rfl, hrest, hclose.ofText_eq]
        exact hnodes.cons (.node (hclean rfl) hchildren)
      · rw [if_neg hblock] at hafter
        have hnodes : ReadsTidy nested outer text _ := (ih (by omega) hafter houter).of_le (by omega)
        rw [if_neg hblock]
        split
        · next n hnode =>
          refine hnodes.cons (everyItem_leaf.mpr (hclean ?_))
          cases ending with
          | block => exact absurd rfl hblock
          | semicolon | exhausted => exact hnode
        · exact hnodes
    · -- a lexeme between two items
      have hnext := h.of_begins hbegins
      rw [bracketsAfter_of_not_opensItem houter hopens hclosing] at hnext
      have hitems : ReadsTidy nested outer text _ := (ih (by omega) hnext houter).of_le (by omega)
      by_cases hcomment : l.kind = .comment
      · have hl := h.closed l (hbegins.ofText_eq ▸ List.mem_cons_self)
        have hreads := hitems.cons (everyItem_leaf.mpr fun _ => readsBack_comment hl hcomment)
        rw [hbegins.ofText_eq]
        simpa [items, hcomment] using hreads
      · rwa [hbegins.ofText_eq,
          items_of_separates (separates_of_not_opensItem hopens hcomment hclosing)]

end Tidy

/-! ### Stylesheets -/

/-- A stylesheet in which everything is closed is read back from what is written, for every indentation
and every separator of white space, if outside of comments, strings and urls it has only white space
that stands between lexemes, and if each of its items is clean or is read back when it is written
alone. -/
theorem view_ofText_write {options : StylesheetOptions}
    (hindent : ∀ c ∈ options.indent.toList, isSpace c = true)
    (hseparator : ∀ c ∈ options.ruleSeparator.toList, isSpace c = true) (source : String)
    (hclosed : IsClosed source) (hplain : ∀ l ∈ Lexeme.ofText source.toList, l.isPlain = true)
    (hitems : ∀ t ∈ itemsOfText source,
      EveryItem (fun nested n => n.isClean = true ∨ n.ReadsBack nested) false t) :
    let sheet := Stylesheet.ofText source
    let again := Stylesheet.ofText (write options sheet)
    again.view again.root = sheet.view sheet.root := by
  have htidy : Tidy [] source.toList := ⟨hclosed.1, hplain, hclosed.2⟩
  obtain ⟨-, -, -, -, -, hclean⟩ := readsTidy_items (Nat.lt_succ_self _) htidy (.inr ⟨rfl, rfl⟩)
  refine view_ofText_write_of_readsBack hindent hseparator source fun t ht => ?_
  exact (hclean t ht).imp₂ (fun nested n hn => Or.rec hn id) (hitems t ht)

/-- A stylesheet with an at-rule, rules, a comment, a string and a url, written with its default
options. -/
theorem view_ofText_write_media :
    let source := "@import \"a;\u00a0\"; @media (c)\x7b\x7b\x7d d:e[f=';']\x7bg:url(h;i) ; j : k\x7d/*l*/\x7d"
    let sheet := Stylesheet.ofText source
    let again := Stylesheet.ofText (write {} sheet)
    again.view again.root = sheet.view sheet.root := by
  intro source
  exact view_ofText_write (List.all_eq_true.mp (by decide +kernel))
    (List.all_eq_true.mp (by decide +kernel)) source (by decide +kernel) (by decide +kernel)
    (by decide +kernel)

/-- An escaped semicolon before the semicolon of a declaration is cut off, and the backslash that is
left then escapes the semicolon that is written. -/
theorem readBack_of_escaped_semicolon :
    let sheet := Stylesheet.ofText "x\x7ba:b\\;;c:d\x7d"
    let again := Stylesheet.ofText (write {} sheet)
    again.view again.root ≠ sheet.view sheet.root := by
  intro sheet again h
  have hsheet : sheet.view sheet.root = .node .root (itemsOfText "x\x7ba:b\\;;c:d\x7d") :=
    Arena.view_ofForest _ _
  have hagain : again.view again.root = .node .root (itemsOfText (write {} sheet)) :=
    Arena.view_ofForest _ _
  rw [hagain, write, hsheet] at h
  have hsize := congrArg Tree.size h
  revert hsize
  decide +kernel

end SourceEdit.Stylesheet
