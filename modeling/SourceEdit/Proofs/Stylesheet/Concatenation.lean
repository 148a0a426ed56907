import SourceEdit.Proofs.Arena.Rewriting
import SourceEdit.Proofs.Arena.Steps
import SourceEdit.Proofs.EditOutcome
import SourceEdit.Proofs.Stylesheet.Format
import SourceEdit.Proofs.Stylesheet.Reading

/-!
# Reading one text after another

A text is complete if its comments are closed and it ends between two items.  `Place` tells from the
lexemes alone where a text leads to, without reading any item.  The rules of `Reads` agree with it
(`Scans.completes`, `Reads.completes`): in a complete text every item is ended by a lexeme of its
own, and every block by its brace.

What is read up to such an end does not depend on what follows it.  For an item this is said beside
`Scans`, for the items of a block it is `Reads.exists_change_behind`.  So any other text may be put
behind a complete one (`Reads.append_text`).  The result for trees is `view_ofText_append`: the
items of the second text follow those of the first one, which is what an insertion of top-level
items does.
-/

namespace SourceEdit.Stylesheet

open Lexeme

/-! ### Places in a text -/

/-- Where lexemes lead to, seen from the top level: between two items, into an item that has no
block so far, or into the block of an item. The brackets that are open are those inside of the item,
and in a block its own brace is one of them. -/
inductive Place where
  | between
  | item (open_ : List Bracket)
  | block (open_ : List Bracket)
deriving DecidableEq, Repr

/-- The place after a lexeme. -/
def Place.after (place : Place) (kind : Lexeme.Kind) : Place :=
  match place, kind with
  | .between, .blank | .between, .comment | .between, .semicolon | .between, .closing .curly =>
    .between
  | .item [], .semicolon => .between
  | .between, .opening .curly | .item [], .opening .curly => .block [.curly]
  | .between, kind => .item (bracketsAfter [] kind)
  | .item open_, kind => .item (bracketsAfter open_ kind)
  | .block open_, kind =>
    match bracketsAfter open_ kind with
    | [] => .between
    | b :: open_ => .block (b :: open_)

/-- The place after a run of lexemes. -/
def Place.afterAll (place : Place) (ls : List Lexeme) : Place :=
  ls.foldl (fun place l => place.after l.kind) place

/-- A text is complete if its comments are closed and its last item is ended. A string or a url that
is not closed takes the text to its end, so that the item it stands in is not ended. -/
def IsComplete (text : String) : Prop :=
  (∀ l ∈ Lexeme.ofText text.toList, l.kind = .comment → l.IsClosed) ∧
    Place.between.afterAll (Lexeme.ofText text.toList) = .between

instance (text : String) : Decidable (IsComplete text) := inferInstanceAs (Decidable (_ ∧ _))

/-! ### The place of the reader -/

/-- The place between the items of a block, with the brackets that are open there. -/
def Place.around (nested : Bool) (outer : List Bracket) : Place :=
  if nested then .block outer else .between

/-- The place in an item that has no block so far, with brackets open in it and around it. -/
def Place.inside (nested : Bool) (open_ outer : List Bracket) : Place :=
  if nested then .block (open_ ++ outer) else .item open_

section Place

variable {nested : Bool} {open_ outer : List Bracket} {l : Lexeme}

theorem Place.after_block {kind : Lexeme.Kind} (h : bracketsAfter open_ kind ≠ []) :
    (block open_).after kind = .block (bracketsAfter open_ kind) := by
  cases hopen : bracketsAfter open_ kind with
  | nil => exact absurd hopen h
  | cons b rest => simp [after, hopen]

/-- Between two items, separators and comments lead nowhere. -/
theorem Place.after_around (houter : Surrounds nested outer)
    (h : l.Separates nested ∨ l.kind = .comment) :
    (around nested outer).after l.kind = around nested outer := by
  obtain ⟨rfl, hcurly⟩ | ⟨rfl, rfl⟩ := houter
  · obtain ⟨outer, rfl⟩ := List.head?_eq_some_iff.mp hcurly
    have hkept : bracketsAfter (.curly :: outer) l.kind = .curly :: outer := by
      obtain (hkind | hkind | ⟨-, ⟨⟩⟩) | hkind := h <;> rw [hkind] <;> rfl
    simp [around, after_block, hkept]
  · obtain (hkind | hkind | ⟨hkind, -⟩) | hkind := h <;> rw [hkind] <;> rfl

/-- An item begins with its first lexeme. -/
theorem Place.after_around_of_opensItem (h : l.OpensItem) :
    (around nested outer).after l.kind = (inside nested [] outer).after l.kind := by
  cases nested with
  | true => rfl
  | false =>
    obtain ⟨hblank, hcomment, hsemicolon, hclosing⟩ := h
    cases hkind : l.kind with
    | blank => exact absurd hkind hblank
    | comment => exact absurd hkind hcomment
    | semicolon => exact absurd hkind hsemicolon
    | closing b | opening b => cases b <;> first | rfl | exact absurd hkind hclosing
    | other => rfl

/-- A lexeme that an item goes through changes the brackets that are open in the item. -/
theorem Place.after_inside (houter : Surrounds nested outer)
    (hgoes : open_ ≠ [] ∨ ¬l.Stops nested) :
    (inside nested open_ outer).after l.kind =
      inside nested (bracketsAfter open_ l.kind) outer := by
  have happend := bracketsAfter_append houter hgoes
  obtain ⟨rfl, hcurly⟩ | ⟨rfl, rfl⟩ := houter
  · have hne : outer ≠ [] := by
      rintro rfl
      cases hcurly
    have hafter : (block (open_ ++ outer)).after l.kind =
        .block (bracketsAfter (open_ ++ outer) l.kind) := after_block (by simp [happend, hne])
    rwa [happend] at hafter
  · cases open_ with
    | cons b open_ => rfl
    | nil =>
      simp only [ne_eq, not_true_eq_false, false_or, Lexeme.Stops, not_or] at hgoes
      cases hkind : l.kind with
      | semicolon => exact absurd hkind hgoes.2.1
      | opening b => cases b <;> first | rfl | exact absurd hkind hgoes.2.2
      | _ => rfl

end Place

/-! ### Texts that lead between two items -/

/-- From a place, a text leads between two items at the top level, and all its comments are
closed. -/
structure Completes (place : Place) (text : List Char) : Prop where
  closed : ∀ l ∈ Lexeme.ofText text, l.kind = .comment → l.IsClosed
  between : place.afterAll (Lexeme.ofText text) = .between

section Completes

variable {place : Place} {nested : Bool} {open_ outer : List Bracket}
  {text next raw rest : List Char} {forest : List (Tree Node)} {l : Lexeme} {ending : Ending}

theorem Completes.of_begins (h : Completes place text) (hbegins : Begins text l next) :
    Completes (place.after l.kind) next := by
  have htext := hbegins.ofText_eq
  exact ⟨fun l' hl => h.closed l' (htext ▸ List.mem_cons_of_mem _ hl), by
    simpa [Place.afterAll, htext] using h.between⟩

theorem not_completes_inside : ¬Completes (.inside nested open_ outer) [] := by
  rintro ⟨-, hplace⟩
  cases nested <;> cases hplace

/-- A text that completes what is around an item is no less complete from inside the item. -/
theorem Completes.inside (h : Completes (.around nested outer) text) (hbegins : Begins text l next)
    (hopens : l.OpensItem) : Completes (.inside nested [] outer) text := by
  refine ⟨h.closed, ?_⟩
  have hplace := h.between
  simp only [Place.afterAll, hbegins.ofText_eq, List.foldl_cons] at hplace ⊢
  rwa [← Place.after_around_of_opensItem hopens]

/-- Behind the closing brace of a block goes on what is around its item. -/
theorem Completes.of_closing (houter : Surrounds nested outer)
    (h : Completes (.block (.curly :: outer)) ('\x7d' :: rest)) :
    Completes (.around nested outer) rest := by
  have hafter := h.of_begins (begins_single (.closing .curly) rfl rest)
  obtain ⟨rfl, hcurly⟩ | ⟨rfl, rfl⟩ := houter
  · obtain ⟨outer, rfl⟩ := List.head?_eq_some_iff.mp hcurly
    exact hafter
  · exact hafter

/-- An item is ended by a lexeme of its own or by the brace of the block around it, and the reader
is in its block or behind it. -/
theorem Scans.completes (h : Scans nested open_ text raw ending rest)
    (houter : Surrounds nested outer) (hcomplete : Completes (.inside nested open_ outer) text) :
    (ending = .exhausted → nested = true) ∧
      Completes (if ending = .block then .block (.curly :: outer) else .around nested outer)
        rest := by
  -- the place stays inside of the item as long as the scan goes on
  induction h with
  | nil => exact absurd hcomplete not_completes_inside
  | closing hnested after =>
    subst hnested
    exact ⟨fun _ => rfl, hcomplete⟩
  | semicolon after =>
    have hafter := hcomplete.of_begins (begins_single .semicolon rfl after)
    refine ⟨nofun, ?_⟩
    obtain ⟨rfl, hcurly⟩ | ⟨rfl, rfl⟩ := houter
    · obtain ⟨outer, rfl⟩ := List.head?_eq_some_iff.mp hcurly
      exact hafter
    · exact hafter
  | block after =>
    have hafter := hcomplete.of_begins (begins_single (.opening .curly) rfl after)
    refine ⟨nofun, ?_⟩
    obtain ⟨rfl, -⟩ | ⟨rfl, rfl⟩ := houter <;> exact hafter
  | step hbegins hgoes _ ih =>
    have hnext := hcomplete.of_begins hbegins
    rw [Place.after_inside houter hgoes] at hnext
    exact ih hnext

/-- The items of a block are read up to its closing brace, and the brace is left. -/
theorem Reads.completes (h : Reads nested text forest rest) (houter : Surrounds nested outer)
    (hcomplete : Completes (.around nested outer) text) :
    Completes (.around nested outer) rest ∧ (nested = true → rest ≠ []) := by
  induction h generalizing outer with
  | nil nested =>
    refine ⟨hcomplete, ?_⟩
    -- a block that goes to the end of the text is not closed
    rintro rfl
    cases hcomplete.between
  | closing after => exact ⟨hcomplete, fun _ => List.cons_ne_nil _ _⟩
  | skip hbegins hkind _ ih =>
    have hnext := hcomplete.of_begins hbegins
    rw [Place.after_around houter (.inl hkind)] at hnext
    exact ih houter hnext
  | comment hbegins hkind _ ih =>
    have hnext := hcomplete.of_begins hbegins
    rw [Place.after_around houter (.inr hkind)] at hnext
    exact ih houter hnext
  | leaf hbegins hopens hscans hending _ ih =>
    have hafter := (hscans.completes houter (hcomplete.inside hbegins hopens)).2
    rw [if_neg hending] at hafter
    exact ih houter hafter
  | block hbegins hopens hscans hchildren _ ihchildren ih =>
    have hinner := (hscans.completes houter (hcomplete.inside hbegins hopens)).2
    obtain ⟨hafter, hne⟩ := ihchildren (.inl ⟨rfl, rfl⟩) hinner
    obtain ⟨-, after, rfl⟩ := hchildren.rest_eq.resolve_left (hne rfl)
    exact ih houter (hafter.of_closing houter)

end Completes

/-! ### One text after another -/

section Append

variable {nested : Bool} {text next rest : List Char} {forest : List (Tree Node)} {l : Lexeme}

/-- An item with a block is the same whatever the block holds. -/
theorem Reads.block_append {raw inner inner' after : List Char} {children : List (Tree Node)}
    (hbegins : Begins text l next) (hopens : l.OpensItem)
    (hscans : Scans nested [] text raw .block inner) (hchildren : Reads true inner' children after)
    (h : Reads nested (after.drop 1) forest rest) :
    Reads nested (raw ++ inner') (.node (.ofPrelude (preludeOf raw)) children :: forest) rest := by
  have hending : Ending.block ≠ .exhausted := by decide
  obtain ⟨next', hbegins'⟩ := hscans.exists_begins_append hending hbegins inner'
  exact .block hbegins' hopens (hscans.change_rest hending inner') hchildren h

/-- What is read in a block up to its closing brace is the same whatever follows the brace. -/
theorem Reads.exists_change_behind (h : Reads nested text forest rest) (hnested : nested = true)
    {after : List Char} (hrest : rest = '\x7d' :: after) :
    ∃ u, text = u ++ '\x7d' :: after ∧
      ∀ after', Reads true (u ++ '\x7d' :: after') forest ('\x7d' :: after') := by
  -- A brace is not seen by any lexeme before it, so what comes after it may be changed.
  have hstop : Lexeme.IsStop '\x7d' := .inr (.inr rfl)
  induction h generalizing after with
  | nil => cases hrest
  | closing =>
    obtain rfl := (List.cons.inj hrest).2
    exact ⟨[], rfl, .closing⟩
  | @skip _ _ _ _ _ l hbegins hkind _ ih =>
    obtain ⟨u, rfl, hu⟩ := ih hnested hrest
    subst hnested
    refine ⟨l.text ++ u, by rw [hbegins.eq_append, List.append_assoc], fun after' => ?_⟩
    rw [List.append_assoc]
    exact .skip (hbegins.change_rest hstop after') hkind (hu after')
  | @comment _ _ _ _ _ l hbegins hkind _ ih =>
    obtain ⟨u, rfl, hu⟩ := ih hnested hrest
    refine ⟨l.text ++ u, by rw [hbegins.eq_append, List.append_assoc], fun after' => ?_⟩
    rw [List.append_assoc]
    exact .comment (hbegins.change_rest hstop after') hkind (hu after')
  | @leaf _ _ _ raw _ _ _ _ _ hbegins hopens hscans hending _ ih =>
    obtain ⟨u, rfl, hu⟩ := ih hnested hrest
    subst hnested
    refine ⟨raw ++ u, by rw [hscans.eq_append, List.append_assoc], fun after' => ?_⟩
    obtain ⟨next', hbegins'⟩ := hscans.exists_begins_behind hstop hbegins after'
    rw [List.append_assoc]
    exact .leaf hbegins' hopens (hscans.change_behind hstop rfl after') hending (hu after')
  | @block _ _ _ raw _ _ _ _ _ _ hbegins hopens hscans hchildren hforest ihchildren ih =>
    obtain ⟨u, hu, hreads⟩ := ih hnested hrest
    subst hnested
    obtain rfl | ⟨-, behind, rfl⟩ := hchildren.rest_eq
    · -- nothing is left behind a block that is not closed
      simp at hu
    obtain ⟨inner, rfl, hinner⟩ := ihchildren rfl rfl
    obtain rfl : behind = _ := hu
    refine ⟨raw ++ (inner ++ '\x7d' :: u), by simp [hscans.eq_append], fun after' => ?_⟩
    have hblock := Reads.block_append hbegins hopens hscans (hinner (u ++ '\x7d' :: after'))
      (hreads after')
    simpa using hblock

/-- A separator is passed over in front of any text. -/
theorem Reads.skip_append (hbegins : Begins text l next) (hkind : l.Separates nested)
    (h : Reads nested rest forest []) : Reads nested (l.text ++ rest) forest [] := by
  obtain hblank | hsingle : l.kind = .blank ∨ l.kind = .semicolon ∨ l.kind = .opening .curly ∨
      l.kind = .closing .curly := by
    obtain hkind | hkind | ⟨hkind, -⟩ := hkind <;> simp [hkind]
  · obtain ⟨c, cs, rfl, hspace⟩ := hbegins.isSpace_of_blank hblank
    obtain ⟨rfl, -⟩ := hbegins.unique (begins_blank hspace cs)
    exact h.append fun d hd => List.mem_takeWhile_imp hd
  · obtain ⟨c, hsingle, -, htext⟩ := hbegins.eq_of_kind hsingle
    rw [htext]
    exact .skip (begins_single l.kind hsingle rest) hkind h

/-- Behind a complete text, another text is read as if it stood alone. -/
theorem Reads.append_text (h : Reads nested text forest rest) (hnested : nested = false)
    (hcomplete : Completes (.around false []) text) {text' : List Char} {forest' : List (Tree Node)}
    (h' : Reads false text' forest' []) : Reads false (text ++ text') (forest ++ forest') [] := by
  have houter : Surrounds false [] := .inr ⟨rfl, rfl⟩
  induction h with
  | nil => exact h'
  | closing => cases hnested
  | @skip _ _ _ _ _ l hbegins hkind _ ih =>
    subst hnested
    have hnext := hcomplete.of_begins hbegins
    rw [Place.after_around houter (.inl hkind)] at hnext
    rw [hbegins.eq_append, List.append_assoc]
    exact (ih rfl hnext).skip_append hbegins hkind
  | @comment _ _ _ _ _ l hbegins hkind _ ih =>
    have hclosed := hcomplete.closed l (hbegins.ofText_eq ▸ List.mem_cons_self) hkind
    have hended := hclosed.isEnded (by simp [isDelimited, hkind])
    have hnext := hcomplete.of_begins hbegins
    rw [Place.after_around houter (.inr hkind)] at hnext
    rw [hbegins.eq_append, List.append_assoc]
    exact .comment (hended.begins _) hkind (ih hnested hnext)
  | @leaf _ _ _ raw after _ _ _ _ hbegins hopens hscans hending _ ih =>
    subst hnested
    obtain ⟨hexhausted, hafter⟩ := hscans.completes houter (hcomplete.inside hbegins hopens)
    rw [if_neg hending] at hafter
    -- with no block around it, the item can only have ended with a semicolon of its own
    have hending' := fun h => Bool.false_ne_true (hexhausted h)
    obtain ⟨next', hbegins'⟩ := hscans.exists_begins_append hending' hbegins (after ++ text')
    rw [hscans.eq_append, List.append_assoc, List.append_assoc]
    exact .leaf hbegins' hopens (hscans.change_rest hending' _) hending (ih rfl hafter)
  | @block _ _ _ raw _ _ _ _ _ _ hbegins hopens hscans hchildren _ _ ih =>
    subst hnested
    have hinner := (hscans.completes houter (hcomplete.inside hbegins hopens)).2
    obtain ⟨hafter, hne⟩ := hchildren.completes (.inl ⟨rfl, rfl⟩) hinner
    obtain ⟨-, behind, rfl⟩ := hchildren.rest_eq.resolve_left (hne rfl)
    -- the block is closed, so what it holds stays when more text follows its brace
    obtain ⟨inner, rfl, hreads⟩ := hchildren.exists_change_behind rfl rfl
    have hblock := Reads.block_append hbegins hopens hscans (hreads (behind ++ text'))
      (ih rfl (hafter.of_closing houter))
    simpa [hscans.eq_append] using hblock

theorem itemsOfText_append {a : String} (ha : IsComplete a) (b : String) :
    itemsOfText (a ++ b) = itemsOfText a ++ itemsOfText b := by
  obtain ⟨forest, rest, hreads⟩ := exists_reads false a.toList
  obtain ⟨forest', rest', hreads'⟩ := exists_reads false b.toList
  obtain rfl := hreads.rest_eq_nil
  obtain rfl := hreads'.rest_eq_nil
  have happend := hreads.append_text rfl ⟨ha.1, ha.2⟩ hreads'
  rw [← String.toList_append] at happend
  rw [happend.itemsOfText_eq, hreads.itemsOfText_eq, hreads'.itemsOfText_eq]

end Append

/-! ### Trees -/

/-- If top-level items are added, they are those of the text, and they follow what was there. They
are what is counted. -/
theorem view_insertItems {sheet : Stylesheet} (hw : sheet.WellFormed) {value : String} {n : Nat}
    (hresult : (sheet.insertItems value).result = .ok n) :
    let after := (sheet.insertItems value).tree
    n = (itemsOfText value).length ∧ after.view after.root = .node (sheet.valueAt sheet.root)
      ((sheet.view sheet.root).children ++ itemsOfText value) := by
  unfold insertItems at hresult ⊢
  dsimp only at hresult ⊢
  split at hresult
  · cases hresult
  · next haccepted =>
    have hgrafted := Arena.graftAll_spec hw (itemsOfText value)
    have hplaced := Arena.placed_appendChildren hw.grown hgrafted hw.root_lt_size
    rw [if_neg haccepted, hw.view_node sheet.root, ← Arena.length_graftAll hw (itemsOfText value)]
    exact ⟨(Except.ok.inj hresult).symm, hplaced.view_inside⟩

/-- If a text is complete, the items of another text that is put behind it follow its items,
whatever the other text is. An insertion without a property that succeeds makes the tree of the
longer text out of the tree of the complete one. -/
theorem view_ofText_append {a : String} (ha : IsComplete a) :
    let tree (text : String) := (ofText text).view (ofText text).root
    (∀ b, tree (a ++ b) = .node .root ((tree a).children ++ (tree b).children)) ∧
    ∀ (sheet : Stylesheet) (m : Modification) (value : String) (n : Nat), sheet.WellFormed →
      sheet.view sheet.root = tree a → m.operation = .insert → m.target.property = none →
      m.valueText? = some value → (sheet.edit m).result = .ok n →
      (sheet.edit m).tree.view (sheet.edit m).tree.root = tree (a ++ value) := by
  intro tree
  have htree (text : String) : tree text = .node .root (itemsOfText text) := Arena.view_ofForest _ _
  refine ⟨fun b => ?_, fun sheet m value n hw hview hm hproperty hvalue hresult => ?_⟩
  · rw [htree, htree, htree, itemsOfText_append ha]
    rfl
  · have hedit : sheet.edit m = sheet.insertItems value := by
      rw [edit, if_pos ⟨hm, hproperty⟩, requiredValue_eq hvalue]
      rfl
    rw [hedit] at hresult ⊢
    have hroot : sheet.valueAt sheet.root = .root := by
      have hvalue := congrArg Tree.value hview
      rwa [hw.view_node, htree] at hvalue
    rw [(view_insertItems hw hresult).2, hroot, hview, htree, htree, itemsOfText_append ha]
    rfl

/-- Stray separators stand at the seam, and a block that is not closed in the text behind it. -/
theorem view_ofText_append_seam :
    let tree (text : String) := (ofText text).view (ofText text).root
    let a := "@import \"b;\"; c\x7bd:e(\x7d);f\x7b\x7d\x7d /*g;*/ ;\x7d "
    let insert : Modification :=
      { path := "a", operation := .insert, value := some (.text "i\x7b\x7d") }
    let edited := ((ofText a).edit insert).tree
    tree (a ++ "\n;\x7d g;h\x7bi:j(") =
      .node .root ((tree a).children ++ [.node (.rule "h") [.leaf (.declaration "i" "j(")]]) ∧
    edited.view edited.root = tree (a ++ "i\x7b\x7d") := by
  intro tree a insert edited
  obtain ⟨happend, hinsert⟩ := view_ofText_append (a := a) (by decide +kernel)
  have hitems : itemsOfText "\n;\x7d g;h\x7bi:j(" =
      [.node (.rule "h") [.leaf (.declaration "i" "j(")]] := rfl
  have hchildren : (tree "\n;\x7d g;h\x7bi:j(").children = itemsOfText "\n;\x7d g;h\x7bi:j(" :=
    congrArg Tree.children (Arena.view_ofForest _ _)
  rw [← hitems, ← hchildren]
  exact ⟨happend _, hinsert (ofText a) insert "i\x7b\x7d" 1 (.ofForest _ _) rfl rfl rfl rfl
    (by decide +kernel)⟩

end SourceEdit.Stylesheet
