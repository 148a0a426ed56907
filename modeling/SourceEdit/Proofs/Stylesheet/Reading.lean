import SourceEdit.Proofs.Stylesheet.Scan
import SourceEdit.Proofs.Text.Trim

/-!
# Reading items off a text

`Reads` gives rules by which the items of a block are read off a text, one rule for each way in which
`items` goes on.  There is a reading of every text (`exists_reads`), and `Reads.items_eq` says that it
is what `items` reads, so the fuel of `items` never shows afterwards.

The rules compose: what stands before an item does not matter once it is read, and white space between
items makes no difference.
-/

namespace SourceEdit.Stylesheet

/-- A lexeme that an item begins with; the others are skipped, end a block or are comments. -/
def Lexeme.OpensItem (l : Lexeme) : Prop :=
  l.kind ≠ .blank ∧ l.kind ≠ .comment ∧ l.kind ≠ .semicolon ∧ l.kind ≠ .closing .curly

instance (l : Lexeme) : Decidable l.OpensItem := inferInstanceAs (Decidable (_ ∧ _))

/-! ### Reading the items of a block -/

/-- A lexeme between two items that is no comment. -/
def Lexeme.Separates (nested : Bool) (l : Lexeme) : Prop :=
  l.kind = .blank ∨ l.kind = .semicolon ∨ (l.kind = .closing .curly ∧ nested = false)

/-- `Reads nested text forest rest`: the items of a block are read from the front of the text, up to
the closing brace of the block if it is nested, and `rest` is left. A block that is not closed goes to
the end of the text. -/
inductive Reads : Bool → List Char → List (Tree Node) → List Char → Prop
  | nil (nested : Bool) : Reads nested [] [] []
  | closing (rest : List Char) : Reads true ('\x7d' :: rest) [] ('\x7d' :: rest)
  | skip {nested : Bool} {text next rest : List Char} {forest : List (Tree Node)} {l : Lexeme} :
      Begins text l next → l.Separates nested → Reads nested next forest rest →
      Reads nested text forest rest
  | comment {nested : Bool} {text next rest : List Char} {forest : List (Tree Node)} {l : Lexeme} :
      Begins text l next → l.kind = .comment → Reads nested next forest rest →
      Reads nested text
        (.leaf (.comment (String.ofList (trim (Lexeme.commentBody l.text)))) :: forest) rest
  | leaf {nested : Bool} {text next raw after rest : List Char} {forest : List (Tree Node)}
      {l : Lexeme} {ending : Ending} :
      Begins text l next → l.OpensItem → Scans nested [] text raw ending after → ending ≠ .block →
      Reads nested after forest rest →
      Reads nested text ((Node.ofLeaf? (leafOf raw)).toList.map .leaf ++ forest) rest
  | block {nested : Bool} {text next raw inner after rest : List Char}
      {children forest : List (Tree Node)} {l : Lexeme} :
      Begins text l next → l.OpensItem → Scans nested [] text raw .block inner →
      Reads true inner children after → Reads nested (after.drop 1) forest rest →
      Reads nested text (.node (.ofPrelude (preludeOf raw)) children :: forest) rest

section Reads

variable {nested : Bool} {text raw next rest : List Char} {forest : List (Tree Node)} {l : Lexeme}

theorem Begins.length_ofText (h : Begins text l next) :
    (Lexeme.ofText text).length = (Lexeme.ofText next).length + 1 := by
  rw [h.ofText_eq, List.length_cons]

theorem length_ofText_single {c : Char} {kind : Lexeme.Kind} (h : Lexeme.single? c = some kind)
    (cs : List Char) : (Lexeme.ofText (c :: cs)).length = (Lexeme.ofText cs).length + 1 :=
  (begins_single kind h cs).length_ofText

theorem Scans.length_ofText_le {open_ : List Bracket} {ending : Ending}
    (h : Scans nested open_ text raw ending rest) :
    (Lexeme.ofText rest).length ≤ (Lexeme.ofText text).length := by
  induction h with
  | nil | closing => exact le_rfl
  | semicolon rest =>
    have hlength := length_ofText_single (c := ';') rfl rest
    omega
  | block rest =>
    have hlength := length_ofText_single (c := '\x7b') rfl rest
    omega
  | step hbegins _ _ ih =>
    have hlength := hbegins.length_ofText
    omega

/-- An item takes the lexeme that it begins with. -/
theorem Scans.length_ofText_lt {ending : Ending} (h : Scans nested [] text raw ending rest)
    (hbegins : Begins text l next) (hopens : l.OpensItem) :
    (Lexeme.ofText rest).length < (Lexeme.ofText text).length := by
  cases h with
  | nil =>
    obtain ⟨c, cs, hnil, -⟩ := hbegins
    cases hnil
  | closing =>
    obtain ⟨rfl, -⟩ := hbegins.unique (begins_single (.closing .curly) rfl _)
    exact absurd rfl hopens.2.2.2
  | semicolon | block =>
    have hlength := hbegins.length_ofText
    obtain ⟨-, rfl⟩ := hbegins.unique (begins_single _ rfl _)
    omega
  | step hfirst _ hrest =>
    have hlength := hfirst.length_ofText
    have hle := hrest.length_ofText_le
    omega

theorem Reads.rest_eq (h : Reads nested text forest rest) :
    rest = [] ∨ nested = true ∧ ∃ after, rest = '\x7d' :: after := by
  induction h with
  | nil => exact .inl rfl
  | closing after => exact .inr ⟨rfl, after, rfl⟩
  | skip _ _ _ ih | comment _ _ _ ih | leaf _ _ _ _ _ ih | block _ _ _ _ _ _ ih => exact ih

theorem Reads.rest_eq_nil (h : Reads false text forest rest) : rest = [] :=
  h.rest_eq.resolve_right fun hclosing => Bool.false_ne_true hclosing.1

/-- After a block its closing brace is left out, if it has one. -/
theorem Reads.ofText_drop (h : Reads nested text forest rest) :
    Lexeme.ofText (rest.drop 1) = (Lexeme.ofText rest).drop 1 := by
  obtain rfl | ⟨-, after, rfl⟩ := h.rest_eq
  · rfl
  · rw [(begins_single (c := '\x7d') (.closing .curly) rfl after).ofText_eq]
    rfl

theorem Reads.length_ofText_le (h : Reads nested text forest rest) :
    (Lexeme.ofText rest).length ≤ (Lexeme.ofText text).length := by
  induction h with
  | nil | closing => exact le_rfl
  | skip hbegins _ _ ih | comment hbegins _ _ ih =>
    have hlength := hbegins.length_ofText
    omega
  | leaf hbegins hopens hscans _ _ ih =>
    have hlt := hscans.length_ofText_lt hbegins hopens
    omega
  | block hbegins hopens hscans hchildren _ ihchildren ih =>
    have hlt := hscans.length_ofText_lt hbegins hopens
    rw [hchildren.ofText_drop, List.length_drop] at ih
    omega

/-! ### Agreement with the reader -/

theorem Lexeme.separates_of_not_opensItem (hopens : ¬l.OpensItem) (hcomment : l.kind ≠ .comment)
    (hclosing : ¬(nested = true ∧ l.kind = .closing .curly)) : l.Separates nested := by
  have hnested : l.kind = .closing .curly → nested = false := fun hkind => by
    simpa [hkind] using hclosing
  simp only [OpensItem] at hopens
  unfold Separates
  tauto

theorem items_of_separates (h : l.Separates nested) (fuel : Nat) (ls : List Lexeme) :
    items (fuel + 1) nested (l :: ls) = items fuel nested ls := by
  obtain hkind | hkind | ⟨hkind, rfl⟩ := h <;> simp [items, hkind]

/-- An item that is no comment is scanned first. -/
theorem items_of_opensItem (h : l.OpensItem) (fuel : Nat) (ls : List Lexeme) :
    items (fuel + 1) nested (l :: ls) =
      let (raw, ending, rest) := scanItem nested [] (l :: ls)
      if ending = .block then
        let (children, rest) := items fuel true rest
        let (nodes, rest) := items fuel nested (rest.drop 1)
        (.node (.ofPrelude (preludeOf raw)) children :: nodes, rest)
      else
        let (nodes, rest) := items fuel nested rest
        match Node.ofLeaf? (leafOf raw) with
        | some node => (.leaf node :: nodes, rest)
        | none => (nodes, rest) := by
  obtain ⟨hblank, hcomment, hsemicolon, hclosing⟩ := h
  rw [items, if_neg (by simp [hclosing])]
  split
  · next hkind => exact absurd hkind hblank
  · next hkind => exact absurd hkind hsemicolon
  · next hkind => exact absurd hkind hclosing
  · next hkind => exact absurd hkind hcomment
  · rfl

/-- What the rules say is read is what `items` reads, given enough fuel. -/
theorem Reads.items_eq (h : Reads nested text forest rest) {fuel : Nat}
    (hfuel : (Lexeme.ofText text).length < fuel) :
    items fuel nested (Lexeme.ofText text) = (forest, Lexeme.ofText rest) := by
  -- By induction on how the items are read; every lexeme takes some of the fuel.
  obtain ⟨fuel, rfl⟩ := Nat.exists_eq_add_one_of_ne_zero (Nat.ne_zero_of_lt hfuel)
  induction h generalizing fuel with
  | nil nested => rfl
  | closing rest =>
    rw [(begins_single (.closing .curly) rfl rest).ofText_eq]
    simp [items]
  | skip hbegins hkind _ ih =>
    have hlength := hbegins.length_ofText
    obtain ⟨fuel, rfl⟩ := Nat.exists_eq_add_one_of_ne_zero (show fuel ≠ 0 by omega)
    rw [hbegins.ofText_eq, items_of_separates hkind, ih fuel (by omega)]
  | comment hbegins hkind _ ih =>
    have hlength := hbegins.length_ofText
    obtain ⟨fuel, rfl⟩ := Nat.exists_eq_add_one_of_ne_zero (show fuel ≠ 0 by omega)
    rw [hbegins.ofText_eq]
    simp [items, hkind, ih fuel (by omega)]
  | leaf hbegins hopens hscans hending _ ih =>
    have hlt := hscans.length_ofText_lt hbegins hopens
    obtain ⟨fuel, rfl⟩ := Nat.exists_eq_add_one_of_ne_zero (show fuel ≠ 0 by omega)
    have hscan := hscans.scanItem_eq
    rw [hbegins.ofText_eq] at hscan ⊢
    rw [items_of_opensItem hopens, hscan]
    dsimp only
    rw [if_neg hending, ih fuel (by omega)]
    split <;> simp_all
  | block hbegins hopens hscans hchildren _ ihchildren ih =>
    have hlt := hscans.length_ofText_lt hbegins hopens
    have hle := hchildren.length_ofText_le
    have hdrop := congrArg List.length hchildren.ofText_drop
    rw [List.length_drop] at hdrop
    obtain ⟨fuel, rfl⟩ := Nat.exists_eq_add_one_of_ne_zero (show fuel ≠ 0 by omega)
    have hscan := hscans.scanItem_eq
    rw [hbegins.ofText_eq] at hscan ⊢
    rw [items_of_opensItem hopens, hscan]
    dsimp only
    rw [if_pos rfl, ihchildren fuel (by omega)]
    dsimp only
    rw [← hchildren.ofText_drop, ih fuel (by omega)]

/-- Every text is read in some way. -/
theorem exists_reads (nested : Bool) (text : List Char) :
    ∃ forest rest, Reads nested text forest rest := by
  induction hn : (Lexeme.ofText text).length using Nat.strong_induction_on generalizing nested text with
  | _ n ih =>
    subst hn
    by_cases hnil : text = []
    · subst hnil
      exact ⟨[], [], .nil nested⟩
    obtain ⟨l, next, hbegins⟩ := exists_begins hnil
    have hlength := hbegins.length_ofText
    -- by strong induction: a closing brace, an item or something between two items comes first
    by_cases hclosing : nested = true ∧ l.kind = .closing .curly
    · obtain ⟨rfl, hkind⟩ := hclosing
      obtain ⟨rfl, -⟩ := hbegins.of_closing hkind
      exact ⟨[], _, .closing next⟩
    by_cases hopens : l.OpensItem
    · obtain ⟨raw, ending, after, hscans⟩ := exists_scans nested [] text
      have hlt := hscans.length_ofText_lt hbegins hopens
      by_cases hblock : ending = .block
      · subst hblock
        obtain ⟨children, after', hchildren⟩ := ih _ hlt true after rfl
        have hle := hchildren.length_ofText_le
        have hdrop := congrArg List.length hchildren.ofText_drop
        rw [List.length_drop] at hdrop
        obtain ⟨forest, rest, hforest⟩ := ih _ (by omega) nested (after'.drop 1) rfl
        exact ⟨_, rest, .block hbegins hopens hscans hchildren hforest⟩
      · obtain ⟨forest, rest, hforest⟩ := ih _ hlt nested after rfl
        exact ⟨_, rest, .leaf hbegins hopens hscans hblock hforest⟩
    · obtain ⟨forest, rest, hforest⟩ := ih _ (by omega) nested next rfl
      by_cases hcomment : l.kind = .comment
      · exact ⟨_, rest, .comment hbegins hcomment hforest⟩
      · exact ⟨forest, rest,
          .skip hbegins (Lexeme.separates_of_not_opensItem hopens hcomment hclosing) hforest⟩

theorem Reads.itemsOfText_eq {text : String} {forest : List (Tree Node)}
    (h : Reads false text.toList forest []) : itemsOfText text = forest :=
  congrArg Prod.fst (h.items_eq (Nat.lt_succ_self _))

end Reads

/-! ### White space -/

section Scans

variable {nested : Bool} {open_ : List Bracket} {text raw rest : List Char} {ending : Ending}

/-- An item that ends with a semicolon or a brace takes the white space before it. -/
theorem Scans.dropWhile (h : Scans nested open_ text raw ending rest) (hending : ending ≠ .exhausted) :
    ∃ raw', raw = text.takeWhile Lexeme.isSpace ++ raw' ∧
      Scans nested open_ (text.dropWhile Lexeme.isSpace) raw' ending rest := by
  have hplain {c : Char} {cs : List Char} (htext : text = c :: cs) (hc : Lexeme.isSpace c = false) :
      ∃ raw', raw = text.takeWhile Lexeme.isSpace ++ raw' ∧
        Scans nested open_ (text.dropWhile Lexeme.isSpace) raw' ending rest := by
    have hhead : ∀ d ∈ text.head?, Lexeme.isSpace d = false := by
      rintro d hd
      rw [htext] at hd
      obtain rfl := Option.some.inj hd
      exact hc
    rw [takeWhile_eq_nil_of_head hhead, dropWhile_eq_self_of_head hhead]
    exact ⟨raw, rfl, h⟩
  cases id h with
  | nil | closing => exact absurd rfl hending
  | semicolon | block => exact hplain rfl rfl
  | @step _ _ next raw _ l _ hbegins hgoes hrest =>
    obtain ⟨c, cs, rfl, -⟩ := id hbegins
    cases hc : Lexeme.isSpace c with
    | true =>
      obtain ⟨rfl, rfl⟩ := hbegins.unique (begins_blank hc cs)
      exact ⟨raw, rfl, hrest⟩
    | false => exact hplain rfl hc

/-- More white space before such an item is taken with it, since it goes into the lexeme of white space
that is there. -/
theorem Scans.cons_space (h : Scans nested open_ text raw ending rest) (hending : ending ≠ .exhausted)
    {c : Char} (hc : Lexeme.isSpace c = true) :
    Scans nested open_ (c :: text) (c :: raw) ending rest := by
  obtain ⟨raw', rfl, hscans⟩ := h.dropWhile hending
  have hbegins := begins_blank hc text
  simp only [List.takeWhile_cons, List.dropWhile_cons, hc, if_true] at hbegins
  exact .step hbegins (.inr (by simp [Lexeme.Stops])) hscans

end Scans

section Reads

variable {nested : Bool} {text rest : List Char} {forest : List (Tree Node)}

/-- White space before the items of a block makes no difference. -/
theorem Reads.dropWhile (h : Reads nested text forest rest) :
    Reads nested (text.dropWhile Lexeme.isSpace) forest rest := by
  have hblank {l : Lexeme} {next : List Char} (hbegins : Begins text l next)
      (hkind : l.kind ≠ .blank) : text.dropWhile Lexeme.isSpace = text := by
    obtain ⟨c, cs, rfl, -⟩ := id hbegins
    refine dropWhile_eq_self_of_head fun d hd => ?_
    obtain rfl := Option.some.inj hd
    rw [Bool.eq_false_iff]
    intro hspace
    obtain ⟨rfl, -⟩ := hbegins.unique (begins_blank hspace cs)
    exact hkind rfl
  cases h with
  | nil => exact .nil nested
  | closing => exact .closing _
  | @skip _ _ _ _ _ l hbegins hkind hnext =>
    by_cases hblank' : l.kind = .blank
    · obtain ⟨c, cs, rfl, hspace⟩ := hbegins.isSpace_of_blank hblank'
      obtain ⟨-, rfl⟩ := hbegins.unique (begins_blank hspace cs)
      exact hnext
    · rw [hblank hbegins hblank']
      exact .skip hbegins hkind hnext
  | comment hbegins hkind hnext =>
    rw [hblank hbegins (by simp [hkind])]
    exact .comment hbegins hkind hnext
  | leaf hbegins hopens hscans hending hafter =>
    rw [hblank hbegins hopens.1]
    exact .leaf hbegins hopens hscans hending hafter
  | block hbegins hopens hscans hchildren hafter =>
    rw [hblank hbegins hopens.1]
    exact .block hbegins hopens hscans hchildren hafter

theorem Reads.append {w : List Char} (hw : ∀ c ∈ w, Lexeme.isSpace c = true)
    (h : Reads nested text forest rest) : Reads nested (w ++ text) forest rest := by
  cases w with
  | nil => exact h
  | cons c w =>
    have hbegins := begins_blank (hw c List.mem_cons_self) (w ++ text)
    refine .skip hbegins (.inl rfl) ?_
    rw [← List.cons_append, List.dropWhile_append_of_pos hw]
    exact h.dropWhile

theorem reads_append_iff {w : List Char} (hw : ∀ c ∈ w, Lexeme.isSpace c = true) :
    Reads nested (w ++ text) forest rest ↔ Reads nested text forest rest := by
  refine ⟨fun h => ?_, Reads.append hw⟩
  have hdrop := h.dropWhile
  rw [List.dropWhile_append_of_pos hw] at hdrop
  have hwhole := Reads.append (w := text.takeWhile Lexeme.isSpace) mem_takeWhile_eq_true hdrop
  rwa [List.takeWhile_append_dropWhile] at hwhole

end Reads

end SourceEdit.Stylesheet
