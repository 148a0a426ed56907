import SourceEdit.Proofs.Stylesheet.Lexeme
import SourceEdit.Stylesheet.Node

/-!
# Items as stretches of text

The scan of an item works on lexemes.  Here it is described on the text itself: `Begins` says which
lexeme a text begins with, and `Scans` how much of a text one item takes and how it ends.
`scans_iff` is the agreement with `scanItem`.

Since lexemes are read locally, an item that ends with a semicolon or a brace of its own is scanned
in the same way whatever follows it, and any other item is scanned so whatever follows the next
semicolon or brace.
-/

namespace SourceEdit.Stylesheet

/-! ### The first lexeme of a text -/

/-- The first lexeme is as long as it is measured. -/
theorem Lexeme.next_eq (c : Char) (cs : List Char) :
    next c cs = (⟨(measure c cs).1, c :: cs.take ((measure c cs).2 - 1)⟩,
      cs.drop ((measure c cs).2 - 1)) :=
  rfl

/-- A text begins with a lexeme, and `rest` is what follows it. -/
def Begins (text : List Char) (l : Lexeme) (rest : List Char) : Prop :=
  ∃ c cs, text = c :: cs ∧ Lexeme.next c cs = (l, rest)

section Begins

variable {text rest : List Char} {l : Lexeme}

/-- Every text that is not empty begins with a lexeme. -/
theorem exists_begins (h : text ≠ []) : ∃ l rest, Begins text l rest := by
  obtain ⟨c, cs, rfl⟩ := List.exists_cons_of_ne_nil h
  exact ⟨_, _, c, cs, rfl, rfl⟩

/-- A text begins with one lexeme only. -/
theorem Begins.unique {l' : Lexeme} {rest' : List Char} (h : Begins text l rest)
    (h' : Begins text l' rest') : l = l' ∧ rest = rest' := by
  obtain ⟨c, cs, rfl, hnext⟩ := h
  obtain ⟨c', cs', heq, hnext'⟩ := h'
  obtain ⟨rfl, rfl⟩ := List.cons.inj heq
  exact Prod.mk.inj (hnext.symm.trans hnext')

/-- A lexeme and what follows it are the text. -/
theorem Begins.eq_append (h : Begins text l rest) : text = l.text ++ rest := by
  obtain ⟨c, cs, rfl, hnext⟩ := h
  rw [Lexeme.next_eq, Prod.mk.injEq] at hnext
  obtain ⟨rfl, rfl⟩ := hnext
  simp

theorem Begins.text_ne_nil (h : Begins text l rest) : l.text ≠ [] := by
  obtain ⟨c, cs, rfl, hnext⟩ := h
  rw [Lexeme.next_eq, Prod.mk.injEq] at hnext
  obtain ⟨rfl, rfl⟩ := hnext
  exact List.cons_ne_nil _ _

theorem Begins.length_lt (h : Begins text l rest) : rest.length < text.length := by
  have hpos := List.length_pos_iff.mpr h.text_ne_nil
  rw [h.eq_append, List.length_append]
  omega

/-- Cutting with more fuel than there are characters makes no difference. -/
theorem Lexeme.cut_eq {n m : Nat} {cs : List Char} (hn : cs.length ≤ n) (hm : cs.length ≤ m) :
    cut n cs = cut m cs := by
  induction n generalizing m cs with
  | zero =>
    obtain rfl := List.eq_nil_of_length_eq_zero (Nat.le_zero.mp hn)
    cases m <;> rfl
  | succ n ih =>
    cases cs with
    | nil => cases m <;> rfl
    | cons c cs =>
      obtain ⟨m, rfl⟩ : ∃ k, m = k + 1 := ⟨m - 1, by rw [List.length_cons] at hm; omega⟩
      have hlt : (next c cs).2.length < (c :: cs).length :=
        Begins.length_lt (l := (next c cs).1) ⟨c, cs, rfl, rfl⟩
      simp only [cut]
      rw [ih (m := m) (by omega) (by omega)]

theorem Begins.ofText_eq (h : Begins text l rest) :
    Lexeme.ofText text = l :: Lexeme.ofText rest := by
  have hlt := h.length_lt
  obtain ⟨c, cs, rfl, hnext⟩ := h
  rw [List.length_cons] at hlt
  simp only [Lexeme.ofText, List.length_cons, Lexeme.cut, hnext]
  rw [Lexeme.cut_eq (by omega) le_rfl]

/-- A lexeme that ends before a stop is the first one whatever follows the stop. -/
theorem Begins.change_rest {s : Char} (hs : Lexeme.IsStop s) {v w : List Char}
    (h : Begins text l (v ++ s :: w)) (w' : List Char) :
    Begins (l.text ++ (v ++ s :: w')) l (v ++ s :: w') := by
  obtain ⟨c, cs, rfl, hnext⟩ := h
  rw [Lexeme.next_eq, Prod.mk.injEq] at hnext
  obtain ⟨rfl, hrest⟩ := hnext
  generalize hn : (Lexeme.measure c cs).2 - 1 = n at hrest
  have hlength : n < cs.length := by
    by_contra hle
    rw [List.drop_eq_nil_of_le (Nat.le_of_not_lt hle)] at hrest
    exact List.append_ne_nil_of_right_ne_nil v (List.cons_ne_nil s w) hrest.symm
  have hcs : cs = cs.take n ++ v ++ s :: w := by
    rw [List.append_assoc, ← hrest, List.take_append_drop]
  have htake : (cs.take n).length = n := by
    rw [List.length_take]
    omega
  -- the measure of a lexeme that ends before the stop does not depend on what is behind it
  have hmeasure : Lexeme.measure c (cs.take n ++ v ++ s :: w') = Lexeme.measure c cs := by
    have hlocal := Lexeme.measure_local hs c (cs.take n ++ v) w w'
    rw [← hcs] at hlocal
    refine hlocal ?_
    rw [List.length_append, htake]
    omega
  refine ⟨c, cs.take n ++ v ++ s :: w', by simp, ?_⟩
  rw [Lexeme.next_eq, hmeasure, hn, List.append_assoc, List.take_append_of_le_length htake.ge,
    List.drop_append_of_le_length htake.ge, List.drop_eq_nil_of_le htake.le,
    List.take_of_length_le htake.le, List.nil_append]

/-! ### Lexemes of one character -/

/-- A space is never a lexeme by its kind of character. -/
theorem Lexeme.isSpace_eq_false_of_single? {c : Char} {kind : Lexeme.Kind}
    (h : single? c = some kind) : isSpace c = false := by
  unfold single? at h
  split at h <;> first | decide | cases h

/-- A name is an ordinary lexeme, or opens a bracket. -/
theorem Lexeme.nameLexeme_kind (cs : List Char) :
    (nameLexeme cs).1 = .other ∨ (nameLexeme cs).1 = .opening .round := by
  rw [nameLexeme_eq]
  split_ifs
  · split <;> simp
  · simp
  · simp

/-- What a lexeme is: white space, one character, a comment, or something that is of no concern but
for the round bracket that it may open. -/
theorem Lexeme.measure_cases (c : Char) (cs : List Char) :
    (isSpace c = true ∧ measure c cs = (.blank, spaceLength (c :: cs))) ∨
    (∃ kind, single? c = some kind ∧ measure c cs = (kind, 1)) ∨
    (c = '/' ∧ ∃ r, cs = '*' :: r ∧ measure c cs = (.comment, 2 + commentLength r)) ∨
    (isSpace c = false ∧ single? c = none ∧ ¬(c = '/' ∧ cs.head? = some '*') ∧
      ((measure c cs).1 = .other ∨ (measure c cs).1 = .opening .round)) := by
  by_cases hspace : isSpace c = true
  · exact .inl ⟨hspace, by rw [measure, if_pos hspace]⟩
  cases hsingle : single? c with
  | some kind =>
    exact .inr (.inl ⟨kind, rfl, by rw [measure, if_neg hspace, hsingle]⟩)
  | none =>
    have hmeasure := measure.eq_def c cs
    rw [if_neg hspace, hsingle] at hmeasure
    dsimp only at hmeasure
    by_cases hcomment : (c == '/' && cs.head? == some '*') = true
    · rw [if_pos hcomment] at hmeasure
      simp only [Bool.and_eq_true, beq_iff_eq] at hcomment
      obtain ⟨rfl, hhead⟩ := hcomment
      obtain ⟨r, rfl⟩ := List.head?_eq_some_iff.mp hhead
      exact .inr (.inr (.inl ⟨rfl, r, rfl, hmeasure⟩))
    · rw [if_neg hcomment] at hmeasure
      simp only [Bool.and_eq_true, beq_iff_eq] at hcomment
      refine .inr (.inr (.inr ⟨by simpa using hspace, rfl, hcomment, ?_⟩))
      rw [hmeasure]
      split_ifs <;> first | exact .inl rfl | exact nameLexeme_kind _

/-- The first lexeme by the first character. -/
theorem begins_cons {c : Char} {cs : List Char} :
    Begins (c :: cs) l rest ↔
      l.kind = (Lexeme.measure c cs).1 ∧ l.text = c :: cs.take ((Lexeme.measure c cs).2 - 1) ∧
        rest = cs.drop ((Lexeme.measure c cs).2 - 1) := by
  constructor
  · rintro ⟨_, _, heq, hnext⟩
    obtain ⟨rfl, rfl⟩ := List.cons.inj heq
    rw [Lexeme.next_eq, Prod.mk.injEq] at hnext
    obtain ⟨rfl, rfl⟩ := hnext
    exact ⟨rfl, rfl, rfl⟩
  · rintro ⟨hkind, htext, rfl⟩
    refine ⟨c, cs, rfl, ?_⟩
    obtain ⟨kind, text⟩ := l
    rw [Lexeme.next_eq, ← hkind, ← htext]

/-- Semicolons and braces are lexemes of their own. -/
theorem Begins.eq_of_kind (h : Begins text l rest)
    (hkind : l.kind = .semicolon ∨ l.kind = .opening .curly ∨ l.kind = .closing .curly) :
    ∃ c, Lexeme.single? c = some l.kind ∧ text = c :: rest ∧ l.text = [c] := by
  obtain ⟨c, cs, rfl, -⟩ := id h
  obtain ⟨hk, htext, hrest⟩ := begins_cons.mp h
  rcases Lexeme.measure_cases c cs with ⟨-, hm⟩ | ⟨kind, hsingle, hm⟩ | ⟨-, r, rfl, hm⟩ |
    ⟨-, -, -, hm⟩
  · simp [hk, hm] at hkind
  · rw [hm] at hk htext hrest
    exact ⟨c, hk ▸ hsingle, by rw [hrest]; rfl, htext⟩
  · simp [hk, hm] at hkind
  · rcases hm with hm | hm <;> simp [hk, hm] at hkind

/-- A semicolon is one character. -/
theorem Begins.of_semicolon (h : Begins text l rest) (hkind : l.kind = .semicolon) :
    text = ';' :: rest ∧ l.text = [';'] := by
  obtain ⟨c, hsingle, htext, hl⟩ := h.eq_of_kind (.inl hkind)
  obtain rfl : c = ';' := by
    rw [hkind] at hsingle
    unfold Lexeme.single? at hsingle
    split at hsingle <;> first | rfl | cases hsingle
  exact ⟨htext, hl⟩

/-- An opening brace is one character. -/
theorem Begins.of_opening (h : Begins text l rest) (hkind : l.kind = .opening .curly) :
    text = '\x7b' :: rest ∧ l.text = ['\x7b'] := by
  obtain ⟨c, hsingle, htext, hl⟩ := h.eq_of_kind (.inr (.inl hkind))
  obtain rfl : c = '\x7b' := by
    rw [hkind] at hsingle
    unfold Lexeme.single? at hsingle
    split at hsingle <;> first | rfl | cases hsingle
  exact ⟨htext, hl⟩

/-- A closing brace is one character. -/
theorem Begins.of_closing (h : Begins text l rest) (hkind : l.kind = .closing .curly) :
    text = '\x7d' :: rest ∧ l.text = ['\x7d'] := by
  obtain ⟨c, hsingle, htext, hl⟩ := h.eq_of_kind (.inr (.inr hkind))
  obtain rfl : c = '\x7d' := by
    rw [hkind] at hsingle
    unfold Lexeme.single? at hsingle
    split at hsingle <;> first | rfl | cases hsingle
  exact ⟨htext, hl⟩

/-- A character with a kind of its own is a lexeme. -/
theorem begins_single {c : Char} (kind : Lexeme.Kind) (h : Lexeme.single? c = some kind)
    (cs : List Char) : Begins (c :: cs) ⟨kind, [c]⟩ cs := by
  have hmeasure : Lexeme.measure c cs = (kind, 1) := by
    simp [Lexeme.measure, Lexeme.isSpace_eq_false_of_single? h, h]
  exact begins_cons.mpr (by simp [hmeasure])

/-- White space is one lexeme up to where it ends. -/
theorem begins_blank {c : Char} (hc : Lexeme.isSpace c = true) (cs : List Char) :
    Begins (c :: cs) ⟨.blank, (c :: cs).takeWhile Lexeme.isSpace⟩
      ((c :: cs).dropWhile Lexeme.isSpace) := by
  have hmeasure : Lexeme.measure c cs = (.blank, Lexeme.spaceLength (c :: cs)) := by
    rw [Lexeme.measure, if_pos hc]
  have hsplit := List.takeWhile_append_dropWhile (p := Lexeme.isSpace) (l := cs)
  rw [begins_cons, hmeasure, Lexeme.spaceLength]
  simp only [List.takeWhile_cons, hc, if_true, List.length_cons, Nat.add_sub_cancel,
    List.dropWhile_cons, List.cons.injEq, true_and]
  have htake := List.prefix_iff_eq_take.mp (List.takeWhile_prefix (l := cs) Lexeme.isSpace)
  refine ⟨htake, ?_⟩
  have hdrop := List.take_append_drop (cs.takeWhile Lexeme.isSpace).length cs
  rw [← htake] at hdrop
  exact List.append_cancel_left (hsplit.trans hdrop.symm)

/-- The kinds that are of no single character. -/
theorem Lexeme.single?_ne {c : Char} {kind : Kind} (h : single? c = some kind) :
    kind ≠ .blank ∧ kind ≠ .comment ∧ kind ≠ .other := by
  unfold single? at h
  split at h <;> first | (obtain rfl := Option.some.inj h; decide) | cases h

/-- A blank starts with a space. -/
theorem Begins.isSpace_of_blank (h : Begins text l rest) (hkind : l.kind = .blank) :
    ∃ c cs, text = c :: cs ∧ Lexeme.isSpace c = true := by
  obtain ⟨c, cs, rfl, -⟩ := id h
  obtain ⟨hk, -, -⟩ := begins_cons.mp h
  refine ⟨c, cs, rfl, ?_⟩
  rcases Lexeme.measure_cases c cs with ⟨hc, -⟩ | ⟨kind, hsingle, hm⟩ | ⟨-, r, rfl, hm⟩ |
    ⟨-, -, -, hm⟩
  · exact hc
  · simp only [hm, hkind] at hk
    exact absurd hk.symm (Lexeme.single?_ne hsingle).1
  · simp [hm, hkind] at hk
  · rcases hm with hm | hm <;> simp [hm, hkind] at hk

/-- A comment is one lexeme up to where it is closed. -/
theorem begins_comment (cs : List Char) :
    Begins ('/' :: '*' :: cs) ⟨.comment, '/' :: '*' :: cs.take (Lexeme.commentLength cs)⟩
      (cs.drop (Lexeme.commentLength cs)) := by
  have hmeasure : Lexeme.measure '/' ('*' :: cs) = (.comment, 2 + Lexeme.commentLength cs) := by
    simp [Lexeme.measure, Lexeme.isSpace, Lexeme.isLineEnd, Lexeme.single?]
  have hlength : 2 + Lexeme.commentLength cs - 1 = Lexeme.commentLength cs + 1 := by omega
  rw [begins_cons, hmeasure, hlength]
  exact ⟨rfl, rfl, rfl⟩

/-- A comment starts with its mark. -/
theorem Begins.of_comment (h : Begins text l rest) (hkind : l.kind = .comment) :
    ∃ cs, text = '/' :: '*' :: cs := by
  obtain ⟨c, cs, rfl, -⟩ := id h
  obtain ⟨hk, -, -⟩ := begins_cons.mp h
  rcases Lexeme.measure_cases c cs with ⟨-, hm⟩ | ⟨kind, hsingle, hm⟩ | ⟨rfl, r, rfl, hm⟩ |
    ⟨-, -, -, hm⟩
  · simp [hm, hkind] at hk
  · simp only [hm, hkind] at hk
    exact absurd hk.symm (Lexeme.single?_ne hsingle).2.1
  · exact ⟨r, rfl⟩
  · rcases hm with hm | hm <;> simp [hm, hkind] at hk

end Begins

/-! ### The text of one item -/

/-- A lexeme that the scan of an item stops at when no bracket is open. -/
def Lexeme.Stops (nested : Bool) (l : Lexeme) : Prop :=
  (nested = true ∧ l.kind = .closing .curly) ∨ l.kind = .semicolon ∨ l.kind = .opening .curly

/-- `Scans nested open_ text raw ending rest`: with the brackets `open_` open, an item takes `raw`
from the front of the text and leaves `rest`. -/
inductive Scans (nested : Bool) :
    List Bracket → List Char → List Char → Ending → List Char → Prop
  | nil (open_ : List Bracket) : Scans nested open_ [] [] .exhausted []
  | closing (hnested : nested = true) (rest : List Char) :
      Scans nested [] ('\x7d' :: rest) [] .exhausted ('\x7d' :: rest)
  | semicolon (rest : List Char) : Scans nested [] (';' :: rest) [';'] .semicolon rest
  | block (rest : List Char) : Scans nested [] ('\x7b' :: rest) ['\x7b'] .block rest
  | step {open_ : List Bracket} {text next raw rest : List Char} {l : Lexeme} {ending : Ending}
      (hbegins : Begins text l next) (hgoes : open_ ≠ [] ∨ ¬l.Stops nested)
      (hrest : Scans nested (bracketsAfter open_ l.kind) next raw ending rest) :
      Scans nested open_ text (l.text ++ raw) ending rest

section Scans

variable {nested : Bool} {open_ : List Bracket} {text raw rest : List Char} {ending : Ending}

/-- What is scanned and what is left are the text. -/
theorem Scans.eq_append (h : Scans nested open_ text raw ending rest) : text = raw ++ rest := by
  induction h with
  | nil | closing | semicolon | block => rfl
  | step hbegins _ _ ih => rw [hbegins.eq_append, ih, List.append_assoc]

/-- A scan goes on after a lexeme that does not stop it. -/
theorem scanItem_cons_of_goes {l : Lexeme} (h : open_ ≠ [] ∨ ¬l.Stops nested) (ls : List Lexeme) :
    scanItem nested open_ (l :: ls) =
      let (raw, ending, rest) := scanItem nested (bracketsAfter open_ l.kind) ls
      (l.text ++ raw, ending, rest) := by
  rw [scanItem]
  by_cases hopen : open_ = []
  · subst hopen
    simp only [ne_eq, not_true_eq_false, false_or, Lexeme.Stops, not_or] at h
    rw [if_neg (by simp), if_neg (by simpa using h.1), if_neg h.2.1, if_neg h.2.2]
  · simp [hopen]

/-- What `Scans` says of a text is what the scan of its lexemes finds. -/
theorem Scans.scanItem_eq (h : Scans nested open_ text raw ending rest) :
    scanItem nested open_ (Lexeme.ofText text) = (raw, ending, Lexeme.ofText rest) := by
  induction h with
  | nil open_ => rfl
  | closing hnested rest =>
    rw [(begins_single (.closing .curly) rfl rest).ofText_eq]
    simp [scanItem, hnested]
  | semicolon rest =>
    rw [(begins_single (.semicolon) rfl rest).ofText_eq]
    simp [scanItem]
  | block rest =>
    rw [(begins_single (.opening .curly) rfl rest).ofText_eq]
    simp [scanItem]
  | step hbegins hgoes _ ih => rw [hbegins.ofText_eq, scanItem_cons_of_goes hgoes, ih]

/-- Every text can be scanned. -/
theorem exists_scans (nested : Bool) (open_ : List Bracket) (text : List Char) :
    ∃ raw ending rest, Scans nested open_ text raw ending rest := by
  induction hn : text.length using Nat.strong_induction_on generalizing open_ text with
  | _ n ih =>
    by_cases hnil : text = []
    · subst hnil
      exact ⟨_, _, _, .nil open_⟩
    obtain ⟨l, next, hbegins⟩ := exists_begins hnil
    by_cases hgoes : open_ ≠ [] ∨ ¬l.Stops nested
    · obtain ⟨raw, ending, rest, hscans⟩ :=
        ih next.length (hn ▸ hbegins.length_lt) (bracketsAfter open_ l.kind) next rfl
      exact ⟨_, _, _, .step hbegins hgoes hscans⟩
    · simp only [not_or, not_not] at hgoes
      obtain ⟨rfl, ⟨hnested, hkind⟩ | hkind | hkind⟩ := hgoes
      · obtain ⟨rfl, -⟩ := hbegins.of_closing hkind
        exact ⟨_, _, _, .closing hnested _⟩
      · obtain ⟨rfl, -⟩ := hbegins.of_semicolon hkind
        exact ⟨_, _, _, .semicolon _⟩
      · obtain ⟨rfl, -⟩ := hbegins.of_opening hkind
        exact ⟨_, _, _, .block _⟩

/-- The scan of a text finds an item just when `Scans` says so. -/
theorem scans_iff : Scans nested open_ (raw ++ rest) raw ending rest ↔
    scanItem nested open_ (Lexeme.ofText (raw ++ rest)) = (raw, ending, Lexeme.ofText rest) := by
  refine ⟨Scans.scanItem_eq, fun h => ?_⟩
  obtain ⟨raw', ending', rest', hscans⟩ := exists_scans nested open_ (raw ++ rest)
  have heq := hscans.scanItem_eq.symm.trans h
  rw [Prod.mk.injEq, Prod.mk.injEq] at heq
  obtain ⟨rfl, rfl, -⟩ := heq
  rwa [← List.append_cancel_left hscans.eq_append] at hscans

/-! ### How a scan ends -/

/-- A scan that ends at a semicolon takes it in. -/
theorem Scans.raw_eq_of_semicolon (h : Scans nested open_ text raw ending rest)
    (hending : ending = .semicolon) : ∃ inner, raw = inner ++ [';'] := by
  induction h with
  | nil | closing | block => cases hending
  | semicolon => exact ⟨[], rfl⟩
  | step _ _ _ ih =>
    obtain ⟨inner, rfl⟩ := ih hending
    exact ⟨_, (List.append_assoc ..).symm⟩

/-- A scan that ends at a block takes its brace in. -/
theorem Scans.raw_eq_of_block (h : Scans nested open_ text raw ending rest)
    (hending : ending = .block) : ∃ inner, raw = inner ++ ['\x7b'] := by
  induction h with
  | nil | closing | semicolon => cases hending
  | block => exact ⟨[], rfl⟩
  | step _ _ _ ih =>
    obtain ⟨inner, rfl⟩ := ih hending
    exact ⟨_, (List.append_assoc ..).symm⟩

/-- An item that is not ended by what follows it ends with a stop of its own. -/
theorem Scans.exists_stop (h : Scans nested open_ text raw ending rest)
    (hending : ending ≠ .exhausted) : ∃ v s, Lexeme.IsStop s ∧ raw = v ++ [s] := by
  cases hcase : ending with
  | semicolon =>
    obtain ⟨v, rfl⟩ := h.raw_eq_of_semicolon hcase
    exact ⟨v, ';', .inl rfl, rfl⟩
  | block =>
    obtain ⟨v, rfl⟩ := h.raw_eq_of_block hcase
    exact ⟨v, '\x7b', .inr (.inl rfl), rfl⟩
  | exhausted => exact absurd hcase hending

/-! ### What follows an item -/

/-- The first lexeme of an item that ends before a stop. -/
private theorem Scans.step_change {s : Char} (hs : Lexeme.IsStop s) {l : Lexeme}
    {v w : List Char} (hbegins : Begins text l (v ++ s :: w))
    (hgoes : open_ ≠ [] ∨ ¬l.Stops nested) {w' : List Char}
    (h : Scans nested (bracketsAfter open_ l.kind) (v ++ s :: w') raw ending rest) :
    Scans nested open_ (l.text ++ (v ++ s :: w')) (l.text ++ raw) ending rest :=
  .step (hbegins.change_rest hs w') hgoes h

/-- An item that ends with a semicolon or an opening brace is the same whatever follows it. -/
theorem Scans.change_rest (h : Scans nested open_ text raw ending rest)
    (hending : ending ≠ .exhausted) (rest' : List Char) :
    Scans nested open_ (raw ++ rest') raw ending rest' := by
  induction h with
  | nil | closing => exact absurd rfl hending
  | semicolon => exact .semicolon rest'
  | block => exact .block rest'
  | @step open_ text next raw rest l ending hbegins hgoes hrest ih =>
    obtain ⟨v, s, hs, rfl⟩ := hrest.exists_stop hending
    have hnext : next = v ++ s :: rest := by simpa using hrest.eq_append
    subst hnext
    have hih := ih hending
    rw [List.append_assoc, List.singleton_append] at hih
    rw [List.append_assoc, List.append_assoc, List.singleton_append]
    exact Scans.step_change hs hbegins hgoes hih

/-- Such an item begins with the same lexeme whatever follows it. -/
theorem Scans.exists_begins_append (h : Scans nested open_ text raw ending rest)
    (hending : ending ≠ .exhausted) {l : Lexeme} {next : List Char} (hbegins : Begins text l next)
    (rest' : List Char) : ∃ next', Begins (raw ++ rest') l next' := by
  cases h with
  | nil | closing => exact absurd rfl hending
  | semicolon =>
    obtain ⟨rfl, -⟩ := hbegins.unique (begins_single .semicolon rfl rest)
    exact ⟨rest', begins_single .semicolon rfl rest'⟩
  | block =>
    obtain ⟨rfl, -⟩ := hbegins.unique (begins_single (.opening .curly) rfl rest)
    exact ⟨rest', begins_single (.opening .curly) rfl rest'⟩
  | step hfirst _ hrest =>
    obtain ⟨rfl, rfl⟩ := hbegins.unique hfirst
    obtain ⟨v, s, hs, rfl⟩ := hrest.exists_stop hending
    obtain rfl := hrest.eq_append
    rw [List.append_assoc, List.singleton_append] at hbegins
    rw [List.append_assoc, List.append_assoc, List.singleton_append]
    exact ⟨_, hbegins.change_rest hs rest'⟩

private theorem exists_cons_of_append {c s : Char} {v w cs : List Char} (h : c :: cs = v ++ s :: w)
    (w' : List Char) : ∃ cs', v ++ s :: w' = c :: cs' := by
  cases v with
  | nil =>
    obtain ⟨rfl, -⟩ := List.cons.inj h
    exact ⟨w', rfl⟩
  | cons d v =>
    obtain ⟨rfl, -⟩ := List.cons.inj h
    exact ⟨v ++ s :: w', rfl⟩

/-- An item that ends before a stop is the same whatever follows the stop. -/
theorem Scans.change_behind {s : Char} (hs : Lexeme.IsStop s)
    (h : Scans nested open_ text raw ending rest) {v w : List Char} (hrest : rest = v ++ s :: w)
    (w' : List Char) : Scans nested open_ (raw ++ (v ++ s :: w')) raw ending (v ++ s :: w') := by
  induction h with
  | nil => simp at hrest
  | closing hnested =>
    obtain ⟨after', hafter⟩ := exists_cons_of_append hrest w'
    rw [hafter]
    exact .closing hnested after'
  | semicolon => exact .semicolon _
  | block => exact .block _
  | @step open_ text next raw rest l ending hbegins hgoes hscans ih =>
    subst hrest
    obtain rfl := hscans.eq_append
    have hih := ih rfl
    rw [← List.append_assoc] at hbegins hih
    rw [List.append_assoc, ← List.append_assoc raw]
    exact Scans.step_change hs hbegins hgoes hih

/-- Such an item begins with the same lexeme whatever follows the stop. -/
theorem Scans.exists_begins_behind {s : Char} (hs : Lexeme.IsStop s) {v w : List Char}
    (h : Scans nested open_ text raw ending (v ++ s :: w)) {l : Lexeme} {next : List Char}
    (hbegins : Begins text l next) (w' : List Char) :
    ∃ next', Begins (raw ++ (v ++ s :: w')) l next' := by
  by_cases hending : ending = .exhausted
  · generalize hrest : v ++ s :: w = rest at h
    cases h with
    | nil => simp at hrest
    | semicolon | block => cases hending
    | closing =>
      obtain ⟨rfl, -⟩ := hbegins.unique (begins_single (.closing .curly) rfl _)
      obtain ⟨after', hafter⟩ := exists_cons_of_append hrest.symm w'
      rw [hafter]
      exact ⟨_, begins_single (.closing .curly) rfl after'⟩
    | step hfirst _ hscans =>
      obtain ⟨rfl, rfl⟩ := hbegins.unique hfirst
      rw [hscans.eq_append, ← hrest, ← List.append_assoc] at hbegins
      rw [List.append_assoc, ← List.append_assoc _ v]
      exact ⟨_, hbegins.change_rest hs w'⟩
  · exact h.exists_begins_append hending hbegins _

end Scans

end SourceEdit.Stylesheet
