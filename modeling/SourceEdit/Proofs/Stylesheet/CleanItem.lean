import SourceEdit.Proofs.Stylesheet.Edges
import SourceEdit.Proofs.Stylesheet.ReadBack

/-!
# Clean items are read back

An item is clean if what cleaning leaves of it ends where a lexeme ends.  `Node.isClean` is the test:
a selector, a parameter and a value must not end within an escape, a value must not end in a semicolon
of its own, the name of an at-rule must be a name, and a property must not hold what begins a
comment, a string or a url.

A clean item that was read from a text in which all comments, strings, urls and brackets are closed
is read back when it is written.  The lexemes of each of its parts are the same in the text and
where it is written (`Remains.exists_lexes`); the scan goes through the former, so it goes through the
latter.
-/

namespace SourceEdit.Stylesheet

open Lexeme

/-! ### Clean items -/

/-- The text is a name without escapes. -/
def Lexeme.isName (cs : List Char) : Bool := startsName cs && cs.all isNameChar

/-- The text does not end within an escape or in a semicolon. -/
def Lexeme.endsClean (cs : List Char) : Bool := !endsInEscape cs && cs.getLast? != some ';'

/-- The parts of the item end where lexemes end. -/
def Node.isClean : Node → Bool
  | .root => false
  | .rule selector => !endsInEscape selector.toList
  | .atRule name params _ => isName name.toList && endsClean params.toList
  | .declaration property value =>
    !endsInEscape property.toList &&
      property.toList.all (fun c => !(['"', '\'', '(', '/'].contains c)) && endsClean value.toList
  | .comment _ => true

/-! ### Runs of inert lexemes -/

section Inert

variable {nested : Bool} {open_ : List Bracket} {w t r cs name : List Char} {bs : List Lexeme}

/-- Inert lexemes leave what is open as it is. -/
theorem passes_of_isInert (hbs : ∀ l ∈ bs, l.IsInert) : Passes nested open_ bs open_ := by
  have h : Passes nested open_ (bs ++ []) open_ :=
    (passes_append_of_isInert hbs).mpr (.nil open_)
  rwa [List.append_nil] at h

/-- A text begins with lexemes that are of no concern to the scan. -/
def Skips (text rest : List Char) : Prop := ∃ bs, (∀ l ∈ bs, l.IsInert) ∧ Lexes text bs rest

theorem Skips.refl (t : List Char) : Skips t t := ⟨[], by simp, .nil t⟩

/-- Two runs of inert lexemes are one. -/
theorem Skips.trans (h : Skips w t) (h' : Skips t r) : Skips w r := by
  obtain ⟨bs, hbs, hlexes⟩ := h
  obtain ⟨bs', hbs', hlexes'⟩ := h'
  exact ⟨bs ++ bs', List.forall_mem_append.mpr ⟨hbs, hbs'⟩, hlexes.append hlexes'⟩

/-- An inert lexeme at the start of a text is skipped. -/
theorem Begins.skips {text next : List Char} {l : Lexeme} (h : Begins text l next) (hl : l.IsInert) :
    Skips text next :=
  ⟨[l], by simpa using hl, h.lexes⟩

/-- A blank is skipped up to where it ends. -/
theorem skips_blank (hw : ∀ c ∈ w, isSpace c = true)
    (ht : w ≠ [] → ∀ c ∈ t.head?, isSpace c = false) : Skips (w ++ t) t := by
  cases w with
  | nil => exact .refl t
  | cons c w =>
    have hbegins := begins_blank (hw c List.mem_cons_self) (w ++ t)
    rw [← List.cons_append, List.dropWhile_append_of_pos hw,
      dropWhile_eq_self_of_head (ht (List.cons_ne_nil c w))] at hbegins
    exact hbegins.skips (.inl rfl)

/-- A colon is a lexeme of its own. -/
theorem begins_colon (cs : List Char) : Begins (':' :: cs) ⟨.other, [':']⟩ cs :=
  begins_cons.mpr ⟨rfl, rfl, rfl⟩

/-- An at sign before another one is a lexeme of its own. -/
theorem begins_atSign (cs : List Char) : Begins ('@' :: '@' :: cs) ⟨.other, ['@']⟩ ('@' :: cs) :=
  begins_cons.mpr ⟨rfl, rfl, rfl⟩

/-- At signs are skipped up to the last one. -/
theorem skips_atSigns (n : Nat) (cs : List Char) :
    Skips (List.replicate n '@' ++ '@' :: cs) ('@' :: cs) := by
  induction n with
  | zero => exact .refl _
  | succ n ih =>
    have hsign : List.replicate n '@' ++ '@' :: cs = '@' :: (List.replicate n '@' ++ cs) := by
      rw [List.append_cons, ← List.replicate_succ', List.replicate_succ, List.cons_append]
    rw [List.replicate_succ, List.cons_append]
    refine Skips.trans ?_ ih
    rw [hsign]
    exact (begins_atSign _).skips (.inr (.inr rfl))

/-! ### At-keywords -/

/-- A name goes on with what follows it. -/
theorem nameLength_append_of_all (hname : ∀ c ∈ name, isNameChar c = true) (r : List Char) :
    nameLength .none (name ++ r) = name.length + nameLength .none r := by
  induction name with
  | nil => simp
  | cons c name ih =>
    obtain ⟨hc, hname⟩ := List.forall_mem_cons.mp hname
    rw [List.cons_append, nameLength, if_neg (by simp [Escape.takes]), if_pos hc, ih hname,
      List.length_cons]
    omega

/-- A name starts with its own first characters. -/
theorem startsName_append_of_isName (h : isName name = true) (r : List Char) :
    startsName (name ++ r) = true := by
  simp only [isName, Bool.and_eq_true, List.all_eq_true] at h
  match name with
  | [] => exact absurd h.1 (by simp [startsName])
  | [c] =>
    have hstart := h.1
    have hback : c ≠ '\\' := by
      rintro rfl
      exact absurd (h.2 '\\' List.mem_cons_self) (by decide)
    by_cases hdash : c = '-'
    · simp [startsName, hdash] at hstart
    · simpa [startsName, hdash, hback] using hstart
  | c :: d :: name => exact h.1

/-- An at-keyword goes on as long as its name does. -/
theorem begins_atKeyword (h : isName name = true) (r : List Char) :
    Begins ('@' :: (name ++ r)) ⟨.other, '@' :: (name ++ r.take (nameLength .none r))⟩
      (r.drop (nameLength .none r)) := by
  have hall : ∀ c ∈ name, isNameChar c = true := by
    simp only [isName, Bool.and_eq_true, List.all_eq_true] at h
    exact h.2
  have hmeasure : Lexeme.measure '@' (name ++ r) = (.other, 1 + (name.length + nameLength .none r)) := by
    rw [← nameLength_append_of_all hall]
    simp [Lexeme.measure, isSpace, isLineEnd, single?, startsName_append_of_isName h]
  rw [begins_cons, hmeasure, Nat.add_sub_cancel_left, List.take_length_add_append,
    List.drop_length_add_append]
  exact ⟨rfl, rfl, rfl⟩

/-- No name goes on with a character that does not go into names. -/
theorem nameLength_eq_zero_of_head (hr : ∀ c ∈ r.head?, isNameChar c = false ∧ c ≠ '\\') :
    nameLength .none r = 0 := by
  cases r with
  | nil => rfl
  | cons c r =>
    obtain ⟨hname, hback⟩ := hr c rfl
    simp [nameLength, Escape.takes, hname, hback]

/-- An at sign and a name are one inert lexeme if the name ends there. -/
theorem skips_atKeyword (h : isName name = true) (hr : nameLength .none r = 0) :
    Skips ('@' :: (name ++ r)) r := by
  have hbegins := begins_atKeyword h r
  rw [hr] at hbegins
  exact hbegins.skips (.inr (.inr rfl))

end Inert

/-! ### The rest of an item -/

/-- The rest of an item, from a place where some brackets are open: `y` is what is left of it and `g`
what is cut off, and `mid` is the semicolon or the brace at which the item ends. -/
structure Remains (nested : Bool) (open_ : List Bracket) (y g mid : List Char) (ls : List Lexeme) :
    Prop where
  lexes : Lexes (y ++ (g ++ mid)) ls mid
  passes : Passes nested open_ ls []
  closed : ∀ l ∈ ls, l.IsClosed
  plain : ∀ l ∈ ls, l.isPlain = true
  cutOff : ∀ c ∈ g, IsCutOff c
  stop : ∀ c ∈ mid.head?, IsStop c

section Remains

variable {nested : Bool} {open_ : List Bracket} {w x y g mid : List Char} {ls : List Lexeme}

/-- What is cut off an item is a blank, a semicolon or a brace. -/
theorem Remains.isSpace_of_cutOff (h : Remains nested open_ y g mid ls) :
    ∀ c ∈ g, isSpace c = true ∨ c = ';' ∨ c = '\x7b' :=
  h.lexes.isSpace_of_isCutOff h.closed h.plain h.cutOff

/-- The lexemes of the last part of an item. -/
theorem Remains.exists_lexes (h : Remains nested open_ y g mid ls) (hy : IsFirm y) :
    ∃ ys gs, ls = ys ++ gs ∧ Passes nested open_ ys [] ∧ ∀ r, Quiet r → Lexes (y ++ r) ys r :=
  h.lexes.cut_separators h.closed h.passes hy h.isSpace_of_cutOff h.stop

/-- What is skipped need not be there. -/
theorem Remains.skip (h : Remains nested open_ (w ++ y) g mid ls)
    (hw : Skips (w ++ (y ++ (g ++ mid))) (y ++ (g ++ mid))) :
    ∃ ls', Remains nested open_ y g mid ls' := by
  obtain ⟨bs, hbs, hlexes⟩ := hw
  have hwhole := h.lexes
  rw [List.append_assoc] at hwhole
  obtain ⟨ls', rfl, hls⟩ := hwhole.of_lexes hlexes (by simp only [List.length_append]; omega)
  refine ⟨ls', hls, (passes_append_of_isInert hbs).mp h.passes, ?_, ?_, h.cutOff, h.stop⟩
  · exact fun l hl => h.closed l (List.mem_append_right bs hl)
  · exact fun l hl => h.plain l (List.mem_append_right bs hl)

/-- A blank character in front of what remains is a space to the lexer, too. -/
theorem Remains.isSpace_of_isBlank (h : Remains nested open_ (w ++ y) g mid ls)
    (hw : ∀ c ∈ w, isBlank c = true) : ∀ c ∈ w, isSpace c = true :=
  Lexes.isSpace_of_isBlank (t := y ++ (g ++ mid)) (by simpa using h.lexes)
    (by simp only [List.length_append]; omega) h.plain hw

/-- A trimmed text does not start with a space. -/
theorem isSpace_head_of_trimmed (hy : Trimmed y) : ∀ c ∈ y.head?, isSpace c = false := fun c hc =>
  Bool.eq_false_iff.mpr fun hspace =>
    Bool.false_ne_true ((hy.head c hc).symm.trans (isBlank_of_isSpace hspace))

/-- White space before what is left of an item. -/
theorem Remains.skip_blank (h : Remains nested open_ (w ++ y) g mid ls)
    (hw : ∀ c ∈ w, isBlank c = true) (hy : Trimmed y) (hnil : y = [] → w = []) :
    ∃ ls', Remains nested open_ y g mid ls' := by
  refine h.skip (skips_blank (h.isSpace_of_isBlank hw) fun hne c hc => ?_)
  cases y with
  | nil => exact absurd (hnil rfl) hne
  | cons d y => exact isSpace_head_of_trimmed hy c hc

/-- A trimmed text that does not end in an escape ends in a lexeme that nothing joins. -/
theorem isFirm_of_trimmed (hy : Trimmed y) (hescape : endsInEscape y = false) : IsFirm y := by
  refine ⟨hescape, fun c hc => ?_⟩
  rw [Bool.eq_false_iff]
  exact fun hspace => Bool.false_ne_true ((hy.last c hc).symm.trans (isBlank_of_isSpace hspace))

end Remains

/-! ### Items -/

section Items

variable {nested : Bool} {x g mid : List Char} {ls : List Lexeme}

theorem quiet_semicolon : Quiet [';'] := by simp [Quiet, isSpace, isLineEnd]

theorem quiet_block : Quiet [' ', '\x7b'] := by simp [Quiet, isSpace, isLineEnd]

/-- An item is read back if the scan goes through its lexemes, up to the semicolon or the brace at
its end. -/
theorem readsBack_of_passes {n : Node} (hn : n.isComment = false) {s : Char}
    (hs : s = ';' ∧ n.ending = .semicolon ∨ s = '\x7b' ∧ n.ending = .block) {l : Lexeme}
    {next : List Char} (hbegins : Begins n.stem l next) (hopens : l.OpensItem)
    (hlexes : Lexes n.stem ls [s]) (hpasses : Passes nested [] ls [])
    (hnode : Node.ofScan? n.stem n.ending = some n) : n.ReadsBack nested := by
  refine (Node.readsBack_iff hn).mpr ⟨fun l' hl' => ?_, ?_, hnode⟩
  · rw [hbegins.ofText_eq] at hl'
    obtain rfl := Option.some.inj hl'
    exact hopens
  · have hend : Scans nested [] [s] [s] n.ending [] := by
      obtain ⟨rfl, hending⟩ | ⟨rfl, hending⟩ := hs
      · rw [hending]
        exact .semicolon []
      · rw [hending]
        exact .block []
    have hscans := hpasses.scans hlexes hend
    rw [← hlexes.eq_append] at hscans
    exact hscans.scanItem_eq

/-- An item without a block is read back if the scan goes through its text. -/
theorem readsBack_of_semicolon {n : Node} (hn : n.isComment = false) (hblock : n.hasBlock = false)
    {t next : List Char} {l : Lexeme} (hstem : n.stem = t ++ [';']) (hbegins : Begins (t ++ [';']) l next)
    (hopens : l.OpensItem) (hlexes : Lexes (t ++ [';']) ls [';']) (hpasses : Passes nested [] ls [])
    (hhead : ∀ c ∈ t.head?, isBlank c = false) (hlast : ∀ c ∈ t.getLast?, c ≠ ';')
    (hnode : Node.ofLeaf? (trim t) = some n) : n.ReadsBack nested := by
  have hending : n.ending = .semicolon := by rw [Node.ending, hblock]; rfl
  rw [← hstem] at hbegins hlexes
  refine readsBack_of_passes hn (.inl ⟨rfl, hending⟩) hbegins hopens hlexes hpasses ?_
  rw [hending, hstem, Node.ofScan?, leafOf_append_eq hhead hlast, hnode]
  simp

/-- An item with a block is read back if the scan goes through its text. -/
theorem readsBack_of_block {n : Node} (hblock : n.hasBlock = true) {t next : List Char} {l : Lexeme}
    (hstem : n.stem = t ++ [' ', '\x7b']) (hbegins : Begins (t ++ [' ', '\x7b']) l next)
    (hopens : l.OpensItem) (hlexes : Lexes (t ++ [' ', '\x7b']) ls [' ', '\x7b'])
    (hpasses : Passes nested [] ls []) (ht : Trimmed t) (hnode : Node.ofPrelude t = n) :
    n.ReadsBack nested := by
  have hending : n.ending = .block := by rw [Node.ending, hblock]; rfl
  have hn : n.isComment = false := by
    cases n with
    | comment => cases hblock
    | _ => rfl
  obtain ⟨bs, hbs, hskip⟩ : Skips ([' '] ++ ['\x7b']) ['\x7b'] :=
    skips_blank (by simp [isSpace]) fun _ => by simp [isSpace, isLineEnd]
  have hpasses := passes_append.mpr ⟨[], hpasses, passes_of_isInert hbs⟩
  have hlexes := hlexes.append hskip
  have hprelude : preludeOf (t ++ [' ', '\x7b']) = t := by
    rw [List.append_cons, preludeOf_append_eq (by simp), trim_append_blank (by simp [isBlank]),
      trim_eq_self ht]
  rw [← hstem] at hbegins hlexes
  refine readsBack_of_passes hn (.inr ⟨rfl, hending⟩) hbegins hopens hlexes hpasses ?_
  rw [hending, hstem, Node.ofScan?, hprelude, hnode]

/-- What is written of an item begins with the lexeme that the item begins with. -/
theorem Lexes.exists_begins {text y rest r : List Char} {ys gs : List Lexeme}
    (h : Lexes (y ++ r) ys r) (hy : y ≠ []) (htext : Lexes text (ys ++ gs) rest) :
    ∃ l next next', Begins (y ++ r) l next ∧ Begins text l next' := by
  cases ys with
  | nil =>
    have hnil := h.eq_append
    exact absurd (List.append_cancel_right hnil) hy
  | cons l ys =>
    cases h with
    | cons hbegins _ =>
      cases htext with
      | cons hfirst _ => exact ⟨l, _, _, hbegins, hfirst⟩

/-! ### Rules -/

/-- What stands before a block is a selector unless it starts with an at sign. -/
theorem Node.ofPrelude_of_ne (hat : x.head? ≠ some '@') : Node.ofPrelude x = .rule (String.ofList x) := by
  unfold Node.ofPrelude
  split
  · exact absurd rfl hat
  · rfl

/-- What stands before a block and starts with an at sign is an at-rule with a block. -/
theorem Node.ofPrelude_atRule (hat : x.head? = some '@') :
    Node.ofPrelude x = .atRule (splitAtRule x).1 (splitAtRule x).2 true := by
  obtain ⟨x, rfl⟩ := List.head?_eq_some_iff.mp hat
  rfl

/-- What stands before a semicolon and starts with an at sign is an at-rule without a block. -/
theorem Node.ofLeaf?_atRule (hat : x.head? = some '@') :
    Node.ofLeaf? x = some (.atRule (splitAtRule x).1 (splitAtRule x).2 false) := by
  obtain ⟨x, rfl⟩ := List.head?_eq_some_iff.mp hat
  rfl

/-- A rule is read back if its selector does not end within an escape. -/
theorem readsBack_rule (h : Remains nested [] x g mid ls) (hx : Trimmed x)
    (hopens : ∀ l next, Begins (x ++ (g ++ mid)) l next → l.OpensItem) (hat : x.head? ≠ some '@')
    (hclean : endsInEscape x = false) : Node.ReadsBack nested (.rule (String.ofList x)) := by
  by_cases hne : x = []
  · subst hne
    cases nested <;> decide +kernel
  obtain ⟨ys, gs, rfl, hpasses, hlexes⟩ := h.exists_lexes (isFirm_of_trimmed hx hclean)
  have hys := hlexes [' ', '\x7b'] quiet_block
  obtain ⟨l, next, next', hbegins, hfirst⟩ := hys.exists_begins hne h.lexes
  exact readsBack_of_block rfl (by simp [Node.stem, hne]) hbegins (hopens l next' hfirst) hys hpasses hx
    (Node.ofPrelude_of_ne hat)

/-! ### At-rules -/

section AtRule

variable {name params r : List Char}

/-- No lexeme that starts with an at sign goes up to a delimiter. -/
theorem Begins.not_isDelimited_of_atSign {cs next : List Char} {l : Lexeme}
    (h : Begins ('@' :: cs) l next) : l.isDelimited = false := by
  by_contra hdelimited
  obtain hc | (hc | hc) | hurl := h.cases_of_isDelimited (by simpa using hdelimited)
  · exact absurd hc (by decide)
  · exact absurd hc (by decide)
  · exact absurd hc (by decide)
  · rw [(begins_cons.mp h).2.1] at hurl
    obtain hc | hc | hc := (startsUrl_cons hurl).1 <;> exact absurd hc (by decide)

/-- An at-keyword ends where white space follows its name. -/
theorem Lexes.nameLength_eq_zero {t : List Char} (h : Lexes ('@' :: (name ++ t)) ls mid)
    (hlength : mid.length ≤ t.length) (hplain : ∀ l ∈ ls, l.isPlain = true)
    (hname : isName name = true)
    (ht : ∀ c ∈ t.head?, isBlank c = true ∨ isNameChar c = false ∧ c ≠ '\\') :
    nameLength .none t = 0 := by
  refine nameLength_eq_zero_of_head fun c hc => (ht c hc).elim (fun hblank => ?_) id
  have hback : c ≠ '\\' := by
    rintro rfl
    exact absurd hblank (by decide)
  refine ⟨?_, hback⟩
  by_contra hchar
  rw [Bool.not_eq_false] at hchar
  obtain ⟨t, rfl⟩ := List.head?_eq_some_iff.mp hc
  -- otherwise the keyword would take the white space
  have hkeyword := begins_atKeyword hname (c :: t)
  have hlong : nameLength .none (c :: t) = nameLength .none t + 1 := by
    simp [nameLength, Escape.takes, hchar]
  cases h with
  | nil =>
    simp only [List.length_cons, List.length_append] at hlength
    omega
  | cons hbegins _ =>
    have hspace := isSpace_of_isPlain (c := c) (hplain _ List.mem_cons_self)
      hbegins.not_isDelimited_of_atSign (by simp [(hbegins.unique hkeyword).1, hlong]) hblank
    have hquiet := isNameChar_eq_false_of_quiet c (mem_quietChars_of_isSpace hspace)
    rw [hchar] at hquiet
    cases hquiet

/-- What comes after the name of an at-rule does not go on with the name. -/
theorem Remains.head_append {open_ : List Bracket} {y : List Char} (h : Remains nested open_ y g mid ls)
    (hr : ∀ c ∈ r.head?, endsAtName c = true) :
    ∀ c ∈ (r ++ (g ++ mid)).head?, isBlank c = true ∨ isNameChar c = false ∧ c ≠ '\\' := by
  have hchar : ∀ c, c = '(' ∨ c = '"' ∨ c = '\'' ∨ c = ';' ∨ c = '\x7b' ∨ c = '\x7d' →
      isNameChar c = false ∧ c ≠ '\\' := by
    rintro c (rfl | rfl | rfl | rfl | rfl | rfl) <;> decide
  intro c hc
  rw [List.head?_append, List.head?_append, Option.mem_def, Option.or_eq_some_iff,
    Option.or_eq_some_iff] at hc
  obtain hc | ⟨-, hc | ⟨-, hc⟩⟩ := hc
  · have hends := hr c hc
    simp only [endsAtName, Bool.or_eq_true, beq_iff_eq, or_assoc] at hends
    exact hends.imp_right fun h => hchar c (h.imp_right fun h => h.imp_right .inl)
  · have hcut : isBlank c = true ∨ c = ';' ∨ c = '\x7b' := h.cutOff c (List.mem_of_mem_head? hc)
    exact hcut.imp_right fun h => hchar c (.inr (.inr (.inr (h.imp_right .inl))))
  · obtain rfl | rfl | rfl := h.stop c hc <;> exact .inr (hchar _ (by simp))

/-- The lexemes of the parameters of an at-rule. -/
theorem Remains.exists_lexes_params {n : Nat} {w : List Char}
    (h : Remains nested [] (List.replicate n '@' ++ ('@' :: name ++ (w ++ params))) g mid ls)
    (hname : isName name = true) (hw : ∀ c ∈ w, isBlank c = true) (hparams : Trimmed params)
    (hnil : params = [] → w = []) (hhead : ∀ c ∈ (w ++ params).head?, endsAtName c = true)
    (hescape : endsInEscape params = false) :
    ∃ ys, Passes nested [] ys [] ∧ ∀ r, Quiet r → Lexes (params ++ r) ys r := by
  obtain ⟨ls₁, h₁⟩ := h.skip (by simpa using skips_atSigns n _)
  have hzero : nameLength .none (w ++ params ++ (g ++ mid)) = 0 := by
    have hlexes : Lexes ('@' :: (name ++ (w ++ params ++ (g ++ mid)))) ls₁ mid := by
      simpa using h₁.lexes
    exact hlexes.nameLength_eq_zero (by simp only [List.length_append]; omega) h₁.plain hname
      (h₁.head_append hhead)
  obtain ⟨ls₂, h₂⟩ := h₁.skip (by simpa using skips_atKeyword hname hzero)
  obtain ⟨ls₃, h₃⟩ := h₂.skip_blank hw hparams hnil
  obtain ⟨ys, gs, -, hpasses, hlexes⟩ := h₃.exists_lexes (isFirm_of_trimmed hparams hescape)
  exact ⟨ys, hpasses, hlexes⟩

/-- An at-rule as it is written, without what stands at its end. -/
def atRuleText (name params : List Char) : List Char :=
  '@' :: (name ++ ((if params = [] then [] else [' ']) ++ params))

/-- An at-rule is written with its name and its parameters. -/
theorem stem_atRule (name params : String) (block : Bool) :
    Node.stem (.atRule name params block) =
      atRuleText name.toList params.toList ++ if block then [' ', '\x7b'] else [';'] := by
  by_cases hempty : params = "" <;> simp [Node.stem, atRuleText, hempty]

/-- The last character of an at-rule as it is written. -/
theorem last_atRuleText (hname : isName name = true) (hends : ∀ c ∈ name, endsAtName c = false)
    (hparams : Trimmed params) (hlast : ∀ c ∈ params.getLast?, c ≠ ';') :
    ∀ c ∈ (atRuleText name params).getLast?, isBlank c = false ∧ c ≠ ';' := by
  intro c hc
  simp only [isName, Bool.and_eq_true, List.all_eq_true] at hname
  by_cases hnil : params = []
  · have hne : name ≠ [] := by
      rintro rfl
      exact absurd hname.1 (by simp [startsName])
    have hc : c ∈ name := by
      rw [atRuleText, hnil, if_pos rfl, List.append_nil, List.append_nil, ← List.singleton_append,
        List.getLast?_append, Option.or_of_isSome (by simpa using hne)] at hc
      exact List.mem_of_getLast? hc
    have hblank := hends c hc
    simp only [endsAtName, Bool.or_eq_false_iff] at hblank
    refine ⟨hblank.1.1.1, ?_⟩
    rintro rfl
    exact absurd (hname.2 ';' hc) (by decide)
  · have hc : c ∈ params.getLast? := by
      rw [atRuleText, ← List.cons_append, ← List.append_assoc, List.getLast?_append,
        Option.or_of_isSome (by simpa using hnil)] at hc
      exact hc
    exact ⟨hparams.last c hc, hlast c hc⟩

/-- An at-rule is taken apart into the name and the parameters that it was written with. -/
theorem splitAtRule_atRuleText (hname : isName name = true) (hends : ∀ c ∈ name, endsAtName c = false)
    (hparams : Trimmed params) :
    splitAtRule (atRuleText name params) = (String.ofList name, String.ofList params) := by
  have hat : name.head? ≠ some '@' := by
    intro hat
    simp only [isName, Bool.and_eq_true, List.all_eq_true] at hname
    exact absurd (hname.2 '@' (List.mem_of_mem_head? hat)) (by decide)
  rw [atRuleText, splitAtRule_append hat hends]
  · congr 2
    split_ifs with hnil
    · rw [hnil]
      rfl
    · simpa using trim_append (a := [' ']) (b := []) (by simp [isBlank]) hparams (by simp)
  · split_ifs with hnil
    · simp [hnil]
    · simp [endsAtName, isBlank]

/-- The name of an at-rule is skipped, up to its parameters. -/
theorem skips_atRuleText (hname : isName name = true) (hparams : Trimmed params) (hr : Quiet r) :
    Skips (atRuleText name params ++ r) (params ++ r) := by
  by_cases hnil : params = []
  · subst hnil
    have hzero : nameLength .none r = 0 := nameLength_eq_zero_of_head fun c hc =>
      ⟨isNameChar_eq_false_of_quiet c (hr.endsWord c hc), hr.endsWord.ne (by decide) c hc⟩
    simpa [atRuleText] using skips_atKeyword hname hzero
  · have hzero : nameLength .none ([' '] ++ (params ++ r)) = 0 :=
      nameLength_eq_zero_of_head (by simp [isNameChar, isNameStart, isAsciiLetter, isAsciiDigit])
    have hblank : Skips ([' '] ++ (params ++ r)) (params ++ r) := by
      refine skips_blank (by simp [isSpace]) fun _ c hc => ?_
      rw [List.head?_append, Option.mem_def, Option.or_of_isSome (by simpa using hnil)] at hc
      exact isSpace_head_of_trimmed hparams c hc
    simpa [atRuleText, hnil] using (skips_atKeyword hname hzero).trans hblank

/-- An at-rule begins with a lexeme that opens an item. -/
theorem exists_begins_atRuleText (hname : isName name = true) (r : List Char) :
    ∃ l next, Begins (atRuleText name params ++ r) l next ∧ l.OpensItem := by
  have hbegins := begins_atKeyword hname ((if params = [] then [] else [' ']) ++ params ++ r)
  rw [← List.append_assoc, ← List.cons_append] at hbegins
  exact ⟨_, _, hbegins, by simp [Lexeme.OpensItem]⟩

/-- An at-rule that is written in full is read back if the scan goes through its parameters. -/
theorem readsBack_atRule_of_lexes {name params : String} (hname : isName name.toList = true)
    (hends : ∀ c ∈ name.toList, endsAtName c = false) (hparams : Trimmed params.toList)
    (hlast : ∀ c ∈ params.toList.getLast?, c ≠ ';') {ys : List Lexeme} (hpasses : Passes nested [] ys [])
    (hlexes : ∀ r, Quiet r → Lexes (params.toList ++ r) ys r) (block : Bool) :
    Node.ReadsBack nested (.atRule name params block) := by
  have hend := last_atRuleText hname hends hparams hlast
  have hsplit := splitAtRule_atRuleText hname hends hparams
  rw [String.ofList_toList, String.ofList_toList] at hsplit
  have ht : Trimmed (atRuleText name.toList params.toList) :=
    ⟨by simp [atRuleText, isBlank], fun c hc => (hend c hc).1⟩
  -- the name is skipped, and the parameters are scanned whatever quiet text follows
  have hscan {r : List Char} (hr : Quiet r) : ∃ ls, Passes nested [] ls [] ∧
      Lexes (atRuleText name.toList params.toList ++ r) ls r := by
    obtain ⟨bs, hbs, hskip⟩ := skips_atRuleText hname hparams hr
    exact ⟨bs ++ ys, (passes_append_of_isInert hbs).mpr hpasses, hskip.append (hlexes r hr)⟩
  have hat : (atRuleText name.toList params.toList).head? = some '@' := rfl
  have hstem := stem_atRule name params block
  cases block with
  | false =>
    obtain ⟨ls, hls, hlexes⟩ := hscan quiet_semicolon
    obtain ⟨l, next, hbegins, hopens⟩ := exists_begins_atRuleText hname [';']
    refine readsBack_of_semicolon rfl rfl hstem hbegins hopens hlexes hls ht.head
      (fun c hc => (hend c hc).2) ?_
    rw [trim_eq_self ht, Node.ofLeaf?_atRule hat, hsplit]
  | true =>
    obtain ⟨ls, hls, hlexes⟩ := hscan quiet_block
    obtain ⟨l, next, hbegins, hopens⟩ := exists_begins_atRuleText hname [' ', '\x7b']
    refine readsBack_of_block rfl hstem hbegins hopens hlexes hls ht ?_
    rw [Node.ofPrelude_atRule hat, hsplit]

/-- An at-rule is read back if its name is a name and its parameters end clean. -/
theorem readsBack_atRule (h : Remains nested [] x g mid ls) (hx : Trimmed x) (hat : x.head? = some '@')
    (hname : isName (splitAtRule x).1.toList = true)
    (hparams : endsClean (splitAtRule x).2.toList = true) (block : Bool) :
    Node.ReadsBack nested (.atRule (splitAtRule x).1 (splitAtRule x).2 block) := by
  obtain ⟨n, w, hsplit, hw, htrimmed, hnil, hhead⟩ := exists_splitAtRule hx hat
  simp only [endsClean, Bool.and_eq_true, Bool.not_eq_true', bne_iff_ne] at hparams
  rw [hsplit] at h
  obtain ⟨ys, hpasses, hlexes⟩ := h.exists_lexes_params hname hw htrimmed hnil hhead hparams.1
  refine readsBack_atRule_of_lexes hname (endsAtName_of_mem_name x) htrimmed ?_ hpasses hlexes block
  rintro c hc rfl
  exact hparams.2 hc

end AtRule

/-! ### Declarations -/

section Declaration

variable {property value : String} {p v w w' : List Char}

/-- The lexemes of the property and of the value of a declaration. -/
theorem Remains.exists_lexes_declaration
    (h : Remains nested [] (p ++ (w ++ ':' :: (w' ++ v))) g mid ls)
    (hplain : ∀ c ∈ p, c ∉ ['"', '\'', '(', '/']) (hp : IsFirm p) (hw : ∀ c ∈ w, isBlank c = true)
    (hw' : ∀ c ∈ w', isBlank c = true) (hv : Trimmed v) (hnil : v = [] → w' = [])
    (hescape : endsInEscape v = false) :
    ∃ ps gs between ys, ls = ps ++ gs ∧ Passes nested [] ps between ∧ Passes nested between ys [] ∧
      (∀ r, Quiet r → Lexes (p ++ r) ps r) ∧ ∀ r, Quiet r → Lexes (v ++ r) ys r := by
  have hlexes : Lexes (p ++ (w ++ ':' :: (w' ++ v ++ (g ++ mid)))) ls mid := by simpa using h.lexes
  have hspace := hlexes.isSpace_of_colon (by simp only [List.length_append]; omega) h.closed h.plain
    hplain hw
  have hquiet : Quiet (w ++ ':' :: (w' ++ v ++ (g ++ mid))) := by
    rw [Quiet, List.dropWhile_append_of_pos hspace]
    simp [isSpace, isLineEnd]
  obtain ⟨ps, gs, rfl, hgs, hps⟩ := hlexes.cut_of_plain
    (by simp only [List.length_append, List.length_cons]; omega) hplain hp hquiet
  obtain ⟨between, hbetween, hpasses⟩ := passes_append.mp h.passes
  have h₁ : Remains nested between ((w ++ [':']) ++ (w' ++ v)) g mid gs :=
    ⟨by simpa using hgs, hpasses, fun l hl => h.closed l (List.mem_append_right ps hl),
      fun l hl => h.plain l (List.mem_append_right ps hl), h.cutOff, h.stop⟩
  have hcolon : Skips (w ++ ':' :: (w' ++ v ++ (g ++ mid))) (w' ++ v ++ (g ++ mid)) :=
    (skips_blank hspace fun _ => by simp [isSpace, isLineEnd]).trans
      ((begins_colon _).skips (.inr (.inr rfl)))
  obtain ⟨ls₂, h₂⟩ := h₁.skip (by simpa using hcolon)
  obtain ⟨ls₃, h₃⟩ := h₂.skip_blank hw' hv hnil
  obtain ⟨ys, -, -, hys, hlexes⟩ := h₃.exists_lexes (isFirm_of_trimmed hv hescape)
  exact ⟨ps, gs, between, ys, rfl, hbetween, hys, hps, hlexes⟩

/-- The text of a declaration ends as its value does. -/
theorem last_declaration {c : Char} (hc : c ∈ (p ++ ':' :: ' ' :: v).getLast?) :
    c ∈ v.getLast? ∨ v = [] ∧ c = ' ' := by
  rw [List.append_cons, List.append_cons, List.getLast?_append, Option.mem_def,
    Option.or_eq_some_iff] at hc
  exact hc.imp_right fun h => ⟨by simpa using h.1, by simpa using h.2.symm⟩

/-- A text starts as its trimmed first part does. -/
theorem head_append {t : List Char} (hp : Trimmed p) (hne : p ≠ []) :
    ∀ c ∈ (p ++ t).head?, isBlank c = false := by
  intro c hc
  rw [List.head?_append, Option.mem_def, Option.or_of_isSome (by simpa using hne)] at hc
  exact hp.head c hc

/-- A declaration as it is written, without its semicolon. -/
theorem Node.ofLeaf?_trim_declaration (hp : Trimmed p) (hne : p ≠ []) (hcolon : ':' ∉ p)
    (hat : p.head? ≠ some '@') (t : List Char) :
    Node.ofLeaf? (trim (p ++ ':' :: t)) =
      some (.declaration (String.ofList p) (String.ofList (trim t))) := by
  have htrimmed : Trimmed (p ++ [':']) := ⟨head_append hp hne, by simp [isBlank]⟩
  rw [List.append_cons, trim_trimmed_append htrimmed (by simp), List.append_assoc,
    List.singleton_append, Node.ofLeaf?_declaration hp hne hcolon hat, trim_trimEnd]

/-- A declaration is read back if its property has nothing that begins a comment, a string or a url and
does not end within an escape, and its value ends clean. -/
theorem readsBack_declaration (h : Remains nested [] x g mid ls) (hx : Trimmed x)
    (hopens : ∀ l next, Begins (x ++ (g ++ mid)) l next → l.OpensItem)
    (hnode : Node.ofLeaf? x = some (.declaration property value))
    (hproperty : endsInEscape property.toList = false)
    (hplain : ∀ c ∈ property.toList, c ∉ ['"', '\'', '(', '/'])
    (hvalue : endsClean value.toList = true) : Node.ReadsBack nested (.declaration property value) := by
  obtain ⟨w, w', rfl, hw, hw', hp, hne, hcolon, hat, hv, hnil⟩ :=
    exists_of_ofLeaf?_declaration hx hnode
  simp only [endsClean, Bool.and_eq_true, Bool.not_eq_true', bne_iff_ne] at hvalue
  obtain ⟨ps, gs, between, ys, rfl, hps, hys, hproperty, hvalue'⟩ := h.exists_lexes_declaration hplain
    (isFirm_of_trimmed hp hproperty) hw hw' hv hnil hvalue.1
  have hprop := hproperty (':' :: ' ' :: value.toList ++ [';']) (by simp [Quiet, isSpace, isLineEnd])
  obtain ⟨l, next, next', hbegins, hfirst⟩ := hprop.exists_begins hne h.lexes
  obtain ⟨bs, hbs, hskip⟩ : Skips (':' :: ([' '] ++ (value.toList ++ [';']))) (value.toList ++ [';']) := by
    refine ((begins_colon _).skips (.inr (.inr rfl))).trans (skips_blank (by simp [isSpace]) fun _ => ?_)
    intro c hc
    rw [List.head?_append, Option.mem_def, Option.or_eq_some_iff] at hc
    obtain hc | ⟨-, hc⟩ := hc
    · exact isSpace_head_of_trimmed hv c hc
    · obtain rfl := Option.some.inj hc
      rfl
  have hleaf := Node.ofLeaf?_trim_declaration hp hne hcolon hat (' ' :: value.toList)
  have htrim : trim (' ' :: value.toList) = value.toList := by
    simpa using trim_append (a := [' ']) (b := []) (by simp [isBlank]) hv (by simp)
  rw [htrim, String.ofList_toList, String.ofList_toList] at hleaf
  -- the lexemes of the property, the colon, the blank and the value are those of the text
  have hlexes := hprop.append (hskip.append (hvalue' [';'] quiet_semicolon))
  have hpasses := passes_append.mpr ⟨between, hps, (passes_append_of_isInert hbs).mpr hys⟩
  rw [← List.append_assoc] at hbegins hlexes
  refine readsBack_of_semicolon rfl rfl (by simp [Node.stem]) hbegins
    (hopens l next' (by simpa using hfirst)) hlexes hpasses (head_append hp hne) ?_
    hleaf
  rintro c hc rfl
  obtain hlast | ⟨-, hlast⟩ := last_declaration hc
  · exact hvalue.2 hlast
  · exact absurd hlast (by decide)

end Declaration

/-! ### Clean items -/

/-- A clean item with a block is read back. -/
theorem Remains.readsBack_ofPrelude (h : Remains nested [] x g mid ls) (hx : Trimmed x)
    (hopens : ∀ l next, Begins (x ++ (g ++ mid)) l next → l.OpensItem)
    (hclean : (Node.ofPrelude x).isClean = true) : (Node.ofPrelude x).ReadsBack nested := by
  by_cases hat : x.head? = some '@'
  · rw [Node.ofPrelude_atRule hat] at hclean ⊢
    simp only [Node.isClean, Bool.and_eq_true] at hclean
    exact readsBack_atRule h hx hat hclean.1 hclean.2 true
  · rw [Node.ofPrelude_of_ne hat] at hclean ⊢
    refine readsBack_rule h hx hopens hat ?_
    simpa [Node.isClean] using hclean

/-- A clean item without a block is read back. -/
theorem Remains.readsBack_ofLeaf? (h : Remains nested [] x g mid ls) (hx : Trimmed x)
    (hopens : ∀ l next, Begins (x ++ (g ++ mid)) l next → l.OpensItem) {n : Node}
    (hnode : Node.ofLeaf? x = some n) (hclean : n.isClean = true) : n.ReadsBack nested := by
  obtain ⟨hat, rfl⟩ | ⟨-, value, -, -, rfl⟩ := Node.ofLeaf?_cases hnode
  · simp only [Node.isClean, Bool.and_eq_true] at hclean
    exact readsBack_atRule h hx hat hclean.1 hclean.2 false
  · simp only [Node.isClean, Bool.and_eq_true, Bool.not_eq_true', List.all_eq_true] at hclean
    obtain ⟨⟨hescape, hplain⟩, hvalue⟩ := hclean
    refine readsBack_declaration h hx hopens hnode hescape (fun c hc hmem => ?_) hvalue
    have := hplain c hc
    rw [List.contains_iff_mem.mpr hmem] at this
    cases this

/-! ### Comments -/

/-- A comment goes up to the first place where it is closed. -/
theorem commentLength_append_closing {v : List Char} (hv : ¬['*', '/'] <:+: v) (w : List Char) :
    commentLength (v ++ '*' :: '/' :: w) = v.length + 2 := by
  induction v with
  | nil => rfl
  | cons c v ih =>
    rw [List.cons_append, commentLength_cons, List.length_cons,
      ih fun hwithin => hv (List.infix_cons_iff.mpr (.inr hwithin)), if_neg]
    rintro ⟨rfl, hhead⟩
    cases v with
    | nil => exact absurd (Option.some.inj hhead) (by decide)
    | cons d v =>
      obtain rfl := Option.some.inj hhead
      exact hv (List.prefix_append ['*', '/'] v).isInfix

/-- The text of a comment stands between its marks. -/
theorem commentBody_append (v : List Char) :
    commentBody ('/' :: '*' :: (v ++ ['*', '/'])) = v := by
  simp [commentBody]

/-- A closed comment is read back. -/
theorem readsBack_comment {l : Lexeme} (h : l.IsClosed) (hkind : l.kind = .comment) :
    Node.ReadsBack nested (.comment (String.ofList (trim (commentBody l.text)))) := by
  obtain ⟨u, rfl, hu⟩ := h.exists_comment hkind
  obtain ⟨v, rfl, hv⟩ := exists_append_of_commentLength hu
  rw [commentBody_append]
  obtain ⟨a, b, hsplit, -, -, htrimmed⟩ := trim_spec v
  -- white space around the text does not close the comment sooner
  have hwithin : ¬['*', '/'] <:+: ' ' :: (trim v ++ [' ']) := by
    intro hwithin
    obtain hprefix | hwithin := List.infix_cons_iff.mp hwithin
    · exact absurd (List.cons_prefix_cons.mp hprefix).1 (by decide)
    · obtain hsuffix | hwithin := List.infix_concat_iff.mp hwithin
      · obtain hnil | ⟨t, ht, -⟩ := List.suffix_concat_iff.mp hsuffix
        · cases hnil
        · have := congrArg List.getLast? ht
          simp at this
      · exact hv (hwithin.trans ⟨a, b, by rw [List.append_assoc, ← hsplit]⟩)
  have hstem : Node.stem (.comment (String.ofList (trim v))) =
      '/' :: '*' :: ((' ' :: (trim v ++ [' '])) ++ ['*', '/']) := by simp [Node.stem]
  have hbegins := begins_comment ((' ' :: (trim v ++ [' '])) ++ ['*', '/'])
  rw [commentLength_append_closing hwithin [], List.take_of_length_le (by simp),
    List.drop_eq_nil_of_le (by simp)] at hbegins
  refine ⟨?_, ?_⟩
  · rw [hstem, hbegins.ofText_eq]
    rfl
  · rw [hstem, commentBody_append, String.toList_ofList]
    simpa using trim_append (a := [' ']) (b := [' ']) (by simp [isBlank]) htrimmed (by simp [isBlank])

end Items

end SourceEdit.Stylesheet
