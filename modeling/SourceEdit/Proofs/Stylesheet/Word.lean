import SourceEdit.Proofs.Stylesheet.Closed

/-!
# Lexemes at the end of a text

A text that is cut off where white space, a colon, a semicolon or a brace follows is read in the same
way before any other of these, unless the cut goes through a lexeme.  It can do so in two ways: the
text ends within an escape, or within a comment, a string or a url.  `Begins.before_quiet` excludes
both.
-/

namespace SourceEdit.Stylesheet

namespace Lexeme

/-- The text ends in a backslash and hexadecimal digits, so that an escape may go on after it. -/
def endsInEscape : List Char → Bool
  | [] => false
  | c :: cs => (c == '\\' && cs.all isHexDigit) || endsInEscape cs

/-- A text that ends neither within an escape nor in white space. -/
structure IsFirm (v : List Char) : Prop where
  escape : endsInEscape v = false
  last : ∀ c ∈ v.getLast?, isSpace c = false

section Firm

variable {v r : List Char} {c : Char}

theorem IsFirm.of_cons (h : IsFirm (c :: v)) : IsFirm v := by
  obtain ⟨hescape, hlast⟩ := h
  simp only [endsInEscape, Bool.or_eq_false_iff] at hescape
  refine ⟨hescape.2, fun d hd => hlast d ?_⟩
  cases v with
  | nil => cases hd
  | cons e v => simpa using hd

theorem IsFirm.of_append {w : List Char} (h : IsFirm (w ++ v)) : IsFirm v := by
  induction w with
  | nil => exact h
  | cons c w ih => exact ih h.of_cons

theorem IsFirm.drop (h : IsFirm v) (n : Nat) : IsFirm (v.drop n) :=
  IsFirm.of_append (w := v.take n) (by rwa [List.take_append_drop])

theorem IsFirm.all_isHexDigit (h : IsFirm ('\\' :: v)) : v.all isHexDigit = false := by
  have hescape := h.escape
  simp only [endsInEscape, Bool.or_eq_false_iff, beq_self_eq_true, Bool.true_and] at hescape
  exact hescape.1

/-! ### Names -/

/-- An escape that is being read is over before a text is. -/
def EscapeEnds (e : Escape) (v : List Char) : Prop :=
  match e with
  | .none => True
  | .carriage => v ≠ []
  | .backslash | .hex _ => v.all isHexDigit = false

theorem escapeEnds_after {e : Escape} (hv : IsFirm (c :: v)) (he : EscapeEnds e (c :: v))
    (htakes : e.takes c = true) : EscapeEnds (e.after c) v := by
  have hcarriage (hc : c = '\r') : v ≠ [] := by
    rintro rfl
    have := hv.last c rfl
    subst hc
    cases this
  have hhex (hall : (c :: v).all isHexDigit = false) (hc : isHexDigit c = true) :
      v.all isHexDigit = false := by
    rwa [List.all_cons, hc, Bool.true_and] at hall
  cases e with
  | none => cases htakes
  | carriage => trivial
  | backslash | hex =>
    simp only [Escape.after, beq_iff_eq]
    split_ifs with hdigit hreturn
    · exact hhex he hdigit
    · exact hcarriage hreturn
    · trivial

/-- A name ends where the text before a quiet character ends, or sooner. -/
theorem nameLength_append_of_ends {e : Escape} (hv : IsFirm v) (he : EscapeEnds e v)
    (hr : EndsWord r) : nameLength e (v ++ r) = nameLength e v := by
  induction v generalizing e with
  | nil =>
    cases e with
    | none =>
      cases r with
      | nil => rfl
      | cons c r =>
        have hc := hr c rfl
        simp [nameLength, Escape.takes, isNameChar_eq_false_of_quiet c hc,
          hr.ne (d := '\\') (by decide) c rfl]
    | carriage => exact absurd rfl he
    | backslash | hex => cases he
  | cons c v ih =>
    -- what an escape takes leaves a state that ends before `r`, anything else ends the escape
    have hplain := ih hv.of_cons (e := .none) trivial
    rw [List.cons_append, nameLength, nameLength]
    by_cases htakes : e.takes c = true
    · rw [if_pos htakes, if_pos htakes, ih hv.of_cons (escapeEnds_after hv he htakes)]
    · rw [if_neg htakes, if_neg htakes, hplain]
      by_cases hback : c = '\\'
      · subst hback
        have hhex := hv.all_isHexDigit
        have hline : startsWithLineEnd (v ++ r) = startsWithLineEnd v := by
          cases v with
          | nil => cases hhex
          | cons d v => rfl
        rw [hline, ih (e := .backslash) hv.of_cons hhex]
      · simp only [beq_eq_false_iff_ne.mpr hback, Bool.false_and]
        rfl

theorem nameLength_append (hv : IsFirm v) (hr : EndsWord r) :
    nameLength .none (v ++ r) = nameLength .none v :=
  nameLength_append_of_ends hv trivial hr

theorem nameLength_le (e : Escape) (cs : List Char) : nameLength e cs ≤ cs.length := by
  induction cs generalizing e with
  | nil => exact le_rfl
  | cons c cs ih =>
    rw [nameLength, List.length_cons]
    split_ifs
    · exact Nat.succ_le_succ (ih _)
    · exact Nat.succ_le_succ (ih _)
    · exact Nat.succ_le_succ (ih _)
    · exact Nat.zero_le _

theorem startsName_append (hv : IsFirm v) (hr : EndsWord r) :
    startsName (v ++ r) = startsName v := by
  match v with
  | [] =>
    cases r with
    | nil => rfl
    | cons c r =>
      simp [startsName, hr.ne (d := '-') (by decide) c rfl, hr.ne (d := '\\') (by decide) c rfl,
        isNameStart_eq_false_of_quiet c (hr c rfl)]
  | [c] =>
    by_cases hback : c = '\\'
    · subst hback
      cases hv.all_isHexDigit
    · cases r with
      | nil => rfl
      | cons d r =>
        have hdash := hr.ne (d := '-') (by decide) d rfl
        have hslash := hr.ne (d := '\\') (by decide) d rfl
        by_cases hc : c = '-'
        · simp [startsName, hc, hdash, hslash, isNameStart_eq_false_of_quiet d (hr d rfl)]
        · simp [startsName, hc, hback]
  | c :: d :: v => simp [startsName, startsWithLineEnd]

/-! ### Words -/

theorem numberLength_append (hv : IsFirm v) (hr : EndsWord r) :
    numberLength (v ++ r) = numberLength v := by
  obtain ⟨hdigits, hle⟩ := digitsLength_append hr v
  have hunit := hv.drop (digitsLength v)
  simp only [numberLength_eq, hdigits, List.drop_append_of_le_length hle,
    head?_append_eq_some hr (d := '%') (by decide), startsName_append hunit hr,
    nameLength_append hunit hr]

theorem numberLength_le (v : List Char) : numberLength v ≤ v.length := by
  have hdigits := (digitsLength_append (r := []) (by simp [EndsWord]) v).2
  have hunit := nameLength_le .none (v.drop (digitsLength v))
  rw [List.length_drop] at hunit
  rw [numberLength_eq]
  split_ifs with hpercent
  · obtain ⟨r, hr⟩ := List.head?_eq_some_iff.mp hpercent
    have := congrArg List.length hr
    rw [List.length_drop, List.length_cons] at this
    omega
  · omega
  · exact hdigits

/-- A word ends where the text before a quiet character ends, or sooner, and is the same before every
such text; but a name may open a bracket. -/
theorem wordLexeme_append (hv : IsFirm (c :: v)) :
    (∃ n ≤ v.length + 1, ∀ r, EndsWord r → wordLexeme c (v ++ r) = (.other, n)) ∨
      ∀ r, EndsWord r → wordLexeme c (v ++ r) = nameLexeme (c :: v ++ r) := by
  have hopen : ∀ d ∈ ['!', '-', '-'], d ∉ quietChars := by simp [quietChars]
  have hclose : ∀ d ∈ ['-', '>'], d ∉ quietChars := by simp [quietChars]
  have hword {r : List Char} (hr : EndsWord r) : wordLexeme c (v ++ r) =
      if c == '#' && (startsName v || startsWithDigit v || v.head? == some '-') then
        (.other, 1 + nameLength .none v)
      else if c == '@' && startsName v then (.other, 1 + nameLength .none v)
      else if c == '<' && ['!', '-', '-'].isPrefixOf v then (.other, 4)
      else if c == '-' && ['-', '>'].isPrefixOf v then (.other, 3)
      else if beginsNumber c v then (.other, numberLength (c :: v))
      else if startsName (c :: v) then nameLexeme (c :: v ++ r)
      else (.other, 1) := by
    have hname := startsName_append hv hr
    have hnumber := numberLength_append hv hr
    have hhead : ((v ++ r).head? == some '-') = (v.head? == some '-') :=
      Bool.eq_iff_iff.mpr (by
        simpa only [beq_iff_eq] using head?_append_eq_some hr (d := '-') (by decide) v)
    rw [List.cons_append] at hname hnumber
    simp only [wordLexeme, hname, hnumber, hhead, startsName_append hv.of_cons hr,
      startsWithDigit_append hr, isPrefixOf_append hr hopen, isPrefixOf_append hr hclose,
      beginsNumber_append hr, nameLength_append hv.of_cons hr, List.cons_append]
  have hlength := nameLength_le .none v
  -- the kinds of words, in the order in which they are tried
  by_cases hhash : (c == '#' && (startsName v || startsWithDigit v || v.head? == some '-')) = true
  · exact .inl ⟨1 + nameLength .none v, by omega, fun r hr => by rw [hword hr, if_pos hhash]⟩
  simp only [if_neg hhash] at hword
  by_cases hat : (c == '@' && startsName v) = true
  · exact .inl ⟨1 + nameLength .none v, by omega, fun r hr => by rw [hword hr, if_pos hat]⟩
  simp only [if_neg hat] at hword
  by_cases hcdo : (c == '<' && ['!', '-', '-'].isPrefixOf v) = true
  · have hle := (List.isPrefixOf_iff_prefix.mp (Bool.and_eq_true_iff.mp hcdo).2).length_le
    exact .inl ⟨4, Nat.succ_le_succ hle, fun r hr => by rw [hword hr, if_pos hcdo]⟩
  simp only [if_neg hcdo] at hword
  by_cases hcdc : (c == '-' && ['-', '>'].isPrefixOf v) = true
  · have hle := (List.isPrefixOf_iff_prefix.mp (Bool.and_eq_true_iff.mp hcdc).2).length_le
    exact .inl ⟨3, Nat.succ_le_succ hle, fun r hr => by rw [hword hr, if_pos hcdc]⟩
  simp only [if_neg hcdc] at hword
  by_cases hnumber : beginsNumber c v = true
  · exact .inl ⟨_, numberLength_le (c :: v), fun r hr => by rw [hword hr, if_pos hnumber]⟩
  simp only [if_neg hnumber] at hword
  by_cases hname : startsName (c :: v) = true
  · exact .inr fun r hr => by rw [hword hr, if_pos hname]
  · exact .inl ⟨1, by omega, fun r hr => by rw [hword hr, if_neg hname]⟩

/-! ### Urls -/

/-- After white space, a text has ended or goes on with a colon, a semicolon or a brace. -/
def Quiet (r : List Char) : Prop :=
  ∀ c ∈ (r.dropWhile isSpace).head?, c ∈ [':', ';', '\x7b', '\x7d']

theorem mem_quietChars_of_isSpace (hc : isSpace c = true) : c ∈ quietChars := by
  have hchars : c = ' ' ∨ c = '\t' ∨ c = '\n' ∨ c = '\r' ∨ c = '\x0c' := by
    simpa [isSpace, isLineEnd, or_assoc] using hc
  rcases hchars with rfl | rfl | rfl | rfl | rfl <;> decide

theorem Quiet.endsWord (hr : Quiet r) : EndsWord r := by
  intro c hc
  cases r with
  | nil => cases hc
  | cons d r =>
    obtain rfl := Option.some.inj hc
    by_cases hspace : isSpace d = true
    · exact mem_quietChars_of_isSpace hspace
    · have hstop := hr d (by simp [hspace])
      have hquiet : ∀ e ∈ [':', ';', '\x7b', '\x7d'], e ∈ quietChars := by simp [quietChars]
      exact hquiet d hstop

/-- The argument of a url is a string whatever follows the text in which the string begins. -/
theorem unquotedUrlLength?_eq_none (hv : ∀ c ∈ v.getLast?, isSpace c = false) (hr : Quiet r)
    (h : unquotedUrlLength? (v ++ r) = none) (r' : List Char) :
    unquotedUrlLength? (v ++ r') = none := by
  obtain ⟨w, hw, rfl | ⟨c, v', hc, rfl⟩⟩ := exists_blank_append v
  · obtain rfl : v = [] := by
      rcases List.eq_nil_or_concat v with rfl | ⟨v, d, rfl⟩
      · rfl
      · have := hv d (by simp)
        rw [hw d (by simp)] at this
        cases this
    obtain ⟨w, hw, rfl | ⟨c, r, hc, rfl⟩⟩ := exists_blank_append r
    · rw [List.nil_append, unquotedUrlLength?_blank hw] at h
      cases h
    · have hstop := hr c (by simp [List.dropWhile_append_of_pos hw, hc])
      have hquote : ¬(c = '"' ∨ c = '\'') := by
        rintro (rfl | rfl) <;> simp at hstop
      rw [List.nil_append, unquotedUrlLength?_append hw hc, if_neg hquote] at h
      cases h
  · rw [List.append_assoc, List.cons_append, unquotedUrlLength?_append hw hc] at h ⊢
    split_ifs at h ⊢
    rfl

/-- A name, or the opening of a function, before white space, a colon, a semicolon or a brace is the
same before any other of these; but a url may go on. -/
theorem nameLexeme_append (hv : IsFirm v) (hr : Quiet r) :
    (∃ kind, ∃ n ≤ v.length, ∀ r, Quiet r → nameLexeme (v ++ r) = (kind, n)) ∨
      ∃ name w m, v = name ++ '(' :: w ∧ nameLength .none v = name.length ∧
        eqIgnoringCase (nameValue .none 0 name) ['u', 'r', 'l'] = true ∧
        unquotedUrlLength? (w ++ r) = some m := by
  have hle := nameLength_le .none v
  by_cases hparen : (v.drop (nameLength .none v)).head? = some '('
  · -- a function, or an address without quotes
    obtain ⟨w, hw⟩ := List.head?_eq_some_iff.mp hparen
    obtain ⟨name, hname⟩ : ∃ name, v.take (nameLength .none v) = name := ⟨_, rfl⟩
    have hv' : v = name ++ '(' :: w := by rw [← hname, ← hw, List.take_append_drop]
    have hlength : nameLength .none v = name.length := by rw [← hname, List.length_take_of_le hle]
    have hwhole {r : List Char} (hr : Quiet r) :
        nameLength .none (name ++ '(' :: (w ++ r)) = name.length := by
      rw [← List.cons_append, ← List.append_assoc, ← hv', nameLength_append hv hr.endsWord, hlength]
    have htotal : name.length + 1 ≤ v.length := by simp [hv']
    by_cases hurl : eqIgnoringCase (nameValue .none 0 name) ['u', 'r', 'l'] = true
    · cases hbody : unquotedUrlLength? (w ++ r) with
      | some m => exact .inr ⟨name, w, m, hv', hlength, hurl, hbody⟩
      | none =>
        refine .inl ⟨.opening .round, name.length + 1, htotal, fun r' hr' => ?_⟩
        have hlast : ∀ c ∈ w.getLast?, isSpace c = false :=
          (IsFirm.of_append (w := name ++ ['(']) (by simpa [hv'] using hv)).last
        rw [hv', List.append_assoc, List.cons_append, nameLexeme_url (hwhole hr') hurl,
          unquotedUrlLength?_eq_none hlast hr hbody r']
    · refine .inl ⟨.opening .round, name.length + 1, htotal, fun r' hr' => ?_⟩
      rw [hv', List.append_assoc, List.cons_append, nameLexeme_eq, hwhole hr', List.drop_left,
        List.head?_cons, if_pos rfl, List.take_left, if_neg hurl]
  · refine .inl ⟨.other, _, hle, fun r' hr' => ?_⟩
    have hhead := head?_append_eq_some hr'.endsWord (d := '(') (by decide)
      (v.drop (nameLength .none v))
    rw [nameLexeme_eq, nameLength_append hv hr'.endsWord, List.drop_append_of_le_length hle,
      if_neg (by rwa [hhead])]

end Firm

end Lexeme

open Lexeme

/-! ### The first lexeme of a text that is cut off -/

section BeforeQuiet

variable {l : Lexeme} {y next r : List Char}

/-- A lexeme begins and ends in a text, whatever comes next. -/
def Keeps (y : List Char) (l : Lexeme) : Prop :=
  ∃ v, y = l.text ++ v ∧ ∀ r, Quiet r → Begins (y ++ r) l (v ++ r)

theorem Lexeme.IsEnded.keeps {v : List Char} (h : l.IsEnded) : Keeps (l.text ++ v) l :=
  ⟨v, rfl, fun r _ => by rw [List.append_assoc]; exact h.begins (v ++ r)⟩

theorem keeps_of_measure {c : Char} {v : List Char} {kind : Kind} {n : Nat} (hn : n ≤ v.length + 1)
    (hm : ∀ r, Quiet r → measure c (v ++ r) = (kind, n)) :
    Keeps (c :: v) ⟨kind, c :: v.take (n - 1)⟩ :=
  ⟨v.drop (n - 1), by simp, fun r hr => Begins.of_measure hn (hm r hr)⟩

theorem keeps_blank {c : Char} {v : List Char} (hc : isSpace c = true)
    (hlast : ∀ d ∈ (c :: v).getLast?, isSpace d = false) :
    Keeps (c :: v) ⟨.blank, (c :: v).takeWhile isSpace⟩ := by
  obtain ⟨w, hw, heq | ⟨d, w', hd, heq⟩⟩ := exists_blank_append (c :: v)
  · exfalso
    rcases List.eq_nil_or_concat w with rfl | ⟨w, d, rfl⟩
    · cases heq
    · have := hlast d (by simp [heq])
      rw [hw d (by simp)] at this
      cases this
  · rw [heq, List.takeWhile_append_of_pos hw]
    refine ⟨d :: w', by simp [hd], fun r _ => ?_⟩
    have hbegins := begins_blank hc (v ++ r)
    rw [← List.cons_append, heq, List.append_assoc, List.takeWhile_append_of_pos hw,
      List.dropWhile_append_of_pos hw] at hbegins
    simpa [hd] using hbegins

/-- The lexeme that a text begins with ends in it, if the text goes on with white space, a colon, a
semicolon or a brace, and it is the same before any other of these. -/
theorem Begins.keeps (hy : y ≠ []) (hfirm : IsFirm y) (hr : Quiet r) (h : Begins (y ++ r) l next)
    (hdelimited : (∃ c ∈ y, c ∈ ['"', '\'', '(', '/']) → l.isDelimited = true →
      l.IsEnded ∧ ∃ v, y = l.text ++ v) : Keeps y l := by
  have hended (hc : ∃ c ∈ y, c ∈ ['"', '\'', '(', '/']) (hl : l.isDelimited = true) : Keeps y l := by
    obtain ⟨hended, v, rfl⟩ := hdelimited hc hl
    exact hended.keeps
  have hkeeps {l' : Lexeme} (h' : Keeps y l') : Keeps y l := by
    obtain ⟨v, hv, hbegins⟩ := h'
    obtain ⟨rfl, -⟩ := h.unique (hbegins r hr)
    exact ⟨v, hv, hbegins⟩
  obtain ⟨c, v, rfl⟩ := List.exists_cons_of_ne_nil hy
  rw [List.cons_append] at h
  obtain ⟨hkind, htext, -⟩ := begins_cons.mp h
  -- The first character tells which lexeme it is; what may go on without end is one of `hended`.
  by_cases hspace : isSpace c = true
  · exact hkeeps (keeps_blank hspace hfirm.last)
  cases hsingle : single? c with
  | some kind =>
    have hmeasure : ∀ r, Quiet r → measure c (v ++ r) = (kind, 1) := fun r _ => by
      rw [measure_eq, if_neg hspace, hsingle]
    exact hkeeps (keeps_of_measure (by omega) hmeasure)
  | none =>
    have hcomment {r : List Char} (hr : Quiet r) :
        (c == '/' && (v ++ r).head? == some '*') = (c == '/' && v.head? == some '*') := by
      rw [Bool.eq_iff_iff]
      simp only [Bool.and_eq_true, beq_iff_eq, head?_append_eq_some hr.endsWord (d := '*') (by decide)]
    by_cases hstar : (c == '/' && v.head? == some '*') = true
    · refine hended ⟨c, List.mem_cons_self, by simp_all⟩ ?_
      rw [measure_eq, if_neg hspace, hsingle] at hkind
      dsimp only at hkind
      rw [hcomment hr, if_pos hstar] at hkind
      simp [isDelimited, hkind]
    by_cases hquote : c = '"' ∨ c = '\''
    · refine hended ⟨c, List.mem_cons_self, by rcases hquote with rfl | rfl <;> simp⟩ ?_
      rw [measure_string hquote] at hkind
      simp [isDelimited, hkind, htext, hquote]
    have hword {r : List Char} (hr : Quiet r) : measure c (v ++ r) = wordLexeme c (v ++ r) := by
      rw [measure_eq, if_neg hspace, hsingle]
      dsimp only
      rw [hcomment hr, if_neg hstar, if_neg (by simpa using hquote)]
    obtain ⟨n, hn, hlexeme⟩ | hname := wordLexeme_append hfirm
    · exact hkeeps (keeps_of_measure hn fun r hr => by rw [hword hr, hlexeme r hr.endsWord])
    obtain ⟨kind, n, hn, hlexeme⟩ | ⟨name, w, m, hy, hlength, hurl, hbody⟩ :=
      nameLexeme_append hfirm hr
    · exact hkeeps (keeps_of_measure hn fun r hr => by
        rw [hword hr, hname r hr.endsWord, hlexeme r hr])
    · have hwhole : c :: (v ++ r) = name ++ '(' :: (w ++ r) := by
        rw [← List.cons_append, hy, List.append_assoc, List.cons_append]
      rw [← nameLength_append hfirm hr.endsWord, List.cons_append, hwhole] at hlength
      rw [hwhole] at h
      exact hended ⟨'(', by simp [hy], by simp⟩ (h.isDelimited_url hlength hurl hbody)

end BeforeQuiet

end SourceEdit.Stylesheet
