import SourceEdit.Proofs.Stylesheet.Scan

/-!
# Closed comments, strings and urls

A comment, a string and a url go on until they are closed by a delimiter of their own.  Whether such
a lexeme is closed can be told from a semicolon that is put after it: it takes the semicolon just when
it still goes on.  `IsClosed.begins` shows that nothing else that follows a closed lexeme is taken by
it either.
-/

namespace SourceEdit.Stylesheet

namespace Lexeme

/-- The name of a url and an opening bracket start the text. -/
def startsUrl (cs : List Char) : Bool :=
  (cs.drop (nameLength .none cs)).head? == some '(' &&
    eqIgnoringCase (nameValue .none 0 (cs.take (nameLength .none cs))) ['u', 'r', 'l']

/-- A comment, a string or a url. -/
def isDelimited (l : Lexeme) : Bool :=
  l.kind == .comment ||
    l.kind == .other && (l.text.head? == some '"' || l.text.head? == some '\'' || startsUrl l.text)

/-- A comment, a string or a url is closed if it does not take a semicolon that is put after it. -/
def IsClosed (l : Lexeme) : Prop :=
  l.isDelimited = true → ofText (l.text ++ [';']) = [l, ⟨.semicolon, [';']⟩]

instance (l : Lexeme) : Decidable l.IsClosed := inferInstanceAs (Decidable (_ → _))

/-! ### The last character -/

/-- One more character at the start leaves the end of a text as it is. -/
private theorem exists_append_cons {c d : Char} {v : List Char} (h : ∃ u, v = u ++ [d]) :
    ∃ u, c :: v = u ++ [d] := by
  obtain ⟨u, rfl⟩ := h
  exact ⟨c :: u, rfl⟩

/-- A comment is closed where a star and a slash stand for the first time. -/
theorem exists_append_of_commentLength {u : List Char} (h : commentLength (u ++ [';']) = u.length) :
    ∃ v, u = v ++ ['*', '/'] ∧ ¬['*', '/'] <:+: v := by
  induction u with
  | nil => simp [commentLength] at h
  | cons c u ih =>
    rw [List.cons_append, commentLength_cons, List.length_cons] at h
    split_ifs at h with hend
    · obtain ⟨d, rfl⟩ := List.length_eq_one_iff.mp (Nat.succ.inj h).symm
      obtain ⟨rfl, hd⟩ := hend
      exact ⟨[], by simpa using hd, by simp⟩
    · obtain ⟨v, rfl, hv⟩ := ih (Nat.succ.inj h)
      refine ⟨c :: v, rfl, fun hinfix => ?_⟩
      obtain hprefix | hinfix := List.infix_cons_iff.mp hinfix
      · obtain ⟨t, ht⟩ := hprefix
        obtain ⟨rfl, rfl⟩ := List.cons.inj ht
        exact hend ⟨rfl, rfl⟩
      · exact hv hinfix

/-- A string that a semicolon does not go into ends in its quote. -/
theorem exists_append_of_stringLength {quote : Char} (hquote : ';' ≠ quote) {e : Escape}
    {v : List Char} (h : stringLength quote e (v ++ [';']) = v.length) : ∃ u, v = u ++ [quote] := by
  induction v generalizing e with
  | nil =>
    simp only [List.nil_append, stringLength, beq_eq_false_iff_ne.mpr hquote, List.length_nil] at h
    split_ifs at h
    contradiction
  | cons c v ih =>
    rw [List.cons_append, stringLength, List.length_cons] at h
    split_ifs at h with _ hend
    · exact exists_append_cons (ih (Nat.succ.inj h))
    · obtain rfl := List.eq_nil_of_length_eq_zero (Nat.succ.inj h).symm
      exact ⟨[], by rw [beq_iff_eq.mp hend]; rfl⟩
    · exact exists_append_cons (ih (Nat.succ.inj h))
    · exact exists_append_cons (ih (Nat.succ.inj h))

/-- A broken address that a semicolon does not go into ends in its parenthesis. -/
theorem exists_append_of_badUrlLength {skip : Bool} {v : List Char}
    (h : badUrlLength skip (v ++ [';']) = v.length) : ∃ u, v = u ++ [')'] := by
  induction v generalizing skip with
  | nil => simp [badUrlLength] at h
  | cons c v ih =>
    rw [List.cons_append, badUrlLength, List.length_cons] at h
    split_ifs at h with _ hend
    · exact exists_append_cons (ih (Nat.succ.inj h))
    · obtain rfl := List.eq_nil_of_length_eq_zero (Nat.succ.inj h).symm
      exact ⟨[], by rw [beq_iff_eq.mp hend]; rfl⟩
    · exact exists_append_cons (ih (Nat.succ.inj h))

/-- An address that ends in blanks, and that a semicolon does not go into, ends in its parenthesis.
-/
theorem exists_append_of_urlEndLength {v : List Char}
    (h : urlEndLength (v ++ [';']) = v.length) : ∃ u, v = u ++ [')'] := by
  induction v with
  | nil => simp [urlEndLength, isSpace, isLineEnd] at h
  | cons c v ih =>
    rw [List.cons_append, urlEndLength, List.length_cons] at h
    split_ifs at h with hend
    · obtain rfl := List.eq_nil_of_length_eq_zero (Nat.succ.inj h).symm
      exact ⟨[], by rw [beq_iff_eq.mp hend]; rfl⟩
    · exact exists_append_cons (ih (Nat.succ.inj h))
    · exact exists_append_cons (exists_append_of_badUrlLength (Nat.succ.inj h))

/-- An address that a semicolon does not go into ends in its parenthesis. -/
theorem exists_append_of_urlBodyLength {e : Escape} {v : List Char}
    (h : urlBodyLength e (v ++ [';']) = v.length) : ∃ u, v = u ++ [')'] := by
  induction v generalizing e with
  | nil => exact absurd h (urlBodyLength_pos e ';' []).ne'
  | cons c v ih =>
    rw [List.cons_append, urlBodyLength_cons, List.length_cons] at h
    split_ifs at h with _ hend
    · exact exists_append_cons (ih (Nat.succ.inj h))
    · obtain rfl := List.eq_nil_of_length_eq_zero (Nat.succ.inj h).symm
      exact ⟨[], by rw [beq_iff_eq.mp hend]; rfl⟩
    · exact exists_append_of_urlEndLength (v := c :: v) h
    · exact exists_append_cons (exists_append_of_badUrlLength (Nat.succ.inj h))
    · exact exists_append_cons (exists_append_of_badUrlLength (Nat.succ.inj h))
    · exact exists_append_cons (ih (Nat.succ.inj h))
    · exact exists_append_cons (ih (Nat.succ.inj h))

/-! ### Urls -/

/-- An address of blanks goes up to the end of the text. -/
theorem unquotedUrlLength?_blank {w : List Char} (hw : ∀ c ∈ w, isSpace c = true) :
    unquotedUrlLength? w = some w.length := by
  rw [unquotedUrlLength?, spaceLength, List.takeWhile_eq_self_iff.mpr hw, List.drop_length]

/-- An address without quotes starts after the blanks. -/
theorem unquotedUrlLength?_append {w : List Char} (hw : ∀ c ∈ w, isSpace c = true) {c : Char}
    (hc : isSpace c = false) (cs : List Char) :
    unquotedUrlLength? (w ++ c :: cs) =
      if c = '"' ∨ c = '\'' then none else some (w.length + urlBodyLength .none (c :: cs)) := by
  have hblank : spaceLength (w ++ c :: cs) = w.length := by
    rw [spaceLength, List.takeWhile_append_of_pos hw]
    simp [hc]
  simp only [unquotedUrlLength?, hblank, List.drop_left, Bool.or_eq_true, beq_iff_eq]

/-- White space and what follows it. -/
theorem exists_blank_append (cs : List Char) : ∃ w, (∀ c ∈ w, isSpace c = true) ∧
    (cs = w ∨ ∃ c r, isSpace c = false ∧ cs = w ++ c :: r) := by
  refine ⟨cs.takeWhile isSpace, fun _ hc => List.mem_takeWhile_imp hc, ?_⟩
  have hsplit := List.takeWhile_append_dropWhile (p := isSpace) (l := cs)
  cases hdrop : cs.dropWhile isSpace with
  | nil => exact .inl (by rw [hdrop, List.append_nil] at hsplit; exact hsplit.symm)
  | cons c r =>
    refine .inr ⟨c, r, ?_, by rw [hdrop] at hsplit; exact hsplit.symm⟩
    have hnot := List.head?_dropWhile_not isSpace cs
    simpa [hdrop] using hnot

/-- An unquoted url that does not take a semicolon is closed. -/
theorem unquotedUrlLength?_closed {b : List Char}
    (h : unquotedUrlLength? (b ++ [';']) = some b.length) :
    (∃ u, b = u ++ [')']) ∧ ∀ r, unquotedUrlLength? (b ++ r) = some b.length := by
  obtain ⟨w, hw, rfl | ⟨c, v, hc, rfl⟩⟩ := exists_blank_append b
  · rw [unquotedUrlLength?_append hw (by rfl), if_neg (by decide), Option.some.injEq] at h
    have hpos := urlBodyLength_pos .none ';' []
    omega
  · rw [List.append_assoc, List.cons_append, unquotedUrlLength?_append hw hc] at h
    split_ifs at h with hquote
    rw [Option.some.injEq, List.length_append] at h
    have hbody : urlBodyLength .none (c :: v ++ [';']) = (c :: v).length := Nat.add_left_cancel h
    obtain ⟨u, hu⟩ := exists_append_of_urlBodyLength hbody
    refine ⟨⟨w ++ u, by rw [hu, List.append_assoc]⟩, fun r => ?_⟩
    have hclosed := closes_urlBodyLength .none (c :: v) [] hbody.le r
    rw [List.append_assoc, List.cons_append, unquotedUrlLength?_append hw hc, if_neg hquote,
      ← List.cons_append, hclosed, hbody, List.length_append]

/-- An address starts with its name and a parenthesis. -/
theorem exists_of_startsUrl {cs : List Char} (h : startsUrl cs = true) :
    ∃ name r, cs = name ++ '(' :: r ∧ nameLength .none cs = name.length ∧
      eqIgnoringCase (nameValue .none 0 name) ['u', 'r', 'l'] = true := by
  simp only [startsUrl, Bool.and_eq_true, beq_iff_eq] at h
  obtain ⟨r, hr⟩ := List.head?_eq_some_iff.mp h.1
  have hle : nameLength .none cs ≤ cs.length := by
    by_contra hlt
    rw [List.drop_eq_nil_of_le (Nat.le_of_not_le hlt)] at hr
    cases hr
  refine ⟨cs.take (nameLength .none cs), r, ?_, ?_, h.2⟩
  · rw [← hr, List.take_append_drop]
  · rw [List.length_take, Nat.min_eq_left hle]

/-- The name of a url is that of a url whatever follows its opening bracket. -/
theorem startsUrl_append {name r : List Char} (hlength : nameLength .none (name ++ '(' :: r) = name.length)
    (hname : eqIgnoringCase (nameValue .none 0 name) ['u', 'r', 'l'] = true) (r' : List Char) :
    nameLength .none (name ++ '(' :: r') = name.length ∧ startsUrl (name ++ '(' :: r') = true := by
  have hlocal := local_nameLength (s := '(') rfl (by decide) .none name r r' hlength.le
  rw [hlength] at hlocal
  exact ⟨hlocal, by simp [startsUrl, hlocal, hname]⟩

private theorem eq_of_toLower_eq {c : Char} (h : c.toLower = 'u') : c = 'u' ∨ c = 'U' := by
  unfold Char.toLower at h
  split at h
  · have hval : c.val + 32 = 117 := congrArg Char.val h
    exact .inr (Char.ext ((UInt32.add_left_inj 32).mp (hval.trans rfl)))
  · exact .inl h

/-- A url begins with a letter or an escape. -/
theorem startsUrl_cons {c : Char} {cs : List Char} (h : startsUrl (c :: cs) = true) :
    (c = 'u' ∨ c = 'U' ∨ c = '\\') ∧ startsName (c :: cs) = true := by
  obtain ⟨name, r, hcs, hlength, hname⟩ := exists_of_startsUrl h
  cases name with
  | nil => simp [nameValue, eqIgnoringCase, asciiLower] at hname
  | cons d name =>
    obtain ⟨rfl, rfl⟩ := List.cons.inj hcs
    by_cases hback : c = '\\'
    · subst hback
      have hline : startsWithLineEnd (name ++ '(' :: r) = false := by
        by_contra hline
        simp [nameLength, Escape.takes, isNameChar, isNameStart, isAsciiLetter, isAsciiDigit,
          hline] at hlength
      exact ⟨.inr (.inr rfl), by simp [startsName, hline]⟩
    · have hc : c = 'u' ∨ c = 'U' := by
        simp only [nameValue, beq_iff_eq, if_neg hback, eqIgnoringCase, asciiLower, List.map_cons,
          List.cons.injEq] at hname
        by_cases hzero : c = '\x00'
        · simp [hzero] at hname
        · rw [if_neg hzero] at hname
          exact eq_of_toLower_eq hname.1
      rcases hc with rfl | rfl
      · exact ⟨.inl rfl, rfl⟩
      · exact ⟨.inr (.inl rfl), rfl⟩

/-- An address is measured as a name is. -/
theorem measure_of_startsUrl {c : Char} {cs : List Char} (h : startsUrl (c :: cs) = true) :
    measure c cs = nameLexeme (c :: cs) := by
  obtain ⟨hc, hname⟩ := startsUrl_cons h
  rw [measure_eq, wordLexeme, hname]
  rcases hc with rfl | rfl | rfl <;> rfl

/-- A url up to its closing bracket, or the function whose argument is a string. -/
theorem nameLexeme_url {name r : List Char} (hlength : nameLength .none (name ++ '(' :: r) = name.length)
    (hname : eqIgnoringCase (nameValue .none 0 name) ['u', 'r', 'l'] = true) :
    nameLexeme (name ++ '(' :: r) =
      match unquotedUrlLength? r with
      | some m => (.other, name.length + 1 + m)
      | none => (.opening .round, name.length + 1) := by
  have hdrop : (name ++ '(' :: r).drop (name.length + 1) = r := by
    rw [← List.drop_drop, List.drop_left, List.drop_one, List.tail_cons]
  cases hbody : unquotedUrlLength? r <;>
    rw [nameLexeme_eq, hlength, List.drop_left, List.head?_cons, if_pos rfl, List.take_left,
      if_pos hname, hdrop, hbody]

end Lexeme

open Lexeme

/-! ### What follows a closed lexeme -/

section Closed

variable {l : Lexeme}

/-- The first lexeme of a text, when its length is known to end it before what follows. -/
theorem Begins.of_measure {c : Char} {v r : List Char} {kind : Kind} {n : Nat}
    (hn : n ≤ v.length + 1) (hm : measure c (v ++ r) = (kind, n)) :
    Begins (c :: (v ++ r)) ⟨kind, c :: v.take (n - 1)⟩ (v.drop (n - 1) ++ r) := by
  rw [begins_cons, hm, List.take_append_of_le_length (by omega),
    List.drop_append_of_le_length (by omega)]
  exact ⟨rfl, rfl, rfl⟩

/-- A lexeme that takes nothing of what follows it, and ends with a delimiter. -/
structure Lexeme.IsEnded (l : Lexeme) : Prop where
  last : ∃ u, ∃ d ∈ ['/', '"', '\'', ')'], l.text = u ++ [d]
  begins : ∀ r, Begins (l.text ++ r) l r

/-- A lexeme is at its end if it is measured the same whatever follows. -/
theorem isEnded_of_measure {c : Char} {t : List Char} {kind : Kind}
    (hlast : ∃ u, ∃ d ∈ ['/', '"', '\'', ')'], c :: t = u ++ [d])
    (hm : ∀ r, measure c (t ++ r) = (kind, t.length + 1)) : IsEnded ⟨kind, c :: t⟩ :=
  ⟨hlast, fun r => by simpa using Begins.of_measure le_rfl (hm r)⟩

/-- A comment that is closed is at its end. -/
theorem isEnded_comment {u : List Char} (h : commentLength (u ++ [';']) = u.length) :
    IsEnded ⟨.comment, '/' :: '*' :: u⟩ := by
  obtain ⟨v, hv, -⟩ := exists_append_of_commentLength h
  refine isEnded_of_measure ⟨'/' :: '*' :: (v ++ ['*']), '/', by simp, by simp [hv]⟩ fun r => ?_
  have hmeasure : measure '/' ('*' :: u ++ r) = (.comment, 2 + commentLength (u ++ r)) := rfl
  rw [hmeasure, closes_commentLength (.inl rfl) u [] h.le r, h, List.length_cons, Nat.add_comm,
    Nat.add_assoc]

/-- A string is measured from its quote. -/
theorem measure_string {c : Char} (hc : c = '"' ∨ c = '\'') (cs : List Char) :
    measure c cs = (.other, 1 + stringLength c .none cs) := by
  rcases hc with rfl | rfl <;> rfl

/-- A string that is closed is at its end. -/
theorem isEnded_string {c : Char} (hc : c = '"' ∨ c = '\'') {t : List Char}
    (h : stringLength c .none (t ++ [';']) = t.length) : IsEnded ⟨.other, c :: t⟩ := by
  have hne : ';' ≠ c := by rcases hc with rfl | rfl <;> decide
  obtain ⟨u, hu⟩ := exists_append_of_stringLength hne h
  refine isEnded_of_measure ⟨c :: u, c, by rcases hc with rfl | rfl <;> simp, by rw [hu]; rfl⟩
    fun r => ?_
  rw [measure_string hc, closes_stringLength (.inl rfl) hne .none t [] h.le r, h, Nat.add_comm]

/-- An address is measured from its parenthesis. -/
theorem measure_url {c : Char} {t name b : List Char} (htext : c :: t = name ++ '(' :: b)
    (hlength : nameLength .none (name ++ '(' :: b) = name.length)
    (hname : eqIgnoringCase (nameValue .none 0 name) ['u', 'r', 'l'] = true) (r : List Char) :
    measure c (t ++ r) =
      match unquotedUrlLength? (b ++ r) with
      | some m => (.other, name.length + 1 + m)
      | none => (.opening .round, name.length + 1) := by
  have hwhole : c :: (t ++ r) = name ++ '(' :: (b ++ r) := by
    rw [← List.cons_append, htext, List.append_assoc, List.cons_append]
  obtain ⟨hlength, hstarts⟩ := startsUrl_append hlength hname (b ++ r)
  rw [measure_of_startsUrl (by rw [hwhole]; exact hstarts), hwhole, nameLexeme_url hlength hname]

/-- An unquoted url is one lexeme. -/
theorem Begins.isDelimited_url {name b next : List Char} {m : Nat}
    (h : Begins (name ++ '(' :: b) l next)
    (hlength : nameLength .none (name ++ '(' :: b) = name.length)
    (hname : eqIgnoringCase (nameValue .none 0 name) ['u', 'r', 'l'] = true)
    (hbody : unquotedUrlLength? b = some m) : l.isDelimited = true := by
  obtain ⟨c, cs, htext⟩ := List.exists_cons_of_ne_nil
    (List.append_ne_nil_of_right_ne_nil name (List.cons_ne_nil '(' b))
  have hstarts := (startsUrl_append hlength hname b).2
  have hmeasure : measure c cs = (.other, name.length + 1 + m) := by
    rw [measure_of_startsUrl (htext ▸ hstarts), ← htext, nameLexeme_url hlength hname, hbody]
  have hl : l.kind = .other ∧ l.text = name ++ '(' :: b.take m := by
    rw [htext] at h
    obtain ⟨hkind, hl, -⟩ := begins_cons.mp h
    rw [hmeasure] at hkind hl
    refine ⟨hkind, ?_⟩
    have hcons : c :: cs.take (name.length + 1 + m - 1) = (c :: cs).take (name.length + 1 + m) := by
      rw [show name.length + 1 + m = name.length + m + 1 by omega]
      rfl
    rw [hl, hcons, ← htext, Nat.add_assoc, List.take_length_add_append, Nat.add_comm 1 m]
    rfl
  simp [isDelimited, hl, (startsUrl_append hlength hname (b.take m)).2]

/-- An address that is closed is at its end. -/
theorem isEnded_url {c : Char} {t name b : List Char} (htext : c :: t = name ++ '(' :: b)
    (hlength : nameLength .none (name ++ '(' :: b) = name.length)
    (hname : eqIgnoringCase (nameValue .none 0 name) ['u', 'r', 'l'] = true)
    (h : unquotedUrlLength? (b ++ [';']) = some b.length) : IsEnded ⟨.other, c :: t⟩ := by
  obtain ⟨⟨u, hu⟩, hclosed⟩ := unquotedUrlLength?_closed h
  refine isEnded_of_measure ⟨name ++ '(' :: u, ')', by simp, by simp [htext, hu]⟩ fun r => ?_
  have htotal := congrArg List.length htext
  simp only [List.length_cons, List.length_append] at htotal
  rw [measure_url htext hlength hname, hclosed]
  exact congrArg (Prod.mk _) (by omega)

/-- A semicolon after a closed lexeme does not go into it. -/
theorem Lexeme.IsClosed.begins_semicolon (h : l.IsClosed) (hl : l.isDelimited = true) :
    Begins (l.text ++ [';']) l [';'] := by
  obtain ⟨l', next, hbegins⟩ := exists_begins (List.append_ne_nil_of_right_ne_nil l.text
    (List.cons_ne_nil ';' []))
  obtain ⟨rfl, -⟩ := List.cons.inj (hbegins.ofText_eq.symm.trans (h hl))
  rwa [← List.append_cancel_left hbegins.eq_append] at hbegins

/-- A closed comment has its marks. -/
theorem Lexeme.IsClosed.exists_comment (h : l.IsClosed) (hkind : l.kind = .comment) :
    ∃ u, l = ⟨.comment, '/' :: '*' :: u⟩ ∧ commentLength (u ++ [';']) = u.length := by
  have hbegins := h.begins_semicolon (by simp [isDelimited, hkind])
  obtain ⟨cs, hcs⟩ := hbegins.of_comment hkind
  obtain ⟨hl, hrest⟩ := (hcs ▸ hbegins).unique (begins_comment cs)
  have hlength : (cs.take (commentLength cs)).length = commentLength cs := by
    have := congrArg List.length hrest
    rw [List.length_drop, List.length_singleton] at this
    rw [List.length_take]
    omega
  exact ⟨_, hl, by rw [hrest, List.take_append_drop, hlength]⟩

/-- A closed comment, string or url takes nothing of what follows it. -/
theorem Lexeme.IsClosed.isEnded (h : l.IsClosed) (hl : l.isDelimited = true) : l.IsEnded := by
  have hbegins := h.begins_semicolon hl
  by_cases hcomment : l.kind = .comment
  · obtain ⟨u, rfl, hu⟩ := h.exists_comment hcomment
    exact isEnded_comment hu
  obtain ⟨kind, text⟩ := l
  obtain ⟨c, t, rfl⟩ := List.exists_cons_of_ne_nil hbegins.text_ne_nil
  obtain ⟨hkind, -, hrest⟩ : kind = (measure c (t ++ [';'])).1 ∧ _ ∧
      [';'] = (t ++ [';']).drop ((measure c (t ++ [';'])).2 - 1) := begins_cons.mp hbegins
  have hlength : (measure c (t ++ [';'])).2 - 1 = t.length := by
    have := congrArg List.length hrest
    simp only [List.length_cons, List.length_nil, List.length_drop, List.length_append] at this
    omega
  simp only [isDelimited, Bool.or_eq_true, Bool.and_eq_true, beq_iff_eq, List.head?_cons,
    Option.some.injEq] at hl
  obtain ⟨rfl, hquote | hurl⟩ := hl.resolve_left hcomment
  · rw [measure_string hquote, Nat.add_sub_cancel_left] at hlength
    exact isEnded_string hquote hlength
  · obtain ⟨name, b, htext, hname, hvalue⟩ := exists_of_startsUrl hurl
    rw [htext] at hname
    have htotal := congrArg List.length htext
    simp only [List.length_cons, List.length_append] at htotal
    rw [measure_url htext hname hvalue] at hlength hkind
    refine isEnded_url htext hname hvalue ?_
    cases hbody : unquotedUrlLength? (b ++ [';']) with
    | none =>
      rw [hbody] at hkind
      cases hkind
    | some m =>
      rw [hbody] at hlength
      exact congrArg some (by dsimp only at hlength; omega)

end Closed

end SourceEdit.Stylesheet
