import Mathlib.Data.List.TakeWhile
import Mathlib.Tactic.SplitIfs
import SourceEdit.Stylesheet.Lexeme

/-!
# Lexemes are read locally

The lexemes of a text are read one after the other, and their texts put together are the text.  How
long a lexeme is can depend on what follows it, since an escape, a string or a url takes what other
lexemes stop at.  What this module shows is that it depends on no more than that: as long as a lexeme
ends before a semicolon or a brace, the text after that character has no say in it.

Two notions carry this.  A scanner `Closes` if what it takes does not depend on what follows at all,
once it has ended; comments, strings and urls do.  A scanner is `Local` if only the next character
matters.  `measure_local` is the result for lexemes.  Numbers look ahead, but not past a character
of `quietChars`.
-/

namespace SourceEdit.Stylesheet.Lexeme

/-! ### Characters that end a lexeme -/

/-- The semicolon and the braces. -/
def IsStop (s : Char) : Prop := s = ';' ∨ s = '\x7b' ∨ s = '\x7d'

/-- White space, the colon and the stops: no word goes on with one of them. -/
def quietChars : List Char := [' ', '\t', '\n', '\r', '\x0c', ':', ';', '\x7b', '\x7d']

/-- No word goes on with this text. -/
def EndsWord (r : List Char) : Prop := ∀ c ∈ r.head?, c ∈ quietChars

variable {s : Char} {r : List Char}

/-- Quiet characters do not go into names. -/
theorem isNameChar_eq_false_of_quiet : ∀ c ∈ quietChars, isNameChar c = false := by
  have hall : quietChars.all (fun c => !isNameChar c) = true := by decide
  simpa using hall

/-- Quiet characters do not start names. -/
theorem isNameStart_eq_false_of_quiet : ∀ c ∈ quietChars, isNameStart c = false := by
  have hall : quietChars.all (fun c => !isNameStart c) = true := by decide
  simpa using hall

/-- Quiet characters do not go into numbers. -/
theorem isAsciiDigit_eq_false_of_quiet : ∀ c ∈ quietChars, isAsciiDigit c = false := by
  have hall : quietChars.all (fun c => !isAsciiDigit c) = true := by decide
  simpa using hall

/-- A semicolon or a brace is a quiet character. -/
theorem IsStop.quiet (hs : IsStop s) : s ∈ quietChars := by
  rcases hs with rfl | rfl | rfl <;> decide

/-- A word ends before a semicolon or a brace. -/
theorem IsStop.endsWord (hs : IsStop s) (w : List Char) : EndsWord (s :: w) := by
  intro c hc
  obtain rfl := Option.some.inj hc
  exact hs.quiet

theorem IsStop.isSpace_eq_false (hs : IsStop s) : isSpace s = false := by
  rcases hs with rfl | rfl | rfl <;> decide

theorem IsStop.ne (hs : IsStop s) {d : Char} (hd : d ∉ quietChars) : s ≠ d :=
  fun h => hd (h ▸ hs.quiet)

theorem EndsWord.ne (hr : EndsWord r) {d : Char} (hd : d ∉ quietChars) : ∀ c ∈ r.head?, c ≠ d :=
  fun c hc h => hd (h ▸ hr c hc)

/-! ### Looking ahead -/

/-- A test of what follows that does not see past a character. -/
def Blind {α : Type} (s : Char) (look : List Char → α) : Prop :=
  ∀ v w w', look (v ++ s :: w') = look (v ++ s :: w)

/-- What looks at the first character only does not see what follows a stop. -/
theorem blind_of_head {α : Type} {look : List Char → α}
    (h : ∀ c cs cs', look (c :: cs') = look (c :: cs)) : Blind s look := by
  intro v w w'
  cases v with
  | nil => exact h s w w'
  | cons c v => exact h c _ _

theorem blind_startsWithLineEnd : Blind s startsWithLineEnd := blind_of_head fun _ _ _ => rfl

theorem blind_head? : Blind s List.head? := blind_of_head fun _ _ _ => rfl

/-- Whether a name starts is decided before a stop, or at it. -/
theorem blind_startsName (hs : IsStop s) : Blind s startsName := by
  intro v w w'
  match v with
  | [] =>
    have hdash : s ≠ '-' := hs.ne (by decide)
    have hback : s ≠ '\\' := hs.ne (by decide)
    simp [startsName, hdash, hback]
  | [c] => simp [startsName, startsWithLineEnd]
  | c :: d :: v => simp [startsName, startsWithLineEnd]

/-- What ends a word is not seen by what asks for a digit. -/
theorem startsWithDigit_append (hr : EndsWord r) (v : List Char) :
    startsWithDigit (v ++ r) = startsWithDigit v := by
  cases v with
  | cons c v => rfl
  | nil =>
    cases r with
    | nil => rfl
    | cons c r => exact isAsciiDigit_eq_false_of_quiet c (hr c rfl)

theorem startsNumber_cons (c : Char) (cs : List Char) :
    startsNumber (c :: cs) = if c = '.' then startsWithDigit cs else isAsciiDigit c := by
  unfold startsNumber
  split
  · next heq =>
    cases heq
    rfl
  · next hne => simp [show c ≠ '.' from fun h => hne cs (h ▸ rfl), startsWithDigit]

/-- What ends a word is not seen by what asks for a number. -/
theorem startsNumber_append (hr : EndsWord r) (v : List Char) :
    startsNumber (v ++ r) = startsNumber v := by
  cases v with
  | cons c v => simp [startsNumber_cons, startsWithDigit_append hr v]
  | nil =>
    cases r with
    | nil => rfl
    | cons c r =>
      have hc := hr c rfl
      simp [hr.ne (d := '.') (by decide) c rfl, isAsciiDigit_eq_false_of_quiet c hc, startsNumber,
        startsWithDigit]

/-- A test for a character that is not quiet does not see a text that ends a word. -/
theorem head?_append_eq_some (hr : EndsWord r) {d : Char} (hd : d ∉ quietChars) (v : List Char) :
    (v ++ r).head? = some d ↔ v.head? = some d := by
  cases v with
  | cons c v => rfl
  | nil =>
    refine ⟨fun h => absurd (hr d h) hd, fun h => ?_⟩
    cases h

/-- A pattern without quiet characters is found before a text that ends a word or not at all. -/
theorem isPrefixOf_append (hr : EndsWord r) {p : List Char} (hp : ∀ c ∈ p, c ∉ quietChars)
    (v : List Char) : p.isPrefixOf (v ++ r) = p.isPrefixOf v := by
  induction p generalizing v with
  | nil => simp
  | cons c p ih =>
    obtain ⟨hc, hp⟩ := List.forall_mem_cons.mp hp
    cases v with
    | cons d v => simp [List.isPrefixOf, ih hp]
    | nil =>
      cases r with
      | nil => rfl
      | cons d r =>
        have hne : c ≠ d := fun h => hc (h ▸ hr d rfl)
        simp [List.isPrefixOf, hne]

/-- A run of characters ends where a text does if the next text starts otherwise. -/
theorem takeWhile_append (p : Char → Bool) (hr : ∀ c ∈ r.head?, p c = false) (v : List Char) :
    (v ++ r).takeWhile p = v.takeWhile p := by
  induction v with
  | nil =>
    cases r with
    | nil => rfl
    | cons c r => simp [hr c rfl]
  | cons c v ih => simp [List.takeWhile_cons, ih]

/-! ### Scanners -/

/-- What a scanner takes depends on the next character and nothing after that, if it ends before a
stop. -/
def Local (s : Char) (scan : List Char → Nat) : Prop :=
  ∀ v w w', scan (v ++ s :: w) ≤ v.length → scan (v ++ s :: w') = scan (v ++ s :: w)

/-- What a scanner takes does not depend on what follows, if it ends before a stop. -/
def Closes (s : Char) (scan : List Char → Nat) : Prop :=
  ∀ v w, scan (v ++ s :: w) ≤ v.length → ∀ r, scan (v ++ r) = scan (v ++ s :: w)

/-- The length of a comment by its first character. -/
theorem commentLength_cons (c : Char) (cs : List Char) :
    commentLength (c :: cs) =
      if c = '*' ∧ cs.head? = some '/' then 2 else commentLength cs + 1 := by
  rw [commentLength.eq_def]
  split
  · next heq =>
    cases heq
    rfl
  · next hne heq =>
    cases heq
    rw [if_neg]
    rintro ⟨rfl, hhead⟩
    obtain ⟨rest, rfl⟩ := List.head?_eq_some_iff.mp hhead
    exact hne rest rfl rfl
  · next heq => cases heq

/-- A comment that is closed before a stop is measured before it. -/
theorem closes_commentLength (hs : IsStop s) : Closes s commentLength := by
  have hstar : s ≠ '*' := hs.ne (by decide)
  have hslash : s ≠ '/' := hs.ne (by decide)
  have hempty (w : List Char) : ¬commentLength (s :: w) ≤ 0 := by simp [commentLength_cons, hstar]
  intro v w h r
  induction v with
  | nil => exact absurd h (hempty w)
  | cons c v ih =>
    simp only [List.cons_append, commentLength_cons, List.length_cons] at h ⊢
    cases v with
    | nil =>
      -- a star at the end of the text is no end of the comment
      rw [List.nil_append, if_neg (by simp [hslash])] at h
      exact absurd (Nat.le_of_succ_le_succ h) (hempty w)
    | cons d v =>
      by_cases hend : c = '*' ∧ d = '/'
      · simp [hend]
      · simp only [List.cons_append, List.head?_cons, Option.some.injEq, if_neg hend] at h ih ⊢
        rw [ih (Nat.le_of_succ_le_succ h)]

/-- A string that is closed before a stop is measured before it. -/
theorem closes_stringLength (hs : IsStop s) {quote : Char} (hquote : s ≠ quote) (e : Escape) :
    Closes s (stringLength quote e) := by
  have hline : isLineEnd s = false := by rcases hs with rfl | rfl | rfl <;> rfl
  intro v w h r
  induction v generalizing e with
  | nil =>
    simp only [List.nil_append, stringLength, hline, beq_eq_false_iff_ne.mpr hquote,
      List.length_nil] at h
    split_ifs at h <;> cases h
  | cons c v ih =>
    simp only [List.cons_append, stringLength, List.length_cons] at h ⊢
    split_ifs at h ⊢
    · rw [ih _ (Nat.le_of_succ_le_succ h)]
    · rfl
    · rfl
    · rw [ih _ (Nat.le_of_succ_le_succ h)]
    · rw [ih _ (Nat.le_of_succ_le_succ h)]

/-- A name that ends before a stop is measured before it. -/
theorem local_nameLength (hname : isNameChar s = false) (hback : s ≠ '\\') (e : Escape) :
    Local s (nameLength e) := by
  have hback : (s == '\\') = false := beq_eq_false_iff_ne.mpr hback
  intro v w w' h
  induction v generalizing e with
  | nil =>
    simp only [List.nil_append, nameLength, hname, hback, Bool.false_and, List.length_nil] at h ⊢
    split_ifs at h ⊢ <;> first | rfl | cases h
  | cons c v ih =>
    simp only [List.cons_append, nameLength, blind_startsWithLineEnd v w w', List.length_cons]
      at h ⊢
    split_ifs at h ⊢
    · rw [ih _ (Nat.le_of_succ_le_succ h)]
    · rw [ih _ (Nat.le_of_succ_le_succ h)]
    · rw [ih _ (Nat.le_of_succ_le_succ h)]
    · rfl

/-- A broken address that is closed before a stop is measured before it. -/
theorem closes_badUrlLength (skip : Bool) : Closes s (badUrlLength skip) := by
  intro v w h r
  induction v generalizing skip with
  | nil =>
    simp only [List.nil_append, badUrlLength, List.length_nil] at h
    split_ifs at h <;> cases h
  | cons c v ih =>
    simp only [List.cons_append, badUrlLength, List.length_cons] at h ⊢
    split_ifs at h ⊢
    · rw [ih _ (Nat.le_of_succ_le_succ h)]
    · rfl
    · rw [ih _ (Nat.le_of_succ_le_succ h)]

/-- An address that ends in blanks before a stop is measured before it. -/
theorem closes_urlEndLength : Closes s urlEndLength := by
  intro v w h r
  induction v with
  | nil =>
    simp only [List.nil_append, urlEndLength, List.length_nil] at h
    split_ifs at h <;> cases h
  | cons c v ih =>
    simp only [List.cons_append, urlEndLength, List.length_cons] at h ⊢
    split_ifs at h ⊢
    · rfl
    · rw [ih (Nat.le_of_succ_le_succ h)]
    · rw [closes_badUrlLength false v w (Nat.le_of_succ_le_succ h)]

theorem urlBodyLength_pos (e : Escape) (c : Char) (cs : List Char) :
    0 < urlBodyLength e (c :: cs) := by
  simp only [urlBodyLength, urlEndLength]
  split_ifs <;> omega

theorem badUrlLength_pos (skip : Bool) (c : Char) (cs : List Char) :
    0 < badUrlLength skip (c :: cs) := by
  simp only [badUrlLength]
  split_ifs <;> omega

/-- The length of an address by its first character. -/
theorem urlBodyLength_cons (e : Escape) (c : Char) (cs : List Char) :
    urlBodyLength e (c :: cs) =
      if e.takes c then urlBodyLength (e.after c) cs + 1
      else if c == ')' then 1
      else if isSpace c then urlEndLength (c :: cs)
      else if isNonPrintable c || c == '"' || c == '\'' || c == '(' then badUrlLength false cs + 1
      else if c == '\\' then
        if startsWithLineEnd cs then badUrlLength false cs + 1 else urlBodyLength .backslash cs + 1
      else urlBodyLength .none cs + 1 :=
  rfl

/-- An address that is closed before a stop is measured before it. -/
theorem closes_urlBodyLength (e : Escape) : Closes s (urlBodyLength e) := by
  intro v w h r
  induction v generalizing e with
  | nil => exact absurd h (Nat.not_le_of_lt (urlBodyLength_pos e s w))
  | cons c v ih =>
    have hend := closes_urlEndLength (s := s) (c :: v) w
    cases v with
    | nil =>
      -- nothing but the closing bracket can be the last character
      have hbody (e : Escape) := urlBodyLength_pos e s w
      have hbad := badUrlLength_pos false s w
      simp only [List.singleton_append, urlBodyLength_cons e c] at h hend ⊢
      split_ifs at h ⊢
      all_goals first
        | rfl
        | exact hend h r
        | exact absurd (Nat.le_of_succ_le_succ h) (Nat.not_le_of_lt (hbody _))
        | exact absurd (Nat.le_of_succ_le_succ h) (Nat.not_le_of_lt hbad)
    | cons d v =>
      have hbad := closes_badUrlLength (s := s) false (d :: v) w
      have hline : startsWithLineEnd (d :: (v ++ r)) = startsWithLineEnd (d :: (v ++ s :: w)) := rfl
      simp only [List.cons_append, urlBodyLength_cons e c, hline] at h ih hbad hend ⊢
      split_ifs at h ⊢
      · rw [ih _ (Nat.le_of_succ_le_succ h)]
      · rfl
      · exact hend h r
      · rw [hbad (Nat.le_of_succ_le_succ h)]
      · rw [hbad (Nat.le_of_succ_le_succ h)]
      · rw [ih _ (Nat.le_of_succ_le_succ h)]
      · rw [ih _ (Nat.le_of_succ_le_succ h)]

/-! ### Numbers -/

theorem length_digits_le (v : List Char) : (v.takeWhile isAsciiDigit).length ≤ v.length :=
  (List.takeWhile_prefix _).length_le

theorem takeWhile_digits_append (hr : EndsWord r) (v : List Char) :
    (v ++ r).takeWhile isAsciiDigit = v.takeWhile isAsciiDigit :=
  takeWhile_append _ (fun c hc => isAsciiDigit_eq_false_of_quiet c (hr c hc)) v

/-- A number without a sign ends where its text does. -/
theorem unsignedLength_append (hr : EndsWord r) (v : List Char) :
    unsignedLength (v ++ r) = unsignedLength v := by
  simp only [unsignedLength, takeWhile_digits_append hr,
    List.drop_append_of_le_length (length_digits_le v)]
  cases v.drop (v.takeWhile isAsciiDigit).length with
  | nil =>
    cases r with
    | nil => rfl
    | cons c r => simp [hr.ne (d := '.') (by decide) c rfl]
  | cons c v =>
    by_cases hc : c = '.'
    · simp [hc, startsWithDigit_append hr, takeWhile_digits_append hr]
    · simp [hc]

theorem unsignedLength_le (v : List Char) : unsignedLength v ≤ v.length := by
  have hwhole := length_digits_le v
  simp only [unsignedLength]
  split
  · next r hdrop =>
    have hlength : r.length + 1 + (v.takeWhile isAsciiDigit).length = v.length := by
      have := congrArg List.length hdrop
      simp only [List.length_drop, List.length_cons] at this
      omega
    have hdigits := length_digits_le r
    split_ifs <;> omega
  · exact hwhole

/-- An exponent ends where its text does. -/
theorem exponentLength_append (hr : EndsWord r) (v : List Char) :
    exponentLength (v ++ r) = exponentLength v := by
  match v with
  | [] =>
    cases r with
    | nil => rfl
    | cons c r => simp [exponentLength, hr.ne (d := 'e') (by decide) c rfl, hr.ne (d := 'E') (by decide) c rfl]
  | [e] =>
    cases r with
    | nil => rfl
    | cons c r =>
      simp [exponentLength, isAsciiDigit_eq_false_of_quiet c (hr c rfl),
        hr.ne (d := '+') (by decide) c rfl, hr.ne (d := '-') (by decide) c rfl]
  | e :: d :: v =>
    simp only [List.cons_append, exponentLength, startsWithDigit_append hr,
      takeWhile_digits_append hr, List.takeWhile_cons]

theorem exponentLength_le (v : List Char) : exponentLength v ≤ v.length := by
  match v with
  | [] => simp [exponentLength]
  | [e] => simp [exponentLength]
  | e :: d :: v =>
    have hdigits := length_digits_le v
    simp only [exponentLength, List.takeWhile_cons, List.length_cons]
    split_ifs <;> simp <;> omega

theorem signLength_cons (c : Char) (cs : List Char) :
    signLength (c :: cs) = if c = '+' ∨ c = '-' then 1 else 0 := by
  unfold signLength
  split
  · next heq => simp [(List.cons.inj heq).1]
  · next heq => simp [(List.cons.inj heq).1]
  · next hplus hminus =>
    rw [if_neg]
    rintro (rfl | rfl)
    · exact hplus cs rfl
    · exact hminus cs rfl

/-- A sign is one character, whatever comes after it. -/
theorem signLength_append (hr : EndsWord r) (v : List Char) :
    signLength (v ++ r) = signLength v := by
  cases v with
  | cons c v => simp [signLength_cons]
  | nil =>
    cases r with
    | nil => rfl
    | cons c r =>
      have hc := hr c rfl
      rw [List.nil_append, signLength_cons, if_neg]
      · rfl
      · simp [hr.ne (d := '+') (by decide) c rfl, hr.ne (d := '-') (by decide) c rfl]

theorem signLength_le (v : List Char) : signLength v ≤ v.length := by
  unfold signLength
  split <;> simp

/-- The digits of a number end where the text before a quiet character ends, or sooner. -/
theorem digitsLength_append (hr : EndsWord r) (v : List Char) :
    digitsLength (v ++ r) = digitsLength v ∧ digitsLength v ≤ v.length := by
  have hsign := signLength_le v
  have hwhole := unsignedLength_le (v.drop (signLength v))
  rw [List.length_drop] at hwhole
  have hdigits : signLength v + unsignedLength (v.drop (signLength v)) ≤ v.length := by omega
  have hexponent := exponentLength_le
    (v.drop (signLength v + unsignedLength (v.drop (signLength v))))
  rw [List.length_drop] at hexponent
  simp only [digitsLength, signLength_append hr, List.drop_append_of_le_length hsign,
    unsignedLength_append hr, List.drop_append_of_le_length hdigits, exponentLength_append hr,
    true_and]
  omega

/-- A number goes on with a percent sign or a unit. -/
theorem numberLength_eq (cs : List Char) :
    numberLength cs =
      if (cs.drop (digitsLength cs)).head? = some '%' then digitsLength cs + 1
      else if startsName (cs.drop (digitsLength cs)) then
        digitsLength cs + nameLength .none (cs.drop (digitsLength cs))
      else digitsLength cs := by
  simp only [numberLength]
  split
  · next heq => simp [heq]
  · next hne =>
    have hhead : (cs.drop (digitsLength cs)).head? ≠ some '%' := by
      intro hhead
      obtain ⟨r, hr⟩ := List.head?_eq_some_iff.mp hhead
      exact hne r hr
    rw [if_neg hhead]

/-- A number that ends before a stop is measured before it. -/
theorem local_numberLength (hs : IsStop s) : Local s numberLength := by
  intro v w w' h
  obtain ⟨-, hle⟩ := digitsLength_append (hs.endsWord w) v
  have hunit : (v.drop (digitsLength v)).length = v.length - digitsLength v := List.length_drop ..
  have hname := local_nameLength (isNameChar_eq_false_of_quiet s hs.quiet) (hs.ne (by decide)) .none
    (v.drop (digitsLength v)) w w'
  simp only [numberLength_eq, (digitsLength_append (hs.endsWord _) v).1,
    List.drop_append_of_le_length hle, blind_head? _ w w', blind_startsName hs _ w w'] at h ⊢
  split_ifs at h ⊢
  · rfl
  · rw [hname (by omega)]
  · rfl

/-! ### Lexemes -/

/-- A blank ends where its text does. -/
theorem spaceLength_append (hr : ∀ c ∈ r.head?, isSpace c = false) (v : List Char) :
    spaceLength (v ++ r) = spaceLength v := by
  rw [spaceLength, takeWhile_append _ hr, spaceLength]

/-- What follows an unquoted url does not matter, nor what follows the stop if a string follows. -/
theorem unquotedUrlLength?_local (hs : IsStop s) (v w w' : List Char)
    (h : ∀ m, unquotedUrlLength? (v ++ s :: w) = some m → m ≤ v.length) :
    unquotedUrlLength? (v ++ s :: w') = unquotedUrlLength? (v ++ s :: w) := by
  have hle : spaceLength v ≤ v.length := (List.takeWhile_prefix _).length_le
  have hrest : (v.drop (spaceLength v)).length = v.length - spaceLength v := List.length_drop ..
  have hspace (w : List Char) : ∀ c ∈ (s :: w).head?, isSpace c = false := by
    simpa using hs.isSpace_eq_false
  simp only [unquotedUrlLength?, spaceLength_append (hspace _), List.drop_append_of_le_length hle]
    at h ⊢
  cases hdrop : v.drop (spaceLength v) with
  | nil =>
    -- after nothing but blanks the url would take the stop
    have hquotes : ¬(s == '"' || s == '\'') = true := by
      simp [hs.ne (d := '"') (by decide), hs.ne (d := '\'') (by decide)]
    simp only [hdrop, List.nil_append, if_neg hquotes, Option.some.injEq, forall_eq'] at h
    have hempty : v.length = spaceLength v := by
      rw [hdrop, List.length_nil] at hrest
      omega
    have htakes := urlBodyLength_pos .none s w
    omega
  | cons c r =>
    have hbody := closes_urlBodyLength (s := s) .none (c :: r) w
    rw [hdrop, List.length_cons] at hrest
    simp only [hdrop, List.cons_append] at h hbody ⊢
    split_ifs at h ⊢ with hquote
    · rfl
    · simp only [Option.some.injEq, forall_eq'] at h
      rw [hbody (by rw [List.length_cons]; omega) (s :: w')]

/-- A name goes on with a parenthesis, and with an address if it is that of one. -/
theorem nameLexeme_eq (cs : List Char) :
    nameLexeme cs =
      if (cs.drop (nameLength .none cs)).head? = some '(' then
        if eqIgnoringCase (nameValue .none 0 (cs.take (nameLength .none cs))) ['u', 'r', 'l'] then
          match unquotedUrlLength? (cs.drop (nameLength .none cs + 1)) with
          | some m => (.other, nameLength .none cs + 1 + m)
          | none => (.opening .round, nameLength .none cs + 1)
        else (.opening .round, nameLength .none cs + 1)
      else (.other, nameLength .none cs) := by
  simp only [nameLexeme]
  split
  · next r heq =>
    have hdrop : cs.drop (nameLength .none cs + 1) = r := by
      rw [← List.drop_drop, heq, List.drop_one, List.tail_cons]
    have hhead : (cs.drop (nameLength .none cs)).head? = some '(' := by rw [heq, List.head?_cons]
    subst hdrop
    exact (if_pos hhead).symm
  · next hne =>
    have hhead : (cs.drop (nameLength .none cs)).head? ≠ some '(' := by
      intro hhead
      obtain ⟨r, hr⟩ := List.head?_eq_some_iff.mp hhead
      exact hne r hr
    rw [if_neg hhead]

/-- A name, or the opening of a function or a url, that ends before a stop. -/
theorem nameLexeme_local (hs : IsStop s) (v w w' : List Char)
    (h : (nameLexeme (v ++ s :: w)).2 ≤ v.length) :
    nameLexeme (v ++ s :: w') = nameLexeme (v ++ s :: w) := by
  have hparen : s ≠ '(' := hs.ne (by decide)
  have hle : nameLength .none (v ++ s :: w) ≤ v.length := by
    refine le_trans ?_ h
    rw [nameLexeme_eq]
    split_ifs
    · split <;> dsimp only <;> omega
    · exact Nat.le_succ _
    · exact le_rfl
  have hn := local_nameLength (isNameChar_eq_false_of_quiet s hs.quiet) (hs.ne (by decide)) .none v w w' hle
  generalize hlength : nameLength .none (v ++ s :: w) = n at hle hn
  rw [nameLexeme_eq, nameLexeme_eq, hlength, hn, List.take_append_of_le_length hle,
    List.take_append_of_le_length hle, List.drop_append_of_le_length hle, List.drop_append_of_le_length hle,
    blind_head? (v.drop n) w w']
  split_ifs with hhead hurl
  · obtain ⟨r, hr⟩ : ∃ r, v.drop n = '(' :: r := by
      cases hdrop : v.drop n with
      | nil => simp [hdrop, hparen] at hhead
      | cons p r =>
        simp only [hdrop, List.cons_append, List.head?_cons, Option.some.injEq] at hhead
        exact ⟨r, by rw [hhead]⟩
    -- the parenthesis stands before the stop, so an address would start there
    have hafter (w : List Char) : (v ++ s :: w).drop (n + 1) = r ++ s :: w := by
      rw [← List.drop_drop, List.drop_append_of_le_length hle, hr]
      rfl
    have hv : v.length = n + 1 + r.length := by
      have := congrArg List.length hr
      simp only [List.length_drop, List.length_cons] at this
      omega
    rw [hafter, hafter, unquotedUrlLength?_local hs r w w']
    intro m hm
    rw [nameLexeme_eq, hlength, List.take_append_of_le_length hle, List.drop_append_of_le_length hle,
      if_pos hhead, if_pos hurl, hafter, hm] at h
    dsimp only at h
    omega
  · rfl
  · rfl

private theorem ite_local {p : Prop} [Decidable p] {k : Nat} {a a' b b' : Kind × Nat}
    (h : (if p then a else b).2 ≤ k) (ha : p → a.2 ≤ k → a' = a) (hb : b.2 ≤ k → b' = b) :
    (if p then a' else b') = if p then a else b := by
  by_cases hp : p
  · rw [if_pos hp] at h ⊢
    rw [if_pos hp, ha hp h]
  · rw [if_neg hp] at h ⊢
    rw [if_neg hp, hb h]

/-- The lexeme of a text that starts with a word: with none of white space, a bracket, a semicolon, a
comment and a string. -/
def wordLexeme (c : Char) (cs : List Char) : Kind × Nat :=
  if c == '#' && (startsName cs || startsWithDigit cs || cs.head? == some '-') then
    (.other, 1 + nameLength .none cs)
  else if c == '@' && startsName cs then (.other, 1 + nameLength .none cs)
  else if c == '<' && ['!', '-', '-'].isPrefixOf cs then (.other, 4)
  else if c == '-' && ['-', '>'].isPrefixOf cs then (.other, 3)
  else if beginsNumber c cs then (.other, numberLength (c :: cs))
  else if startsName (c :: cs) then nameLexeme (c :: cs)
  else (.other, 1)

/-- The kind and length of a lexeme by its first character. -/
theorem measure_eq (c : Char) (cs : List Char) :
    measure c cs =
      if isSpace c then (.blank, spaceLength (c :: cs))
      else match single? c with
      | some kind => (kind, 1)
      | none =>
        if c == '/' && cs.head? == some '*' then (.comment, 2 + commentLength (cs.drop 1))
        else if c == '"' || c == '\'' then (.other, 1 + stringLength c .none cs)
        else wordLexeme c cs :=
  rfl

/-- Whether a sign or a point begins a number is decided before a stop. -/
theorem beginsNumber_append (hr : EndsWord r) (c : Char) (v : List Char) :
    beginsNumber c (v ++ r) = beginsNumber c v := by
  simp only [beginsNumber, startsNumber_append hr, startsWithDigit_append hr]

/-- A word that ends before a stop is measured before it. -/
theorem wordLexeme_local (hs : IsStop s) (c : Char) (v w w' : List Char)
    (h : (wordLexeme c (v ++ s :: w)).2 ≤ v.length + 1) :
    wordLexeme c (v ++ s :: w') = wordLexeme c (v ++ s :: w) := by
  have hr := hs.endsWord
  have hname := blind_startsName hs (c :: v) w w'
  have hlength := local_nameLength (isNameChar_eq_false_of_quiet s hs.quiet) (hs.ne (by decide)) .none
    v w w'
  have hopen : ∀ d ∈ ['!', '-', '-'], d ∉ quietChars := by simp [quietChars]
  have hclose : ∀ d ∈ ['-', '>'], d ∉ quietChars := by simp [quietChars]
  simp only [List.cons_append] at hname
  simp only [wordLexeme, blind_head? v w w', blind_startsName hs v w w', hname,
    startsWithDigit_append (hr _), isPrefixOf_append (hr _) hopen, isPrefixOf_append (hr _) hclose,
    beginsNumber_append (hr _)] at h ⊢
  refine ite_local h (fun _ h => ?_) fun h => ite_local h (fun _ h => ?_) fun h =>
    ite_local h (fun _ _ => rfl) fun h => ite_local h (fun _ _ => rfl) fun h =>
    ite_local h (fun _ h => ?_) fun h => ite_local h (fun _ h => ?_) fun _ => rfl
  · rw [hlength (by dsimp only at h; omega)]
  · rw [hlength (by dsimp only at h; omega)]
  · rw [← List.cons_append, local_numberLength hs (c :: v) w w' h, List.cons_append]
  · exact nameLexeme_local hs (c :: v) w w' h

/-- A lexeme that ends before a stop is the same whatever follows the stop. -/
theorem measure_local (hs : IsStop s) (c : Char) (v w w' : List Char)
    (h : (measure c (v ++ s :: w)).2 ≤ v.length + 1) :
    measure c (v ++ s :: w') = measure c (v ++ s :: w) := by
  have hspace (w : List Char) : ∀ c ∈ (s :: w).head?, isSpace c = false := by
    simpa using hs.isSpace_eq_false
  simp only [measure_eq, blind_head? v w w'] at h ⊢
  refine ite_local h (fun _ _ => ?_) fun h => ?_
  · rw [← List.cons_append, ← List.cons_append, spaceLength_append (hspace _),
      spaceLength_append (hspace _)]
  cases hsingle : single? c with
  | some kind => rfl
  | none =>
    rw [hsingle] at h
    refine ite_local h (fun hcomment h => ?_) fun h => ite_local h (fun hquote h => ?_) fun h =>
      wordLexeme_local hs c v w w' h
    · -- a comment goes on after the star that follows
      cases v with
      | nil => simp [hs.ne (d := '*') (by decide)] at hcomment
      | cons d v =>
        simp only [List.cons_append, List.drop_one, List.tail_cons, List.length_cons] at h ⊢
        rw [closes_commentLength hs v w (by omega) (s :: w')]
    · have hne : s ≠ c := by
        simp only [Bool.or_eq_true, beq_iff_eq] at hquote
        rcases hquote with rfl | rfl
        · exact hs.ne (by decide)
        · exact hs.ne (by decide)
      rw [closes_stringLength hs hne .none v w (by dsimp only at h; omega) (s :: w')]

end SourceEdit.Stylesheet.Lexeme
