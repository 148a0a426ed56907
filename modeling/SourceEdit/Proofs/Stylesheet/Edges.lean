import SourceEdit.Proofs.Stylesheet.Clean
import SourceEdit.Proofs.Stylesheet.Cut
import SourceEdit.Proofs.Stylesheet.ReadBack

/-!
# The edges of the parts of an item

What is cut off an item is white space to Unicode, but only some of it is white space between
lexemes.  A lexeme is plain if it has no other white space, or if it is a comment, a string or a url,
whose text is kept as it is.  In plain lexemes the parts of an item are told apart by white space
between lexemes, and `Remains.exists_lexes` cuts the last part off from what follows it.
-/

namespace SourceEdit.Stylesheet

open Lexeme

/-! ### White space -/

/-- All white space of the lexeme is white space between lexemes; but a comment, a string and a url may
have any. -/
def Lexeme.isPlain (l : Lexeme) : Bool :=
  l.isDelimited || l.text.all fun c => !isBlank c || isSpace c

theorem isBlank_of_isSpace {c : Char} (hc : isSpace c = true) : isBlank c = true := by
  have hchars : c = ' ' ∨ c = '\t' ∨ c = '\n' ∨ c = '\r' ∨ c = '\x0c' := by
    simpa [isSpace, isLineEnd, or_assoc] using hc
  rcases hchars with rfl | rfl | rfl | rfl | rfl <;> decide

section White

variable {l : Lexeme} {c : Char} {cs next rest mid w t y g u v : List Char} {ls : List Lexeme}

theorem Lexeme.isSpace_of_isPlain (h : l.isPlain = true) (hl : l.isDelimited = false) (hc : c ∈ l.text)
    (hblank : isBlank c = true) : isSpace c = true := by
  rw [isPlain, hl, Bool.false_or, List.all_eq_true] at h
  simpa [hblank] using h c hc

/-- A comment begins with a slash, a string with a quote, and the third thing that is delimited is a
url. -/
theorem Begins.cases_of_isDelimited (h : Begins (c :: cs) l next) (hl : l.isDelimited = true) :
    c = '/' ∨ (c = '"' ∨ c = '\'') ∨ startsUrl l.text = true := by
  obtain ⟨-, htext, -⟩ := begins_cons.mp h
  simp only [isDelimited, Bool.or_eq_true, Bool.and_eq_true, beq_iff_eq, htext, List.head?_cons,
    Option.some.injEq] at hl
  obtain hkind | ⟨-, hquote | hurl⟩ := hl
  · obtain ⟨cs', hcs⟩ := h.of_comment hkind
    exact .inl (List.cons.inj hcs).1
  · exact .inr (.inl hquote)
  · rw [htext]
    exact .inr (.inr hurl)

theorem Begins.isBlank_eq_false (h : Begins (c :: cs) l next) (hl : l.isDelimited = true) :
    isBlank c = false := by
  obtain ⟨-, htext, -⟩ := begins_cons.mp h
  obtain rfl | (rfl | rfl) | hurl := h.cases_of_isDelimited hl
  · decide
  · decide
  · decide
  · rw [htext] at hurl
    obtain rfl | rfl | rfl := (startsUrl_cons hurl).1 <;> decide

/-- An item does not begin with white space. -/
theorem Begins.isBlank_of_opensItem (h : Begins (c :: cs) l next) (hopens : l.OpensItem)
    (hplain : l.isPlain = true) : isBlank c = false := by
  by_contra hblank
  rw [Bool.not_eq_false] at hblank
  cases hl : l.isDelimited with
  | true => exact Bool.false_ne_true ((h.isBlank_eq_false hl).symm.trans hblank)
  | false =>
    have hspace := isSpace_of_isPlain hplain hl (by simp [(begins_cons.mp h).2.1]) hblank
    obtain ⟨rfl, -⟩ := h.unique (begins_blank hspace cs)
    exact hopens.1 rfl

/-- White space between two lexemes. -/
theorem Lexes.isSpace_of_isBlank (h : Lexes (w ++ t) ls rest) (hlength : rest.length ≤ t.length)
    (hplain : ∀ l ∈ ls, l.isPlain = true) (hw : ∀ c ∈ w, isBlank c = true) :
    ∀ c ∈ w, isSpace c = true := by
  intro c hc
  obtain ⟨a, b, rfl⟩ := List.append_of_mem hc
  obtain ⟨l, hl, a', u, v, next, rfl, htext, -, -, hbegins⟩ :=
    h.exists_mem (c := c) (a := a) (b := b ++ t) (by simp) (by rw [List.length_append]; omega)
  refine isSpace_of_isPlain (hplain l hl) ?_ (by simp [htext]) (hw c hc)
  -- a comment, a string and a url do not begin with white space
  cases u with
  | nil =>
    by_contra hdelimited
    have := hbegins.isBlank_eq_false (by simpa using hdelimited)
    rw [hw c hc] at this
    cases this
  | cons d u =>
    by_contra hdelimited
    have := hbegins.isBlank_eq_false (by simpa using hdelimited)
    rw [hw d (by simp)] at this
    cases this

/-- The delimiter at the end of a comment, a string or a url is not cut off. -/
theorem Lexeme.IsEnded.not_forall_isCutOff (h : l.IsEnded) (htext : l.text = u ++ c :: v) :
    ¬∀ d ∈ c :: v, IsCutOff d := by
  obtain ⟨u', d, hd, hlast⟩ := h.last
  intro hcut
  have hmem : d ∈ c :: v := by
    have := congrArg List.getLast? (htext.symm.trans hlast)
    rw [List.getLast?_append, List.getLast?_append, Option.or_of_isSome (by simp)] at this
    exact List.mem_of_getLast? this
  have hcut := hcut d hmem
  simp only [List.mem_cons, List.not_mem_nil, or_false] at hd
  rcases hd with rfl | rfl | rfl | rfl <;> revert hcut <;> simp [IsCutOff] <;> decide

/-- White space that is cut off at the end of an item. -/
theorem Lexes.isSpace_of_isCutOff (h : Lexes (y ++ (g ++ mid)) ls mid)
    (hclosed : ∀ l ∈ ls, l.IsClosed) (hplain : ∀ l ∈ ls, l.isPlain = true)
    (hg : ∀ c ∈ g, IsCutOff c) : ∀ c ∈ g, isSpace c = true ∨ c = ';' ∨ c = '\x7b' := by
  intro c hc
  refine (hg c hc).imp_left fun hblank => ?_
  obtain ⟨a, b, rfl⟩ := List.append_of_mem hc
  obtain ⟨l, hl, a', u, v, next, ha, htext, hv, ⟨t, ht⟩, -⟩ :=
    h.exists_mem (c := c) (a := y ++ a) (b := b ++ mid) (by simp) (by rw [List.length_append]; omega)
  refine isSpace_of_isPlain (hplain l hl) ?_ (by simp [htext]) hblank
  by_contra hdelimited
  rw [Bool.not_eq_false] at hdelimited
  rw [← ht, ← List.append_assoc] at hv
  obtain rfl := List.append_cancel_right hv
  refine ((hclosed l hl).isEnded hdelimited).not_forall_isCutOff htext fun d hd => hg d ?_
  simp only [List.mem_append, List.mem_cons] at hd ⊢
  tauto

end White

/-! ### White space before a colon -/

section Colon

variable {l : Lexeme} {next q t p w r rest : List Char} {ls : List Lexeme}

/-- A name does not go on with a colon that is not escaped. -/
theorem nameLength_le_of_colon {e : Escape} (hlast : ∀ c ∈ q.getLast?, c ≠ '\\')
    (he : q = [] → e ≠ .backslash) : nameLength e (q ++ ':' :: t) ≤ q.length := by
  induction q generalizing e with
  | nil =>
    have htakes : e.takes ':' = false := by
      cases e with
      | backslash => exact absurd rfl (he rfl)
      | none | carriage => rfl
      | hex n => simp [Escape.takes, isHexDigit, hexDigitValue?, isSpace, isLineEnd]
    simp [nameLength, htakes, isNameChar, isNameStart, isAsciiLetter, isAsciiDigit]
  | cons c q ih =>
    -- only a backslash right before the colon would take it, and the last character is none
    have htail : ∀ d ∈ q.getLast?, d ≠ '\\' := fun d hd => hlast d (by
      cases q with
      | nil => cases hd
      | cons d' q => simpa using hd)
    have hafter : e.after c ≠ .backslash := by
      unfold Escape.after
      split
      · split_ifs <;> simp
      · split_ifs <;> simp
      · simp
    rw [List.cons_append, nameLength, List.length_cons]
    split_ifs with htakes hname hback
    · exact Nat.succ_le_succ (ih htail fun _ => hafter)
    · exact Nat.succ_le_succ (ih htail fun _ => by simp)
    · refine Nat.succ_le_succ (ih htail fun hnil => ?_)
      subst hnil
      simp only [Bool.and_eq_true, beq_iff_eq] at hback
      exact absurd hback.1 (hlast c rfl)
    · exact Nat.zero_le _

/-- No url begins in a text without a bracket before a colon, unless the colon is escaped. -/
theorem startsUrl_eq_false (hlast : ∀ c ∈ q.getLast?, c ≠ '\\') (hq : '(' ∉ q) :
    startsUrl (q ++ ':' :: t) = false := by
  by_contra hurl
  obtain ⟨name, b, htext, hlength, -⟩ := exists_of_startsUrl (by simpa using hurl)
  have hle := nameLength_le_of_colon (t := t) (e := .none) hlast (by simp)
  rw [hlength] at hle
  obtain ⟨a, rfl, hcolon⟩ | ⟨a, rfl, hparen⟩ := List.append_eq_append_iff.mp htext
  · obtain rfl : a = [] := List.eq_nil_of_length_eq_zero (by rw [List.length_append] at hle; omega)
    rw [List.nil_append, List.cons.injEq] at hcolon
    exact absurd hcolon.1 (by decide)
  · cases a with
    | nil =>
      rw [List.nil_append, List.cons.injEq] at hparen
      exact absurd hparen.1 (by decide)
    | cons d a =>
      rw [List.cons_append, List.cons.injEq] at hparen
      exact hq (List.mem_append_right name (hparen.1 ▸ List.mem_cons_self))

/-- A lexeme that begins where nothing can begin a comment, a string or a url and goes past a colon is
none of them. -/
theorem Begins.isDelimited_of_colon (h : Begins (q ++ ':' :: r) l next)
    (hq : ∀ c ∈ q, c ∉ ['"', '\'', '(', '/']) (hne : q ≠ []) (hlast : ∀ c ∈ q.getLast?, c ≠ '\\')
    (htext : l.text = q ++ ':' :: t) : l.isDelimited = false := by
  obtain ⟨c, q, rfl⟩ := List.exists_cons_of_ne_nil hne
  have hc := hq c List.mem_cons_self
  by_contra hdelimited
  obtain rfl | (rfl | rfl) | hurl := Begins.cases_of_isDelimited h (by simpa using hdelimited)
  · simp at hc
  · simp at hc
  · simp at hc
  · rw [htext, startsUrl_eq_false hlast fun h => hq _ h (by simp)] at hurl
    cases hurl

/-- White space between a property and its colon, if nothing in the property can begin a comment, a
string or a url. -/
theorem Lexes.isSpace_of_colon (h : Lexes (p ++ (w ++ ':' :: r)) ls rest)
    (hlength : rest.length ≤ r.length) (hclosed : ∀ l ∈ ls, l.IsClosed)
    (hplain : ∀ l ∈ ls, l.isPlain = true) (hp : ∀ c ∈ p, c ∉ ['"', '\'', '(', '/'])
    (hw : ∀ c ∈ w, isBlank c = true) : ∀ c ∈ w, isSpace c = true := by
  intro c hc
  obtain ⟨a, b, rfl⟩ := List.append_of_mem hc
  obtain ⟨l, hl, a', u, v, next, ha, htext, hv, -, hbegins⟩ :=
    h.exists_mem (c := c) (a := p ++ a) (b := b ++ ':' :: r) (by simp)
      (by rw [List.length_append, List.length_cons]; omega)
  refine isSpace_of_isPlain (hplain l hl) ?_ (by simp [htext]) (hw c hc)
  by_contra hdelimited
  rw [Bool.not_eq_false] at hdelimited
  have hended := (hclosed l hl).isEnded hdelimited
  have hb : ∀ d ∈ c :: b, isBlank d = true := fun d hd => hw d (List.mem_append_right a hd)
  -- the lexeme ends after the white space, so that it goes past the colon
  obtain ⟨t, rfl⟩ : ∃ t, v = b ++ ':' :: t := by
    have hpast {t : List Char} (ht : b = v ++ t) : False := by
      refine hended.not_forall_isCutOff htext fun d hd => .inl (hb d ?_)
      rw [ht, ← List.cons_append]
      exact List.mem_append_left t hd
    obtain ⟨t, rfl, ht⟩ | ⟨t, ht, -⟩ := List.append_eq_append_iff.mp hv
    · cases t with
      | nil => exact (hpast (t := []) (by simp)).elim
      | cons d t =>
        rw [List.cons_append, List.cons.injEq] at ht
        exact ⟨t, by rw [ht.1]⟩
    · exact (hpast ht).elim
  have hfree : ∀ d ∈ u ++ c :: b, d ∉ ['"', '\'', '(', '/'] := by
    intro d hd
    have hmem : d ∈ p ∨ isBlank d = true := by
      have hu (hd : d ∈ u) : d ∈ p ∨ d ∈ a := List.mem_append.mp (ha ▸ List.mem_append_right a' hd)
      obtain hd | hd := List.mem_append.mp hd
      · exact (hu hd).imp_right fun hd => hw d (List.mem_append_left _ hd)
      · exact .inr (hb d hd)
    refine hmem.elim (hp d) fun hblank => ?_
    simp only [List.mem_cons, List.not_mem_nil, or_false]
    rintro (rfl | rfl | rfl | rfl) <;> revert hblank <;> decide
  have hlast : ∀ d ∈ (u ++ c :: b).getLast?, d ≠ '\\' := by
    rintro d hd rfl
    rw [List.getLast?_append, Option.or_of_isSome (by simp)] at hd
    exact absurd (hb _ (List.mem_of_getLast? hd)) (by decide)
  have hfalse := Begins.isDelimited_of_colon (q := u ++ c :: b) (by simpa using hbegins) hfree
    (by simp) hlast (by simpa using htext)
  rw [hdelimited] at hfalse
  cases hfalse

end Colon

end SourceEdit.Stylesheet
