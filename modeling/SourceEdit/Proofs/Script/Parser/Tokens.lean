import Mathlib.Data.List.TakeWhile
import SourceEdit.Script.Lexer

/-!
# Tokens

What is known of the tokens that are strings: an ordinary one starts with a quote, and the value of
an attribute holds none of the quotes that it stands between.  And the other way round, which token a
text starts with (`Lexer.Gives`): a mark, a name, the text between tags, the text of an attribute.
-/

namespace SourceEdit.Script

/-- A text can be put between quotes as it is, since it lacks those of one kind. -/
def IsQuotable (raw : List Char) : Prop := '"' ∉ raw ∨ '\'' ∉ raw

instance (raw : List Char) : Decidable (IsQuotable raw) := inferInstanceAs (Decidable (_ ∨ _))

namespace Lexer

variable {fuel : Nat} {p : Place} {lead : Lead} {html : Bool} {cs rest : List Char}

@[simp]
theorem kind_build (kind : Token.Kind) (text rest : List Char) :
    (build p lead kind text rest).kind = kind := rfl

@[simp]
theorem text_build (kind : Token.Kind) (text rest : List Char) :
    (build p lead kind text rest).text = text := rfl

@[simp]
theorem kind_invalid : (invalid p lead).kind = .invalid := rfl

/-- A string starts with a quote. -/
theorem read_string {c : Char} (hp : p.rest = c :: cs)
    (h : (read fuel p lead).kind = .string) : c = '"' ∨ c = '\'' := by
  unfold read at h
  simp only [hp] at h
  -- No other branch gives a string.
  split at h
  · split at h
    · cases h
    · simp only [kind_build] at h
      split at h <;> cases h
  · split at h
    · split at h
      · rw [kind_build] at h
        split at h <;> cases h
      · cases h
    · split at h
      · next hquote => simpa using hquote
      · exfalso
        split at h
        · split at h <;> cases h
        · split at h
          · split at h <;> cases h
          · split at h
            · cases h
            · split at h
              · split at h
                · cases h
                · split at h <;> cases h
              · split at h <;> cases h

/-- The value of an attribute holds no quotes of the kind that it stands between. -/
theorem isQuotable_next {t : Trivia} {token : Token}
    (hnext : (next .attributeValue html fuel p t).1 = token) (h : token.kind = .string) :
    IsQuotable token.text := by
  unfold next at hnext
  dsimp only at hnext
  split at hnext
  · subst hnext
    cases h
  · next place t lead _ =>
    simp only [beq_self_eq_true, if_true] at hnext
    split at hnext
    · next c cs hrest =>
      split at hnext
      · next hquote =>
        have hraw : c ∉ cs.takeWhile (· != c) := by
          intro hc
          simpa using List.mem_takeWhile_imp hc
        split at hnext
        · subst hnext
          obtain rfl | rfl : c = '"' ∨ c = '\'' := by simpa using hquote
          · exact .inl hraw
          · exact .inr hraw
        · subst hnext
          cases h
      · next hquote =>
        subst hnext
        exact (hquote (by simpa using read_string hrest h)).elim
    · next hrest =>
      subst hnext
      simp [read, hrest] at h

/-! ### Where tokens start -/

/-- Whether a text starts with a token, and not with what is skipped before one. -/
def startsToken (cs : List Char) : Bool :=
  !(['/', '/'].isPrefixOf cs || ['/', '*'].isPrefixOf cs || ['<', '!', '-', '-'].isPrefixOf cs ||
    ['-', '-', '>'].isPrefixOf cs || cs.head?.any fun c => isLineEnd c || isSpace c)

/-- Nothing is skipped where a token starts. -/
theorem skip_of_startsToken (h : startsToken p.rest = true) (fuel : Nat) (t : Trivia) :
    skip html fuel p t lead = some (p, t, lead) := by
  obtain ⟨cs, offset⟩ := p
  cases fuel with
  | zero => rfl
  | succ n =>
    simp only [startsToken, Bool.not_eq_true', Bool.or_eq_false_iff] at h
    obtain ⟨⟨⟨⟨hline, hblock⟩, hopening⟩, hclosing⟩, hblank⟩ := h
    unfold skip
    dsimp only
    split
    · rfl
    · cases hline
    · cases hblock
    · next c cs _ _ =>
      simp only [List.head?_cons, Option.any_some, Bool.or_eq_false_iff] at hblank
      simp [hblank.1, hblank.2, hopening, hclosing]

/-! ### Tokens of a text -/

/-- The token at the head of a text, read in a mode, is of some kind. -/
def Gives (mode : Mode) (cs : List Char) (Q : Token → Prop) : Prop :=
  ∀ html fuel offset trivia, cs.length < fuel → Q (next mode html fuel ⟨cs, offset⟩ trivia).1

/-- The token at the head of a text without blanks is of some kind. -/
def Starts (cs : List Char) (Q : Token → Prop) : Prop :=
  ∀ fuel offset lead, cs.length < fuel → Q (read fuel ⟨cs, offset⟩ lead)

variable {Q R : Token → Prop} {mode : Mode}

/-- A token has every property that follows from those it has. -/
theorem Gives.imp (h : Gives mode cs Q) (himp : ∀ t, Q t → R t) : Gives mode cs R :=
  fun html fuel offset trivia hfuel => himp _ (h html fuel offset trivia hfuel)

/-- What a text starts with is its first token. -/
theorem Starts.plain (h : Starts cs Q) (hstarts : startsToken cs = true) : Gives .plain cs Q := by
  intro html fuel offset trivia hfuel
  unfold next
  simp only [skip_of_startsToken (p := ⟨cs, offset⟩) hstarts]
  exact h fuel offset _ hfuel

/-- A blank before a token is skipped. -/
theorem Starts.after_blank (h : Starts cs Q) (hstarts : startsToken cs = true) :
    Gives .plain (' ' :: cs) Q := by
  intro html fuel offset trivia hfuel
  obtain ⟨n, rfl⟩ := Nat.exists_eq_add_of_lt hfuel
  have hskip : skip html ((' ' :: cs).length + n + 1) ⟨' ' :: cs, offset⟩ trivia
      { onNewLine := false } = some (⟨cs, offset + 1⟩, trivia, { onNewLine := false }) :=
    skip_of_startsToken (p := ⟨cs, offset + 1⟩) hstarts _ _
  unfold next
  simp only [hskip]
  refine h _ _ _ ?_
  rw [List.length_cons] at hfuel ⊢
  omega

/-- The end of a line before a token is skipped. -/
theorem Starts.after_newLine (h : Starts cs Q) (hstarts : startsToken cs = true) :
    Gives .plain ('\n' :: cs) Q := by
  intro html fuel offset trivia hfuel
  obtain ⟨n, rfl⟩ := Nat.exists_eq_add_of_lt hfuel
  have hskip : skip html (('\n' :: cs).length + n + 1) ⟨'\n' :: cs, offset⟩ trivia
      { onNewLine := false } =
      some (⟨cs, offset + 1⟩, trivia.newLine, { onNewLine := true }) :=
    skip_of_startsToken (p := ⟨cs, offset + 1⟩) hstarts _ _
  unfold next
  simp only [hskip]
  refine h _ _ _ ?_
  rw [List.length_cons] at hfuel ⊢
  omega

/-! ### Punctuation -/

/-- A token is a mark with some text after it. -/
structure IsMark (punct : Punct) (rest : List Char) (t : Token) : Prop where
  kind : t.kind = .punct punct
  rest : t.rest = rest
  escaped : t.escaped = false

/-- Characters that start nothing but a mark. -/
def startsMark (c : Char) : Bool :=
  !isNameStart c && c != '\\' && !isAsciiDigit c && c != '"' && c != '\'' && c != '\x60' && c != '#' &&
    c != '.'

/-- A mark is a token as far as it goes. -/
theorem starts_mark {c : Char} {punct : Punct} (hc : startsMark c = true)
    (h : scanPunct? (c :: cs) = some (punct, rest)) : Starts (c :: cs) (IsMark punct rest) := by
  intro fuel offset lead _
  simp only [startsMark, Bool.and_eq_true, Bool.not_eq_true', bne_iff_ne, ne_eq] at hc
  unfold read
  simp [hc, h]
  exact ⟨rfl, rfl, rfl⟩

/-- An angle bracket that begins no shift and no comparison. -/
theorem starts_less (h : ∀ r, rest ≠ '<' :: r) (h' : ∀ r, rest ≠ '=' :: r) :
    Starts ('<' :: rest) (IsMark .less rest) := by
  refine starts_mark (by decide) ?_
  rw [scanPunct?]
  · exact fun r => h _
  · exact fun r => h _
  · exact fun r => h' _

theorem starts_greater : Starts ('>' :: rest) (IsMark .greater rest) :=
  starts_mark (by decide) rfl

/-- A slash that begins no assignment. -/
theorem starts_slash (h : ∀ r, rest ≠ '=' :: r) : Starts ('/' :: rest) (IsMark .slash rest) := by
  refine starts_mark (by decide) ?_
  rw [scanPunct?]
  exact fun r => h _

/-- An equals sign that begins neither a comparison nor an arrow. -/
theorem starts_eq (h : ∀ r, rest ≠ '=' :: r) (h' : ∀ r, rest ≠ '>' :: r) :
    Starts ('=' :: rest) (IsMark .eq rest) := by
  refine starts_mark (by decide) ?_
  rw [scanPunct?]
  · exact fun r => h _
  · exact fun r => h _
  · exact fun r => h' _

theorem starts_semicolon : Starts (';' :: rest) (IsMark .semicolon rest) :=
  starts_mark (by decide) (by rw [scanPunct?])

/-! ### Names -/

/-- The part of a name before its first dash. -/
def firstWord : List Char → List Char
  | [] => []
  | c :: cs => c :: cs.takeWhile isNamePart

/-- What stands after the first word of a name. -/
def afterFirstWord : List Char → List Char
  | [] => []
  | _ :: cs => cs.dropWhile isNamePart

/-- A name that may hold dashes. No blank starts a name, but that is a fact of the tables of
characters that is not gone into. -/
def isDashedName : List Char → Bool
  | [] => false
  | c :: cs => (isNameStart c && !(isLineEnd c || isSpace c)) &&
    cs.all fun d => isNamePart d || d == '-'

/-- A text does not go on with a name. -/
def endsName (rest : List Char) : Bool :=
  !rest.head?.any fun c => isNamePart c || c == '-' || c == '\\'

/-- A token is the first word of a name with dashes; after the name stands some text. -/
structure IsNameStart (name rest : List Char) (t : Token) : Prop where
  kind : t.kind = match Word.ofName? (firstWord name) with
    | some w => .word w
    | none => .name
  source : t.source = name ++ rest
  rest : t.rest = afterFirstWord name ++ rest
  escaped : t.escaped = false

/-- A token starts with a name. -/
theorem startsToken_name {name : List Char} (hname : isDashedName name = true) (rest : List Char) :
    startsToken (name ++ rest) = true := by
  cases name with
  | nil => cases hname
  | cons c cs =>
    obtain ⟨hc, -⟩ := Bool.and_eq_true_iff.mp hname
    obtain ⟨hc, hblank⟩ := Bool.and_eq_true_iff.mp hc
    have hslash : c ≠ '/' := by rintro rfl; revert hc; decide
    have hless : c ≠ '<' := by rintro rfl; revert hc; decide
    have hdash : c ≠ '-' := by rintro rfl; revert hc; decide
    rw [Bool.not_eq_true'] at hblank
    simp [startsToken, List.isPrefixOf, hblank, hslash.symm, hless.symm, hdash.symm]

/-- What is scanned of a text that goes on with a name. -/
theorem scanName_append {name : List Char} (hname : ∀ c ∈ name, isNamePart c = true)
    (hrest : ∀ c, rest.head? = some c → isNamePart c = false ∧ c ≠ '\\')
    (hfuel : name.length < fuel) :
    scanName fuel false (name ++ rest) = ⟨name, false, true, rest⟩ := by
  induction name generalizing fuel with
  | nil =>
    obtain ⟨n, rfl⟩ := Nat.exists_eq_add_of_lt hfuel
    cases rest with
    | nil => rfl
    | cons c r =>
      obtain ⟨hpart, hescape⟩ := hrest c rfl
      simp [scanName, hpart, hescape]
  | cons c cs ih =>
    obtain ⟨n, rfl⟩ : ∃ n, fuel = n + 1 := ⟨fuel - 1, by omega⟩
    obtain ⟨hc, hcs⟩ := List.forall_mem_cons.mp hname
    have hih : scanName n false (cs ++ rest) = ⟨cs, false, true, rest⟩ :=
      ih hcs (by simpa using hfuel)
    simp [scanName, hc, hih]

/-- A name with dashes is read word by word, and the first token is its first word. -/
theorem starts_name {name : List Char} (hname : isDashedName name = true)
    (hrest : endsName rest = true) : Starts (name ++ rest) (IsNameStart name rest) := by
  intro fuel offset lead hfuel
  cases name with
  | nil => cases hname
  | cons c cs =>
    obtain ⟨hc, hcs⟩ := Bool.and_eq_true_iff.mp hname
    obtain ⟨hc, -⟩ := Bool.and_eq_true_iff.mp hc
    obtain ⟨n, rfl⟩ : ∃ n, fuel = n + 1 := ⟨fuel - 1, by omega⟩
    have hsplit : cs.takeWhile isNamePart ++ (cs.dropWhile isNamePart ++ rest) = cs ++ rest := by
      rw [← List.append_assoc, List.takeWhile_append_dropWhile]
    have hscan : scanName n false (cs ++ rest) =
        ⟨cs.takeWhile isNamePart, false, true, cs.dropWhile isNamePart ++ rest⟩ := by
      rw [← hsplit]
      -- the first word ends at a dash, or where the name does
      refine scanName_append (fun d hd => List.mem_takeWhile_imp hd) ?_ ?_
      · intro d hd
        have hdrop := List.head?_dropWhile_not isNamePart cs
        cases hmore : cs.dropWhile isNamePart with
        | nil =>
          rw [hmore, List.nil_append] at hd
          simp only [endsName, hd, Option.any_some, Bool.not_eq_true', Bool.or_eq_false_iff] at hrest
          exact ⟨hrest.1.1, by simpa using hrest.2⟩
        | cons d' more =>
          rw [hmore] at hd hdrop
          obtain rfl : d' = d := by simpa using hd
          have hmem : d' ∈ cs := (List.dropWhile_suffix _).subset (hmore ▸ List.mem_cons_self)
          have hdash := List.all_eq_true.mp hcs d' hmem
          have hpart : isNamePart d' = false := hdrop
          obtain rfl : d' = '-' := by simpa [hpart] using hdash
          exact ⟨hpart, by decide⟩
      · have := (List.takeWhile_sublist isNamePart (l := cs)).length_le
        simp only [List.length_append, List.length_cons] at hfuel
        omega
    unfold read
    simp only [List.cons_append, hc, Bool.true_or, if_true]
    rw [scanName]
    simp only [hc, hscan, if_true]
    exact ⟨rfl, rfl, rfl, rfl⟩

/-- What follows the first word is the end of the name. -/
theorem afterFirstWord_suffix (name : List Char) : afterFirstWord name <:+ name := by
  cases name with
  | nil => exact List.suffix_refl _
  | cons c cs => exact (List.dropWhile_suffix _).trans (List.suffix_cons c cs)

/-- The first word of a name is read as the whole name where elements and their attributes are
named. -/
theorem IsNameStart.asElementName {name : List Char} {t : Token} (h : IsNameStart name rest t)
    (hname : isDashedName name = true) (hrest : endsName rest = true) :
    (asElementName t).text = name ∧ (asElementName t).rest = rest ∧
      (asElementName t).escaped = false := by
  have hmore : (afterFirstWord name ++ rest).takeWhile (fun c => isNamePart c || c == '-') =
      afterFirstWord name := by
    rw [List.takeWhile_append_of_pos]
    · cases rest with
      | nil => simp
      | cons c r =>
        rw [List.takeWhile_cons_of_neg, List.append_nil]
        simp only [endsName, List.head?_cons, Option.any_some, Bool.not_eq_true',
          Bool.or_eq_false_iff] at hrest
        simp [hrest.1]
    · cases name with
      | nil => simp [afterFirstWord]
      | cons c cs =>
        intro d hd
        exact List.all_eq_true.mp (Bool.and_eq_true_iff.mp hname).2 d
          ((List.dropWhile_suffix _).subset hd)
  have hlength : (name ++ rest).length - (afterFirstWord name ++ rest).length +
      (afterFirstWord name).length = name.length := by
    have := (afterFirstWord_suffix name).length_le
    simp only [List.length_append]
    omega
  refine ⟨?_, ?_, h.escaped⟩
  · change t.source.take (t.source.length - t.rest.length + (t.rest.takeWhile _).length) = name
    rw [h.source, h.rest, hmore, hlength, List.take_left]
  · change t.rest.drop (t.rest.takeWhile _).length = rest
    rw [h.rest, hmore, List.drop_left]

/-! ### Other tokens -/

theorem starts_end : Starts [] (fun t => t.kind = .endOfText) := fun _ _ _ _ => rfl

/-- The text between tags. -/
structure IsElementText (raw rest : List Char) (t : Token) : Prop where
  kind : t.kind = .elementText
  text : t.text = raw
  rest : t.rest = rest
  escaped : t.escaped = false

/-- The text of an attribute between its quotes. -/
structure IsAttributeText (raw rest : List Char) (t : Token) : Prop where
  kind : t.kind = .string
  text : t.text = raw
  rest : t.rest = rest
  escaped : t.escaped = false

/-- The value of an attribute goes up to its closing quote. -/
theorem gives_attributeText {quote : Char} {raw : List Char} (hquote : quote = '"' ∨ quote = '\'')
    (hraw : quote ∉ raw) :
    Gives .attributeValue (quote :: raw ++ quote :: rest) (IsAttributeText raw rest) := by
  intro html fuel offset trivia _
  have hstarts : startsToken (quote :: raw ++ quote :: rest) = true := by
    obtain rfl | rfl := hquote <;> rfl
  have htake : (raw ++ quote :: rest).takeWhile (· != quote) = raw := by
    rw [List.takeWhile_append_of_pos, List.takeWhile_cons_of_neg, List.append_nil]
    · simp
    · intro c hc
      simpa using ne_of_mem_of_not_mem hc hraw
  unfold next
  simp only [skip_of_startsToken (p := ⟨_, offset⟩) hstarts]
  have hkind : (quote == '"' || quote == '\'') = true := by simpa using hquote
  simp only [beq_self_eq_true, if_true, List.cons_append, hkind, htake, List.drop_left]
  exact ⟨rfl, rfl, rfl, rfl⟩

/-- A text between tags goes up to the next angle bracket or brace. -/
theorem gives_elementText {raw : List Char} (hne : raw ≠ [])
    (hraw : ∀ c ∈ raw, c ≠ '<' ∧ c ≠ '\x7b')
    (hrest : ∀ c, rest.head? = some c → c = '<' ∨ c = '\x7b') :
    Gives .elementContent (raw ++ rest) (IsElementText raw rest) := by
  intro html fuel offset trivia _
  have htake : (raw ++ rest).takeWhile (fun c => c != '<' && c != '\x7b') = raw := by
    rw [List.takeWhile_append_of_pos]
    · cases rest with
      | nil => simp
      | cons c r =>
        rw [List.takeWhile_cons_of_neg, List.append_nil]
        obtain rfl | rfl := hrest c rfl <;> decide
    · intro c hc
      simpa using hraw c hc
  unfold next
  obtain ⟨c, cs, rfl⟩ := List.exists_cons_of_ne_nil hne
  obtain ⟨hless, hbrace⟩ := hraw c List.mem_cons_self
  dsimp only
  split
  · next heq => cases heq
  · next heq => exact (hless (List.cons.inj heq).1).elim
  · next heq => exact (hbrace (List.cons.inj heq).1).elim
  · rw [htake]
    exact ⟨rfl, rfl, List.drop_left, rfl⟩

theorem gives_less_content : Gives .elementContent ('<' :: rest) (IsMark .less rest) :=
  fun _ _ _ _ _ => ⟨rfl, rfl, rfl⟩

end Lexer

end SourceEdit.Script
