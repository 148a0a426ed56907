import SourceEdit.Proofs.Stylesheet.Scan
import SourceEdit.Proofs.Text.Trim
import SourceEdit.Selector.Pattern
import SourceEdit.Stylesheet.Node

/-!
# Selector lists

The selector of a rule may list several selectors with commas between them.  A comma inside of
brackets, of a string or of a comment belongs to the selector around it.  `selectorsOf` separates a
list in this sense, lexeme by lexeme as items are scanned, and `Names` says that a descriptor is a
whole list or one of its selectors.

An exact pattern goes by every comma of the text instead.  What it compares with the descriptor are the
parts between the commas of the selectors in the list (`isMatch_exact_iff`).  So it agrees with `Names`
on the lists in which every comma separates two selectors.  In other lists, a descriptor without a
comma is found wherever it is named, and also where it is a part of a selector; a descriptor with a
comma is only found as a whole list (`isMatch_iff_names`).
-/

namespace SourceEdit

/-! ### Normalized texts -/

section Normalized

variable {c : Char} {cs : List Char}

theorem mem_collapseFrom_iff (hc : isBlank c = false) {inRun : Bool} :
    c ∈ collapseFrom inRun cs ↔ c ∈ cs := by
  have hspace : c ≠ ' ' := by
    rintro rfl
    cases hc
  induction cs generalizing inRun with
  | nil => rfl
  | cons d cs ih =>
    rw [collapseFrom, List.mem_cons]
    split_ifs with hd
    · have hne : c ≠ d := by
        rintro rfl
        simp [hc] at hd
      simp [ih, hne]
    · have hne : c ≠ d := by
        rintro rfl
        simp [hc] at hd
      simp [ih, hne, hspace]
    · simp [ih]

/-- Normalizing keeps what is not white space. -/
theorem mem_normalizeBlank_iff (hc : isBlank c = false) : c ∈ normalizeBlank cs ↔ c ∈ cs := by
  rw [normalizeBlank, mem_collapseFrom_iff hc]
  obtain ⟨a, b, hcs, ha, hb, -⟩ := trim_spec cs
  have hna : c ∉ a := fun hmem => by simp [ha c hmem] at hc
  have hnb : c ∉ b := fun hmem => by simp [hb c hmem] at hc
  conv_rhs => rw [hcs]
  simp [hna, hnb]

end Normalized

namespace Stylesheet

/-! ### Selectors between separating commas -/

/-- The texts of a run of lexemes between the commas outside of brackets; there is always at least one.
`open_` lists the brackets that are open. -/
def separate (open_ : List Bracket) : List Lexeme → List (List Char)
  | [] => [[]]
  | l :: ls =>
    if open_.isEmpty && l.text == [','] then [] :: separate [] ls
    else match separate (bracketsAfter open_ l.kind) ls with
      | part :: parts => (l.text ++ part) :: parts
      | [] => [l.text]

/-- The selectors that a selector list is made of. -/
def selectorsOf (selector : List Char) : List (List Char) :=
  separate [] (Lexeme.ofText selector)

/-- A descriptor is the whole selector of a rule or one of the selectors listed there, up to white
space. -/
def Names (descriptor selector : String) : Prop :=
  normalizeBlank selector.toList = normalizeBlank descriptor.toList ∨
    ∃ part ∈ selectorsOf selector.toList, normalizeBlank part = normalizeBlank descriptor.toList

instance (descriptor selector : String) : Decidable (Names descriptor selector) :=
  inferInstanceAs (Decidable (_ ∨ _))

example : selectorsOf "a , :is(b, c)[d=',']/*,*/".toList =
    ["a ".toList, " :is(b, c)[d=',']/*,*/".toList] := by decide

theorem separate_ne_nil (open_ : List Bracket) (ls : List Lexeme) : separate open_ ls ≠ [] := by
  cases ls with
  | nil => simp [separate]
  | cons l ls =>
    rw [separate]
    split_ifs
    · simp
    · split <;> simp

/-- Going by every comma of a text is going by every comma of its selectors. -/
theorem splitAt_flatMap_text (open_ : List Bracket) (ls : List Lexeme) :
    splitAt ',' (ls.flatMap Lexeme.text) = (separate open_ ls).flatMap (splitAt ',') := by
  induction ls generalizing open_ with
  | nil => rfl
  | cons l ls ih =>
    rw [List.flatMap_cons, separate]
    split_ifs with hcomma
    · have htext : l.text = [','] := by simpa using (Bool.and_eq_true_iff.mp hcomma).2
      rw [htext, List.singleton_append, splitAt, if_pos rfl, ih []]
      rfl
    · have hls := ih (bracketsAfter open_ l.kind)
      cases hparts : separate (bracketsAfter open_ l.kind) ls with
      | nil => exact absurd hparts (separate_ne_nil _ ls)
      | cons part parts =>
        rw [hparts, List.flatMap_cons] at hls
        exact splitAt_append hls l.text

/-- The lexemes of a text put together are the text. -/
theorem flatMap_text_ofText (text : List Char) : (Lexeme.ofText text).flatMap Lexeme.text = text := by
  induction hn : text.length using Nat.strong_induction_on generalizing text with
  | _ n ih =>
    by_cases hnil : text = []
    · subst hnil
      rfl
    · obtain ⟨l, next, hbegins⟩ := exists_begins hnil
      rw [hbegins.ofText_eq, List.flatMap_cons, ih _ (hn ▸ hbegins.length_lt) next rfl,
        ← hbegins.eq_append]

theorem splitAt_selectorsOf (selector : List Char) :
    splitAt ',' selector = (selectorsOf selector).flatMap (splitAt ',') := by
  rw [selectorsOf, ← splitAt_flatMap_text, flatMap_text_ofText]

/-! ### Exact patterns -/

/-- An exact pattern is compared with the whole selector and with the parts of the selectors listed
there. -/
theorem isMatch_exact_iff {wanted : List Char} {selector : String} :
    (SelectorPattern.exact wanted).isMatch selector = true ↔
      normalizeBlank selector.toList = wanted ∨ ∃ part ∈ selectorsOf selector.toList,
        ∃ piece ∈ splitAt ',' part, normalizeBlank piece = wanted := by
  rw [SelectorPattern.isMatch, splitAt_selectorsOf]
  simp only [Bool.or_eq_true, beq_iff_eq, List.any_eq_true, List.mem_flatMap]
  constructor
  · rintro (h | ⟨piece, ⟨part, hpart, hpiece⟩, h⟩)
    · exact .inl h
    · exact .inr ⟨part, hpart, piece, hpiece, h⟩
  · rintro (h | ⟨part, hpart, piece, hpiece, h⟩)
    · exact .inl h
    · exact .inr ⟨piece, ⟨part, hpart, hpiece⟩, h⟩

theorem eq_of_ofText_eq_exact {descriptor : String} {wanted : List Char}
    (h : SelectorPattern.ofText descriptor = .ok (.exact wanted)) :
    wanted = normalizeBlank descriptor.toList := by
  unfold SelectorPattern.ofText at h
  dsimp only at h
  split at h
  · obtain rfl := SelectorPattern.exact.inj (Except.ok.inj h)
    rw [normalizeBlank, trim_eq_self (trimmed_trim _), normalizeBlank]
  · split at h <;> cases h

/-- If every comma of a selector list separates two selectors, an exact descriptor matches what it
names.  In whatever list, a descriptor without a comma matches what it names, and besides a selector
in which it stands between commas; one with a comma matches the whole list only. -/
theorem isMatch_iff_names {descriptor selector : String} {wanted : List Char}
    (h : SelectorPattern.ofText descriptor = .ok (.exact wanted)) :
    ((∀ part ∈ selectorsOf selector.toList, ',' ∉ part) →
      ((SelectorPattern.exact wanted).isMatch selector = true ↔ Names descriptor selector)) ∧
    (',' ∉ descriptor.toList →
      ((SelectorPattern.exact wanted).isMatch selector = true ↔
        Names descriptor selector ∨ ∃ part ∈ selectorsOf selector.toList, ',' ∈ part ∧
          ∃ piece ∈ splitAt ',' part, normalizeBlank piece = normalizeBlank descriptor.toList)) ∧
    (',' ∈ descriptor.toList →
      ((SelectorPattern.exact wanted).isMatch selector = true ↔
        normalizeBlank selector.toList = normalizeBlank descriptor.toList)) := by
  obtain rfl := eq_of_ofText_eq_exact h
  rw [isMatch_exact_iff, Names]
  -- a selector without a comma has no other part than itself
  have hwhole {part piece : List Char} (hpart : ',' ∉ part) (hpiece : piece ∈ splitAt ',' part) :
      piece = part := by
    rwa [splitAt_eq_singleton hpart, List.mem_singleton] at hpiece
  have hself {part : List Char} (hpart : ',' ∉ part) : part ∈ splitAt ',' part := by
    rw [splitAt_eq_singleton hpart]
    exact List.mem_singleton_self part
  have hkept {part : List Char} (hpart : normalizeBlank part = normalizeBlank descriptor.toList) :
      ',' ∈ part ↔ ',' ∈ descriptor.toList := by
    rw [← mem_normalizeBlank_iff (by decide), hpart, mem_normalizeBlank_iff (by decide)]
  refine ⟨fun hseparates => or_congr_right ⟨?_, ?_⟩, fun hdescriptor => ⟨?_, ?_⟩,
    fun hdescriptor => or_iff_left ?_⟩
  · rintro ⟨part, hpart, piece, hpiece, hnamed⟩
    exact ⟨part, hpart, hwhole (hseparates part hpart) hpiece ▸ hnamed⟩
  · rintro ⟨part, hpart, hnamed⟩
    exact ⟨part, hpart, part, hself (hseparates part hpart), hnamed⟩
  · rintro (hlist | ⟨part, hpart, piece, hpiece, hnamed⟩)
    · exact .inl (.inl hlist)
    · by_cases hcomma : ',' ∈ part
      · exact .inr ⟨part, hpart, hcomma, piece, hpiece, hnamed⟩
      · exact .inl (.inr ⟨part, hpart, hwhole hcomma hpiece ▸ hnamed⟩)
  · rintro ((hlist | ⟨part, hpart, hnamed⟩) | ⟨part, hpart, -, piece, hpiece, hnamed⟩)
    · exact .inl hlist
    · have hcomma : ',' ∉ part := mt (hkept hnamed).mp hdescriptor
      exact .inr ⟨part, hpart, part, hself hcomma, hnamed⟩
    · exact .inr ⟨part, hpart, piece, hpiece, hnamed⟩
  · rintro ⟨part, -, piece, hpiece, hnamed⟩
    exact not_mem_of_mem_splitAt hpiece ((hkept hnamed).mpr hdescriptor)

/-- Lists with and without brackets, and descriptors with and without a comma. -/
theorem isMatch_iff_names_list :
    let pair := SelectorPattern.exact ".b .c".toList
    let choice := SelectorPattern.exact ":is(b, c)".toList
    (SelectorPattern.ofText " .b  .c " = .ok pair ∧ SelectorPattern.ofText ":is(b, c)" = .ok choice) ∧
      (Names " .b  .c " "a[b],.b .c , d" ∧ pair.isMatch "a[b],.b .c , d" = true) ∧
      (¬ Names " .b  .c " "a,:is(b, c)" ∧ pair.isMatch "a,:is(b, c)" = false) ∧
      choice.isMatch ":is(b,  c)" = true := by
  intro pair choice
  have hpair : SelectorPattern.ofText " .b  .c " = .ok pair := by rfl
  have hchoice : SelectorPattern.ofText ":is(b, c)" = .ok choice := by rfl
  have hnames : Names " .b  .c " "a[b],.b .c , d" := by decide
  have hlist : pair.isMatch "a[b],.b .c , d" = true :=
    ((isMatch_iff_names hpair).1 (by decide)).mpr hnames
  have hapart : pair.isMatch "a,:is(b, c)" = false := Bool.eq_false_iff.mpr fun h =>
    absurd (((isMatch_iff_names hpair).2.1 (by decide)).mp h) (by decide)
  have hwhole : choice.isMatch ":is(b,  c)" = true :=
    ((isMatch_iff_names hchoice).2.2 (by decide)).mpr (by decide)
  exact ⟨⟨hpair, hchoice⟩, ⟨hnames, hlist⟩, ⟨by decide, hapart⟩, hwhole⟩

/-- An exact pattern is misled by commas that belong to a selector: a descriptor of one selector
matches rules that it does not name, and misses one that it names. -/
theorem isMatch_of_enclosed_comma :
    let matches_ (descriptor selector : String) : Bool :=
      (SelectorPattern.ofText descriptor).toOption.any (·.isMatch selector)
    (selectorsOf ".c".toList = [".c".toList] ∧
      matches_ ".c" ":is(.b, .c, .d)" = true ∧ ¬ Names ".c" ":is(.b, .c, .d)" ∧
      matches_ ".c" "a[b='d,.c,e']" = true ∧ ¬ Names ".c" "a[b='d,.c,e']") ∧
    selectorsOf ":is(.b, .c)".toList = [":is(.b, .c)".toList] ∧
      matches_ ":is(.b, .c)" "a, :is(.b, .c)" = false ∧ Names ":is(.b, .c)" "a, :is(.b, .c)" := by
  decide

end Stylesheet

end SourceEdit
