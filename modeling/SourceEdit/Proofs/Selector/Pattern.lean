import SourceEdit.Proofs.Text.Normalize
import SourceEdit.Selector.Pattern

/-!
# Selectors that differ in white space

A descriptor between slashes is a regular expression (`IsSlashed`).  Every other descriptor is read as
an exact pattern, which is compared with a rule's selector and with the parts between its commas.

The descriptor is normalized when it is read, the whole selector when it is compared, and a part of it
after the selector has been separated.  None of this makes a difference: what an exact pattern is
compared with depends on the normalized selector only (`compared_congr`).  So neither the amount of
white space in a descriptor nor that in a selector has a say in whether they match, and a selector is
matched by itself and by each of its parts.
-/

namespace SourceEdit.SelectorPattern

variable {descriptor selector selector' : String} {wanted trimmed body : List Char}

/-! ### Descriptors between slashes -/

/-- A text is written between slashes, and something stands between them. -/
def IsSlashed (text : String) : Prop := ∃ body, body ≠ [] ∧ trim text.toList = '/' :: (body ++ ['/'])

/-- Between two slashes there is something if they are not all of the text. -/
private theorem two_lt_utf8ByteSize_iff :
    2 < String.utf8ByteSize (String.ofList ('/' :: (body ++ ['/']))) ↔ body ≠ [] := by
  have hslash : String.utf8ByteSize "/" = 1 := rfl
  have hsize : String.utf8ByteSize (String.ofList ('/' :: (body ++ ['/']))) =
      String.utf8ByteSize (String.ofList body) + 2 := by
    simp only [String.ofList_cons, String.reduceSingleton, String.ofList_append, String.ofList_nil,
      String.append_empty, String.utf8ByteSize_append, hslash]
    omega
  rw [hsize]
  cases body with
  | nil => simp
  | cons c body =>
    have hpos := c.utf8Size_pos
    simp only [String.ofList_cons, String.utf8ByteSize_append, String.utf8ByteSize_singleton,
      Nat.lt_add_left_iff_pos, ne_eq, reduceCtorEq, not_false_eq_true, iff_true]
    omega

theorem slashed?_eq_some_iff :
    slashed? trimmed = some body ↔ body ≠ [] ∧ trimmed = '/' :: (body ++ ['/']) := by
  constructor
  · intro h
    unfold slashed? at h
    split at h
    · next rest =>
      split_ifs at h with hcond
      obtain ⟨hsize, hlast⟩ := Bool.and_eq_true_iff.mp hcond
      obtain ⟨front, rfl⟩ := List.getLast?_eq_some_iff.mp (beq_iff_eq.mp hlast)
      obtain rfl : front = body := by simpa using h
      exact ⟨two_lt_utf8ByteSize_iff.mp (decide_eq_true_iff.mp hsize), rfl⟩
    · cases h
  · rintro ⟨hbody, rfl⟩
    have hsize := two_lt_utf8ByteSize_iff.mpr hbody
    have hlast : (body ++ ['/']).getLast? = some '/' := by simp
    simp only [slashed?, hlast, hsize]
    simp

theorem isSlashed_iff {text : String} : IsSlashed text ↔ (slashed? (trim text.toList)).isSome := by
  simp only [IsSlashed, Option.isSome_iff_exists, slashed?_eq_some_iff]

instance (text : String) : Decidable (IsSlashed text) := decidable_of_iff _ isSlashed_iff.symm

/-- Every descriptor that is not between slashes can be read, as an exact pattern. -/
theorem ofText_of_not_isSlashed (h : ¬ IsSlashed descriptor) :
    ofText descriptor = .ok (.exact (normalizeBlank descriptor.toList)) := by
  have hnone : slashed? (trim descriptor.toList) = none := by
    simpa [isSlashed_iff] using h
  unfold ofText
  simp only [hnone, normalizeBlank_trim]

/-! ### Exact patterns -/

/-- What an exact pattern is compared with: the selector and the parts between its commas. -/
def compared (selector : String) : List (List Char) :=
  normalizeBlank selector.toList :: (splitAt ',' selector.toList).map normalizeBlank

theorem isMatch_exact_iff_mem :
    (SelectorPattern.exact wanted).isMatch selector = true ↔ wanted ∈ compared selector := by
  simp only [isMatch, compared, Bool.or_eq_true, beq_iff_eq, List.any_eq_true, List.mem_cons,
    List.mem_map]
  exact or_congr_left eq_comm

/-- What is compared depends on the normalized selector only. -/
theorem compared_congr (h : normalizeBlank selector.toList = normalizeBlank selector'.toList) :
    compared selector = compared selector' := by
  have hcomma : isBlank ',' = false := rfl
  rw [compared, compared, ← map_normalizeBlank_splitAt hcomma, h, map_normalizeBlank_splitAt hcomma]

/-- Descriptors that are not between slashes and differ in the amount of white space match the same
selectors, and the amount of white space in a selector makes no difference either. A selector that is
not between slashes is matched by itself taken as a descriptor, and so is every selector by each part
between its commas that is not between slashes. -/
theorem matches_respaced_and_self :
    (∀ descriptor descriptor' selector selector' : String,
        ¬ IsSlashed descriptor → ¬ IsSlashed descriptor' →
        normalizeBlank descriptor.toList = normalizeBlank descriptor'.toList →
        normalizeBlank selector.toList = normalizeBlank selector'.toList →
        ∃ p p', ofText descriptor = .ok p ∧ ofText descriptor' = .ok p' ∧
          p.isMatch selector = p'.isMatch selector') ∧
      (∀ selector : String, ¬ IsSlashed selector →
        ∃ p, ofText selector = .ok p ∧ p.isMatch selector = true) ∧
      ∀ selector : String, ∀ part ∈ splitAt ',' selector.toList, ¬ IsSlashed (String.ofList part) →
        ∃ p, ofText (String.ofList part) = .ok p ∧ p.isMatch selector = true := by
  refine ⟨?_, ?_, ?_⟩
  · intro descriptor descriptor' selector selector' hplain hplain' hdescriptor hselector
    refine ⟨_, _, ofText_of_not_isSlashed hplain, ofText_of_not_isSlashed hplain', ?_⟩
    rw [Bool.eq_iff_iff, isMatch_exact_iff_mem, isMatch_exact_iff_mem, hdescriptor,
      compared_congr hselector]
  · intro selector hplain
    exact ⟨_, ofText_of_not_isSlashed hplain, isMatch_exact_iff_mem.mpr List.mem_cons_self⟩
  · intro selector part hpart hplain
    refine ⟨_, ofText_of_not_isSlashed hplain, isMatch_exact_iff_mem.mpr ?_⟩
    rw [String.toList_ofList]
    exact List.mem_cons_of_mem _ (List.mem_map_of_mem hpart)

/-- White space of several kinds in a descriptor and around the commas of a list, and a list with a part
between slashes. -/
theorem matches_respaced_and_self_list :
    let spaced := "\t.b \u2003.c\n"
    let wide := " a\u00a0,.b  .c ,\t/d/"
    let narrow := "a ,.b .c , /d/"
    (∃ p p', ofText spaced = .ok p ∧ ofText ".b .c" = .ok p' ∧
        p.isMatch wide = p'.isMatch narrow ∧ p'.isMatch narrow = true) ∧
      (∃ p, ofText wide = .ok p ∧ p.isMatch wide = true) ∧
      IsSlashed "\t/d/" ∧ ∃ p, ofText ".b  .c " = .ok p ∧ p.isMatch wide = true := by
  intro spaced wide narrow
  have hspaced : ¬ IsSlashed spaced := by decide
  have hplain : ¬ IsSlashed ".b .c" := by decide
  have hwide : ¬ IsSlashed wide := by decide
  have hpart : ¬ IsSlashed ".b  .c " := by decide
  obtain ⟨hrespaced, hself, hparts⟩ := matches_respaced_and_self
  obtain ⟨p, p', hp, hp', hsame⟩ :=
    hrespaced spaced ".b .c" wide narrow hspaced hplain (by decide) (by decide)
  have hnarrow : p'.isMatch narrow = true := by
    obtain rfl : SelectorPattern.exact ".b .c".toList = p' := Except.ok.inj hp'
    decide
  exact ⟨⟨p, p', hp, hp', hsame, hnarrow⟩, hself wide hwide, by decide,
    hparts wide ".b  .c ".toList (by decide) hpart⟩

end SourceEdit.SelectorPattern
