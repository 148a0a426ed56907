import Mathlib.Data.List.DropRight
import Mathlib.Tactic.SplitIfs
import SourceEdit.Text.Characters

/-!
# Trimming and parts

What trimming leaves out stands at the ends of a text and is white space; what it leaves does not
begin or end with white space.  `trim_spec` says so and `trim_append` is the other direction.  A text
has at least one part between separators, and none of its parts holds the separator.
-/

namespace SourceEdit

variable {p : Char → Bool}

/-! ### Runs at the start of a text -/

/-- No run starts a text whose first character is not of its kind. -/
theorem takeWhile_eq_nil_of_head {cs : List Char} (h : ∀ c ∈ cs.head?, p c = false) :
    cs.takeWhile p = [] := by
  cases cs with
  | nil => rfl
  | cons c cs => rw [List.takeWhile_cons, h c rfl, if_neg Bool.false_ne_true]

/-- Nothing is dropped from a text whose first character is not of the kind. -/
theorem dropWhile_eq_self_of_head {cs : List Char} (h : ∀ c ∈ cs.head?, p c = false) :
    cs.dropWhile p = cs := by
  cases cs with
  | nil => rfl
  | cons c cs => rw [List.dropWhile_cons, h c rfl, if_neg Bool.false_ne_true]

/-- A run that is dropped is dropped as a whole. -/
theorem head_dropWhile_eq_false {cs : List Char} : ∀ c ∈ (cs.dropWhile p).head?, p c = false := by
  intro c hc
  have hnot := List.head?_dropWhile_not p cs
  rw [Option.mem_def.mp hc] at hnot
  simpa using hnot

theorem mem_takeWhile_eq_true {cs : List Char} : ∀ c ∈ cs.takeWhile p, p c = true :=
  fun _ hc => List.mem_takeWhile_imp hc

/-! ### The end of a text -/

/-- A run at the end goes, with what it would leave at the end. -/
theorem trimEndBy_append_of_all {b : List Char} (hb : ∀ c ∈ b, p c = true) (cs : List Char) :
    trimEndBy p (cs ++ b) = trimEndBy p cs := by
  rw [trimEndBy, List.reverse_append,
    List.dropWhile_append_of_pos fun c hc => hb c (List.mem_reverse.mp hc), trimEndBy]

/-- Nothing goes from a text whose last character is not of the kind. -/
theorem trimEndBy_eq_self {cs : List Char} (h : ∀ c ∈ cs.getLast?, p c = false) :
    trimEndBy p cs = cs := by
  rw [trimEndBy, dropWhile_eq_self_of_head, List.reverse_reverse]
  rwa [List.head?_reverse]

/-- What is left out at the end satisfies the predicate, and what is left does not end with such a
character. -/
theorem trimEndBy_spec (p : Char → Bool) (cs : List Char) :
    ∃ b, cs = trimEndBy p cs ++ b ∧ (∀ c ∈ b, p c = true) ∧
      ∀ c ∈ (trimEndBy p cs).getLast?, p c = false := by
  refine ⟨cs.rtakeWhile p, List.rdropWhile_append_rtakeWhile.symm,
    fun c hc => List.mem_rtakeWhile_imp hc, fun c hc => ?_⟩
  rw [trimEndBy, List.getLast?_reverse] at hc
  exact head_dropWhile_eq_false c hc

/-! ### Both ends -/

/-- A text that neither begins nor ends with white space. -/
structure Trimmed (cs : List Char) : Prop where
  head : ∀ c ∈ cs.head?, isBlank c = false
  last : ∀ c ∈ cs.getLast?, isBlank c = false

/-- A text is trimmed if neither its first nor its last character is blank. -/
theorem trimmed_iff {cs : List Char} : Trimmed cs ↔
    (∀ c ∈ cs.head?, isBlank c = false) ∧ ∀ c ∈ cs.getLast?, isBlank c = false :=
  ⟨fun h => ⟨h.head, h.last⟩, fun h => ⟨h.1, h.2⟩⟩

instance (cs : List Char) : Decidable (Trimmed cs) :=
  decidable_of_iff (cs.head?.all (!isBlank ·) ∧ cs.getLast?.all (!isBlank ·))
    (by simp [trimmed_iff, Option.all_eq_true])

/-- A text that is trimmed does not end with white space. -/
theorem Trimmed.eq_nil_of_append {a b : List Char} (h : Trimmed (a ++ b))
    (hb : ∀ c ∈ b, isBlank c = true) : b = [] := by
  rcases List.eq_nil_or_concat b with rfl | ⟨b, c, rfl⟩
  · rfl
  · have hlast := h.last c (by simp [← List.append_assoc])
    rw [hb c (by simp)] at hlast
    cases hlast

/-- Blanks around a trimmed text go. -/
theorem trim_append {a b cs : List Char} (ha : ∀ c ∈ a, isBlank c = true) (h : Trimmed cs)
    (hb : ∀ c ∈ b, isBlank c = true) : trim (a ++ (cs ++ b)) = cs := by
  rw [trim, trimStart, List.dropWhile_append_of_pos ha, trimEnd]
  cases cs with
  | nil => rw [List.nil_append, List.dropWhile_eq_nil_iff.mpr hb]; rfl
  | cons c cs =>
    rw [dropWhile_eq_self_of_head, trimEndBy_append_of_all hb, trimEndBy_eq_self h.last]
    simpa using h.head c rfl

theorem trim_append_blank {b : List Char} (hb : ∀ c ∈ b, isBlank c = true) (cs : List Char) :
    trim (cs ++ b) = trim cs := by
  have hsplit := List.takeWhile_append_dropWhile (p := isBlank) (l := cs)
  by_cases hall : ∀ c ∈ cs, isBlank c = true
  · have hnil : trimStart (cs ++ b) = [] :=
      List.dropWhile_eq_nil_iff.mpr fun c hc => (List.mem_append.mp hc).elim (hall c) (hb c)
    rw [trim, trim, hnil, trimStart, List.dropWhile_eq_nil_iff.mpr hall]
  · have hne : cs.dropWhile isBlank ≠ [] := fun h => hall (List.dropWhile_eq_nil_iff.mp h)
    rw [trim, trim, trimStart, trimStart, List.dropWhile_append, if_neg (by simpa using hne),
      trimEnd, trimEndBy_append_of_all hb, trimEnd]

/-- White space after a trimmed text is trimmed by itself. -/
theorem trim_trimmed_append {a : List Char} (ha : Trimmed a) (hne : a ≠ []) (cs : List Char) :
    trim (a ++ cs) = a ++ trimEnd cs := by
  obtain ⟨b, hcs, hb, hlast⟩ := trimEndBy_spec isBlank cs
  have hhead : trimStart (a ++ cs) = a ++ cs := dropWhile_eq_self_of_head fun c hc => by
    rw [List.head?_append, Option.mem_def, Option.or_of_isSome (by simpa using hne)] at hc
    exact ha.head c hc
  rw [trim, hhead, trimEnd]
  conv_lhs => rw [hcs]
  rw [← List.append_assoc, trimEndBy_append_of_all hb, trimEndBy_eq_self, trimEnd]
  intro c hc
  rw [List.getLast?_append, Option.mem_def, Option.or_eq_some_iff] at hc
  exact hc.elim (hlast c) fun h => ha.last c h.2

theorem trim_trimEnd (cs : List Char) : trim (trimEnd cs) = trim cs := by
  obtain ⟨b, hcs, hb, -⟩ := trimEndBy_spec isBlank cs
  conv_rhs => rw [hcs, trim_append_blank hb]
  rfl

/-- What `trim` leaves out is white space and what it leaves is trimmed. -/
theorem trim_spec (cs : List Char) : ∃ a b, cs = a ++ (trim cs ++ b) ∧
    (∀ c ∈ a, isBlank c = true) ∧ (∀ c ∈ b, isBlank c = true) ∧ Trimmed (trim cs) := by
  obtain ⟨b, hsplit, hb, hlast⟩ := trimEndBy_spec isBlank (trimStart cs)
  refine ⟨cs.takeWhile isBlank, b, ?_, mem_takeWhile_eq_true, hb, ?_, hlast⟩
  · rw [trim, trimEnd, ← hsplit, trimStart, List.takeWhile_append_dropWhile]
  · intro c hc
    have hhead : (trimStart cs).head? = some c := by
      rw [hsplit, List.head?_append, ← trimEnd, ← trim, Option.mem_def.mp hc]
      rfl
    exact head_dropWhile_eq_false c hhead

/-- What has been trimmed is trimmed. -/
theorem trimmed_trim (cs : List Char) : Trimmed (trim cs) := by
  obtain ⟨-, -, -, -, -, h⟩ := trim_spec cs
  exact h

/-- Nothing goes from a trimmed text. -/
theorem trim_eq_self {cs : List Char} (h : Trimmed cs) : trim cs = cs := by
  simpa using trim_append (a := []) (b := []) (by simp) h (by simp)

theorem sublist_trim (cs : List Char) : (trim cs).Sublist cs := by
  obtain ⟨a, b, hcs, -⟩ := trim_spec cs
  conv_rhs => rw [hcs]
  exact (List.sublist_append_left _ b).trans (List.sublist_append_right a _)

/-! ### Parts between separators -/

section Parts

variable {sep : Char} {cs part : List Char}

theorem splitAt_ne_nil (sep : Char) (cs : List Char) : splitAt sep cs ≠ [] := by
  cases cs with
  | nil => simp [splitAt]
  | cons c cs =>
    rw [splitAt]
    split_ifs
    · simp
    · split <;> simp

/-- A text goes before the first part of what follows it. -/
theorem splitAt_append {v w : List Char} {parts : List (List Char)}
    (h : splitAt sep v = splitAt sep w ++ parts) (u : List Char) :
    splitAt sep (u ++ v) = splitAt sep (u ++ w) ++ parts := by
  induction u with
  | nil => exact h
  | cons c u ih =>
    rw [List.cons_append, List.cons_append, splitAt, splitAt, ih]
    split_ifs
    · rfl
    · cases hw : splitAt sep (u ++ w) with
      | nil => exact absurd hw (splitAt_ne_nil sep _)
      | cons p ps => rfl

/-- A text without the separator is one part. -/
theorem splitAt_eq_singleton (h : sep ∉ cs) : splitAt sep cs = [cs] := by
  induction cs with
  | nil => rfl
  | cons c cs ih =>
    obtain ⟨hc, hcs⟩ := not_or.mp (mt List.mem_cons.mpr h)
    rw [splitAt, if_neg (Ne.symm hc), ih hcs]

/-- No part has the separator in it. -/
theorem not_mem_of_mem_splitAt (h : part ∈ splitAt sep cs) : sep ∉ part := by
  induction cs generalizing part with
  | nil =>
    obtain rfl := List.mem_singleton.mp h
    simp
  | cons c cs ih =>
    rw [splitAt] at h
    split_ifs at h with hc
    · obtain rfl | h := List.mem_cons.mp h
      · simp
      · exact ih h
    · cases hcs : splitAt sep cs with
      | nil => exact absurd hcs (splitAt_ne_nil sep cs)
      | cons p ps =>
        rw [hcs] at h ih
        obtain rfl | h := List.mem_cons.mp h
        · simpa [Ne.symm hc] using ih List.mem_cons_self
        · exact ih (List.mem_cons_of_mem p h)

end Parts

end SourceEdit
