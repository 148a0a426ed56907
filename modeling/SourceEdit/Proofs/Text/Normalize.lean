import SourceEdit.Proofs.Text.Trim

/-!
# Runs of white space

Collapsing turns each run of white space into one space.  It goes through a text with one bit of
memory, whether a run is going on, and `collapseFrom_append` says that a text leaves behind no more
than this bit.  So collapsing a collapsed text changes nothing, and a text may be collapsed before it
is normalized (`normalizeBlank_collapseFrom`).

A separator that is not white space ends every run.  Therefore the parts of a collapsed text are the
collapsed parts (`splitAt_collapseFrom`), and normalizing the parts of a text gives the same whether the
text itself has been normalized or not (`map_normalizeBlank_splitAt`).
-/

namespace SourceEdit

variable {sep c : Char} {cs part : List Char} {parts : List (List Char)} {inRun : Bool}

/-! ### Collapsing -/

/-- Whether a run of white space is going on at the end of a text. -/
def inRunAfter (inRun : Bool) (cs : List Char) : Bool := cs.foldl (fun _ c => isBlank c) inRun

/-- What follows a text is collapsed as the last character of the text demands. -/
theorem collapseFrom_append (inRun : Bool) (cs ds : List Char) :
    collapseFrom inRun (cs ++ ds) =
      collapseFrom inRun cs ++ collapseFrom (inRunAfter inRun cs) ds := by
  induction cs generalizing inRun with
  | nil => rfl
  | cons c cs ih =>
    have hafter : inRunAfter inRun (c :: cs) = inRunAfter (isBlank c) cs := rfl
    rw [List.cons_append, collapseFrom, collapseFrom, hafter]
    split_ifs with hc hrun
    · rw [ih, hc]
    · rw [ih, hc, List.cons_append]
    · rw [ih, Bool.eq_false_iff.mpr hc, List.cons_append]

/-- White space collapses into white space. -/
theorem isBlank_of_mem_collapseFrom (h : ∀ c ∈ cs, isBlank c = true) :
    ∀ c ∈ collapseFrom inRun cs, isBlank c = true := by
  induction cs generalizing inRun with
  | nil => exact h
  | cons c cs ih =>
    obtain ⟨hc, hcs⟩ := List.forall_mem_cons.mp h
    rw [collapseFrom, if_pos hc]
    split_ifs
    · exact ih hcs
    · exact List.forall_mem_cons.mpr ⟨rfl, ih hcs⟩

/-- A text that does not begin with white space is collapsed in the same way inside of a run. -/
theorem collapseFrom_of_head (h : ∀ c ∈ cs.head?, isBlank c = false) (inRun : Bool) :
    collapseFrom inRun cs = collapseFrom false cs := by
  cases cs with
  | nil => rfl
  | cons c cs =>
    have hc : ¬ isBlank c = true := Bool.eq_false_iff.mp (h c rfl)
    rw [collapseFrom, collapseFrom, if_neg hc, if_neg hc]

/-- Collapsing a collapsed text changes nothing. -/
theorem collapseFrom_collapseFrom (inRun : Bool) (cs : List Char) :
    collapseFrom inRun (collapseFrom inRun cs) = collapseFrom inRun cs := by
  induction cs generalizing inRun with
  | nil => rfl
  | cons c cs ih =>
    rw [collapseFrom]
    split_ifs with hc hrun
    · rw [hrun]
      exact ih true
    · have hspace : isBlank ' ' = true := rfl
      rw [collapseFrom, if_pos hspace, if_neg hrun, ih]
    · rw [collapseFrom, if_neg hc, ih]

/-- Collapsing keeps the ends of a trimmed text. -/
theorem Trimmed.collapseFrom (h : Trimmed cs) : Trimmed (collapseFrom false cs) where
  head := by
    cases cs with
    | nil => exact h.head
    | cons c cs =>
      have hc : isBlank c = false := h.head c rfl
      rw [SourceEdit.collapseFrom, if_neg (Bool.eq_false_iff.mp hc)]
      rintro _ ⟨⟩
      exact hc
  last := by
    rcases List.eq_nil_or_concat cs with rfl | ⟨cs, c, rfl⟩
    · exact h.last
    · have hc : isBlank c = false := h.last c (by simp)
      rw [List.concat_eq_append, collapseFrom_append, SourceEdit.collapseFrom,
        if_neg (Bool.eq_false_iff.mp hc)]
      simp [SourceEdit.collapseFrom, hc]

/-! ### Normalizing -/

theorem normalizeBlank_blank_append {a : List Char} (ha : ∀ c ∈ a, isBlank c = true)
    (cs : List Char) : normalizeBlank (a ++ cs) = normalizeBlank cs := by
  rw [normalizeBlank, normalizeBlank, trim, trim, trimStart, trimStart,
    List.dropWhile_append_of_pos ha]

theorem normalizeBlank_append_blank {b : List Char} (hb : ∀ c ∈ b, isBlank c = true)
    (cs : List Char) : normalizeBlank (cs ++ b) = normalizeBlank cs := by
  rw [normalizeBlank, normalizeBlank, trim_append_blank hb]

theorem normalizeBlank_trim (cs : List Char) : normalizeBlank (trim cs) = normalizeBlank cs := by
  rw [normalizeBlank, normalizeBlank, trim_eq_self (trimmed_trim cs)]

/-- A text may be collapsed before it is normalized: at its ends collapsing leaves white space, which
is trimmed, and in between there is nothing left to collapse. -/
theorem normalizeBlank_collapseFrom (inRun : Bool) (cs : List Char) :
    normalizeBlank (collapseFrom inRun cs) = normalizeBlank cs := by
  obtain ⟨a, b, hcs, ha, hb, htrimmed⟩ := trim_spec cs
  have htrim : trim (collapseFrom inRun cs) = collapseFrom false (trim cs) := by
    conv_lhs => rw [hcs, collapseFrom_append, collapseFrom_append, collapseFrom_of_head htrimmed.head]
    exact trim_append (isBlank_of_mem_collapseFrom ha) htrimmed.collapseFrom
      (isBlank_of_mem_collapseFrom hb)
  rw [normalizeBlank, htrim, collapseFrom_collapseFrom, normalizeBlank]

/-! ### Parts -/

theorem splitAt_cons_self (sep : Char) (cs : List Char) :
    splitAt sep (sep :: cs) = [] :: splitAt sep cs := by
  rw [splitAt, if_pos rfl]

theorem splitAt_cons_of_ne (hc : c ≠ sep) (hcs : splitAt sep cs = part :: parts) :
    splitAt sep (c :: cs) = (c :: part) :: parts := by
  rw [splitAt, if_neg hc, hcs]

/-- What does not hold the separator goes to the first part of what follows it. -/
theorem splitAt_append_of_not_mem {a : List Char} (ha : sep ∉ a)
    (hcs : splitAt sep cs = part :: parts) : splitAt sep (a ++ cs) = (a ++ part) :: parts := by
  induction a with
  | nil => exact hcs
  | cons c a ih =>
    obtain ⟨hc, ha⟩ := not_or.mp (mt List.mem_cons.mpr ha)
    exact splitAt_cons_of_ne (Ne.symm hc) (ih ha)

/-- What does not hold the separator goes to the last part of what it follows. -/
theorem exists_splitAt_append {b : List Char} (hb : sep ∉ b) (cs : List Char) :
    ∃ parts part, splitAt sep cs = parts ++ [part] ∧
      splitAt sep (cs ++ b) = parts ++ [part ++ b] := by
  induction cs with
  | nil => exact ⟨[], [], rfl, splitAt_eq_singleton hb⟩
  | cons c cs ih =>
    obtain ⟨parts, part, hcs, happend⟩ := ih
    by_cases hc : c = sep
    · subst hc
      refine ⟨[] :: parts, part, ?_, ?_⟩
      · rw [splitAt_cons_self, hcs, List.cons_append]
      · rw [List.cons_append, splitAt_cons_self, happend, List.cons_append]
    · cases parts with
      | nil => exact ⟨[], c :: part, splitAt_cons_of_ne hc hcs, splitAt_cons_of_ne hc happend⟩
      | cons first parts =>
        exact ⟨(c :: first) :: parts, part, splitAt_cons_of_ne hc hcs,
          splitAt_cons_of_ne hc happend⟩

/-- The parts of a collapsed text are the collapsed parts. Every part but the first one comes after a
separator, where no run is going on. -/
theorem splitAt_collapseFrom (hsep : isBlank sep = false) (inRun : Bool)
    (hcs : splitAt sep cs = part :: parts) :
    splitAt sep (collapseFrom inRun cs) =
      collapseFrom inRun part :: parts.map (collapseFrom false) := by
  induction cs generalizing inRun part parts with
  | nil =>
    cases hcs
    rfl
  | cons c cs ih =>
    obtain ⟨first, rest, hrest⟩ := List.exists_cons_of_ne_nil (splitAt_ne_nil sep cs)
    by_cases hc : c = sep
    · subst hc
      rw [splitAt_cons_self, hrest] at hcs
      cases hcs
      -- a separator is no blank, so a run of blanks ends before it
      have hkept : collapseFrom inRun (c :: cs) = c :: collapseFrom false cs := by
        rw [collapseFrom, if_neg (Bool.eq_false_iff.mp hsep)]
      rw [hkept, splitAt_cons_self, ih false hrest]
      rfl
    · rw [splitAt_cons_of_ne hc hrest] at hcs
      cases hcs
      rw [collapseFrom, collapseFrom]
      split_ifs with hblank hrun
      · exact ih true hrest
      · have hspace : ' ' ≠ sep := by
          rintro rfl
          cases hsep
        exact splitAt_cons_of_ne hspace (ih true hrest)
      · exact splitAt_cons_of_ne hc (ih false hrest)

/-- White space at the ends of a text does not show in its normalized parts. -/
theorem map_normalizeBlank_splitAt_blank (hsep : isBlank sep = false) {a b : List Char}
    (ha : ∀ c ∈ a, isBlank c = true) (hb : ∀ c ∈ b, isBlank c = true) (cs : List Char) :
    (splitAt sep (a ++ (cs ++ b))).map normalizeBlank = (splitAt sep cs).map normalizeBlank := by
  have hnot {l : List Char} (hl : ∀ c ∈ l, isBlank c = true) : sep ∉ l := fun hmem => by
    rw [hl sep hmem] at hsep
    cases hsep
  obtain ⟨parts, last, hcs, hafter⟩ := exists_splitAt_append (hnot hb) cs
  obtain ⟨first, rest, hsplit⟩ := List.exists_cons_of_ne_nil (splitAt_ne_nil sep (cs ++ b))
  calc (splitAt sep (a ++ (cs ++ b))).map normalizeBlank
      = (splitAt sep (cs ++ b)).map normalizeBlank := by
        rw [splitAt_append_of_not_mem (hnot ha) hsplit, hsplit, List.map_cons, List.map_cons,
          normalizeBlank_blank_append ha]
    _ = (splitAt sep cs).map normalizeBlank := by
        rw [hafter, hcs, List.map_append, List.map_append, List.map_singleton, List.map_singleton,
          normalizeBlank_append_blank hb]

/-- A text has the same normalized parts as the normalized text. -/
theorem map_normalizeBlank_splitAt (hsep : isBlank sep = false) (cs : List Char) :
    (splitAt sep (normalizeBlank cs)).map normalizeBlank = (splitAt sep cs).map normalizeBlank := by
  obtain ⟨a, b, hcs, ha, hb, -⟩ := trim_spec cs
  obtain ⟨part, parts, hparts⟩ := List.exists_cons_of_ne_nil (splitAt_ne_nil sep (trim cs))
  have hcollapsed : normalizeBlank ∘ collapseFrom false = normalizeBlank :=
    funext (normalizeBlank_collapseFrom false)
  conv_rhs => rw [hcs, map_normalizeBlank_splitAt_blank hsep ha hb, hparts]
  rw [normalizeBlank, splitAt_collapseFrom hsep false hparts, List.map_cons, List.map_map,
    hcollapsed, normalizeBlank_collapseFrom, List.map_cons]

end SourceEdit
