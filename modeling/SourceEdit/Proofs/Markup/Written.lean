import SourceEdit.Proofs.Markup.StartTag
import SourceEdit.Proofs.Text.Trim

/-!
# Texts, comments and end tags that are read back

Text is written with references for the characters that mean something in markup, so it is read back
as one text, up to the next piece of markup (`next_text`).  A comment is written as it is and ends at
the first `-->`, so it must not look like its own end (`next_comment`).
-/

namespace SourceEdit.Markup

/-! ### Characters -/

/-- A character that a text can hold when it is read: the other three are left out or replaced. -/
def isCleanChar (c : Char) : Bool := c != '\x00' && c != '\r' && c != '\uFEFF'

/-- A text that is taken as it is. -/
def IsClean (cs : List Char) : Prop := ∀ c ∈ cs, isCleanChar c = true

theorem IsClean.append_iff {cs ds : List Char} : IsClean (cs ++ ds) ↔ IsClean cs ∧ IsClean ds :=
  List.forall_mem_append

theorem IsClean.nul_not_mem {cs : List Char} (h : IsClean cs) : '\x00' ∉ cs :=
  fun hmem => absurd (h _ hmem) (by decide)

namespace Lexer

theorem withoutMarks_eq_self {cs : List Char} (h : IsClean cs) (start : Nat) (afterSplit : Bool) :
    withoutMarks start afterSplit cs = cs := by
  induction cs generalizing start afterSplit with
  | nil => rfl
  | cons c cs ih =>
    obtain ⟨hc, hcs⟩ := List.forall_mem_cons.mp h
    have hmark : (c == '\uFEFF') = false := by
      simp only [isCleanChar, Bool.and_eq_true, bne_iff_ne] at hc
      exact beq_eq_false_iff_ne.mpr hc.2
    rw [withoutMarks, hmark, Bool.false_and, if_neg Bool.false_ne_true, ih hcs]

theorem withLineFeeds_eq_self {cs : List Char} (h : IsClean cs) : withLineFeeds cs = cs := by
  induction cs with
  | nil => rfl
  | cons c cs ih =>
    obtain ⟨hc, hcs⟩ := List.forall_mem_cons.mp h
    simp only [isCleanChar, Bool.and_eq_true, bne_iff_ne] at hc
    rw [withLineFeeds]
    · rw [beq_eq_false_iff_ne.mpr hc.1.2, if_neg Bool.false_ne_true, ih hcs]
    · rintro cs rfl
      exact absurd rfl hc.1.2

theorem prepare_eq_self {cs : List Char} (h : IsClean cs) : prepare cs = cs := by
  rw [prepare, withoutMarks_eq_self h, withLineFeeds_eq_self h]

end Lexer

/-! ### Texts -/

namespace Reference

/-- A character that has been written in a text stands for itself. -/
theorem decodeFrom_escapeInText_append (c : Char) (rest : List Char) :
    decodeFrom false 0 (escapeInText c ++ rest) = c :: decodeFrom false 0 rest := by
  unfold escapeInText
  split
  · exact @decodeFrom_basicName false ['a', 'm', 'p'] _ (List.all_eq_true.mp rfl) rfl rest
  · exact @decodeFrom_basicName false ['n', 'b', 's', 'p'] _ (List.all_eq_true.mp rfl) rfl rest
  · exact @decodeFrom_basicName false ['l', 't'] _ (List.all_eq_true.mp rfl) rfl rest
  · exact @decodeFrom_basicName false ['g', 't'] _ (List.all_eq_true.mp rfl) rfl rest
  · next hamp _ _ _ =>
    rw [List.singleton_append, decodeFrom, if_neg (by simpa using hamp)]

/-- The references in a text that has been written stand for the characters of the text. -/
theorem decode_escapeInText (cs : List Char) : decode false (cs.flatMap escapeInText) = cs := by
  unfold decode
  induction cs with
  | nil => rfl
  | cons c cs ih => rw [List.flatMap_cons, decodeFrom_escapeInText_append, ih]

end Reference

theorem escapeInText_ne_nil (c : Char) : escapeInText c ≠ [] := by
  unfold escapeInText
  split <;> exact List.cons_ne_nil _ _

/-- No character of a text that has been written starts a piece of markup. -/
theorem mark_not_mem_escapeInText (cs : List Char) : '<' ∉ cs.flatMap escapeInText := by
  intro hmem
  obtain ⟨d, -, hd⟩ := List.mem_flatMap.mp hmem
  unfold escapeInText at hd
  split at hd
  · exact absurd hd (by decide)
  · exact absurd hd (by decide)
  · exact absurd hd (by decide)
  · exact absurd hd (by decide)
  · next hmark _ => exact hmark (List.mem_singleton.mp hd).symm

theorem nul_not_mem_escapeInText {cs : List Char} (h : '\x00' ∉ cs) :
    '\x00' ∉ cs.flatMap escapeInText := by
  intro hmem
  obtain ⟨d, hdmem, hd⟩ := List.mem_flatMap.mp hmem
  unfold escapeInText at hd
  split at hd
  · exact absurd hd (by decide)
  · exact absurd hd (by decide)
  · exact absurd hd (by decide)
  · exact absurd hd (by decide)
  · exact h (List.mem_singleton.mp hd ▸ hdmem)

namespace Lexer

/-- A reference that has been written is not one by number. -/
theorem referenceText_escape {cs : List Char} :
    referenceText (cs.flatMap escapeInText) = [.text cs] := by
  unfold referenceText
  rw [Reference.decode_escapeInText]
  dsimp only
  split
  · next rest heq =>
    have hopen : Reference.isOpenNumber rest = false := by
      cases cs with
      | nil => cases heq
      | cons c cs =>
        rw [List.flatMap_cons] at heq
        unfold escapeInText at heq
        split at heq
        · exact (List.cons.inj heq).2 ▸ rfl
        · exact (List.cons.inj heq).2 ▸ rfl
        · exact (List.cons.inj heq).2 ▸ rfl
        · exact (List.cons.inj heq).2 ▸ rfl
        · next hamp _ _ _ => exact absurd (List.cons.inj heq).1 hamp
    rw [hopen, if_neg Bool.false_ne_true]
  · rfl

/-- A text is read back up to the next piece of markup. -/
theorem next_text {cs : List Char} (hne : cs ≠ []) (hnul : '\x00' ∉ cs) {rest : List Char}
    (hrest : ∀ c ∈ rest.head?, c = '<') (allowsCdata : Bool) :
    next allowsCdata .markup (cs.flatMap escapeInText ++ rest) = ([.text cs], rest) := by
  obtain ⟨c, ds, hwritten⟩ : ∃ c ds, cs.flatMap escapeInText = c :: ds := by
    cases cs with
    | nil => exact absurd rfl hne
    | cons c cs =>
      exact List.exists_cons_of_ne_nil fun heq =>
        escapeInText_ne_nil c (List.append_eq_nil_iff.mp (List.flatMap_cons ▸ heq)).1
  have hmark := mark_not_mem_escapeInText cs
  have hupTo : upTo (· == '<') (cs.flatMap escapeInText ++ rest) = (cs.flatMap escapeInText, rest) :=
    upTo_append (fun d hd => beq_eq_false_iff_ne.mpr fun heq => hmark (heq ▸ hd))
      fun d hd => beq_iff_eq.mpr (hrest d hd)
  -- there are no zeros, and the references in the text stand for what was escaped
  have hpieces : pieces referenceText (cs.flatMap escapeInText) = [.text cs] := by
    rw [pieces, splitAt_eq_singleton (nul_not_mem_escapeInText hnul), List.map_singleton,
      referenceText_escape, hwritten]
    rfl
  have hread : markup allowsCdata (cs.flatMap escapeInText ++ rest) = ([.text cs], rest) := by
    unfold markup
    split
    · next heq =>
      rw [hwritten] at heq hmark
      exact absurd ((List.cons.inj heq).1 ▸ List.mem_cons_self) hmark
    · rw [hupTo]
      dsimp only
      rw [hpieces]
  exact hread

/-! ### End tags -/

/-- An end tag is read back. -/
theorem next_endTag {name : ElementName} (hname : isTagName name.localName.toList = true)
    (hsmall : isSmall name.localName.toList = true) (allowsCdata : Bool) (rest : List Char) :
    next allowsCdata .markup (endTag name ++ rest) =
      ([.tag { isEnd := true, name := name.localName }], rest) := by
  obtain ⟨hletter, hchars⟩ := Bool.and_eq_true_iff.mp hname
  rw [List.all_eq_true] at hchars
  have hends : ∀ c ∈ name.localName.toList, (isSpace c || c == '/' || c == '>') = false :=
    fun c hc => (isNameChar_iff.mp (hchars c hc)).1
  have hnameOf : nameOf name.localName.toList = name.localName := by
    rw [nameOf, visibles_eq_self fun hnul => (isNameChar_iff.mp (hchars _ hnul)).2 rfl,
      beq_iff_eq.mp hsmall, String.ofList_toList]
  have hupTo : upTo (fun c => isSpace c || c == '/' || c == '>')
      (name.localName.toList ++ '>' :: rest) = (name.localName.toList, '>' :: rest) :=
    upTo_append hends (by simp)
  have htag : tag true (name.localName.toList ++ '>' :: rest) =
      ([.tag { isEnd := true, name := name.localName }], rest) := by
    rw [tag, hupTo]
    dsimp only
    rw [tagRest?, skipSpace_cons (by decide), hnameOf]
    rfl
  have htext : endTag name ++ rest = '<' :: '/' :: (name.localName.toList ++ '>' :: rest) := by
    simp [endTag]
  rw [htext, ← htag]
  cases hcs : name.localName.toList with
  | nil => simp [hcs] at hletter
  | cons c cs =>
    rw [hcs, List.head?_cons, Option.any_some] at hletter
    have hslash : c ≠ '>' := by
      rintro rfl
      exact absurd hletter (by decide)
    -- of all that an angle bracket may begin, only an end tag has a slash and a letter
    show construct allowsCdata ('/' :: c :: (cs ++ '>' :: rest)) = _
    unfold construct
    split
    · next heq => cases heq
    · next heq => cases heq
    · next heq => exact absurd (List.cons.inj (List.cons.inj heq).2).1 hslash
    · next heq =>
      cases heq
      rw [if_pos hletter]
      rfl
    · next heq => cases heq
    · next hother _ heq =>
      cases heq
      exact absurd rfl (hother c (cs ++ '>' :: rest) rfl)
    · next heq => cases heq

end Lexer

/-! ### Comments -/

/-- Whether a text, which may come after a dash, neither goes on with two dashes in a row nor ends in
a dash. -/
def hasLoneDashes : Bool → List Char → Bool
  | afterDash, [] => !afterDash
  | afterDash, c :: cs =>
    if c == '-' then !afterDash && hasLoneDashes true cs else hasLoneDashes false cs

/-- Whether a text can stand in a comment. -/
def isCommentText (cs : List Char) : Bool :=
  hasLoneDashes false cs && !(['>'].isPrefixOf cs || ['-', '>'].isPrefixOf cs)

namespace Lexer

theorem comment_body {cs : List Char} (hnul : '\x00' ∉ cs) (rest : List Char) :
    (hasLoneDashes false cs = true →
      comment .body (cs ++ '-' :: '-' :: '>' :: rest) = (cs, rest)) ∧
    (hasLoneDashes true cs = true →
      comment .dash (cs ++ '-' :: '-' :: '>' :: rest) = ('-' :: cs, rest)) := by
  induction cs with
  | nil => exact ⟨fun _ => rfl, fun h => by cases h⟩
  | cons c cs ih =>
    obtain ⟨hc, hcs⟩ := not_or.mp (mt List.mem_cons.mpr hnul)
    obtain ⟨hbody, hdash⟩ := ih hcs
    have hvisible : visible c = c := visible_eq_self (Ne.symm hc)
    by_cases hd : c = '-'
    · subst hd
      refine ⟨fun h => ?_, fun h => by cases h⟩
      exact hdash h
    · have hlone (afterDash : Bool) : hasLoneDashes afterDash (c :: cs) = hasLoneDashes false cs := by
        rw [hasLoneDashes, if_neg (by simpa using hd)]
      rw [hlone, hlone]
      refine ⟨fun h => ?_, fun h => ?_⟩
      · simp [comment, hd, hvisible, hbody h]
      · simp [comment, hvisible, hbody h]

theorem comment_start {cs : List Char} (hnul : '\x00' ∉ cs) (h : isCommentText cs = true)
    (rest : List Char) : comment .start (cs ++ '-' :: '-' :: '>' :: rest) = (cs, rest) := by
  simp only [isCommentText, Bool.and_eq_true, Bool.not_eq_true', Bool.or_eq_false_iff] at h
  obtain ⟨hlone, hend, hdashEnd⟩ := h
  cases cs with
  | nil => rfl
  | cons c cs =>
    obtain ⟨hc, hcs⟩ := not_or.mp (mt List.mem_cons.mpr hnul)
    have hvisible : visible c = c := visible_eq_self (Ne.symm hc)
    by_cases hdash : c = '-'
    · subst hdash
      cases cs with
      | nil => cases hlone
      | cons d ds =>
        obtain ⟨hd, hds⟩ := not_or.mp (mt List.mem_cons.mpr hcs)
        have hvisible : visible d = d := visible_eq_self (Ne.symm hd)
        have hne : d ≠ '-' := by
          rintro rfl
          cases hlone
        have hlone : hasLoneDashes false ds = true := by
          simpa [hasLoneDashes, hne] using hlone
        have hnot : d ≠ '>' := by
          rintro rfl
          cases hdashEnd
        simp [comment, hvisible, (comment_body hds rest).1 hlone]
    · have hlone : hasLoneDashes false cs = true := by
        simpa [hasLoneDashes, hdash] using hlone
      have hnot : c ≠ '>' := by
        rintro rfl
        cases hend
      simp [comment, hdash, hnot, hvisible, (comment_body hcs rest).1 hlone]

/-- A comment is read back. -/
theorem next_comment {cs : List Char} (hnul : '\x00' ∉ cs) (h : isCommentText cs = true)
    (allowsCdata : Bool) (rest : List Char) :
    next allowsCdata .markup ("<!--".toList ++ cs ++ "-->".toList ++ rest) =
      ([.comment cs], rest) := by
  have htext : "<!--".toList ++ cs ++ "-->".toList ++ rest =
      '<' :: '!' :: '-' :: '-' :: (cs ++ '-' :: '-' :: '>' :: rest) := by
    simp
  rw [htext]
  show declaration allowsCdata ('-' :: '-' :: (cs ++ '-' :: '-' :: '>' :: rest)) = _
  rw [declaration, if_pos (by simp)]
  have hdrop : ('-' :: '-' :: (cs ++ '-' :: '-' :: '>' :: rest)).drop 2 =
      cs ++ '-' :: '-' :: '>' :: rest := rfl
  rw [hdrop, comment_start hnul h]

end Lexer

end SourceEdit.Markup
