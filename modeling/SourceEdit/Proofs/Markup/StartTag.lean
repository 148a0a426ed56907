import SourceEdit.Markup.Printer
import SourceEdit.Proofs.Markup.Lexer

/-!
# Start tags that are read back

The value of an attribute is written with references, which stand in it for what would end it or start
a reference; `decode_escape` undoes this.  A name is written as it is and read up to the equals sign
behind it, and is put in small letters there.  So a start tag is read back whole, with small letters in
the names of its attributes (`next_startTag`).
-/

namespace SourceEdit.Markup

/-- An attribute as it is read after it has been written. -/
def Attribute.readBack (a : Attribute) : String × String :=
  (String.ofList (asciiLower a.localName.toList), String.ofList (Lexer.visibles a.value.toList))

/-- An attribute is written under a name that can be read. -/
def Attribute.IsWritable (a : Attribute) : Prop :=
  a.space = .none ∧ isAttributeName a.localName.toList = true

/-! ### Values -/

namespace Reference

variable (inAttribute : Bool)

theorem decodeFrom_append (skipped rest : List Char) :
    decodeFrom inAttribute skipped.length (skipped ++ rest) = decodeFrom inAttribute 0 rest := by
  induction skipped with
  | nil => rfl
  | cons c skipped ih => exact ih

/-- A reference by one of the basic names, ended by a semicolon, stands for its characters. -/
theorem decodeFrom_basicName {name cs : List Char} (hname : ∀ c ∈ name, isWordChar c = true)
    (hlookup : basicNames.lookup name = some cs) (rest : List Char) :
    decodeFrom inAttribute 0 ('&' :: name ++ ';' :: rest) = cs ++ decodeFrom inAttribute 0 rest := by
  have hword : (name ++ ';' :: rest).takeWhile isWordChar = name := by
    rw [List.takeWhile_append_of_pos hname, List.takeWhile_cons_of_neg (by decide), List.append_nil]
  have hnamed : named? name = some cs := by rw [named?, hlookup]
  have hname? : name? inAttribute (name ++ ';' :: rest) = some (cs, name.length + 1) := by
    rw [name?, hword, List.drop_left, List.head?_cons]
    simp only [beq_self_eq_true, if_true, hnamed]
  have hreference : reference? inAttribute (name ++ ';' :: rest) = some (cs, name.length + 1) := by
    unfold reference?
    split
    · next heq =>
      cases name with
      | nil => cases heq
      | cons c name =>
        obtain ⟨rfl, -⟩ := List.cons.inj heq
        cases hname _ List.mem_cons_self
    · exact hname?
  rw [List.cons_append, decodeFrom, if_pos (by decide), hreference]
  dsimp only
  rw [← decodeFrom_append inAttribute (name ++ [';']) rest, List.length_append, List.length_singleton,
    List.append_assoc, List.singleton_append]

/-- A character that has been written in a value stands for itself. -/
theorem decodeFrom_escape_append (c : Char) (rest : List Char) :
    decodeFrom true 0 (escapeInAttribute c ++ rest) = c :: decodeFrom true 0 rest := by
  unfold escapeInAttribute
  split
  · exact @decodeFrom_basicName true ['a', 'm', 'p'] _ (List.all_eq_true.mp rfl) rfl rest
  · exact @decodeFrom_basicName true ['n', 'b', 's', 'p'] _ (List.all_eq_true.mp rfl) rfl rest
  · exact @decodeFrom_basicName true ['q', 'u', 'o', 't'] _ (List.all_eq_true.mp rfl) rfl rest
  · next hamp _ _ =>
    rw [List.singleton_append, decodeFrom, if_neg (by simpa using hamp)]

/-- The references in a value that has been written stand for the characters of the value. -/
theorem decode_escape (cs : List Char) : decode true (cs.flatMap escapeInAttribute) = cs := by
  unfold decode
  induction cs with
  | nil => rfl
  | cons c cs ih => rw [List.flatMap_cons, decodeFrom_escape_append, ih]

end Reference

namespace Lexer

theorem visible_eq_self {c : Char} (h : c ≠ '\x00') : visible c = c :=
  if_neg fun hnul => h (beq_iff_eq.mp hnul)

theorem visibles_eq_self {cs : List Char} (h : '\x00' ∉ cs) : visibles cs = cs :=
  (List.map_congr_left fun _ hc => visible_eq_self fun hnul => h (hnul ▸ hc)).trans (List.map_id cs)

theorem visibles_eq_self_iff {cs : List Char} : visibles cs = cs ↔ '\x00' ∉ cs := by
  refine ⟨fun h hnul => ?_, visibles_eq_self⟩
  have hmem : '\x00' ∈ visibles cs := h.symm ▸ hnul
  obtain ⟨c, -, hc⟩ := List.mem_map.mp hmem
  unfold visible at hc
  split at hc
  · cases hc
  · next hne => exact hne (beq_iff_eq.mpr hc)

/-- A character is made visible before or after it is written. -/
theorem visibles_escape (c : Char) :
    visibles (escapeInAttribute c) = escapeInAttribute (visible c) := by
  by_cases hnul : c = '\x00'
  · subst hnul
    decide
  · rw [visible_eq_self hnul]
    refine visibles_eq_self ?_
    unfold escapeInAttribute
    split
    · decide
    · decide
    · decide
    · simpa using Ne.symm hnul

theorem visibles_flatMap_escape (cs : List Char) :
    visibles (cs.flatMap escapeInAttribute) = (visibles cs).flatMap escapeInAttribute := by
  simp only [visibles, List.map_flatMap, List.flatMap_map]
  exact List.flatMap_congr fun c _ => visibles_escape c

theorem quote_not_mem_escape (cs : List Char) :
    ∀ c ∈ cs.flatMap escapeInAttribute, (c == '"') = false := by
  refine fun c hc => beq_eq_false_iff_ne.mpr ?_
  rintro rfl
  obtain ⟨d, -, hc⟩ := List.mem_flatMap.mp hc
  unfold escapeInAttribute at hc
  split at hc
  · exact absurd hc (by decide)
  · exact absurd hc (by decide)
  · exact absurd hc (by decide)
  · next hquote => exact hquote (List.mem_singleton.mp hc).symm

/-! ### Attributes -/

theorem upTo_append {p : Char → Bool} {cs rest : List Char} (hcs : ∀ c ∈ cs, p c = false)
    (hrest : ∀ c ∈ rest.head?, p c = true) : upTo p (cs ++ rest) = (cs, rest) := by
  have hpos : ∀ c ∈ cs, (!p c) = true := fun c hc => by rw [hcs c hc]; rfl
  have hneg : ∀ c ∈ rest.head?, (!p c) = false := fun c hc => by rw [hrest c hc]; rfl
  rw [upTo, List.takeWhile_append_of_pos hpos, List.dropWhile_append_of_pos hpos,
    takeWhile_eq_nil_of_head hneg, dropWhile_eq_self_of_head hneg, List.append_nil]

theorem skipSpace_cons {c : Char} (h : isSpace c = false) (cs : List Char) :
    skipSpace (c :: cs) = c :: cs := by
  rw [skipSpace, List.dropWhile_cons, h, if_neg Bool.false_ne_true]

theorem attributeValue?_write (value rest : List Char) :
    attributeValue? ('"' :: (value.flatMap escapeInAttribute ++ '"' :: rest)) =
      some (String.ofList (visibles value), rest) := by
  have hupTo : upTo (· == '"') (value.flatMap escapeInAttribute ++ '"' :: rest) =
      (value.flatMap escapeInAttribute, '"' :: rest) :=
    upTo_append (quote_not_mem_escape value) (by simp)
  rw [attributeValue?, skipSpace_cons (by decide)]
  simp only [hupTo, visibles_flatMap_escape, Reference.decode_escape]

theorem write_eq {a : Attribute} (h : a.space = .none) :
    a.write = ' ' :: (a.localName.toList ++
      '=' :: '"' :: (a.value.toList.flatMap escapeInAttribute ++ ['"'])) := by
  simp [Attribute.write, Attribute.writtenName, h]

/-- What comes after the first character of the name of an attribute does not end the name. -/
theorem exists_of_isAttributeName {name : List Char} (h : isAttributeName name = true) :
    ∃ c cs, name = c :: cs ∧ isNameChar c = true ∧ visibles name = name ∧
      ∀ d ∈ cs, (isSpace d || d == '/' || d == '=' || d == '>') = false := by
  simp only [isAttributeName, Bool.and_eq_true, Bool.not_eq_true', List.all_eq_true] at h
  obtain ⟨⟨hne, hchars⟩, hequals⟩ := h
  cases name with
  | nil => cases hne
  | cons c cs =>
    refine ⟨c, cs, rfl, hchars c List.mem_cons_self, visibles_eq_self fun hnul => ?_, fun d hd => ?_⟩
    · exact (isNameChar_iff.mp (hchars _ hnul)).2 rfl
    · have hends := (isNameChar_iff.mp (hchars d (List.mem_cons_of_mem c hd))).1
      have hequal : (d == '=') = false := by
        rw [beq_eq_false_iff_ne]
        rintro rfl
        simp [hd] at hequals
      simp only [Bool.or_eq_false_iff] at hends ⊢
      exact ⟨⟨hends.1, hequal⟩, hends.2⟩

theorem attribute?_write {a : Attribute} {c : Char} {cs : List Char}
    (hname : a.localName.toList = c :: cs) (hvisible : visibles (c :: cs) = c :: cs)
    (hcs : ∀ d ∈ cs, (isSpace d || d == '/' || d == '=' || d == '>') = false) (rest : List Char) :
    attribute? c (cs ++ '=' :: '"' :: (a.value.toList.flatMap escapeInAttribute ++ '"' :: rest)) =
      some (a.readBack, rest) := by
  have hupTo : upTo (fun d => isSpace d || d == '/' || d == '=' || d == '>')
      (cs ++ '=' :: '"' :: (a.value.toList.flatMap escapeInAttribute ++ '"' :: rest)) =
      (cs, '=' :: '"' :: (a.value.toList.flatMap escapeInAttribute ++ '"' :: rest)) :=
    upTo_append hcs (by simp)
  have hnameOf : nameOf (c :: cs) = a.readBack.1 := by
    rw [nameOf, hvisible, Attribute.readBack, hname]
  rw [attribute?, hupTo]
  simp only [skipSpace_cons (by decide : isSpace '=' = false), attributeValue?_write, hnameOf]
  rfl

/-! ### Tags -/

/-- The attributes of a start tag are read one after the other. -/
theorem tagRest?_write {attributes : List Attribute} (h : ∀ a ∈ attributes, a.IsWritable) {n : Nat}
    (hn : attributes.length < n) (read : List (String × String)) (rest : List Char) :
    tagRest? n read (attributes.flatMap Attribute.write ++ '>' :: rest) =
      some (withoutRepeats (read.reverse ++ attributes.map Attribute.readBack), false, rest) := by
  induction attributes generalizing n read with
  | nil =>
    obtain ⟨n, rfl⟩ := Nat.exists_eq_add_one_of_ne_zero (Nat.ne_of_gt hn)
    rw [List.flatMap_nil, List.nil_append, tagRest?, skipSpace_cons (by decide)]
    simp
  | cons a attributes ih =>
    obtain ⟨n, rfl⟩ := Nat.exists_eq_add_one_of_ne_zero (Nat.ne_of_gt (Nat.zero_lt_of_lt hn))
    obtain ⟨ha, hattributes⟩ := List.forall_mem_cons.mp h
    obtain ⟨c, cs, hname, hc, hvisible, hcs⟩ := exists_of_isAttributeName ha.2
    have hends := (isNameChar_iff.mp hc).1
    simp only [Bool.or_eq_false_iff, beq_eq_false_iff_ne] at hends
    obtain ⟨⟨hspace, hslash⟩, hend⟩ := hends
    have ih := ih hattributes (Nat.lt_of_succ_lt_succ hn) (a.readBack :: read)
    rw [List.reverse_cons, List.append_assoc, List.singleton_append] at ih
    have htext : (a :: attributes).flatMap Attribute.write ++ '>' :: rest =
        ' ' :: c :: (cs ++ '=' :: '"' :: (a.value.toList.flatMap escapeInAttribute ++
          '"' :: (attributes.flatMap Attribute.write ++ '>' :: rest))) := by
      simp [write_eq ha.1, hname]
    have hskip (more : List Char) : skipSpace (' ' :: c :: more) = c :: more :=
      skipSpace_cons hspace more
    -- a blank, and then neither the end of the tag nor a slash
    rw [htext, tagRest?, hskip]
    split
    · next heq => cases heq
    · next heq => exact absurd (List.cons.inj heq).1 hend
    · next heq => exact absurd (List.cons.inj heq).1 hslash
    · next heq => exact absurd (List.cons.inj heq).1 hslash
    · next heq =>
      obtain ⟨rfl, rfl⟩ := List.cons.inj heq
      rw [attribute?_write hname (hname ▸ hvisible) hcs]
      exact ih

theorem length_le_length_flatMap_write (attributes : List Attribute) :
    attributes.length ≤ (attributes.flatMap Attribute.write).length := by
  induction attributes with
  | nil => exact Nat.le_refl 0
  | cons a attributes ih =>
    rw [List.flatMap_cons, List.length_append, List.length_cons]
    have hlt : 0 < a.write.length := by simp [Attribute.write]
    omega

theorem construct_of_isAsciiLetter {c : Char} (hc : isAsciiLetter c = true) (allowsCdata : Bool)
    (cs : List Char) : construct allowsCdata (c :: cs) = tag false (c :: cs) := by
  unfold construct
  split
  · next heq => cases (List.cons.inj heq).1 ▸ hc
  · next heq => cases (List.cons.inj heq).1 ▸ hc
  · next heq => cases (List.cons.inj heq).1 ▸ hc
  · next heq => cases (List.cons.inj heq).1 ▸ hc
  · next heq => cases (List.cons.inj heq).1 ▸ hc
  · next heq =>
    obtain ⟨rfl, rfl⟩ := List.cons.inj heq
    rw [if_pos hc]
  · next heq => cases heq

/-- A start tag is read back, with small letters in the names of its attributes and a replacement for
every zero in their values. -/
theorem next_startTag {name : ElementName} (hname : isTagName name.localName.toList = true)
    (hsmall : isSmall name.localName.toList = true) {attributes : List Attribute}
    (h : ∀ a ∈ attributes, a.IsWritable) (allowsCdata : Bool) (rest : List Char) :
    next allowsCdata .markup (startTag name attributes ++ rest) =
      ([.tag { name := name.localName,
               attributes := withoutRepeats (attributes.map Attribute.readBack) }], rest) := by
  obtain ⟨hletter, hchars⟩ := Bool.and_eq_true_iff.mp hname
  rw [List.all_eq_true] at hchars
  have hends : ∀ c ∈ name.localName.toList, (isSpace c || c == '/' || c == '>') = false :=
    fun c hc => (isNameChar_iff.mp (hchars c hc)).1
  have hnameOf : nameOf name.localName.toList = name.localName := by
    rw [nameOf, visibles_eq_self fun hnul => (isNameChar_iff.mp (hchars _ hnul)).2 rfl,
      beq_iff_eq.mp hsmall, String.ofList_toList]
  have hmore : ∀ c ∈ (attributes.flatMap Attribute.write ++ '>' :: rest).head?,
      (isSpace c || c == '/' || c == '>') = true := by
    cases attributes with
    | nil => simp
    | cons a attributes => simp [Attribute.write, isSpace]
  -- the name goes up to the blank of the first attribute, or to the end of the tag
  have hupTo : upTo (fun c => isSpace c || c == '/' || c == '>')
      (name.localName.toList ++ (attributes.flatMap Attribute.write ++ '>' :: rest)) =
      (name.localName.toList, attributes.flatMap Attribute.write ++ '>' :: rest) :=
    upTo_append hends hmore
  have hread : tagRest? ((attributes.flatMap Attribute.write ++ '>' :: rest).length + 1) []
      (attributes.flatMap Attribute.write ++ '>' :: rest) =
      some (withoutRepeats (attributes.map Attribute.readBack), false, rest) := by
    refine tagRest?_write h ?_ [] rest
    have hle := length_le_length_flatMap_write attributes
    rw [List.length_append, List.length_cons]
    omega
  have htext : startTag name attributes ++ rest =
      '<' :: (name.localName.toList ++ (attributes.flatMap Attribute.write ++ '>' :: rest)) := by
    simp [startTag]
  have htag : tag false (name.localName.toList ++ (attributes.flatMap Attribute.write ++ '>' :: rest)) =
      ([.tag { name := name.localName,
               attributes := withoutRepeats (attributes.map Attribute.readBack) }], rest) := by
    rw [tag, hupTo]
    simp only [hread, hnameOf]
  rw [htext, ← htag]
  cases hcs : name.localName.toList with
  | nil => simp [hcs] at hletter
  | cons c cs =>
    rw [hcs, List.head?_cons, Option.any_some] at hletter
    exact construct_of_isAsciiLetter hletter allowsCdata _

end Lexer

end SourceEdit.Markup
