import SourceEdit.Proofs.Text.Trim
import SourceEdit.Stylesheet.Node

/-!
# What cleaning cuts off

The text of an item is cleaned by its characters.  White space and separators are cut off at its
end, the at-signs and the white space around the parameters of an at-rule are left out, and a
declaration is split at its first colon.  Here this is undone: the text of an item is put together
from what is left and what was cut off, and what is left is found again when it is written with
separators of its own.
-/

namespace SourceEdit.Stylesheet

/-! ### The end of an item -/

/-- A character that may be cut off at the end of an item. -/
def IsCutOff (c : Char) : Prop := isBlank c = true ∨ c = ';' ∨ c = '\x7b'

/-- A character that is cut off at the end of an item without a block. -/
def IsStray (c : Char) : Prop := isBlank c = true ∨ c = ';'

theorem IsStray.isCutOff {c : Char} (hc : IsStray c) : IsCutOff c := hc.imp_right .inl

section Ends

variable {t : List Char} {p : Char → Bool}

theorem exists_append_trim (hhead : ∀ c ∈ t.head?, isBlank c = false) :
    ∃ g, t = trim t ++ g ∧ ∀ c ∈ g, isBlank c = true := by
  obtain ⟨a, g, ht, ha, hg, -⟩ := trim_spec t
  cases a with
  | nil => exact ⟨g, ht, hg⟩
  | cons c a =>
    have hc := hhead c (by rw [ht]; rfl)
    rw [ha c List.mem_cons_self] at hc
    cases hc

theorem exists_append_trim_trimEndBy (hhead : ∀ c ∈ t.head?, isBlank c = false) :
    ∃ g, t = trim (trimEndBy p t) ++ g ∧ ∀ c ∈ g, isBlank c = true ∨ p c = true := by
  obtain ⟨b, ht, hb, -⟩ := trimEndBy_spec p t
  obtain ⟨g, hg, hblank⟩ := exists_append_trim (t := trimEndBy p t) fun c hc =>
    hhead c (by rw [ht]; exact List.mem_head?_append_of_mem_head? hc)
  refine ⟨g ++ b, by rw [← List.append_assoc, ← hg, ← ht], ?_⟩
  exact List.forall_mem_append.mpr ⟨fun c hc => .inl (hblank c hc), fun c hc => .inr (hb c hc)⟩

/-- The text of an item without a block, from its text up to its semicolon. -/
theorem leafOf_append (hhead : ∀ c ∈ t.head?, isBlank c = false) :
    leafOf (t ++ [';']) = trim (trimEndBy (· == ';') t) := by
  have htrimmed : Trimmed (t ++ [';']) := by
    refine ⟨?_, by simp [show isBlank ';' = false by decide]⟩
    cases t with
    | nil => simp [show isBlank ';' = false by decide]
    | cons c t => exact hhead
  rw [leafOf, trim_eq_self htrimmed, trimEndBy_append_of_all (by simp)]

/-- The text of an item before its block, from its text up to the opening brace. -/
theorem preludeOf_append (t : List Char) :
    preludeOf (t ++ ['\x7b']) = trim (trimEndBy (· == '\x7b') t) := by
  have hlast : trimEnd (t ++ ['\x7b']) = t ++ ['\x7b'] :=
    trimEndBy_eq_self (by simp [show isBlank '\x7b' = false by decide])
  rw [preludeOf, hlast, trimEndBy_append_of_all (by simp)]

/-- An item without a block is its text, with white space before it and semicolons behind it. -/
theorem exists_leafOf (raw : List Char) : ∃ a g, raw = a ++ (leafOf raw ++ g) ∧
    (∀ c ∈ a, isBlank c = true) ∧ ∀ c ∈ g, IsStray c := by
  obtain ⟨a, b, hraw, ha, hb, -⟩ := trim_spec raw
  obtain ⟨e, htrim, he, -⟩ := trimEndBy_spec (· == ';') (trim raw)
  obtain ⟨a', b', hinner, ha', hb', -⟩ := trim_spec (trimEndBy (· == ';') (trim raw))
  refine ⟨a ++ a', b' ++ (e ++ b), ?_, List.forall_mem_append.mpr ⟨ha, ha'⟩, ?_⟩
  · conv_lhs => rw [hraw, htrim, hinner]
    simp [leafOf]
  · refine List.forall_mem_append.mpr ⟨fun c hc => .inl (hb' c hc), ?_⟩
    exact List.forall_mem_append.mpr ⟨fun c hc => .inr (by simpa using he c hc),
      fun c hc => .inl (hb c hc)⟩

/-- Where an item without a block has ended with a semicolon, that one is behind the item. -/
theorem exists_leafOf_append (t : List Char) : ∃ a g, t = a ++ (leafOf (t ++ [';']) ++ g) ∧
    (∀ c ∈ a, isBlank c = true) ∧ ∀ c ∈ g, IsStray c := by
  have ha : ∀ c ∈ t.takeWhile isBlank, isBlank c = true := mem_takeWhile_eq_true
  have hhead : ∀ c ∈ (t.dropWhile isBlank).head?, isBlank c = false := head_dropWhile_eq_false
  have ht := List.takeWhile_append_dropWhile (p := isBlank) (l := t)
  obtain ⟨g, hg, hstray⟩ := exists_append_trim_trimEndBy (p := (· == ';')) hhead
  refine ⟨t.takeWhile isBlank, g, ?_, ha, fun c hc => (hstray c hc).imp_right (by simp)⟩
  have hleaf : leafOf (t ++ [';']) = leafOf (t.dropWhile isBlank ++ [';']) := by
    have htrim (s : List Char) : trim (t.takeWhile isBlank ++ s) = trim s := by
      rw [trim, trimStart, List.dropWhile_append_of_pos ha, trim, trimStart]
    conv_lhs => rw [← ht, List.append_assoc]
    rw [leafOf, htrim, leafOf]
  rw [hleaf, leafOf_append hhead, ← hg, ht]

/-- What stands before a block is its text, with white space around it and braces behind it. -/
theorem exists_preludeOf (t : List Char) : ∃ a g, t = a ++ (preludeOf (t ++ ['\x7b']) ++ g) ∧
    (∀ c ∈ a, isBlank c = true) ∧ ∀ c ∈ g, isBlank c = true ∨ c = '\x7b' := by
  obtain ⟨e, ht, he, -⟩ := trimEndBy_spec (· == '\x7b') t
  obtain ⟨a, b, hinner, ha, hb, -⟩ := trim_spec (trimEndBy (· == '\x7b') t)
  refine ⟨a, b ++ e, ?_, ha, ?_⟩
  · conv_lhs => rw [ht, hinner]
    simp [preludeOf_append]
  · exact List.forall_mem_append.mpr ⟨fun c hc => .inl (hb c hc),
      fun c hc => .inr (by simpa using he c hc)⟩

theorem eq_nil_of_isBlank {a : List Char} (ha : ∀ c ∈ a, isBlank c = true)
    (hhead : ∀ c ∈ (a ++ t).head?, isBlank c = false) : a = [] := by
  cases a with
  | nil => rfl
  | cons c a => exact absurd (ha c List.mem_cons_self) (by simp [hhead c rfl])

theorem exists_append_leafOf (hhead : ∀ c ∈ t.head?, isBlank c = false) :
    ∃ g, t = leafOf t ++ g ∧ ∀ c ∈ g, IsCutOff c := by
  obtain ⟨a, g, ht, ha, hg⟩ := exists_leafOf t
  obtain rfl : a = [] := eq_nil_of_isBlank ha (ht ▸ hhead)
  exact ⟨g, ht, fun c hc => (hg c hc).isCutOff⟩

theorem exists_append_leafOf_append (hhead : ∀ c ∈ t.head?, isBlank c = false) :
    ∃ g, t = leafOf (t ++ [';']) ++ g ∧ ∀ c ∈ g, IsCutOff c := by
  obtain ⟨a, g, ht, ha, hg⟩ := exists_leafOf_append t
  obtain rfl : a = [] := eq_nil_of_isBlank ha (ht ▸ hhead)
  exact ⟨g, ht, fun c hc => (hg c hc).isCutOff⟩

theorem exists_append_preludeOf_append (hhead : ∀ c ∈ t.head?, isBlank c = false) :
    ∃ g, t = preludeOf (t ++ ['\x7b']) ++ g ∧ ∀ c ∈ g, IsCutOff c := by
  obtain ⟨a, g, ht, ha, hg⟩ := exists_preludeOf t
  obtain rfl : a = [] := eq_nil_of_isBlank ha (ht ▸ hhead)
  exact ⟨g, ht, fun c hc => (hg c hc).imp_right .inr⟩

/-- Only the semicolon that is written is cut off again. -/
theorem leafOf_append_eq (hhead : ∀ c ∈ t.head?, isBlank c = false)
    (hlast : ∀ c ∈ t.getLast?, c ≠ ';') : leafOf (t ++ [';']) = trim t := by
  rw [leafOf_append hhead, trimEndBy_eq_self fun c hc => by simpa using hlast c hc]

theorem preludeOf_append_eq (hlast : ∀ c ∈ t.getLast?, c ≠ '\x7b') :
    preludeOf (t ++ ['\x7b']) = trim t := by
  rw [preludeOf_append, trimEndBy_eq_self fun c hc => by simpa using hlast c hc]

end Ends

/-! ### At-rules -/

section AtRule

variable {x name params : List Char}

theorem exists_replicate_append (hat : x.head? = some '@') :
    ∃ n, x = List.replicate n '@' ++ '@' :: x.dropWhile (· == '@') := by
  obtain ⟨x, rfl⟩ := List.head?_eq_some_iff.mp hat
  have hsigns : x.takeWhile (· == '@') = List.replicate (x.takeWhile (· == '@')).length '@' :=
    List.eq_replicate_of_mem fun c hc => beq_iff_eq.mp (mem_takeWhile_eq_true (p := (· == '@')) c hc)
  refine ⟨(x.takeWhile (· == '@')).length, ?_⟩
  rw [List.dropWhile_cons, if_pos (beq_self_eq_true '@'), List.append_cons, ← List.replicate_succ',
    List.replicate_succ, ← hsigns, List.cons_append, List.takeWhile_append_dropWhile]

/-- An at-rule is its at-signs, its name, white space and its parameters. -/
theorem exists_splitAtRule (hx : Trimmed x) (hat : x.head? = some '@') :
    ∃ n w, x = List.replicate n '@' ++
        ('@' :: (splitAtRule x).1.toList ++ (w ++ (splitAtRule x).2.toList)) ∧
      (∀ c ∈ w, isBlank c = true) ∧ Trimmed (splitAtRule x).2.toList ∧
      ((splitAtRule x).2.toList = [] → w = []) ∧
      ∀ c ∈ (w ++ (splitAtRule x).2.toList).head?, endsAtName c = true := by
  obtain ⟨n, hsigns⟩ := exists_replicate_append hat
  have hname : (splitAtRule x).1.toList = (x.dropWhile (· == '@')).takeWhile fun c => !endsAtName c :=
    String.toList_ofList
  have hparams : (splitAtRule x).2.toList =
      trim ((x.dropWhile (· == '@')).dropWhile fun c => !endsAtName c) := String.toList_ofList
  have hsplit : x.dropWhile (· == '@') = (splitAtRule x).1.toList ++
      (x.dropWhile (· == '@')).dropWhile fun c => !endsAtName c := by
    rw [hname, List.takeWhile_append_dropWhile]
  obtain ⟨w, b, hrest, hw, hb, htrimmed⟩ :=
    trim_spec ((x.dropWhile (· == '@')).dropWhile fun c => !endsAtName c)
  rw [← hparams] at hrest htrimmed
  have hwhole : x = List.replicate n '@' ++
      ('@' :: (splitAtRule x).1.toList ++ (w ++ (splitAtRule x).2.toList)) ++ b := by
    rw [hsplit, hrest] at hsigns
    simpa using hsigns
  obtain rfl : b = [] := Trimmed.eq_nil_of_append (hwhole ▸ hx) hb
  rw [List.append_nil] at hrest hwhole
  refine ⟨n, w, hwhole, hw, htrimmed, fun hnil => ?_, fun c hc => ?_⟩
  · rw [hnil, List.append_nil, ← List.append_assoc] at hwhole
    exact Trimmed.eq_nil_of_append (hwhole ▸ hx) hw
  · rw [← hrest] at hc
    simpa using head_dropWhile_eq_false (p := fun c => !endsAtName c) c hc

theorem endsAtName_of_mem_name (x : List Char) : ∀ c ∈ (splitAtRule x).1.toList, endsAtName c = false := by
  have hname : (splitAtRule x).1.toList = (x.dropWhile (· == '@')).takeWhile fun c => !endsAtName c :=
    String.toList_ofList
  intro c hc
  rw [hname] at hc
  simpa using mem_takeWhile_eq_true (p := fun c => !endsAtName c) c hc

/-- The name and the parameters of an at-rule with one at-sign. -/
theorem splitAtRule_append (hat : name.head? ≠ some '@') (hname : ∀ c ∈ name, endsAtName c = false)
    {t : List Char} (ht : ∀ c ∈ t.head?, endsAtName c = true) :
    splitAtRule ('@' :: (name ++ t)) = (String.ofList name, String.ofList (trim t)) := by
  have hbody : ('@' :: (name ++ t)).dropWhile (· == '@') = name ++ t := by
    rw [List.dropWhile_cons, if_pos (beq_self_eq_true '@')]
    refine dropWhile_eq_self_of_head fun c hc => beq_eq_false_iff_ne.mpr ?_
    rintro rfl
    cases name with
    | nil => exact absurd (ht '@' hc) (by decide)
    | cons d name => exact hat hc
  have hend : ∀ c ∈ t.head?, (fun c => !endsAtName c) c = false := by simpa using ht
  simp only [splitAtRule, hbody]
  rw [List.takeWhile_append_of_pos (by simpa using hname), takeWhile_eq_nil_of_head hend,
    List.append_nil, List.dropWhile_append_of_pos (by simpa using hname),
    dropWhile_eq_self_of_head hend]

end AtRule

/-! ### Declarations -/

section Declaration

variable {x p : List Char} {property value : String}

/-- An item without a block is an at-rule or a declaration. -/
theorem Node.ofLeaf?_cases {n : Node} (h : Node.ofLeaf? x = some n) :
    (x.head? = some '@' ∧ n = .atRule (splitAtRule x).1 (splitAtRule x).2 false) ∨
      (x.head? ≠ some '@' ∧ ∃ value, x = x.takeWhile (· != ':') ++ ':' :: value ∧
        trim (x.takeWhile (· != ':')) ≠ [] ∧
        n = .declaration (String.ofList (trim (x.takeWhile (· != ':')))) (String.ofList (trim value))) := by
  unfold Node.ofLeaf? at h
  split at h
  · cases h
  · exact .inl ⟨rfl, (Option.some.inj h).symm⟩
  · next hat =>
    refine .inr ⟨fun hhead => ?_, ?_⟩
    · obtain ⟨r, rfl⟩ := List.head?_eq_some_iff.mp hhead
      exact hat r rfl
    dsimp only at h
    split at h
    · cases h
    · next c value hdrop =>
      split at h
      · cases h
      · next hproperty =>
        refine ⟨value, ?_, by simpa using hproperty, (Option.some.inj h).symm⟩
        have hcolon : c = ':' := by
          have hhead : c ∈ (x.dropWhile (· != ':')).head? := by rw [hdrop]; rfl
          simpa using head_dropWhile_eq_false c hhead
        rw [hcolon] at hdrop
        rw [← hdrop, List.takeWhile_append_dropWhile]

/-- A declaration is its property, a colon and its value, with white space around the colon. -/
theorem exists_of_ofLeaf?_declaration (hx : Trimmed x)
    (h : Node.ofLeaf? x = some (.declaration property value)) :
    ∃ w w', x = property.toList ++ (w ++ ':' :: (w' ++ value.toList)) ∧
      (∀ c ∈ w, isBlank c = true) ∧ (∀ c ∈ w', isBlank c = true) ∧
      Trimmed property.toList ∧ property.toList ≠ [] ∧ ':' ∉ property.toList ∧
      property.toList.head? ≠ some '@' ∧ Trimmed value.toList ∧ (value.toList = [] → w' = []) := by
  obtain ⟨-, h⟩ | ⟨hat, rest, hsplit, hne, h⟩ := Node.ofLeaf?_cases h
  · cases h
  simp only [Node.declaration.injEq] at h
  obtain ⟨rfl, rfl⟩ := h
  simp only [String.toList_ofList]
  obtain ⟨w', b, hrest, hw', hb, htrimmed⟩ := trim_spec rest
  have hcolon : ':' ∉ x.takeWhile (· != ':') := fun h => by
    have := mem_takeWhile_eq_true (p := (· != ':')) ':' h
    simp at this
  obtain ⟨w, hw, hblank⟩ := exists_append_trim (t := x.takeWhile (· != ':')) fun c hc =>
    hx.head c (by rw [hsplit]; exact List.mem_head?_append_of_mem_head? hc)
  have hp := trimmed_trim (x.takeWhile (· != ':'))
  generalize trim (x.takeWhile (· != ':')) = p at hne hw hp ⊢
  rw [hw] at hsplit hcolon
  -- the text is trimmed, so nothing blank follows the value
  have hend : b = [] := by
    refine Trimmed.eq_nil_of_append (a := p ++ w ++ ':' :: (w' ++ trim rest)) ?_ hb
    rw [hsplit, hrest] at hx
    simpa using hx
  rw [hend, List.append_nil] at hrest
  refine ⟨w, w', ?_, hblank, hw', hp, hne, ?_, ?_, htrimmed, fun hnil => ?_⟩
  · rw [← hrest, ← List.append_assoc, ← hsplit]
  · exact fun h => hcolon (List.mem_append_left w h)
  · obtain ⟨c, p, rfl⟩ := List.exists_cons_of_ne_nil hne
    rwa [hsplit] at hat
  · refine Trimmed.eq_nil_of_append (a := p ++ w ++ [':']) ?_ hw'
    rw [hsplit, hrest, hnil] at hx
    simpa using hx

theorem Node.ofLeaf?_declaration (hp : Trimmed p) (hne : p ≠ []) (hcolon : ':' ∉ p)
    (hat : p.head? ≠ some '@') (t : List Char) :
    Node.ofLeaf? (p ++ ':' :: t) = some (.declaration (String.ofList p) (String.ofList (trim t))) := by
  obtain ⟨c, p, rfl⟩ := List.exists_cons_of_ne_nil hne
  have hc : c ≠ '@' := fun h => hat (by rw [h]; rfl)
  have hplain : ∀ d ∈ c :: p, (d != ':') = true := fun d hd =>
    bne_iff_ne.mpr fun h => hcolon (h ▸ hd)
  have htake : (c :: p ++ ':' :: t).takeWhile (· != ':') = c :: p := by
    rw [List.takeWhile_append_of_pos hplain]
    simp
  have hdrop : (c :: p ++ ':' :: t).dropWhile (· != ':') = ':' :: t := by
    rw [List.dropWhile_append_of_pos hplain]
    simp
  unfold Node.ofLeaf?
  split
  · next heq => cases heq
  · next heq => exact absurd (List.cons.inj heq).1 hc
  · simp only [htake, hdrop, trim_eq_self hp]
    simp

end Declaration

end SourceEdit.Stylesheet
