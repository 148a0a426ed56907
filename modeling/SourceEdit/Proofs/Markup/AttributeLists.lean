import SourceEdit.Proofs.Markup.Attributes
import SourceEdit.Proofs.Markup.StartTag

/-!
# Attributes that are written and read again

Names are read in small letters, and of attributes of the same name only the first is kept.  The
attributes of an element of ordinary markup have different names even in small letters, and setting one
of them keeps it so (`AreDistinct.setAttribute`).  They come back as they are if none of their names
has a capital and none of their values a zero (`AreDistinct.plainAttributes_eq_iff`).
-/

namespace SourceEdit.Markup

variable {s : SimpleSelector} {name value : String} {attributes : List Attribute}

/-! ### Attributes of ordinary markup -/

/-- The attributes of an element of ordinary markup, whose names differ even in small letters. -/
structure AreDistinct (attributes : List Attribute) : Prop where
  isWritable : ∀ a ∈ attributes, a.IsWritable
  nodup : (attributes.map fun a => asciiLower a.localName.toList).Nodup

theorem isAttributeName_of_letters {cs : List Char} (hne : cs ≠ [])
    (h : ∀ c ∈ cs, isAsciiLetter c = true) : isAttributeName cs = true := by
  have hequals : '=' ∉ cs.tail := fun hmem =>
    absurd (h '=' (List.mem_of_mem_tail hmem)) (by decide)
  have hchars : cs.all isNameChar = true :=
    List.all_eq_true.mpr fun c hc => Lexer.isNameChar_of_isAsciiLetter (h c hc)
  simp [isAttributeName, hne, hchars, hequals]

theorem isSmall_iff {cs : List Char} : isSmall cs = true ↔ asciiLower cs = cs := beq_iff_eq

theorem areDistinct_plainAttributes {l : List (String × String)} (hl : AreAttributes l) :
    AreDistinct (Builder.plainAttributes l) where
  isWritable := by
    intro a ha
    obtain ⟨⟨k, v⟩, hmem, rfl⟩ := List.mem_map.mp ha
    exact ⟨rfl, (hl.isName (k, v) hmem).1⟩
  nodup := by
    have hlower : ((Builder.plainAttributes l).map fun a => asciiLower a.localName.toList) =
        (l.map (·.1)).map String.toList := by
      rw [Builder.plainAttributes, List.map_map, List.map_map]
      exact List.map_congr_left fun a ha => isSmall_iff.mp (hl.isName a ha).2
    rw [hlower]
    exact hl.nodup.map fun _ _ h => String.toList_inj.mp h

theorem AreDistinct.setAttribute (h : AreDistinct attributes)
    (hname : isAttributeName name.toList = true) (value : String) :
    AreDistinct (setAttribute name value attributes) := by
  obtain ⟨before, a, after, rfl, -, -, hset⟩ | ⟨hnone, hset⟩ := setAttribute_cases name value attributes
  · have hwritable := h.isWritable
    rw [List.forall_mem_append, List.forall_mem_cons] at hwritable
    rw [hset]
    exact ⟨List.forall_mem_append.mpr ⟨hwritable.1, List.forall_mem_cons.mpr hwritable.2⟩,
      by simpa using h.nodup⟩
  · rw [hset]
    refine ⟨List.forall_mem_append.mpr ⟨h.isWritable, List.forall_mem_singleton.mpr ⟨rfl, hname⟩⟩, ?_⟩
    rw [List.map_append, List.map_singleton, List.nodup_append]
    refine ⟨h.nodup, List.nodup_singleton _, fun lower hlower _ hmem heq => ?_⟩
    obtain ⟨a, ha, rfl⟩ := List.mem_map.mp hlower
    have hnamed : a.isNamed name = true :=
      eqIgnoringCase_iff.mpr (heq.trans (List.mem_singleton.mp hmem))
    rw [hnone a ha] at hnamed
    cases hnamed

theorem withoutRepeats_eq_self {l : List (String × String)} (h : (l.map (·.1)).Nodup) :
    Lexer.withoutRepeats l = l := by
  have hfold (kept l : List (String × String)) (h : ((kept ++ l).map (·.1)).Nodup) :
      l.foldl (fun kept a => if kept.any (·.1 == a.1) then kept else kept ++ [a]) kept = kept ++ l := by
    induction l generalizing kept with
    | nil => simp
    | cons a l ih =>
      have hnew : kept.any (·.1 == a.1) = false := by
        rw [List.map_append, List.map_cons, List.nodup_middle, List.nodup_cons] at h
        simp only [List.any_eq_false, beq_iff_eq]
        exact fun b hb heq => h.1 (List.mem_append_left _ (List.mem_map.mpr ⟨b, hb, heq⟩))
      rw [List.foldl_cons, hnew, if_neg Bool.false_ne_true, ih (kept ++ [a]) (by simpa using h)]
      simp
  exact hfold [] l (by simpa using h)

theorem AreDistinct.withoutRepeats_eq (h : AreDistinct attributes) :
    Lexer.withoutRepeats (attributes.map Attribute.readBack) = attributes.map Attribute.readBack := by
  refine withoutRepeats_eq_self ?_
  have hnames : (attributes.map Attribute.readBack).map (·.1) =
      (attributes.map fun a => asciiLower a.localName.toList).map String.ofList := by
    simp [Attribute.readBack]
  rw [hnames]
  exact h.nodup.map fun _ _ h => String.ofList_injective h

/-- Attributes are read back as they are if they have no capitals in their names and no zeros in their
values. -/
theorem AreDistinct.plainAttributes_eq_iff (h : AreDistinct attributes) :
    Builder.plainAttributes (attributes.map Attribute.readBack) = attributes ↔
      ∀ a ∈ attributes, isSmall a.localName.toList = true ∧ '\x00' ∉ a.value.toList := by
  have hmap : Builder.plainAttributes (attributes.map Attribute.readBack) = attributes ↔
      attributes.map (fun a => { localName := a.readBack.1, value := a.readBack.2 }) =
        attributes.map id := by
    rw [List.map_id, Builder.plainAttributes, List.map_map]
    rfl
  rw [hmap, List.map_inj_left]
  refine forall₂_congr fun a ha => ?_
  obtain ⟨space, localName, v⟩ := a
  obtain rfl : space = .none := (h.isWritable _ ha).1
  simp [Attribute.readBack, isSmall_iff, ← Lexer.visibles_eq_self_iff, ← String.toList_inj]

theorem isSmall_plainAttributes {l : List (String × String)} (hl : AreAttributes l) :
    ∀ a ∈ Builder.plainAttributes l, isSmall a.localName.toList = true := by
  intro a ha
  obtain ⟨⟨k, v⟩, hmem, rfl⟩ := List.mem_map.mp ha
  exact (hl.isName (k, v) hmem).2

theorem forall_isSmall_setAttribute_iff (h : ∀ a ∈ attributes, isSmall a.localName.toList = true)
    (value : String) :
    (∀ a ∈ setAttribute name value attributes, isSmall a.localName.toList = true) ↔
      isSmall name.toList = true ∨ attributes.any (·.isNamed name) = true := by
  obtain ⟨before, a, after, rfl, -, ha, hset⟩ | ⟨hnone, hset⟩ := setAttribute_cases name value attributes
  · have hany : (before ++ a :: after).any (·.isNamed name) = true :=
      List.any_eq_true.mpr ⟨a, by simp, ha⟩
    rw [List.forall_mem_append, List.forall_mem_cons] at h
    rw [hset, List.forall_mem_append, List.forall_mem_cons]
    exact iff_of_true h (.inr hany)
  · have hany : attributes.any (·.isNamed name) = false :=
      List.any_eq_false.mpr fun a ha => by simp [hnone a ha]
    rw [hset, List.forall_mem_append, List.forall_mem_singleton, hany, and_iff_right h]
    simp

end SourceEdit.Markup
