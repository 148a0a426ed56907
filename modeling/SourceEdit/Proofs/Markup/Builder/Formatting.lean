import SourceEdit.Markup.Builder.Formatting
import SourceEdit.Proofs.Markup.Builder.Basic

/-!
# Formatting elements are opened again as they were

A formatting element is opened again, or split, with the tag in the list of formatting elements, so it
is enough that the list holds sound tags.
-/

namespace SourceEdit.Markup.Builder

/-! ### The list -/

section Lists

variable {items : List Formatting} (h : IsSound items)

include h

@[grind ←]
theorem isSound_drop (n : Nat) : IsSound (items.drop n) :=
  fun x hx => h x (List.mem_of_mem_drop hx)

@[grind ←]
theorem isSound_dropWhile (p : Formatting → Bool) : IsSound (items.dropWhile p) :=
  fun x hx => h x ((List.dropWhile_suffix p).subset hx)

@[grind ←]
theorem isSound_takeWhile (p : Formatting → Bool) : IsSound (items.takeWhile p) :=
  fun x hx => h x ((List.takeWhile_prefix p).subset hx)

@[grind ←]
theorem isSound_reverse : IsSound items.reverse := fun x hx => h x (List.mem_reverse.mp hx)

@[grind ←]
theorem isSound_eraseP (p : Formatting → Bool) : IsSound (items.eraseP p) :=
  fun x hx => h x (List.mem_of_mem_eraseP hx)

/-- The formatting elements since the last mark. -/
@[grind ←]
theorem isSound_sinceMark : IsSound (sinceMark items) := by
  rintro ⟨id, tag⟩ hmem
  obtain ⟨item, hitem, heq⟩ := List.mem_filterMap.mp hmem
  have hitem := isSound_takeWhile h _ item hitem
  cases item with
  | mark => cases heq
  | element other t =>
    cases heq
    exact ⟨trivial, hitem⟩

/-- One formatting element takes the place of another one, or stands after the bookmark. -/
@[grind ←]
theorem isSound_moveItem (old : NodeId) (bookmark : Option NodeId) {new : Formatting}
    (hnew : IsSound new) : IsSound (moveItem old bookmark new items) := by
  unfold moveItem
  cases bookmark with
  | none =>
    refine isSound_map h fun item hitem => ?_
    split
    · exact hnew
    · exact hitem
  | some id =>
    refine isSound_eraseP (fun x hx => ?_) _
    obtain ⟨item, hitem, hx⟩ := List.mem_flatMap.mp hx
    split at hx
    · exact isSound_cons.mpr ⟨hnew, isSound_cons.mpr ⟨h item hitem, isSound_nil.mpr trivial⟩⟩ x hx
    · exact isSound_cons.mpr ⟨h item hitem, isSound_nil.mpr trivial⟩ x hx

end Lists

/-- A change to the list of formatting elements alone. -/
@[grind ←]
theorem keeps_editFormatting {f : List Formatting → List Formatting}
    (h : ∀ items, IsSound items → IsSound (f items)) : Keeps (editFormatting f) := by
  unfold editFormatting
  grind

@[grind ←]
theorem keeps_markFormatting : Keeps markFormatting := by
  unfold markFormatting
  grind

/-- The formatting elements since the last mark are forgotten. -/
@[grind ←]
theorem keeps_dropToMark : Keeps dropToMark := by
  unfold dropToMark
  grind

/-- A formatting element is forgotten. -/
@[grind ←]
theorem keeps_removeFormatting (id : NodeId) : Keeps (removeFormatting id) := by
  unfold removeFormatting
  grind

/-- The element of a tag is opened and remembered. -/
@[grind ←]
theorem keeps_insertFormatting {t : Tag} (ht : IsSound t) : Keeps (insertFormatting t) := by
  unfold insertFormatting
  grind

/-! ### Opening again -/

/-- Formatting elements are opened again with the tags that they were opened with. -/
@[grind ←]
theorem keeps_reopenAll {items : List Formatting} (h : IsSound items) : Keeps (reopenAll items) := by
  induction items with
  | nil =>
    unfold reopenAll
    grind
  | cons item rest ih =>
    obtain ⟨hitem, hrest⟩ := isSound_cons.mp h
    have ih := ih hrest
    cases item <;> (unfold reopenAll; grind)

@[grind ←]
theorem keeps_reopenFormatting : Keeps reopenFormatting := by
  unfold reopenFormatting
  grind

/-! ### Closing in another order -/

/-- The elements between a formatting element and the block in it get copies. -/
@[grind ←]
theorem keeps_splitBetween (count : Nat) (s : Split) (es : List OpenElement) :
    Keeps (splitBetween count s es) := by
  induction es generalizing count s with
  | nil =>
    unfold splitBetween
    grind
  | cons e rest ih =>
    unfold splitBetween
    refine .bind .get fun b hb => ?_
    dsimp only
    split
    · next id tag hfind =>
      have htag : IsSound tag :=
        isSound_formatting.mp (hb.2.1 _ (List.mem_of_find?_eq_some hfind))
      grind
    · exact ih _ _

/-- Moving the children of a node one by one. -/
@[grind ←]
theorem isSound_foldl {tree : Markup} {f : Markup → NodeId → Markup} (h : IsSound tree)
    (hf : ∀ tree c, IsSound tree → IsSound (f tree c)) (children : List NodeId) :
    IsSound (children.foldl f tree) := by
  induction children generalizing tree with
  | nil => exact h
  | cons c children ih => exact ih (hf tree c h)

/-- A formatting element that a block was opened in is closed around the block and opened inside it.
-/
@[grind ←]
theorem keeps_splitAround (id : NodeId) {tag : Tag} (h : IsSound tag) (inside : List OpenElement)
    (parent : OpenElement) : Keeps (splitAround id tag inside parent) := by
  unfold splitAround
  dsimp only
  split
  · grind
  · repeat' with_reducible refine .bind ?_ fun _ _ => ?_
    all_goals grind

/-- An end tag that no rule is made for. -/
@[grind ←]
theorem keeps_closeAnyOther (name : String) : Keeps (closeAnyOther name) := by
  unfold closeAnyOther
  grind

/-- One round of closing a formatting element. -/
@[grind ←]
theorem keeps_closeRound (name : String) : Keeps (closeRound name) := by
  unfold closeRound
  refine .bind .get fun b hb => ?_
  dsimp only
  split
  · grind
  · next id tag hfind =>
    have htag : IsSound tag :=
      (isSound_sinceMark hb.2.1 _ (List.mem_of_find?_eq_some hfind)).2
    grind

/-- A step that is repeated up to a number of times. -/
@[grind ←]
theorem keeps_repeatUpTo {step : Construction Bool} (h : Keeps step) (n : Nat) :
    Keeps (repeatUpTo step n) := by
  induction n with
  | zero =>
    unfold repeatUpTo
    grind
  | succ n ih =>
    unfold repeatUpTo
    grind

@[grind ←]
theorem keeps_closeFormatting (name : String) : Keeps (closeFormatting name) := by
  unfold closeFormatting
  grind

/-- A link is closed before another one is opened. -/
@[grind ←]
theorem keeps_closeLink : Keeps closeLink := by
  unfold closeLink
  grind

end SourceEdit.Markup.Builder
