import SourceEdit.Markup.Builder.Scope
import SourceEdit.Proofs.Arena.Operations
import SourceEdit.Proofs.Markup.Lexer

/-!
# What building keeps

An element of ordinary markup in the tree that is built has a name and attributes that the tag of a
text can have.  To carry this through all rules, the tags that wait to be opened again and the way of
reading have to be sound, too.  `Keeps p` says that a construction leads from sound states to sound
states and gives a sound result; the rules of this module follow the ways in which constructions are
put together and are tagged for `grind`, as those for parsers are.

Nothing is asked of graphics and formulas, whose attributes get other names.
-/

namespace SourceEdit.Markup

/-! ### Sound states -/

/-- An element of ordinary markup is as the tag of a text could be. -/
def Node.IsSound : Node → Prop
  | .element name attributes => name.space = .html →
      (isTagName name.localName.toList = true ∧ isSmall name.localName.toList = true) ∧
        ∃ l, AreAttributes l ∧ attributes = Builder.plainAttributes l
  | _ => True

instance Checked.node : Checked Node := ⟨Node.IsSound⟩

instance Checked.tree : Checked Markup := ⟨fun tree => ∀ id n, tree.get? id = some n → IsSound n⟩

/-- A formatting element is opened again with the tag that it was opened with. -/
def Formatting.IsSound : Formatting → Prop
  | .mark => True
  | .element _ t => SourceEdit.IsSound t

instance Checked.formatting : Checked Formatting := ⟨Formatting.IsSound⟩

instance Checked.builder : Checked Builder :=
  ⟨fun b => IsSound b.tree ∧ IsSound b.formatting ∧ IsSound b.reading⟩

/-- A token that is handled again is sound. -/
def Next.IsSound : Next → Prop
  | .done => True
  | .again t => SourceEdit.IsSound t

instance Checked.next : Checked Next := ⟨Next.IsSound⟩

@[simp, grind norm]
theorem isSound_textNode (s : String) : IsSound (Node.text s) ↔ True := .rfl

@[simp, grind norm]
theorem isSound_commentNode (s : String) : IsSound (Node.comment s) ↔ True := .rfl

@[simp, grind norm]
theorem isSound_doctypeNode (s : String) : IsSound (Node.doctype s) ↔ True := .rfl

@[simp, grind norm]
theorem isSound_mark : IsSound Formatting.mark ↔ True := .rfl

@[simp, grind =]
theorem isSound_formatting {id : NodeId} {t : Tag} :
    IsSound (Formatting.element id t) ↔ IsSound t := .rfl

@[simp, grind norm]
theorem isSound_done : IsSound Next.done ↔ True := .rfl

@[simp, grind =]
theorem isSound_again {t : Token} : IsSound (Next.again t) ↔ IsSound t := .rfl

/-- What is asked of a state, part by part. -/
@[grind =]
theorem isSound_builder {b : Builder} :
    IsSound b ↔ IsSound b.tree ∧ IsSound b.formatting ∧ IsSound b.reading := .rfl

/-- The attributes of a sound tag are those of the tag of a text. -/
@[grind →]
theorem areAttributes_of_isSound {t : Tag} (h : IsSound t) : AreAttributes t.attributes := h.2

/-- The name of a sound tag starts with a letter. -/
theorem head_of_isSound {t : Tag} (h : IsSound t) : t.name.toList.head?.any isAsciiLetter = true :=
  (Bool.and_eq_true_iff.mp h.1.1).1

/-- The text of an element waits for its end tag. -/
@[grind ←]
theorem isSound_referenceReading {t : Tag} (h : IsSound t) :
    IsSound (Reading.referenceText t.name.toList) := head_of_isSound h

/-- The name that ends a raw text is that of a sound tag. -/
@[grind ←]
theorem isSound_rawReading {t : Tag} (h : IsSound t) : IsSound (Reading.rawText t.name.toList) :=
  head_of_isSound h

@[simp, grind norm]
theorem isSound_scriptReading : IsSound Reading.script ↔ True := .rfl

@[simp, grind norm]
theorem isSound_plainReading : IsSound Reading.plain ↔ True := .rfl

@[simp, grind norm]
theorem isSound_markupReading : IsSound Reading.markup ↔ True := .rfl

/-- The element of a tag. -/
@[grind ←]
theorem isSound_ofTag {t : Tag} (h : IsSound t) :
    IsSound (Node.element { localName := t.name } (Builder.plainAttributes t.attributes)) :=
  fun _ => ⟨h.1, t.attributes, h.2, rfl⟩

/-- An element without attributes. -/
theorem isSound_implied {name : String}
    (h : isTagName name.toList = true ∧ isSmall name.toList = true) :
    IsSound (Node.element { localName := name } []) :=
  fun _ => ⟨h, [], .nil, rfl⟩

/-- A foreign element. -/
@[grind ←]
theorem isSound_foreign {name : ElementName} (h : name.space ≠ .html) (attributes : List Attribute) :
    IsSound (Node.element name attributes) := fun hspace => absurd hspace h

/-- Attributes whose names do not occur may be added. -/
theorem AreAttributes.append_filter {old new : List (String × String)} (hold : AreAttributes old)
    (hnew : AreAttributes new) :
    AreAttributes (old ++ new.filter fun a => !old.any (·.1 == a.1)) where
  isName := List.forall_mem_append.mpr
    ⟨hold.isName, fun a ha => hnew.isName a (List.mem_of_mem_filter ha)⟩
  nodup := by
    rw [List.map_append, List.nodup_append]
    refine ⟨hold.nodup, hnew.nodup.sublist (List.filter_sublist.map _), ?_⟩
    intro name hname other hother heq
    obtain ⟨a, ha, rfl⟩ := List.mem_map.mp hname
    obtain ⟨b, hb, rfl⟩ := List.mem_map.mp hother
    have hnone := (List.mem_filter.mp hb).2
    simp only [Bool.not_eq_true', List.any_eq_false, beq_iff_eq] at hnone
    exact hnone a ha heq

/-! ### Sound trees -/

section Trees

variable {tree other : Markup}

/-- Whether a tree is sound depends on the values of its nodes alone. -/
theorem isSound_tree_congr (h : ∀ x, other.get? x = tree.get? x) (htree : IsSound tree) :
    IsSound other := fun id n hn => htree id n (h id ▸ hn)

/-- A tree with one more node. -/
@[grind ←]
theorem isSound_alloc (h : IsSound tree) {n : Node} (hn : IsSound n) :
    IsSound (tree.alloc n).1 := by
  intro id v hv
  rw [Arena.get?_alloc] at hv
  split at hv
  · exact Option.some.inj hv ▸ hn
  · exact h id v hv

/-- A node may be given another sound value. -/
@[grind ←]
theorem isSound_modifyValue (h : IsSound tree) (id : NodeId) {f : Node → Node}
    (hf : ∀ n, IsSound n → IsSound (f n)) : IsSound (Arena.modifyValue tree id f) := by
  intro x v hv
  rw [Arena.get?_modifyValue] at hv
  split at hv
  · obtain ⟨w, hw, rfl⟩ := Option.map_eq_some_iff.mp hv
    exact hf w (h x w hw)
  · exact h x v hv

/-- Taking a node out of its place changes no value. -/
@[grind ←]
theorem isSound_detach (h : IsSound tree) (id : NodeId) : IsSound (Arena.detach tree id) :=
  isSound_tree_congr (Arena.get?_detach id) h

/-- Putting a node into a place changes no value. -/
@[grind ←]
theorem isSound_insertChild (h : IsSound tree) (p : NodeId) (i : Nat) (c : NodeId) :
    IsSound (Arena.insertChild tree p i c) :=
  isSound_tree_congr (Arena.get?_insertChild p i c) h

/-- Putting a node at the end of another one changes no value. -/
@[grind ←]
theorem isSound_appendChild (h : IsSound tree) (p c : NodeId) : IsSound (Arena.appendChild tree p c) :=
  isSound_tree_congr (Arena.get?_appendChild p c) h

end Trees

namespace Builder

/-! ### Constructions -/

/-- A construction gives a sound result and leads to a sound state from a state. -/
def KeepsAt {α : Type} [Checked α] (p : Construction α) (b : Builder) : Prop :=
  IsSound (p.run b).1 ∧ IsSound (p.run b).2

/-- A construction leads from sound states to sound states and gives a sound result. -/
def Keeps {α : Type} [Checked α] (p : Construction α) : Prop := ∀ b, IsSound b → KeepsAt p b

section Constructions

variable {α β : Type} [Checked α] [Checked β]

/-- A construction that goes on with what another one gives, from one state. -/
theorem KeepsAt.bind {p : Construction α} {f : α → Construction β} {b : Builder} (hp : KeepsAt p b)
    (hf : ∀ a, IsSound a → Keeps (f a)) : KeepsAt (p >>= f) b := hf _ hp.1 _ hp.2

/-- The state that is looked at is the one that the rest starts from. -/
theorem KeepsAt.get_bind {f : Builder → Construction β} {b : Builder} (hf : KeepsAt (f b) b) :
    KeepsAt (MonadState.get >>= f) b := hf

@[grind ←]
theorem Keeps.pure {a : α} (h : IsSound a) : Keeps (Pure.pure a) := fun _ hb => ⟨h, hb⟩

/-- A construction that goes on with what another one gives. -/
@[grind ←]
theorem Keeps.bind {p : Construction α} {f : α → Construction β} (hp : Keeps p)
    (hf : ∀ a, IsSound a → Keeps (f a)) : Keeps (p >>= f) :=
  fun b hb => (hp b hb).bind hf

@[grind ←]
theorem Keeps.get : Keeps (MonadState.get : Construction Builder) := fun _ hb => ⟨hb, hb⟩

/-- A sound state may be put in the place of another one. -/
@[grind ←]
theorem Keeps.set {b : Builder} (h : IsSound b) : Keeps (MonadStateOf.set b : Construction Unit) :=
  fun _ _ => ⟨trivial, h⟩

/-- What leads from sound states to sound states may be done to the state. -/
@[grind ←]
theorem Keeps.modify {f : Builder → Builder} (h : ∀ b, IsSound b → IsSound (f b)) :
    Keeps (modify f : Construction Unit) := fun b hb => ⟨trivial, h b hb⟩

/-- Both sides of a choice are taken. -/
theorem Keeps.ite {c : Prop} [Decidable c] {p q : Construction α} (hp : Keeps p) (hq : Keeps q) :
    Keeps (if c then p else q) := by
  split
  · exact hp
  · exact hq

/-- What is done for each of several sound things is done in turn. -/
theorem Keeps.forM {f : α → Construction Unit} (hf : ∀ a, IsSound a → Keeps (f a)) {l : List α}
    (hl : IsSound l) : Keeps (l.forM f) := by
  induction l with
  | nil => exact .pure trivial
  | cons a l ih =>
    obtain ⟨ha, hl⟩ := isSound_cons.mp hl
    exact (hf a ha).bind fun _ _ => ih hl

end Constructions

@[grind ←]
theorem keeps_done : Keeps done := .pure trivial

/-- Going on with a sound token under other rules. -/
@[grind ←]
theorem keeps_againIn (mode : Mode) {t : Token} (ht : IsSound t) : Keeps (againIn mode t) := by
  unfold againIn
  grind

/-- Other rules come into force. -/
@[grind ←]
theorem keeps_enter (mode : Mode) : Keeps (enter mode) := by
  unfold enter
  grind

@[grind ←]
theorem keeps_forbidFrameset : Keeps forbidFrameset := by
  unfold forbidFrameset
  grind

/-! ### The stack -/

/-- An element is opened. -/
@[grind ←]
theorem keeps_push (e : OpenElement) : Keeps (push e) := by
  unfold push
  grind

@[grind ←]
theorem keeps_pop : Keeps pop := by
  unfold pop
  grind

@[grind ←]
theorem keeps_current? : Keeps current? := by
  unfold current?
  grind

@[grind ←]
theorem keeps_currentIs (p : ElementName → Bool) : Keeps (currentIs p) := by
  unfold currentIs
  grind

@[grind ←]
theorem keeps_isOpen (name : String) : Keeps (isOpen name) := by
  unfold isOpen
  grind

/-- Elements are closed up to and including one that is looked for. -/
@[grind ←]
theorem keeps_popThrough (p : ElementName → Bool) : Keeps (popThrough p) := by
  unfold popThrough
  grind

/-- Elements are closed up to one that is looked for, which stays open. -/
@[grind ←]
theorem keeps_popTo (p : ElementName → Bool) : Keeps (popTo p) := by
  unfold popTo
  grind

@[grind ←]
theorem keeps_popWhile (p : ElementName → Bool) : Keeps (popWhile p) := keeps_popTo _

/-- An element in the middle is closed. -/
@[grind ←]
theorem keeps_removeFromStack (id : NodeId) : Keeps (removeFromStack id) := by
  unfold removeFromStack
  grind

@[grind ←]
theorem keeps_outermost? : Keeps outermost? := by
  unfold outermost?
  grind

@[grind ←]
theorem keeps_body? : Keeps body? := by
  unfold body?
  grind

/-! ### Places -/

/-- Finding the place for a node changes nothing. -/
@[grind ←]
theorem keeps_placeIn (target : OpenElement) : Keeps (placeIn target) := by
  unfold placeIn
  grind

@[grind ←]
theorem keeps_place : Keeps place := by
  unfold place
  grind

/-- A change to the tree alone. -/
@[grind ←]
theorem keeps_editTree {f : Markup → Markup} (h : ∀ tree, IsSound tree → IsSound (f tree)) :
    Keeps (editTree f) := by
  unfold editTree
  grind

/-- A sound node is made. -/
@[grind ←]
theorem keeps_alloc {n : Node} (h : IsSound n) : Keeps (alloc n) := by
  unfold alloc
  grind

/-- A node is put into a place. -/
@[grind ←]
theorem keeps_putAt (p : Place) (id : NodeId) : Keeps (putAt p id) := by
  unfold putAt
  grind

/-- More of a text is still a text. -/
theorem isSound_withMore (text : String) {n : Node} (h : IsSound n) :
    IsSound (Node.withMore text n) := by
  cases n with
  | text s => trivial
  | _ => exact h

/-- A text is put into a place, or joined to the text that stands before it. -/
@[grind ←]
theorem keeps_putText (p : Place) (text : String) : Keeps (putText p text) := by
  unfold putText
  grind [isSound_withMore]

/-! ### New nodes -/

/-- The characters of a text are put under the current element. -/
@[grind ←]
theorem keeps_appendText (cs : List Char) : Keeps (appendText cs) := by
  unfold appendText
  grind

@[grind ←]
theorem keeps_appendComment (cs : List Char) : Keeps (appendComment cs) := by
  unfold appendComment
  grind

/-- A comment under a node of the document that is not the current one. -/
@[grind ←]
theorem keeps_appendCommentTo (parent : NodeId) (cs : List Char) :
    Keeps (appendCommentTo parent cs) := by
  unfold appendCommentTo
  grind

/-- A sound element is put under the current one. -/
@[grind ←]
theorem keeps_insertNode {name : ElementName} {attributes : List Attribute}
    (h : IsSound (Node.element name attributes)) : Keeps (insertNode name attributes) := by
  unfold insertNode
  grind

/-- A sound element is put under the current one and opened. -/
@[grind ←]
theorem keeps_insertOpen {name : ElementName} {attributes : List Attribute}
    (h : IsSound (Node.element name attributes)) : Keeps (insertOpen name attributes) := by
  unfold insertOpen
  grind

/-- The element of a sound tag. -/
@[grind ←]
theorem keeps_insert {t : Tag} (ht : IsSound t) : Keeps (insert t) := by
  unfold insert
  grind

/-- The element of a sound tag that is closed at once. -/
@[grind ←]
theorem keeps_insertEmpty {t : Tag} (ht : IsSound t) : Keeps (insertEmpty t) := by
  unfold insertEmpty
  grind

/-- The elements that no tag may stand for. -/
@[grind =]
def isImplied : String → Bool
  | "head" | "body" | "p" | "colgroup" | "tbody" | "tr" => true
  | _ => false

/-- The names of the elements that no tag stands for are written in the rules. -/
@[grind ←]
theorem keeps_insertImplied {name : String} (h : isImplied name = true) :
    Keeps (insertImplied name) := by
  have hname : isTagName name.toList = true ∧ isSmall name.toList = true := by
    unfold isImplied at h
    split at h <;> first | decide | cases h
  unfold insertImplied
  grind [isSound_implied]

/-- Attributes that an element lacks may be added to it from a sound tag. -/
theorem isSound_withMissing {l : List (String × String)} (hl : AreAttributes l) {n : Node}
    (h : IsSound n) : IsSound (Node.withMissing (plainAttributes l) n) := by
  cases n with
  | element name attributes =>
    intro hspace
    obtain ⟨hname, old, hold, rfl⟩ := h hspace
    refine ⟨hname, _, hold.append_filter hl, ?_⟩
    simp [plainAttributes, List.filter_map, Function.comp_def]
  | _ => exact h

/-- A repeated tag gives its attributes to an element that is there. -/
@[grind ←]
theorem keeps_addMissing (id : NodeId) {t : Tag} (ht : IsSound t) : Keeps (addMissing id t) := by
  unfold addMissing
  exact keeps_editTree fun tree htree => isSound_modifyValue htree id fun n => isSound_withMissing ht.2

/-- The outermost element, with the attributes of its tag if there is one. -/
@[grind ←]
theorem keeps_insertRoot {attributes : List (String × String)} (h : AreAttributes attributes) :
    Keeps (insertRoot attributes) := by
  have hname : isTagName "html".toList = true ∧ isSmall "html".toList = true := by decide
  have hnode : IsSound (Node.element { localName := "html" } (plainAttributes attributes)) :=
    fun _ => ⟨hname, attributes, h, rfl⟩
  unfold insertRoot
  grind

/-- An element whose content is read as text, up to the end tag of its name. -/
@[grind ←]
theorem keeps_insertText {t : Tag} (ht : IsSound t) {reading : Reading} (h : IsSound reading) :
    Keeps (insertText t reading) := by
  unfold insertText
  grind

/-! ### Scopes -/

/-- Looking for an open element changes nothing. -/
@[grind ←]
theorem keeps_inScope (hides : ElementName → Bool) (name : String) : Keeps (inScope hides name) := by
  unfold inScope
  grind

@[grind ←]
theorem keeps_anyInScope (hides : ElementName → Bool) (names : List String) :
    Keeps (anyInScope hides names) := by
  unfold anyInScope
  grind

@[grind ←]
theorem keeps_implyEnds : Keeps implyEnds := keeps_popWhile _

@[grind ←]
theorem keeps_implyEndsExcept (name : String) : Keeps (implyEndsExcept name) := keeps_popWhile _

/-- The innermost element of a name is closed, with what is open in it. -/
@[grind ←]
theorem keeps_close (name : String) : Keeps (close name) := keeps_popThrough _

/-- A paragraph is closed if one is open that is not hidden. -/
@[grind ←]
theorem keeps_closeParagraph : Keeps closeParagraph := by
  unfold closeParagraph
  grind

/-- An end tag without a paragraph makes an empty one. -/
@[grind ←]
theorem keeps_endParagraph : Keeps endParagraph := by
  unfold endParagraph
  grind

end Builder

end SourceEdit.Markup
