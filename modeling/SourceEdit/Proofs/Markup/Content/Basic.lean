import SourceEdit.Proofs.Arena.Operations
import SourceEdit.Proofs.Markup.Builder.Rules
import SourceEdit.Proofs.Text.Trim

/-!
# The content of a body holds no wrappers

When the content of a body is read, the outermost element is put into the tree at once, as node 1, and
the rules for what comes before a body are never in force.  So no other element of ordinary markup is
called `html`, `head` or `body`, and nothing but the root ever gets node 1 for a child (`IsContent`).

`Stays p` says that a construction keeps this; the rules of this module follow the ways in which
constructions are put together and are tagged for `grind`.  Foreign elements are called like tags of the
text, and `F` is what these names satisfy.
-/

namespace SourceEdit.Markup

/-! ### States -/

/-- The elements that a document consists of. -/
@[grind =]
def isDocumentName : String → Bool
  | "html" | "head" | "body" => true
  | _ => false

namespace Builder

/-- A node that may stand in a body. -/
def Node.Fits (F : String → Prop) : Node → Prop
  | .element e _ =>
    (e.space = .html → isDocumentName e.localName = false) ∧ (e.space ≠ .html → F e.localName)
  | _ => True

/-- An open element inside the outermost one. -/
@[grind]
structure IsInner (e : OpenElement) : Prop where
  two_le : 2 ≤ e.id
  not_document : e.name.space = .html → isDocumentName e.name.localName = false

/-- The open elements, of which only the outermost one is a wrapper. -/
def AreInner (stack : List OpenElement) : Prop := ∀ e ∈ stack.dropLast, IsInner e

/-- Rules that are in force in a body or in something inside it. -/
@[grind =]
def Mode.isInner : Mode → Bool
  | .start | .beforeHtml | .beforeHead | .inHead | .afterHead => false
  | _ => true

/-- The rules for the content of open templates. -/
def AllInner (modes : List Mode) : Prop := ∀ m ∈ modes, Mode.isInner m = true

/-- A template that is opened puts rules for its content on top of the others. -/
@[grind ←]
theorem allInner_cons {m : Mode} {modes : List Mode} (hm : Mode.isInner m = true)
    (h : AllInner modes) : AllInner (m :: modes) := List.forall_mem_cons.mpr ⟨hm, h⟩

/-- Templates that are closed leave the rules of the others. -/
@[grind ←]
theorem allInner_drop {modes : List Mode} (h : AllInner modes) (n : Nat) : AllInner (modes.drop n) :=
  fun m hm => h m (List.mem_of_mem_drop hm)

/-- The rules that are gone back to are those of the innermost template, or others from inside a
body. -/
@[grind ←]
theorem isInner_head?_getD {modes : List Mode} (h : AllInner modes) {other : Mode}
    (hother : Mode.isInner other = true) : Mode.isInner (modes.head?.getD other) = true := by
  cases modes with
  | nil => exact hother
  | cons m modes => exact h m List.mem_cons_self

/-- A formatting element is opened again with the tag that it was opened with. -/
def Formatting.Fits : Formatting → Prop
  | .mark => True
  | .element _ t => isDocumentName t.name = false

@[simp, grind =]
theorem Formatting.fits_mark : Formatting.Fits .mark ↔ True := .rfl

@[simp, grind =]
theorem Formatting.fits_element {id : NodeId} {t : Tag} :
    Formatting.Fits (.element id t) ↔ isDocumentName t.name = false := .rfl

/-- The tree around an outermost element: only the root has node 1 for a child. -/
structure IsContentTree (F : String → Prop) (tree : Markup) : Prop where
  two_le : 2 ≤ tree.size
  children : ∀ x, ∀ c ∈ tree.children x, 1 ≤ c ∧ (x ≠ 0 → 2 ≤ c)
  fits : ∀ id n, 2 ≤ id → tree.get? id = some n → Node.Fits F n

/-- A state in which the content of a body is read. -/
structure IsContent (F : String → Prop) (b : Builder) : Prop where
  isFragment : b.isFragment = true
  mode : Mode.isInner b.mode = true
  modeAfterText : Mode.isInner b.modeAfterText = true
  templateModes : AllInner b.templateModes
  stack : AreInner b.stack
  formatting : ∀ i ∈ b.formatting, Formatting.Fits i
  tree : IsContentTree F b.tree

variable {F : String → Prop}

/-- All that is kept of a state, in the order of its fields. -/
@[grind =]
theorem isContent_iff {b : Builder} : IsContent F b ↔
    b.isFragment = true ∧ Mode.isInner b.mode = true ∧ Mode.isInner b.modeAfterText = true ∧
      AllInner b.templateModes ∧ AreInner b.stack ∧
      (∀ i ∈ b.formatting, Formatting.Fits i) ∧ IsContentTree F b.tree :=
  ⟨fun ⟨h, hmode, htext, htemplates, hstack, hformatting, htree⟩ =>
    ⟨h, hmode, htext, htemplates, hstack, hformatting, htree⟩,
   fun ⟨h, hmode, htext, htemplates, hstack, hformatting, htree⟩ =>
    ⟨h, hmode, htext, htemplates, hstack, hformatting, htree⟩⟩

/-! ### Names -/

/-- The names of the three wrappers. -/
theorem isDocumentName_eq_true {name : String} (h : isDocumentName name = true) :
    name = "html" ∨ name = "head" ∨ name = "body" := by
  unfold isDocumentName at h
  split at h
  · exact .inl rfl
  · exact .inr (.inl rfl)
  · exact .inr (.inr rfl)
  · cases h

/-! ### The stack -/

section Stack

variable {stack fewer : List OpenElement}

/-- Open elements may be closed in any order, as long as the others keep theirs. -/
theorem AreInner.sublist (h : AreInner stack) (hsub : fewer.Sublist stack) : AreInner fewer := by
  have hdropLast : fewer.dropLast.Sublist stack.dropLast := by
    rw [← List.reverse_sublist, ← List.tail_reverse, ← List.tail_reverse]
    exact hsub.reverse.tail
  exact fun e he => h e (hdropLast.subset he)

/-- No element is open. -/
@[grind ←]
theorem areInner_nil : AreInner [] := List.forall_mem_nil _

/-- An element that is opened is not the outermost one. -/
@[grind ←]
theorem areInner_cons {e : OpenElement} (he : IsInner e) (h : AreInner stack) :
    AreInner (e :: stack) := by
  cases stack with
  | nil => exact List.forall_mem_nil _
  | cons d stack =>
    rw [AreInner, List.dropLast_cons_of_ne_nil (List.cons_ne_nil d stack)]
    exact List.forall_mem_cons.mpr ⟨he, h⟩

/-- Elements that are opened together, as copies of formatting elements are. -/
theorem areInner_append (h : ∀ e ∈ fewer, IsInner e) (hstack : AreInner stack) :
    AreInner (fewer ++ stack) := by
  induction fewer with
  | nil => exact hstack
  | cons e fewer ih =>
    obtain ⟨he, h⟩ := List.forall_mem_cons.mp h
    exact areInner_cons he (ih h)

/-- The innermost elements are closed, as many as are asked for. -/
@[grind ←]
theorem areInner_drop (h : AreInner stack) (n : Nat) : AreInner (stack.drop n) :=
  h.sublist (List.drop_sublist n stack)

/-- Elements are closed up to one that is looked for. -/
@[grind ←]
theorem areInner_dropWhile (h : AreInner stack) (p : OpenElement → Bool) :
    AreInner (stack.dropWhile p) := h.sublist (List.dropWhile_sublist p)

/-- One element is taken out from among the open ones. -/
@[grind ←]
theorem areInner_eraseP (h : AreInner stack) (p : OpenElement → Bool) : AreInner (stack.eraseP p) :=
  h.sublist List.eraseP_sublist

/-- The innermost element is closed. -/
@[grind →]
theorem areInner_of_cons {e : OpenElement} (h : AreInner (e :: stack)) : AreInner stack :=
  h.sublist (List.sublist_cons_self e stack)

/-- What is open inside an open element is no wrapper. -/
theorem AreInner.forall_mem_of_append_cons {e : OpenElement} (h : AreInner (fewer ++ e :: stack)) :
    ∀ d ∈ fewer, IsInner d := by
  intro d hd
  refine h d ?_
  rw [List.dropLast_append_of_ne_nil (List.cons_ne_nil e stack)]
  exact List.mem_append_left _ hd

end Stack

/-! ### Trees -/

section Trees

variable {tree : Markup}

/-- A new node is not put anywhere yet, and comes after node 1. -/
@[grind ←]
theorem isContentTree_alloc (h : IsContentTree F tree) {n : Node} (hn : Node.Fits F n) :
    IsContentTree F (tree.alloc n).1 where
  two_le := by
    rw [Arena.size_alloc]
    exact Nat.le_succ_of_le h.two_le
  children x c hc := h.children x c (by simpa using hc)
  fits id v hid hv := by
    rw [Arena.get?_alloc] at hv
    split at hv
    · exact Option.some.inj hv ▸ hn
    · exact h.fits id v hid hv

/-- A node may be given another value of the kind that fits. -/
@[grind ←]
theorem isContentTree_modifyValue (h : IsContentTree F tree) (id : NodeId) {f : Node → Node}
    (hf : ∀ n, Node.Fits F n → Node.Fits F (f n)) :
    IsContentTree F (Arena.modifyValue tree id f) where
  two_le := by simpa using h.two_le
  children x c hc := h.children x c (by simpa using hc)
  fits x v hx hv := by
    rw [Arena.get?_modifyValue] at hv
    split at hv
    · obtain ⟨w, hw, rfl⟩ := Option.map_eq_some_iff.mp hv
      exact hf w (h.fits x w hx hw)
    · exact h.fits x v hx hv

/-- A change to the children of one node concerns no other node. -/
theorem children_modifyChildren_subset {id : NodeId} {f : List NodeId → List NodeId} {x c : NodeId}
    (h : c ∈ (Arena.modifyChildren tree id f).children x) :
    c ∈ tree.children x ∨ x = id ∧ c ∈ f (tree.children id) := by
  by_cases hx : x = id
  · subst hx
    have hlt := Arena.lt_size_of_mem_children h
    rw [Arena.size_modifyChildren] at hlt
    rw [Arena.children_modifyChildren hlt, if_pos rfl] at h
    exact .inr ⟨rfl, h⟩
  · refine .inl ?_
    simpa [Arena.modifyChildren, Arena.modifyEntry, Arena.children, Array.getElem?_modify,
      Ne.symm hx] using h

/-- Detaching a node gives nobody a child. -/
theorem children_detach_subset {id x c : NodeId} (h : c ∈ (Arena.detach tree id).children x) :
    c ∈ tree.children x := by
  unfold Arena.detach at h
  split at h
  · exact h
  · obtain h | ⟨rfl, h⟩ := children_modifyChildren_subset h
    · simpa using h
    · simpa using List.mem_of_mem_filter h

/-- Inserting a child gives its new parent this child, and nobody else any. -/
theorem children_insertChild_subset {p c x d : NodeId} {i : Nat}
    (h : d ∈ (Arena.insertChild tree p i c).children x) :
    d ∈ tree.children x ∨ d = c ∧ x = p := by
  rw [Arena.insertChild, Arena.children_setParent] at h
  obtain h | ⟨rfl, h⟩ := children_modifyChildren_subset h
  · exact .inl (children_detach_subset h)
  · obtain rfl | h := (List.mem_insertIdx (Nat.min_le_right ..)).mp h
    · exact .inr ⟨rfl, rfl⟩
    · exact .inl (children_detach_subset h)

/-- A node may be taken away from where it is. -/
@[grind ←]
theorem isContentTree_detach (h : IsContentTree F tree) (id : NodeId) :
    IsContentTree F (Arena.detach tree id) where
  two_le := by simpa using h.two_le
  children x c hc := h.children x c (children_detach_subset hc)
  fits x v hx hv := h.fits x v hx (by simpa using hv)

/-- Any node but the root and the outermost element may be put anywhere. -/
@[grind ←]
theorem isContentTree_insertChild (h : IsContentTree F tree) (p : NodeId) (i : Nat) {c : NodeId}
    (hc : 2 ≤ c) : IsContentTree F (Arena.insertChild tree p i c) where
  two_le := by simpa using h.two_le
  children x d hd := by
    obtain hd | ⟨rfl, -⟩ := children_insertChild_subset hd
    · exact h.children x d hd
    · exact ⟨Nat.le_of_succ_le hc, fun _ => hc⟩
  fits x v hx hv := h.fits x v hx (by simpa using hv)

/-- Any node but the root and the outermost element may be put at the end of another one. -/
@[grind ←]
theorem isContentTree_appendChild (h : IsContentTree F tree) (p : NodeId) {c : NodeId} (hc : 2 ≤ c) :
    IsContentTree F (Arena.appendChild tree p c) := isContentTree_insertChild h p _ hc

/-- The children of an open element may all be moved. -/
theorem isContentTree_foldl_appendChild (h : IsContentTree F tree) (p : NodeId) {cs : List NodeId}
    (hcs : ∀ c ∈ cs, 2 ≤ c) :
    IsContentTree F (cs.foldl (fun tree c => Arena.appendChild tree p c) tree) := by
  induction cs generalizing tree with
  | nil => exact h
  | cons c cs ih =>
    obtain ⟨hc, hcs⟩ := List.forall_mem_cons.mp hcs
    exact ih (isContentTree_appendChild h p hc) hcs

end Trees

/-! ### Results -/

/-- Tokens whose start tags have names that foreign elements may have, in either spelling. -/
@[grind =]
def Token.Fits (F : String → Prop) : Token → Prop
  | .tag t => t.isEnd = false → F t.name ∧ F (respelled graphicsElements t.name)
  | _ => True

/-- What a construction may give in a state of content. -/
class Result (α : Type) where
  Fits : (String → Prop) → α → Prop

instance (priority := low) Result.plain {α : Type} : Result α := ⟨fun _ _ => True⟩

instance Result.node : Result NodeId := ⟨fun _ id => 2 ≤ id⟩

instance Result.mode : Result Mode := ⟨fun _ m => Mode.isInner m = true⟩

instance Result.builder : Result Builder := ⟨IsContent⟩

instance Result.formatting : Result (List Formatting) := ⟨fun _ l => ∀ i ∈ l, Formatting.Fits i⟩

instance Result.split : Result Split := ⟨fun _ s => 2 ≤ s.last ∧ ∀ e ∈ s.copies, IsInner e⟩

/-- A token that is handled again fits, too. -/
instance Result.next : Result Next :=
  ⟨fun F next => ∀ t, next = .again t → Token.Fits F t⟩

@[simp, grind norm]
theorem fits_plain {α : Type} (a : α) : @Result.Fits α .plain F a ↔ True := .rfl

/-- A node that a construction gives is not the root or the outermost element. -/
@[simp, grind =]
theorem fits_node {id : NodeId} : Result.Fits F id ↔ 2 ≤ id := .rfl

@[simp, grind =]
theorem fits_mode {m : Mode} : Result.Fits F m ↔ Mode.isInner m = true := .rfl

@[simp, grind =]
theorem fits_builder {b : Builder} : Result.Fits F b ↔ IsContent F b := .rfl

@[simp, grind =]
theorem fits_formatting {l : List Formatting} : Result.Fits F l ↔ ∀ i ∈ l, Formatting.Fits i := .rfl

@[simp, grind =]
theorem fits_split {s : Split} :
    Result.Fits F s ↔ 2 ≤ s.last ∧ ∀ e ∈ s.copies, IsInner e := .rfl

@[simp, grind norm]
theorem fits_done : Result.Fits F Next.done ↔ True := by simp [Result.Fits]

/-- A token that is to be handled once more is one that may come up in a body. -/
@[simp, grind =]
theorem fits_again {t : Token} : Result.Fits F (Next.again t) ↔ Token.Fits F t := by
  simp [Result.Fits]

/-! ### Constructions -/

/-- From a state, a construction gives a result that fits and leads to a state of content. -/
def StaysAt (F : String → Prop) {α : Type} [Result α] (p : Construction α) (b : Builder) : Prop :=
  Result.Fits F (p.run b).1 ∧ IsContent F (p.run b).2

/-- From states of content, a construction leads to states of content. -/
def Stays (F : String → Prop) {α : Type} [Result α] (p : Construction α) : Prop :=
  ∀ b, IsContent F b → StaysAt F p b

section Constructions

variable {α β : Type} [Result α] [Result β]

/-- A construction that goes on with what another one gives, from one state. -/
theorem StaysAt.bind {p : Construction α} {f : α → Construction β} {b : Builder} (hp : StaysAt F p b)
    (hf : ∀ a, Result.Fits F a → Stays F (f a)) : StaysAt F (p >>= f) b := hf _ hp.1 _ hp.2

/-- The state that is looked at is the one that the rest starts from. -/
theorem StaysAt.get_bind {f : Builder → Construction β} {b : Builder} (hf : StaysAt F (f b) b) :
    StaysAt F (MonadState.get >>= f) b := hf

@[grind ←]
theorem Stays.pure {a : α} (h : Result.Fits F a) : Stays F (Pure.pure a) := fun _ hb => ⟨h, hb⟩

/-- A construction that goes on with what another one gives. -/
@[grind ←]
theorem Stays.bind {p : Construction α} {f : α → Construction β} (hp : Stays F p)
    (hf : ∀ a, Result.Fits F a → Stays F (f a)) : Stays F (p >>= f) :=
  fun b hb => (hp b hb).bind hf

@[grind ←]
theorem Stays.get : Stays F (MonadState.get : Construction Builder) := fun _ hb => ⟨hb, hb⟩

/-- A state may be put in the place of another one if it holds no more wrappers. -/
@[grind ←]
theorem Stays.set {b : Builder} (h : IsContent F b) :
    Stays F (MonadStateOf.set b : Construction Unit) := fun _ _ => ⟨trivial, h⟩

/-- What keeps every state of the kind may be done to the state. -/
@[grind ←]
theorem Stays.modify {f : Builder → Builder} (h : ∀ b, IsContent F b → IsContent F (f b)) :
    Stays F (modify f : Construction Unit) := fun b hb => ⟨trivial, h b hb⟩

/-- Both sides of a choice are taken. -/
theorem Stays.ite {c : Prop} [Decidable c] {p q : Construction α} (hp : Stays F p) (hq : Stays F q) :
    Stays F (if c then p else q) := by
  split
  · exact hp
  · exact hq

/-- What is done for each element of a list is done in turn. -/
theorem Stays.forM {γ : Type} {f : γ → Construction Unit} {l : List γ} (hf : ∀ a ∈ l, Stays F (f a)) :
    Stays F (l.forM f) := by
  induction l with
  | nil => exact .pure trivial
  | cons a l ih =>
    obtain ⟨ha, hl⟩ := List.forall_mem_cons.mp hf
    exact ha.bind fun _ _ => ih hl

end Constructions

@[grind ←]
theorem stays_done : Stays F done := .pure (fits_done.mpr trivial)

/-- Going on with a token under other rules, as long as these are for a body or for what is inside
it. -/
@[grind ←]
theorem stays_againIn {mode : Mode} (hmode : Mode.isInner mode = true) {t : Token}
    (ht : Token.Fits F t) : Stays F (againIn mode t) := by
  unfold againIn
  grind

/-- Other rules come into force, as long as these are for a body or for what is inside it. -/
@[grind ←]
theorem stays_enter {mode : Mode} (hmode : Mode.isInner mode = true) : Stays F (enter mode) := by
  unfold enter
  grind

@[grind ←]
theorem stays_forbidFrameset : Stays F forbidFrameset := by
  unfold forbidFrameset
  grind

/-! ### Open elements -/

/-- An element is opened. -/
@[grind ←]
theorem stays_push {e : OpenElement} (he : IsInner e) : Stays F (push e) := by
  unfold push
  grind

/-- The innermost element is closed. -/
@[grind ←]
theorem stays_pop : Stays F pop := by
  unfold pop
  grind

@[grind ←]
theorem stays_current? : Stays F current? := by
  unfold current?
  grind

@[grind ←]
theorem stays_currentIs (p : ElementName → Bool) : Stays F (currentIs p) := by
  unfold currentIs
  grind

@[grind ←]
theorem stays_isOpen (name : String) : Stays F (isOpen name) := by
  unfold isOpen
  grind

/-- Elements are closed up to and including one that is looked for. -/
@[grind ←]
theorem stays_popThrough (p : ElementName → Bool) : Stays F (popThrough p) := by
  unfold popThrough
  grind

/-- Elements are closed up to one that is looked for, which stays open. -/
@[grind ←]
theorem stays_popTo (p : ElementName → Bool) : Stays F (popTo p) := by
  unfold popTo
  grind

@[grind ←]
theorem stays_popWhile (p : ElementName → Bool) : Stays F (popWhile p) := stays_popTo _

/-- An element in the middle is closed. -/
@[grind ←]
theorem stays_removeFromStack (id : NodeId) : Stays F (removeFromStack id) := by
  unfold removeFromStack
  grind

@[grind ←]
theorem stays_outermost? : Stays F outermost? := by
  unfold outermost?
  grind

@[grind ←]
theorem stays_body? : Stays F body? := by
  unfold body?
  grind

/-! ### Places -/

/-- The place for a node in an element is not among the children of the root. -/
@[grind ←]
theorem stays_placeIn (target : OpenElement) : Stays F (placeIn target) := by
  unfold placeIn
  grind

/-- The place for the next node. -/
@[grind ←]
theorem stays_place : Stays F place := by
  unfold place
  grind

/-- A change to the tree alone. -/
@[grind ←]
theorem stays_editTree {f : Markup → Markup}
    (h : ∀ tree, IsContentTree F tree → IsContentTree F (f tree)) : Stays F (editTree f) := by
  unfold editTree
  grind

/-- A node that fits is made. -/
@[grind ←]
theorem stays_alloc {n : Node} (h : Node.Fits F n) : Stays F (alloc n) := by
  intro b hb
  have htree : IsContent F { b with tree := (b.tree.alloc n).1 } := by grind
  exact ⟨hb.tree.two_le, htree⟩

/-- A node is put into a place. -/
@[grind ←]
theorem stays_putAt (p : Place) {id : NodeId} (hid : 2 ≤ id) : Stays F (putAt p id) := by
  unfold putAt
  grind

/-- More of a text is still a text. -/
theorem fits_withMore (text : String) {n : Node} (h : Node.Fits F n) :
    Node.Fits F (Node.withMore text n) := by
  cases n with
  | text s => trivial
  | _ => exact h

@[grind ←]
theorem fits_text (s : String) : Node.Fits F (.text s) := trivial

@[grind ←]
theorem fits_comment (s : String) : Node.Fits F (.comment s) := trivial

/-- A text is put into a place, or joined to the text that stands before it. -/
@[grind ←]
theorem stays_putText (p : Place) (text : String) : Stays F (putText p text) := by
  unfold putText
  grind [fits_withMore]

/-! ### New nodes -/

/-- The characters of a text are put under the current element. -/
@[grind ←]
theorem stays_appendText (cs : List Char) : Stays F (appendText cs) := by
  unfold appendText
  grind

@[grind ←]
theorem stays_appendComment (cs : List Char) : Stays F (appendComment cs) := by
  unfold appendComment
  grind

/-- A comment under a node of the document that is not the current one. -/
@[grind ←]
theorem stays_appendCommentTo (parent : NodeId) (cs : List Char) :
    Stays F (appendCommentTo parent cs) := by
  unfold appendCommentTo
  grind

/-- An element is put under the current one. -/
@[grind ←]
theorem stays_insertNode {name : ElementName} {attributes : List Attribute}
    (h : Node.Fits F (.element name attributes)) : Stays F (insertNode name attributes) := by
  unfold insertNode
  grind

/-- An element is put under the current one and opened. -/
@[grind ←]
theorem stays_insertOpen {name : ElementName} {attributes : List Attribute}
    (h : Node.Fits F (.element name attributes)) : Stays F (insertOpen name attributes) := by
  have hinner (id : NodeId) (hid : 2 ≤ id) : IsInner ⟨id, name⟩ := ⟨hid, h.1⟩
  unfold insertOpen
  grind

/-- An element of ordinary markup. -/
@[grind ←]
theorem fits_ordinary {name : String} (h : isDocumentName name = false) (attributes : List Attribute) :
    Node.Fits F (.element { localName := name } attributes) :=
  ⟨fun _ => h, fun hspace => absurd rfl hspace⟩

/-- The element of a tag that is not called like a wrapper. -/
@[grind ←]
theorem stays_insert {t : Tag} (h : isDocumentName t.name = false) : Stays F (insert t) := by
  unfold insert
  grind

/-- The element of a tag that is not called like a wrapper, and is closed at once. -/
@[grind ←]
theorem stays_insertEmpty {t : Tag} (h : isDocumentName t.name = false) : Stays F (insertEmpty t) := by
  unfold insertEmpty
  grind

/-- An element that no tag stands for, such as the row around a cell. -/
@[grind ←]
theorem stays_insertImplied {name : String} (h : isDocumentName name = false) :
    Stays F (insertImplied name) := by
  unfold insertImplied
  grind

/-- More attributes leave an element its name. -/
theorem fits_withMissing (attributes : List Attribute) {n : Node} (h : Node.Fits F n) :
    Node.Fits F (Node.withMissing attributes n) := by
  cases n <;> exact h

/-- A repeated tag gives its attributes to an element that is there. -/
@[grind ←]
theorem stays_addMissing (id : NodeId) (t : Tag) : Stays F (addMissing id t) := by
  unfold addMissing
  exact stays_editTree fun tree htree => isContentTree_modifyValue htree id fun n => fits_withMissing _

/-- An element whose content is read as text. -/
@[grind ←]
theorem stays_insertText {t : Tag} (h : isDocumentName t.name = false) (reading : Reading) :
    Stays F (insertText t reading) := by
  unfold insertText
  grind

/-! ### Scopes -/

/-- Looking for an open element changes nothing. -/
@[grind ←]
theorem stays_inScope (hides : ElementName → Bool) (name : String) : Stays F (inScope hides name) := by
  unfold inScope
  grind

@[grind ←]
theorem stays_anyInScope (hides : ElementName → Bool) (names : List String) :
    Stays F (anyInScope hides names) := by
  unfold anyInScope
  grind

@[grind ←]
theorem stays_implyEnds : Stays F implyEnds := stays_popWhile _

@[grind ←]
theorem stays_implyEndsExcept (name : String) : Stays F (implyEndsExcept name) := stays_popWhile _

/-- The innermost element of a name is closed, with what is open in it. -/
@[grind ←]
theorem stays_close (name : String) : Stays F (close name) := stays_popThrough _

/-- A paragraph is closed if one is open that is not hidden. -/
@[grind ←]
theorem stays_closeParagraph : Stays F closeParagraph := by
  unfold closeParagraph
  grind

/-- An end tag without a paragraph makes an empty one. -/
@[grind ←]
theorem stays_endParagraph : Stays F endParagraph := by
  unfold endParagraph
  grind

end Builder

end SourceEdit.Markup
