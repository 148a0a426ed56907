import SourceEdit.Markup.Printer
import SourceEdit.Proofs.Arena.Graft
import SourceEdit.Proofs.Markup.AttributeLists
import SourceEdit.Proofs.Markup.Wrappers
import SourceEdit.Proofs.Markup.Written

/-!
# Flow content

Which elements may stand in which others is decided by the rules for tags.  `isFlowForest` asks what
these rules look for, on the names of the elements around a forest: blocks may not stand in a paragraph,
items only in a list of their own, links, buttons and forms not in others.  The forests of which it
holds are those of texts, comments, blocks, headings, lists, forms, formatting, links, buttons, elements
without content and elements that no rule is made for.

`IsReady` holds of the states in which such a forest is read.
-/

namespace SourceEdit.Markup

open Builder

/-! ### Elements -/

/-- What the rules do about the start tag of an element. -/
inductive FlowKind where
  /-- It has no content. -/
  | void
  /-- It has no content and ends a paragraph. -/
  | rule
  | block
  | heading
  | item (names : List String)
  | formatting
  | link
  | button
  | form
  /-- No rule is made for it. -/
  | other
deriving DecidableEq

/-- The elements without content that may stand in a paragraph. -/
def flowVoids : List String := [
  "base", "basefont", "bgsound", "link", "meta", "area", "br", "embed", "img", "keygen", "wbr",
  "input", "param", "source", "track"]

/-- The headings. -/
def flowHeadings : List String := ["h1", "h2", "h3", "h4", "h5", "h6"]

/-- The elements for which there are rules that do more than open them. -/
def nonFlow : List String := [
  "noframes", "script", "style", "template", "title", "pre", "listing", "applet", "marquee", "object",
  "xmp", "iframe", "noembed", "noscript", "optgroup", "option", "rb", "rtc", "rp", "rt", "caption",
  "col", "colgroup", "frame", "head", "tbody", "td", "tfoot", "th", "thead", "tr", "html", "body",
  "frameset", "plaintext", "nobr", "table", "image", "textarea", "select", "math", "svg"]

/-- The kind of an element in flow content. -/
def flowKind? (name : String) : Option FlowKind :=
  if flowVoids.contains name then some .void
  else if name == "hr" then some .rule
  else if blocks.contains name then some .block
  else if flowHeadings.contains name then some .heading
  else if name == "li" then some (.item ["li"])
  else if name == "dd" || name == "dt" then some (.item ["dd", "dt"])
  else if formattingNames.contains name then some .formatting
  else if name == "a" then some .link
  else if name == "button" then some .button
  else if name == "form" then some .form
  else if nonFlow.contains name then none
  else some .other

/-- What the kind of an element says about its name. -/
def FlowKind.isOf (name : String) : FlowKind → Bool
  | .void => flowVoids.contains name
  | .rule => name == "hr"
  | .block => blocks.contains name
  | .heading => flowHeadings.contains name
  | .item names =>
    ["li", "dd", "dt"].contains name && names == if name == "li" then ["li"] else ["dd", "dt"]
  | .formatting => formattingNames.contains name
  | .link => name == "a"
  | .button => name == "button"
  | .form => name == "form"
  | .other => true

theorem isOf_of_flowKind? {name : String} {kind : FlowKind} (h : flowKind? name = some kind) :
    kind.isOf name = true := by
  unfold flowKind? at h
  repeat' split at h
  all_goals cases h
  all_goals simp_all [FlowKind.isOf]

/-- Whether elements of a kind have no content. -/
def FlowKind.isVoid : FlowKind → Bool
  | .void | .rule => true
  | _ => false

/-- The open elements of names, as far as the rules go by their names. -/
def openAs (around : List ElementName) : List OpenElement := around.map fun name => ⟨0, name⟩

/-- Whether an element of a kind may stand in elements of names, the innermost first. -/
def FlowKind.fits (around : List ElementName) : FlowKind → Bool
  | .void | .formatting | .other => true
  | .rule | .block => !seen hidesParagraph (isNamed "p" ·.name) (openAs around)
  | .heading =>
    !seen hidesParagraph (isNamed "p" ·.name) (openAs around) && !around.head?.any isHeading
  | .item names =>
    !seen hidesParagraph (isNamed "p" ·.name) (openAs around)
      && (itemToEnd? names (openAs around)).isNone
  | .link => !around.any (isNamed "a")
  | .button => !seen hidesOutside (isNamed "button" ·.name) (openAs around)
  | .form =>
    !seen hidesParagraph (isNamed "p" ·.name) (openAs around)
      && !around.any fun e => isNamed "form" e || isNamed "template" e

/-! ### Forests -/

/-- Whether attributes can be written and read back. -/
def areFlowAttributes (attributes : List Attribute) : Bool :=
  attributes.all (fun a => a.space == .none && isAttributeName a.localName.toList
    && isSmall a.localName.toList) && decide (attributes.map (·.localName)).Nodup

/-- Whether a tree is a text. -/
def isTextTree (t : Tree Node) : Bool := t.value.text?.isSome

mutual

/-- Whether a tree is flow content that may stand in elements of names, the innermost first. -/
def isFlowTree (around : List ElementName) : Tree Node → Bool
  | .node (.text s) cs => !s.toList.isEmpty && cs.isEmpty
  | .node (.comment s) cs => isCommentText s.toList && cs.isEmpty
  | .node (.element name attributes) cs =>
    name.space == .html && isTagName name.localName.toList && isSmall name.localName.toList
      && areFlowAttributes attributes
      && match flowKind? name.localName with
        | some kind =>
          kind.fits around && if kind.isVoid then cs.isEmpty else isFlowForest (name :: around) cs
        | none => false
  | _ => false

/-- Whether a forest is flow content: texts do not stand side by side. -/
def isFlowForest (around : List ElementName) : List (Tree Node) → Bool
  | [] => true
  | t :: ts =>
    isFlowTree around t && !(isTextTree t && ts.head?.any isTextTree) && isFlowForest around ts

end

/-- Whether a forest is flow content of a body whose text is taken as it is. -/
def isFlow (ts : List (Tree Node)) : Bool :=
  isFlowForest [{ localName := "html" }] ts && (writeForest {} ts).all isCleanChar

/-- A list in a list, with a link in a paragraph. -/
example : isFlow [.node (.element { localName := "ul" } []) [.node (.element { localName := "li" } [])
    [.node (.element { localName := "p" } []) [.node (.element { localName := "a" } [])
      [.leaf (.text "x")]], .node (.element { localName := "ul" } [])
        [.node (.element { localName := "li" } []) []]]]] = true := by
  decide +kernel

/-! ### Formatting elements -/

namespace Builder

/-- Whether an element is opened again when it is closed with what is around it. -/
def isFormattingName (name : String) : Bool := name == "a" || formattingNames.contains name

/-- The formatting elements are open elements in their order, so that none has to be opened again. -/
inductive Settled : List Formatting → List OpenElement → Prop
  | nil : Settled [] []
  | skip {items : List Formatting} {stack : List OpenElement} (e : OpenElement) :
    Settled items stack → Settled items (e :: stack)
  | keep {items : List Formatting} {stack : List OpenElement} {e : OpenElement} {tag : Tag} :
    tag.name = e.name.localName → isFormattingName tag.name = true → Settled items stack →
    Settled (.element e.id tag :: items) (e :: stack)

section Settled

variable {items fewer : List Formatting} {stack : List OpenElement} {e : OpenElement}

theorem Settled.exists_open (h : Settled items stack) {item : Formatting} (hitem : item ∈ items) :
    ∃ e ∈ stack, ∃ tag : Tag, item = .element e.id tag ∧ tag.name = e.name.localName := by
  induction h with
  | nil => cases hitem
  | skip d _ ih =>
    obtain ⟨e, he, tag, h⟩ := ih hitem
    exact ⟨e, List.mem_cons_of_mem d he, tag, h⟩
  | @keep _ _ d tag hname _ _ ih =>
    obtain rfl | hitem := List.mem_cons.mp hitem
    · exact ⟨d, List.mem_cons_self, tag, rfl, hname⟩
    · obtain ⟨e, he, tag, h⟩ := ih hitem
      exact ⟨e, List.mem_cons_of_mem d he, tag, h⟩

theorem Settled.isSettled (h : Settled items stack) :
    ∀ item ∈ items, Builder.isSettled stack item = true := by
  intro item hitem
  obtain ⟨e, he, tag, rfl, -⟩ := h.exists_open hitem
  exact List.any_eq_true.mpr ⟨e, he, beq_self_eq_true e.id⟩

theorem Settled.sublist (h : Settled items stack) (hsub : fewer.Sublist items) :
    Settled fewer stack := by
  induction h generalizing fewer with
  | nil => exact List.sublist_nil.mp hsub ▸ .nil
  | skip e _ ih => exact .skip e (ih hsub)
  | keep hname hformatting _ ih =>
    cases hsub with
    | cons _ hsub => exact .skip _ (ih hsub)
    | cons_cons _ hsub => exact .keep hname hformatting (ih hsub)

/-- An element that is no formatting element is not among them. -/
theorem Settled.of_cons (h : Settled items (e :: stack))
    (hname : isFormattingName e.name.localName = false) : Settled items stack := by
  cases h with
  | skip _ h => exact h
  | keep heq hformatting _ =>
    rw [heq, hname] at hformatting
    cases hformatting

/-- Where no link is open, none is among the formatting elements. -/
theorem Settled.find?_sinceMark (h : Settled items stack) {name : String}
    (hname : ∀ e ∈ stack, e.name.localName ≠ name) :
    (sinceMark items).find? (fun (_, tag) => tag.name == name) = none := by
  rw [List.find?_eq_none]
  rintro ⟨id, tag⟩ hmem
  obtain ⟨item, hitem, heq⟩ := List.mem_filterMap.mp hmem
  obtain ⟨e, he, other, rfl, hother⟩ := h.exists_open ((List.takeWhile_prefix _).subset hitem)
  cases heq
  simpa [hother] using hname e he

end Settled

end Builder

/-! ### The form -/

namespace Builder

/-- The form that is pointed at is the only one that is open. -/
structure PointsAt (form : Option NodeId) (stack : List OpenElement) : Prop where
  isOpen : ∀ id, form = some id → ∃ e ∈ stack, e.id = id ∧ isNamed "form" e.name = true
  eq_some : ∀ e ∈ stack, isNamed "form" e.name = true → form = some e.id

section PointsAt

variable {form : Option NodeId} {stack : List OpenElement} {e : OpenElement}

theorem PointsAt.cons (h : PointsAt form stack) (he : isNamed "form" e.name = false) :
    PointsAt form (e :: stack) where
  isOpen id hid := by
    obtain ⟨d, hd, hform⟩ := h.isOpen id hid
    exact ⟨d, List.mem_cons_of_mem e hd, hform⟩
  eq_some := List.forall_mem_cons.mpr ⟨fun hname => absurd hname (Bool.eq_false_iff.mp he), h.eq_some⟩

/-- An element that is no form is closed. -/
theorem PointsAt.of_cons (h : PointsAt form (e :: stack)) (he : isNamed "form" e.name = false) :
    PointsAt form stack where
  isOpen id hid := by
    obtain ⟨d, hd, hid, hname⟩ := h.isOpen id hid
    obtain rfl | hd := List.mem_cons.mp hd
    · exact absurd hname (Bool.eq_false_iff.mp he)
    · exact ⟨d, hd, hid, hname⟩
  eq_some d hd := h.eq_some d (List.mem_cons_of_mem e hd)

/-- Where no form is open, none is pointed at. -/
theorem PointsAt.eq_none (h : PointsAt form stack)
    (hnone : ∀ e ∈ stack, isNamed "form" e.name = false) : form = none := by
  cases form with
  | none => rfl
  | some id =>
    obtain ⟨e, he, -, hname⟩ := h.isOpen id rfl
    exact absurd hname (Bool.eq_false_iff.mp (hnone e he))

/-- A form is opened where none is open. -/
theorem pointsAt_cons_form (hnone : ∀ e ∈ stack, isNamed "form" e.name = false)
    (he : isNamed "form" e.name = true) : PointsAt (some e.id) (e :: stack) where
  isOpen _ hid := ⟨e, List.mem_cons_self, Option.some.inj hid, he⟩
  eq_some := List.forall_mem_cons.mpr ⟨fun _ => rfl, fun d hd hname =>
    absurd hname (Bool.eq_false_iff.mp (hnone d hd))⟩

/-- The form is closed. -/
theorem PointsAt.closed (h : PointsAt form (e :: stack)) (he : isNamed "form" e.name = true)
    (hnodup : ((e :: stack).map (·.id)).Nodup) : PointsAt none stack where
  isOpen := nofun
  eq_some d hd hname := by
    have hid : e.id = d.id := Option.some.inj ((h.eq_some e List.mem_cons_self he).symm.trans
      (h.eq_some d (List.mem_cons_of_mem e hd) hname))
    exact absurd (List.mem_map.mpr ⟨d, hd, hid.symm⟩) (List.nodup_cons.mp hnodup).1

end PointsAt

end Builder

/-! ### States -/

namespace Builder

/-- A state in which flow content is read, in elements of names, the innermost first. -/
structure IsReady (around : List ElementName) (b : Builder) : Prop where
  mode : b.mode = .inBody
  reading : b.reading = .markup
  templateModes : b.templateModes = []
  skipsLineFeed : b.skipsLineFeed = false
  movesOutOfTable : b.movesOutOfTable = false
  names : b.stack.map (·.name) = around
  ordinary : ∀ e ∈ b.stack, e.name.space = .html
  nodup : (b.stack.map (·.id)).Nodup
  lt_size : ∀ e ∈ b.stack, e.id < b.tree.size
  settled : Settled b.formatting b.stack
  pointsAt : PointsAt b.form b.stack
  wellFormed : b.tree.WellFormed

/-- The rules go by the names of the open elements. -/
theorem seen_openAs (hides p : ElementName → Bool) (stack : List OpenElement) :
    seen hides (p ·.name) (openAs (stack.map (·.name))) = seen hides (p ·.name) stack := by
  induction stack with
  | nil => rfl
  | cons e stack ih => rw [List.map_cons, openAs, List.map_cons, seen, seen, ← openAs, ih]

theorem itemToEnd?_openAs (names : List String) (stack : List OpenElement) :
    itemToEnd? names (openAs (stack.map (·.name))) = itemToEnd? names stack := by
  unfold itemToEnd?
  induction stack with
  | nil => rfl
  | cons e stack ih =>
    simp only [openAs, List.map_cons, List.find?_cons] at ih ⊢
    split
    · rfl
    · exact ih

section Ready

variable {around : List ElementName} {b : Builder} {e : OpenElement} {outer : List OpenElement}

theorem IsReady.inParagraph (h : IsReady around b)
    (hp : seen hidesParagraph (isNamed "p" ·.name) (openAs around) = false) :
    seen hidesParagraph (isNamed "p" ·.name) b.stack = false := by
  rwa [← h.names, seen_openAs] at hp

/-- The rules for graphics and formulas are not in force. -/
theorem IsReady.isForeign (h : IsReady around b) (t : Token) : isForeign b t = false := by
  unfold Builder.isForeign
  cases hstack : b.stack with
  | nil => rfl
  | cons e outer => simp [h.ordinary e (hstack ▸ List.mem_cons_self)]

/-- A state in which nothing but flags and the tree has changed. -/
theorem IsReady.of_eq (h : IsReady around b) {b' : Builder} (hmode : b'.mode = b.mode)
    (hreading : b'.reading = .markup) (htemplates : b'.templateModes = b.templateModes)
    (hskips : b'.skipsLineFeed = false) (hmoves : b'.movesOutOfTable = b.movesOutOfTable)
    (hstack : b'.stack = b.stack) (hformatting : b'.formatting = b.formatting)
    (hform : b'.form = b.form) (hsize : b.tree.size ≤ b'.tree.size) (htree : b'.tree.WellFormed) : IsReady around b' where
  mode := hmode.trans h.mode
  reading := hreading
  templateModes := htemplates.trans h.templateModes
  skipsLineFeed := hskips
  movesOutOfTable := hmoves.trans h.movesOutOfTable
  names := hstack ▸ h.names
  ordinary := hstack ▸ h.ordinary
  nodup := hstack ▸ h.nodup
  lt_size e he := (h.lt_size e (hstack ▸ he)).trans_le hsize
  settled := hformatting ▸ hstack ▸ h.settled
  pointsAt := hform ▸ hstack ▸ h.pointsAt
  wellFormed := htree

/-- The state with a new node at the end of the current element. -/
def withNode (b : Builder) (n : Node) : Builder :=
  { b with
    tree := Arena.appendChild (b.tree.alloc n).1 ((b.stack.head?.map (·.id)).getD 0) b.tree.size }

/-- The state in which the content of a new element is read. -/
def afterOpening (b : Builder) (name : ElementName) (attributes : List Attribute)
    (formatting : List Formatting) (form : Option NodeId) (allowsFrameset : Bool) : Builder :=
  { b.withNode (.element name attributes) with
    stack := ⟨b.tree.size, name⟩ :: b.stack
    formatting, form, allowsFrameset }

end Ready

end Builder

end SourceEdit.Markup
