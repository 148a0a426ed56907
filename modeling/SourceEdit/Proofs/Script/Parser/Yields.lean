import SourceEdit.Proofs.Checked
import SourceEdit.Proofs.Script.Parser.Running
import SourceEdit.Proofs.Script.Parser.Tokens
import SourceEdit.Proofs.Script.WellFormed

/-!
# What parsers yield

`Parser.Yields p` says that whatever a parser gives is sound: all nodes in it are well-formed, none
of them is a variable outside its declaration, and the texts of attributes can be put between quotes
again.  A parser that holds no nodes in its results has nothing to show; `IsPlain` marks the types of
such results.  The rules of this module follow the
ways in which parsers are put together, and are tagged for `grind`: that a parser of the grammar
yields sound results then follows from its definition, step by step.
-/

namespace SourceEdit.Script

/-! ### Sound nodes -/

/-- What is the text of an attribute can be put between quotes. -/
def Shape.Quotes (shape : Shape) (_ : List Node) : Prop :=
  ∀ raw, shape = .attributeText raw → IsQuotable raw

/-- A tree that can have been read: it is well-formed, and the texts of attributes stood between
quotes. -/
structure Node.Legible (n : Node) : Prop where
  wellFormed : n.WellFormed
  quoted : n.Everywhere Shape.Quotes

/-- A tree is legible if its head may have its parts, and these are legible. -/
theorem Node.legible_node {head : Head} {parts : List Node} :
    Node.Legible (.node head parts) ↔
      (head.shape.Admits parts ∧ head.shape.Quotes parts) ∧ ∀ n ∈ parts, Node.Legible n := by
  constructor
  · rintro ⟨hwf, hquoted⟩
    obtain ⟨hadmits, hwf⟩ := wellFormed_node.mp hwf
    obtain ⟨hquotes, hquoted⟩ := everywhere_node.mp hquoted
    exact ⟨⟨hadmits, hquotes⟩, fun n hn => ⟨hwf n hn, hquoted n hn⟩⟩
  · rintro ⟨⟨hadmits, hquotes⟩, hparts⟩
    exact ⟨wellFormed_node.mpr ⟨hadmits, fun n hn => (hparts n hn).wellFormed⟩,
      everywhere_node.mpr ⟨hquotes, fun n hn => (hparts n hn).quoted⟩⟩

instance Checked.node : Checked Node := ⟨fun n => n.Legible ∧ n.shape.isDeclarator = false⟩

/-- A node of a shape is sound if it has these parts: variables may stand in declarations only, an
element has its three parts, and a script its two. -/
def Shape.Takes : Shape → List Node → Prop
  | .variableList .., parts => parts ≠ [] ∧ ∀ n ∈ parts, n.Legible
  | .attributeText raw, parts => IsQuotable raw ∧ IsSound parts
  | .declarator _, _ => False
  | .element .., [arguments, attributes, content] =>
    attributes.shape = .group ∧ IsSound [arguments, attributes, content]
  | .element .., _ => False
  | .program _, [directives, body] => body.shape = .statements ∧ IsSound [directives, body]
  | .program _, _ => False
  | _, parts => IsSound parts

attribute [grind unfold] Shape.Takes

@[simp, grind norm]
theorem isSound_node {head : Head} {parts : List Node} :
    IsSound (.node head parts : Node) ↔ head.shape.Takes parts := by
  obtain ⟨shape, a, b⟩ := head
  change Node.Legible _ ∧ shape.isDeclarator = false ↔ shape.Takes parts
  rw [Node.legible_node]
  -- One case for each kind of shape that something is asked of, and one for all others.
  unfold Shape.Takes
  split
  · simp [Shape.Admits, Shape.Places, Shape.furnishes_iff, Shape.Quotes, Shape.isVariableList,
      Shape.isDeclarator, Shape.isElement, Shape.isProgram]
  · simp only [Shape.Admits, Shape.Places, Shape.furnishes_iff, Shape.Quotes, Shape.isVariableList,
      Shape.isDeclarator, Shape.isElement, Shape.isProgram, IsSound]
    grind
  · simp [Shape.isDeclarator]
  · simp only [Shape.Admits, Shape.Places, Shape.furnishes_iff, Shape.Quotes, Shape.isVariableList,
      Shape.isDeclarator, Shape.isElement, Shape.isProgram, IsSound]
    grind
  · next hthree =>
    simp only [Shape.Admits, Shape.furnishes_iff, Shape.isElement, iff_false]
    rintro ⟨⟨⟨⟨-, -, h, -⟩, -⟩, -⟩, -⟩
    obtain ⟨_, _, _, rfl, -⟩ := h trivial
    exact hthree _ _ _ rfl
  · simp only [Shape.Admits, Shape.Places, Shape.furnishes_iff, Shape.Quotes, Shape.isVariableList,
      Shape.isDeclarator, Shape.isElement, Shape.isProgram, IsSound]
    grind
  · next htwo =>
    simp only [Shape.Admits, Shape.furnishes_iff, Shape.isProgram, iff_false]
    rintro ⟨⟨⟨⟨-, -, -, h, -⟩, -⟩, -⟩, -⟩
    obtain ⟨_, _, rfl, -⟩ := h trivial
    exact htwo _ _ rfl
  · next hlist htext hdeclarator helement hprogram _ _ =>
    -- nothing is asked of the other shapes but that their parts are sound
    have hprogram : shape.isProgram = false := by
      unfold Shape.isProgram
      split
      · exact (hprogram _ rfl).elim
      · rfl
    have helement : shape.isElement = false := by
      unfold Shape.isElement
      split
      · exact (helement _ _ rfl).elim
      · rfl
    have hlist : shape.isVariableList = false := by
      unfold Shape.isVariableList
      split
      · exact (hlist _ _ rfl).elim
      · rfl
    have hdeclarator : shape.isDeclarator = false := by
      unfold Shape.isDeclarator
      split
      · exact (hdeclarator _ rfl).elim
      · rfl
    have hquotes : shape.Quotes parts := fun raw heq => (htext raw heq).elim
    simp [Shape.Admits, Shape.Places, Shape.furnishes_iff, hlist, hdeclarator, helement, hprogram,
      hquotes, IsSound, forall_and, and_comm]

/-- Whether a new node is sound depends on its shape and its parts. -/
@[simp, grind norm]
theorem isSound_ofShape {shape : Shape} {start stop : Nat} {parts : List Node} :
    IsSound (Node.ofShape shape start stop parts) ↔ shape.Takes parts :=
  isSound_node

/-- A variable can have been read if its three parts are sound. -/
theorem legible_declarator {isDefinite : Bool} {a b : Nat} {bound type value : Node} :
    Node.Legible (.node ⟨.declarator isDefinite, a, b⟩ [bound, type, value]) ↔
      IsSound [bound, type, value] := by
  simp only [Node.legible_node, Shape.Admits, Shape.Places, Shape.furnishes_iff, Shape.Quotes,
    Shape.isVariableList, Shape.isElement, Shape.isProgram, IsSound]
  grind

/-- A node may be given another range. -/
theorem isSound_ofShape_shape {n : Node} (hn : IsSound n) (start stop : Nat) :
    IsSound (Node.ofShape n.value.shape start stop n.children) := by
  cases n
  exact isSound_ofShape.mpr (isSound_node.mp hn)

@[simp, grind norm]
theorem isSound_absent : IsSound Node.absent ↔ True := by
  simp [Node.absent, Shape.Takes]

@[simp, grind =]
theorem Node.shape_group (parts : List Node) : (Node.group parts).shape = .group := rfl

@[simp]
theorem Node.shape_statements (parts : List Node) : (Node.statements parts).shape = .statements := rfl

@[simp, grind norm]
theorem isSound_group {parts : List Node} : IsSound (Node.group parts) ↔ IsSound parts :=
  isSound_ofShape

@[simp, grind norm]
theorem isSound_statements {parts : List Node} : IsSound (Node.statements parts) ↔ IsSound parts :=
  isSound_ofShape

/-- What may be missing is a sound node, or the mark that it is missing. -/
@[grind ←]
theorem isSound_ofOption {o : Option Node} (h : IsSound o) : IsSound (Node.ofOption o) := by
  cases o with
  | none => exact isSound_absent.mpr trivial
  | some n => exact isSound_some.mp h

namespace Parser

/-- Whatever a parser gives is sound. -/
def Yields {α : Type} [Checked α] (p : Parser α) : Prop :=
  ∀ c s a s', p c s = some (a, s') → IsSound a

variable {α β : Type} [Checked α] [Checked β]

/-- Nothing is asked of values that hold no nodes. -/
@[grind ←]
theorem Yields.of_isPlain [IsPlain α] (p : Parser α) : p.Yields := fun _ _ a _ _ =>
  IsPlain.isSound a

/-- A parser that goes on with what another one gives. -/
@[grind ←]
theorem Yields.bind {p : Parser α} {f : α → Parser β} (hp : p.Yields)
    (hf : ∀ a, IsSound a → (f a).Yields) : (p >>= f).Yields := by
  intro c s b s' h
  obtain ⟨a, t, ha, hb⟩ := bind_eq_some.mp h
  exact hf a (hp c s a t ha) c t b s' hb

@[grind ←]
theorem Yields.pure {a : α} (h : IsSound a) : (Pure.pure a : Parser α).Yields := by
  intro c s b s' hb
  obtain ⟨rfl, -⟩ := Prod.mk.inj (Option.some.inj hb)
  exact h

/-- A parser that fails gives nothing. -/
@[grind ←]
theorem Yields.failure : (failure : Parser α).Yields := fun _ _ _ _ h => by
  cases h

/-! ### Combinators -/

/-- What is tried gives what it gives, or nothing. -/
@[grind ←]
theorem Yields.attempt {p : Parser α} (hp : p.Yields) : (attempt p).Yields := by
  intro c s a s' h
  unfold Parser.attempt at h
  split at h
  · next b t hb =>
    obtain ⟨rfl, -⟩ := Prod.mk.inj (Option.some.inj h)
    exact isSound_some.mpr (hp c s b t hb)
  · obtain ⟨rfl, -⟩ := Prod.mk.inj (Option.some.inj h)
    exact isSound_none.mpr trivial

/-- What is read in another context. -/
@[grind ←]
theorem Yields.within {f : Context → Context} {p : Parser α} (hp : p.Yields) :
    (within f p).Yields := fun _ s a s' h => hp _ s a s' h

/-- What is read only under a condition. -/
@[grind ←]
theorem Yields.optional {condition : Bool} {p : Parser Node} (hp : p.Yields) :
    (optional condition p).Yields := by
  unfold Parser.optional
  split
  · exact hp
  · exact .pure (isSound_absent.mpr trivial)

/-- The nodes that a step gives, one after another. -/
theorem Yields.collectUpTo {p : Parser (Option α)} (hp : p.Yields) (n : Nat) :
    (collectUpTo p n).Yields := by
  induction n with
  | zero => exact .failure
  | succ n ih =>
    refine hp.bind fun a ha => ?_
    cases a with
    | none => exact .pure (isSound_nil.mpr trivial)
    | some a =>
      refine ih.bind fun l hl => .pure ?_
      exact isSound_cons.mpr ⟨isSound_some.mp ha, hl⟩

@[grind ←]
theorem Yields.collect {p : Parser (Option α)} (hp : p.Yields) : (collect p).Yields :=
  .bind (.of_isPlain _) fun _ _ => hp.collectUpTo _

/-- What a step makes of a sound value, again and again. -/
theorem Yields.iterateUpTo {f : α → Parser (Bool × α)} (hf : ∀ a, IsSound a → (f a).Yields)
    (n : Nat) {a : α} (ha : IsSound a) : (iterateUpTo f n a).Yields := by
  induction n generalizing a with
  | zero => exact .failure
  | succ n ih =>
    refine (hf a ha).bind fun x hx => ?_
    obtain ⟨more, b⟩ := x
    dsimp only
    split
    · exact ih hx.2
    · exact .pure hx.2

@[grind ←]
theorem Yields.iterate {f : α → Parser (Bool × α)} (hf : ∀ a, IsSound a → (f a).Yields) {a : α}
    (ha : IsSound a) : (iterate f a).Yields :=
  .bind (.of_isPlain _) fun _ _ => .iterateUpTo hf _ ha

/-- Items with commas between them, up to a closing mark. -/
@[grind ←]
theorem Yields.itemsUntil {close : Punct} {item : Parser α} (hitem : item.Yields) :
    (itemsUntil close item).Yields := by
  unfold Parser.itemsUntil
  grind

/-- Items with commas between them. -/
@[grind ←]
theorem Yields.separated {item : Parser α} (hitem : item.Yields) : (separated item).Yields := by
  unfold Parser.separated
  grind

omit [Checked α] in
/-- Items with commas between them are never none. -/
theorem separated_ne_nil {item : Parser α} {c : Surroundings} {s s' : ReadState} {items : List α}
    (h : separated item c s = some (items, s')) : items ≠ [] := by
  obtain ⟨⟨first, t⟩, -, h⟩ := Option.bind_eq_some_iff.mp h
  obtain ⟨⟨rest, u⟩, -, h⟩ := Option.bind_eq_some_iff.mp h
  obtain ⟨rfl, -⟩ := Prod.mk.inj (Option.some.inj h)
  exact List.cons_ne_nil _ _

/-! ### Nodes -/

/-- A node that may have its parts. -/
@[grind ←]
theorem Yields.finish {shape : Shape} {start : Nat} {parts : List Node} (h : shape.Takes parts) :
    (finish shape start parts).Yields :=
  .bind (.of_isPlain _) fun _ _ => .pure (isSound_ofShape.mpr h)

/-! ### Names and literals -/

@[grind ←]
theorem bindingName_yields : bindingName.Yields := by
  unfold bindingName
  grind

@[grind ←]
theorem anyName_yields : anyName.Yields := by
  unfold anyName
  grind

@[grind ←]
theorem stringLiteral_yields : stringLiteral.Yields := by
  unfold stringLiteral
  grind

@[grind ←]
theorem numberLiteral_yields : numberLiteral.Yields := by
  unfold numberLiteral
  grind

/-- The key of a property is a name, a literal or an expression in brackets. -/
@[grind ←]
theorem propertyKey_yields {parse : Goal → Parser Node} (h : ∀ goal, (parse goal).Yields) :
    (propertyKey parse).Yields := by
  unfold propertyKey
  grind

end Parser

end SourceEdit.Script
