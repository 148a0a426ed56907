import SourceEdit.Proofs.Reached
import SourceEdit.Proofs.Script.Attributes
import SourceEdit.Proofs.Script.Values

/-!
# Variables at the heads of loops

The variable at the head of a loop over an object or over values takes its value from the loop, so
it cannot have an initial value as well.  An update gives one to all variables of a name, wherever
they are declared.  If no such head declares a variable of the name, then no variable there is given
an initial value (`Program.variables_of_update`); a variable of the name at such a head is given one
like any other (`Program.initial_of_update_head`).

The variables of the edited script are traced back to the script before, path by path.  An update of
values substitutes the values of variables and goes into all else, so also into the pattern and the
declared type of a variable that it gives a value; one that sets attributes adds and replaces
attributes only (`Node.Traced`).
-/

namespace SourceEdit.Script

namespace Shape

/-- Whether a shape is that of a loop over an object or over values. -/
def isLoopOver : Shape → Bool
  | .forIn | .forOf _ => true
  | _ => false

/-- Whether a shape is that of an attribute with a value, or of the text that the value is. -/
def isAttributePart : Shape → Bool
  | .attribute _ | .attributeText _ => true
  | _ => false

/-- A loop, a declaration and a variable are no attribute parts. -/
theorem isAttributePart_eq_false {shape : Shape}
    (h : shape.isLoopOver = true ∨ shape.isVariableList = true ∨ shape.isDeclarator = true) :
    shape.isAttributePart = false := by
  unfold isAttributePart
  split
  · simp [isLoopOver, isVariableList, isDeclarator] at h
  · simp [isLoopOver, isVariableList, isDeclarator] at h
  · rfl

/-- The head of a loop over an object or over values declares no variable of a name. -/
def SparesHead (identifier : Name) (shape : Shape) (parts : List Node) : Prop :=
  shape.isLoopOver = true → ∀ first ∈ parts.head?, ∀ v ∈ first.children,
    Node.isAddressed identifier .declarator v = false

instance (identifier : Name) (shape : Shape) (parts : List Node) :
    Decidable (shape.SparesHead identifier parts) := by
  unfold SparesHead
  infer_instance

end Shape

namespace Node

variable {identifier name : Name} {Put : Node → Prop} {value n m : Node} {path : List Nat}

/-- Whether a variable has an initial value. -/
def hasInitial (n : Node) : Bool := n.children[2]?.any fun initial => !Node.isAbsent initial

/-- A variable stands at a path, in the declaration at the head of a loop over an object or over
values. -/
def IsHeadVariableAt (n : Node) (path : List Nat) (v : Node) : Prop :=
  ∃ (outer : List Nat) (j : Nat) (loop list : Node), path = outer ++ [0, j] ∧
    n.at? outer = some loop ∧ loop.shape.isLoopOver = true ∧ n.at? (outer ++ [0]) = some list ∧
    list.shape.isVariableList = true ∧ n.at? path = some v ∧ v.shape.isDeclarator = true

theorem IsHeadVariableAt.at?_eq (h : n.IsHeadVariableAt path m) : n.at? path = some m := by
  obtain ⟨_, _, _, _, -, -, -, -, -, hm, -⟩ := h
  exact hm

theorem IsHeadVariableAt.isDeclarator (h : n.IsHeadVariableAt path m) :
    m.shape.isDeclarator = true := by
  obtain ⟨_, _, _, _, -, -, -, -, -, -, hm⟩ := h
  exact hm

/-- Two nodes are of one shape and range, and so are their parts. -/
structure Resembles (m n : Node) : Prop where
  value : m.value = n.value
  values_children : m.children.map Tree.value = n.children.map Tree.value

theorem Resembles.hasInitial_eq (h : m.Resembles n) : m.hasInitial = n.hasInitial := by
  have hinitial (n : Node) : n.hasInitial =
      (n.children.map Tree.value)[2]?.any fun head => head.shape != .absent := by
    rw [List.getElem?_map, hasInitial, Option.any_map]
    rfl
  rw [hinitial, hinitial, h.values_children]

/-- A variable is another one with a value: its pattern and its declared type have the values that they
had. -/
structure HasBeenGiven (m value n : Node) : Prop where
  head : m.value = n.value
  initial : m.children[2]? = some value
  pattern : m.children[0]?.map Tree.value = n.children[0]?.map Tree.value
  type : m.children[1]?.map Tree.value = n.children[1]?.map Tree.value

/-- What holds everywhere in a tree holds at every path. -/
theorem Everywhere.at? {suits : Shape → List Node → Prop} (h : n.Everywhere suits)
    (hpath : n.at? path = some m) : suits m.shape m.children := by
  induction path generalizing n with
  | nil =>
    obtain rfl := Option.some.inj hpath
    cases h with
    | node hsuits _ => exact hsuits
  | cons i path ih =>
    obtain ⟨child, hchild, hm⟩ := Tree.at?_cons_eq_some.mp hpath
    cases h with
    | node _ hparts => exact ih (hparts child (List.mem_of_getElem? hchild)) hm

/-- The variable at a head that declares none of the name is none of the name. -/
theorem IsHeadVariableAt.isAddressed_eq_false (hn : n.Everywhere (Shape.SparesHead identifier))
    (h : n.IsHeadVariableAt path m) : m.isAddressed identifier .declarator = false := by
  obtain ⟨outer, j, loop, list, rfl, hloop, hover, hlist, -, hm, -⟩ := h
  have hfirst : loop.children[0]? = some list := by
    obtain ⟨loop', hloop', hfirst⟩ := Tree.at?_concat_eq_some.mp hlist
    rwa [Option.some.inj (hloop.symm.trans hloop')]
  have hvariable : list.children[j]? = some m := by
    rw [show outer ++ [0, j] = (outer ++ [0]) ++ [j] by simp] at hm
    obtain ⟨list', hlist', hm⟩ := Tree.at?_concat_eq_some.mp hm
    rwa [Option.some.inj (hlist.symm.trans hlist')]
  exact hn.at? hloop hover list (by simpa [List.head?_eq_getElem?] using hfirst) m
    (List.mem_of_getElem? hvariable)

/-! ### Tracing back what an update leaves -/

/-- A node stands in a new initial value of a variable of the name. -/
def StandsWithin (identifier : Name) (Put : Node → Prop) (n : Node) (path : List Nat)
    (new : Node) : Prop :=
  ∃ (outer rest : List Nat) (v value : Node), path = outer ++ 2 :: rest ∧ n.at? outer = some v ∧
    v.isAddressed identifier .declarator = true ∧ Put value ∧ value.at? rest = some new

/-- A node of an edited tree comes from what stood at its path: with its value, and if it is a
variable, with the values of its parts as well, unless it is a variable of the name that has been
given a new initial value. Or it stands in such a new initial value. -/
inductive Traced (identifier : Name) (Put : Node → Prop) (n : Node) (path : List Nat)
    (new : Node) : Prop
  | kept {old : Node} : n.at? path = some old → new.value = old.value →
      (new.shape.isDeclarator = true → new.Resembles old) → Traced identifier Put n path new
  | given {old value : Node} : n.at? path = some old → Put value →
      old.isAddressed identifier .declarator = true → new.HasBeenGiven value old →
      Traced identifier Put n path new
  | within : StandsWithin identifier Put n path new → Traced identifier Put n path new

theorem traced_self (h : n.at? path = some m) : Traced identifier Put n path m :=
  .kept h rfl fun _ => ⟨rfl, rfl⟩

/-- What stands below a node in a new initial value stands there as well. -/
theorem StandsWithin.append {new inner : Node} (h : StandsWithin identifier Put n path new)
    {below : List Nat} (hinner : new.at? below = some inner) :
    StandsWithin identifier Put n (path ++ below) inner := by
  obtain ⟨outer, rest, v, value, rfl, hv, haddressed, hput, hnew⟩ := h
  exact ⟨outer, rest ++ below, v, value, by simp, hv, haddressed, hput,
    (Tree.at?_append_of_eq hnew below).trans hinner⟩

/-- A node has the value of what stood at its path, or stands in a new initial value. -/
theorem Traced.value_eq {new : Node} (h : Traced identifier Put n path new) :
    (∃ old, n.at? path = some old ∧ new.value = old.value) ∨
      StandsWithin identifier Put n path new := by
  cases h with
  | kept hold hvalue _ => exact .inl ⟨_, hold, hvalue⟩
  | given hold _ _ hgiven => exact .inl ⟨_, hold, hgiven.head⟩
  | within hwithin => exact .inr hwithin

/-- The variable at the head of a loop stood there before, or the loop stands in a new value. -/
theorem IsHeadVariableAt.of_traced {v : Node} (hv : m.IsHeadVariableAt path v)
    (h : ∀ (path : List Nat) (new : Node), m.at? path = some new →
      new.shape.isAttributePart = false → Traced identifier Put n path new) :
    (∃ old, n.IsHeadVariableAt path old) ∨ StandsWithin identifier Put n path v := by
  obtain ⟨outer, j, loop, list, rfl, hloop, hover, hlist, hvariables, hv, hdeclarator⟩ := hv
  have hvalue {path : List Nat} {new : Node} (hnew : m.at? path = some new)
      (hshape : new.shape.isLoopOver = true ∨ new.shape.isVariableList = true ∨
        new.shape.isDeclarator = true) :=
    (h path new hnew (Shape.isAttributePart_eq_false hshape)).value_eq
  have hinner : loop.at? [0, j] = some v := (Tree.at?_append_of_eq hloop _).symm.trans hv
  have hlast : list.at? [j] = some v := by
    rw [← Tree.at?_append_of_eq hlist, List.append_assoc]
    exact hv
  obtain ⟨loop', hloop', hover'⟩ | hwithin := hvalue hloop (.inl hover)
  · obtain ⟨list', hlist', hvariables'⟩ | hwithin := hvalue hlist (.inr (.inl hvariables))
    · obtain ⟨old, hold, hdeclarator'⟩ | hwithin := hvalue hv (.inr (.inr hdeclarator))
      · refine .inl ⟨old, outer, j, loop', list', rfl, hloop', ?_, hlist', ?_, hold, ?_⟩
        · rwa [Node.shape, ← hover']
        · rwa [Node.shape, ← hvariables']
        · rwa [Node.shape, ← hdeclarator']
      · exact .inr hwithin
    · have hstands := hwithin.append hlast
      rw [List.append_assoc] at hstands
      exact .inr hstands
  · exact .inr (hwithin.append hinner)

/-- Where no value of a variable is found, the parts of a node keep their values. -/
theorem values_children_setValues {count : Nat}
    (h : Substituted (isValueSlot identifier) (fun _ part => part = value) n m count) {old new : Node}
    (hclear : IsClearAt (isValueSlot identifier) n path) (hold : n.at? path = some old)
    (hnew : m.at? path = some new) (haddressed : old.isAddressed identifier .declarator = false) :
    new.children.map Tree.value = old.children.map Tree.value := by
  refine List.ext_getElem? fun i => ?_
  rw [List.getElem?_map, List.getElem?_map]
  exact h.value_children hclear hold hnew (by rw [isValueSlot, haddressed, Bool.false_and])

/-- A variable of the name that stands in no value of one is given the value. -/
theorem hasBeenGiven_setValues (hn : n.Everywhere Shape.Furnishes) {count : Nat}
    (h : Substituted (isValueSlot identifier) (fun _ part => part = value) n m count) {old new : Node}
    (hclear : IsClearAt (isValueSlot identifier) n path) (hold : n.at? path = some old)
    (hnew : m.at? path = some new) (haddressed : old.isAddressed identifier .declarator = true) :
    new.HasBeenGiven value old := by
  obtain ⟨bound, type, last, hparts⟩ :=
    (hn.at? hold).declarator (isDeclarator_of_isAddressed haddressed)
  obtain ⟨new', hnew', hvalue, -⟩ := h.kept path old hclear hold
  obtain rfl := Option.some.inj (hnew.symm.trans hnew')
  obtain ⟨_, hinitial, rfl⟩ := h.children_of_found hclear hold hnew (i := 2) (by rw [hparts]; rfl)
    (by rw [isValueSlot, haddressed]; rfl)
  have hother {i : Nat} (hi : i ≠ 2) := h.value_children hclear hold hnew (i := i)
    (by simp [isValueSlot, hi])
  exact ⟨hvalue, hinitial, hother (by decide), hother (by decide)⟩

theorem traced_setValues (hn : n.Everywhere Shape.Furnishes) (identifier : Name) (hput : Put value)
    {new : Node} (hnew : (setValues identifier value n).1.at? path = some new) :
    Traced identifier Put n path new := by
  have hsubstituted := Program.substituted_setValues identifier value n
  obtain ⟨outer, rest, part, _, rfl, ⟨hfound, -⟩, -, rfl, hrest⟩ | ⟨hclear, old, hold⟩ :=
    hsubstituted.origin hnew
  · obtain ⟨outer, i, v, part, rfl, hv, -, hslot⟩ := hfound
    obtain ⟨haddressed, hi⟩ := Bool.and_eq_true_iff.mp hslot
    obtain rfl := eq_of_beq hi
    exact .within ⟨outer, rest, v, _, by simp, hv, haddressed, hput, hrest⟩
  · cases haddressed : isAddressed identifier .declarator old with
    | true =>
      exact .given hold hput haddressed
        (hasBeenGiven_setValues hn hsubstituted hclear hold hnew haddressed)
    | false =>
      obtain ⟨new', hnew', hvalue, -⟩ := hsubstituted.kept path old hclear hold
      obtain rfl := Option.some.inj (hnew.symm.trans hnew')
      exact .kept hold hvalue fun _ =>
        ⟨hvalue, values_children_setValues hsubstituted hclear hold hnew haddressed⟩

/-! ### Attributes that are set -/

/-- A node of an edited tree has the value of what stood at its path, and its parts have the values
that the parts there had, unless it is the list of attributes of an element. -/
def Retained (n : Node) (path : List Nat) (new : Node) : Prop :=
  ∃ old, n.at? path = some old ∧ new.value = old.value ∧
    (new.children.map Tree.value = old.children.map Tree.value ∨
      ∃ (outer : List Nat) (i : Nat) (parent : Node), path = outer ++ [i] ∧
        n.at? outer = some parent ∧ parent.shape.isVariableList = false)

theorem Resembles.retained {new : Node} (h : new.Resembles n) : n.Retained [] new :=
  ⟨n, rfl, h.value, .inl h.values_children⟩

/-- What is retained of a part is retained of the node that it is a part of. -/
theorem Retained.cons {part new : Node} (h : part.Retained path new) {i : Nat}
    (hpart : n.children[i]? = some part) : n.Retained (i :: path) new := by
  have hat (path : List Nat) : n.at? (i :: path) = part.at? path := by
    rw [Tree.at?_cons, hpart, Option.bind_some]
  obtain ⟨old, hold, hvalue, hchildren | ⟨outer, j, parent, rfl, hparent, hlist⟩⟩ := h
  · exact ⟨old, (hat path).trans hold, hvalue, .inl hchildren⟩
  · exact ⟨old, (hat _).trans hold, hvalue,
      .inr ⟨i :: outer, j, parent, rfl, (hat outer).trans hparent, hlist⟩⟩

/-- An attribute with its text, and the text, are attribute parts. -/
theorem isAttributePart_of_at? {other : Name} {a b : Nat} {text : List Char} {new : Node}
    (h : Tree.at? (.node ⟨.attribute other, a, b⟩ [ofShape (.attributeText text) 0 0]) path =
      some new) : new.shape.isAttributePart = true := by
  match path with
  | [] => exact Option.some.inj h ▸ rfl
  | [0] => exact Option.some.inj h ▸ rfl
  | 0 :: i :: path => cases h
  | (i + 1) :: path => cases h

theorem values_children_setAttributes (hn : n.Everywhere Shape.Furnishes) :
    (setAttributes identifier name value n).1.children.map Tree.value =
      n.children.map Tree.value := by
  refine List.ext_getElem? fun i => ?_
  rw [List.getElem?_map, List.getElem?_map]
  by_cases hi : i = 1 ∧ n.isAddressed identifier .element = true
  · obtain ⟨rfl, haddressed⟩ := hi
    obtain ⟨isClosed, a, b, arguments, group, children, rfl, -⟩ := exists_element hn haddressed
    rw [setAttributes_element]
    rfl
  · rw [getElem?_children_setAttributes hn hi, Option.map_map]
    exact congrArg (Option.map · _) (funext fun part => value_setAttributes identifier name value part)

/-- What is retained of a part of an element's attributes is retained of the element. -/
theorem Retained.attribute {part new : Node} (h : part.Retained path new) {i : Nat}
    (hpart : n.attributes[i]? = some part) : n.Retained (1 :: i :: path) new := by
  cases hgroup : n.children[1]? with
  | none => simp [attributes, hgroup] at hpart
  | some group =>
    refine Retained.cons (h.cons (i := i) ?_) hgroup
    simpa [attributes, hgroup] using hpart

/-- What stands among the attributes of an element of the name is an attribute that was set, or has
been gone into. -/
theorem exists_attribute_of_setAttributes {text : List Char} {parts : List Node} {i : Nat}
    {edited new : Node} (hedited : (setAttributesOfParts identifier name
      (ofShape (.attributeText text) 0 0) true parts).1[i]? = some edited)
    (hnew : edited.at? path = some new) (hshape : new.shape.isAttributePart = false) :
    ∃ part, parts[i]? = some part ∧
      edited = (setAttributes identifier name (ofShape (.attributeText text) 0 0) part).1 := by
  rw [getElem?_setAttributesOfParts] at hedited
  split at hedited
  · next hfirst =>
    obtain ⟨⟨⟨shape, a, b⟩, inner⟩, hpart, rfl⟩ := Option.map_eq_some_iff.mp hedited
    have hnamed := (List.findIdx?_eq_some_iff_getElem.mp hfirst).2.1
    rw [(List.getElem?_eq_some_iff.mp hpart).2] at hnamed
    obtain rfl : shape = .attribute name := eq_of_beq hnamed
    exact (Bool.false_ne_true (hshape.symm.trans (isAttributePart_of_at? hnew))).elim
  · split at hedited
    · obtain rfl := Option.some.inj hedited
      exact (Bool.false_ne_true (hshape.symm.trans (isAttributePart_of_at? hnew))).elim
    · obtain ⟨part, hpart, rfl⟩ := Option.map_eq_some_iff.mp hedited
      exact ⟨part, hpart, rfl⟩

/-- What setting an attribute leaves is retained, but for attributes and their texts. -/
theorem retained_setAttributes (hn : n.Everywhere Shape.Furnishes) {text : List Char} {new : Node}
    (hnew : (setAttributes identifier name (ofShape (.attributeText text) 0 0) n).1.at? path =
      some new) (hshape : new.shape.isAttributePart = false) : n.Retained path new := by
  induction n, path using path_induction identifier with
  | nil n =>
    obtain rfl := Option.some.inj hnew
    exact Resembles.retained ⟨value_setAttributes _ _ _ _, values_children_setAttributes hn⟩
  | group n haddressed =>
    obtain ⟨isClosed, a, b, arguments, group, children, rfl, -⟩ := exists_element hn haddressed
    rw [setAttributes_element, Tree.at?_singleton] at hnew
    obtain rfl := Option.some.inj hnew
    exact ⟨group, rfl, rfl, .inr ⟨[], 1, _, rfl, rfl, rfl⟩⟩
  | cons n i path hi ih =>
    rw [at?_setAttributes_cons hn hi] at hnew
    obtain ⟨part, hpart, hnew⟩ := Option.bind_eq_some_iff.mp hnew
    exact (ih part hpart (everywhere_children hn hpart) hnew).cons hpart
  | within n i path haddressed ih =>
    rw [at?_setAttributes_attribute hn haddressed] at hnew
    obtain ⟨edited, hedited, hnew⟩ := Option.bind_eq_some_iff.mp hnew
    obtain ⟨part, hpart, rfl⟩ := exists_attribute_of_setAttributes hedited hnew hshape
    exact (ih part hpart (everywhere_attributes hn hpart) hnew).attribute hpart

/-- Variables stand in declarations, so they are retained with all their parts. -/
theorem traced_setAttributes (hplaced : n.Placed) (hn : n.Everywhere Shape.Furnishes)
    (identifier name : Name) (text : List Char) {new : Node} (hnew : (setAttributes identifier name (ofShape (.attributeText text) 0 0) n).1.at?
      path = some new) (hshape : new.shape.isAttributePart = false) :
    Traced identifier Put n path new := by
  obtain ⟨old, hold, hvalue, hchildren⟩ :=
    retained_setAttributes hn hnew hshape
  refine .kept hold hvalue fun hdeclarator => ⟨hvalue, hchildren.resolve_right ?_⟩
  rintro ⟨outer, i, parent, rfl, hparent, hlist⟩
  obtain ⟨parent', hparent', hpart⟩ := Tree.at?_concat_eq_some.mp hold
  obtain rfl := Option.some.inj (hparent.symm.trans hparent')
  have hdeclarator : (Node.shape old).isDeclarator = true := by
    rw [Node.shape, ← hvalue]
    exact hdeclarator
  exact Bool.false_ne_true (hlist.symm.trans
    (hplaced.at? hparent old (List.mem_of_getElem? hpart) hdeclarator))

end Node

namespace Program

variable {p : Program} {m : Modification} {path : List Nat}

/-- The expression that a modification carries. -/
def Puts (p : Program) (m : Modification) (value : Node) : Prop :=
  ∃ text, m.valueText? = some text ∧ p.expressionOfValue text = .ok value

/-- What an update leaves is traced back to the script before, but for attributes. -/
theorem traced_of_update (hp : p.Settled) (hm : m.operation = .update) {identifier : String}
    (hid : m.target.identifier = some identifier) {new : Node}
    (hnew : (p.edit m).tree.root.at? path = some new) (hshape : new.shape.isAttributePart = false) :
    Node.Traced identifier.toList (p.Puts m) p.root path new := by
  have hedit : p.edit m = p.update identifier.toList m := by simp only [edit, hid, editNamed, hm]
  rw [hedit] at hnew
  -- An update gives a value to variables, or text to the attributes of elements.
  by_cases hattribute : m.target.attributeName = none ∨
      p.root.holdsLocated identifier.toList .element = false
  · rw [update_value hp hattribute] at hnew
    split at hnew
    · cases hvalue : m.requiredValue with
      | error err =>
        rw [hvalue] at hnew
        exact Node.traced_self hnew
      | ok text =>
        rw [hvalue] at hnew
        dsimp only [Edited.needing] at hnew
        cases hread : p.expressionOfValue text with
        | error err =>
          rw [hread] at hnew
          exact Node.traced_self hnew
        | ok value =>
          rw [hread] at hnew
          exact Node.traced_setValues hp.furnished _ ⟨text, valueText?_eq hvalue, hread⟩ hnew
    · exact Node.traced_self hnew
  · obtain ⟨hname, helement⟩ := not_or.mp hattribute
    obtain ⟨name, hname⟩ := Option.ne_none_iff_exists'.mp hname
    rw [update_attribute hp hname (Bool.of_not_eq_false helement)] at hnew
    cases hvalue : m.requiredValue with
    | error err =>
      rw [hvalue] at hnew
      exact Node.traced_self hnew
    | ok text =>
      rw [hvalue] at hnew
      exact Node.traced_setAttributes hp.placed hp.furnished _ _ _ hnew hshape

/-- If no loop over an object or over values has a variable of the name at its head, then after an
update no variable at such a head has an initial value that it did not have before, unless the loop
was put in with a value; and the variables that are given a value stand in other declarations. -/
theorem variables_of_update {options : ScriptOptions} (hp : options.editor.Reached p)
    (hm : m.operation = .update) {identifier : String}
    (hid : m.target.identifier = some identifier)
    (hheads : p.root.Everywhere (Shape.SparesHead identifier.toList)) :
    (∀ (path : List Nat) (v : Node), (p.edit m).tree.root.IsHeadVariableAt path v →
      v.hasInitial = true → (∃ old, p.root.IsHeadVariableAt path old ∧ old.hasInitial = true) ∨
        Node.StandsWithin identifier.toList (p.Puts m) p.root path v) ∧
    ∀ (path : List Nat) (v : Node), (p.edit m).tree.root.at? path = some v →
      v.shape.isDeclarator = true → (∃ old, p.root.at? path = some old ∧ v.Resembles old) ∨
        (∃ old value : Node, p.root.at? path = some old ∧ p.Puts m value ∧
          v.HasBeenGiven value old ∧ old.isAddressed identifier.toList .declarator = true ∧
          ¬∃ u, p.root.IsHeadVariableAt path u) ∨
        Node.StandsWithin identifier.toList (p.Puts m) p.root path v := by
  have htraced {path : List Nat} {new : Node} (hnew : (p.edit m).tree.root.at? path = some new) :=
    traced_of_update (settled_of_reached hp) hm hid hnew
  refine ⟨fun path v hv hinitial => ?_, fun path v hv hdeclarator => ?_⟩
  · -- what stands at a path now stood there before, or stands in a value that was put in
    obtain ⟨old, hold⟩ | hwithin := hv.of_traced fun _ _ => htraced
    · cases htraced hv.at?_eq (Shape.isAttributePart_eq_false (.inr (.inr hv.isDeclarator))) with
      | @kept old' hold' _ hresembles =>
        obtain rfl := Option.some.inj (hold'.symm.trans hold.at?_eq)
        exact .inl ⟨_, hold, by rw [← (hresembles hv.isDeclarator).hasInitial_eq, hinitial]⟩
      | given hold' _ haddressed _ =>
        obtain rfl := Option.some.inj (hold'.symm.trans hold.at?_eq)
        exact (Bool.false_ne_true ((hold.isAddressed_eq_false hheads).symm.trans haddressed)).elim
      | within hwithin => exact .inr hwithin
    · exact .inr hwithin
  · cases htraced hv (Shape.isAttributePart_eq_false (.inr (.inr hdeclarator))) with
    | kept hold _ hresembles => exact .inl ⟨_, hold, hresembles hdeclarator⟩
    | @given old value hold hputs haddressed hgiven =>
      refine .inr (.inl ⟨old, value, hold, hputs, hgiven, haddressed, fun ⟨u, hu⟩ => ?_⟩)
      obtain rfl := Option.some.inj (hold.symm.trans hu.at?_eq)
      exact Bool.false_ne_true ((hu.isAddressed_eq_false hheads).symm.trans haddressed)
    | within hwithin => exact .inr (.inr hwithin)

/-- Giving a value to a variable and to the start of a loop, beside heads of loops that declare
other variables, one of them with an initial value; the value holds a loop over values itself. -/
theorem variables_of_update_start :
    let source := "var x; for (let x = 0;;) for (var y = 1 in x) for (const z of x) f(z);"
    let update : Modification :=
      { path := "a.js", operation := .update, target := { identifier := some "x" },
        value := some (.text "() => { for (const x of y); }") }
    ∃ p, parse? (.ofPath "a.js") source.toList = some p ∧
      (p.edit update).result.toOption = some 2 ∧
      ∀ (path : List Nat) (v : Node), (p.edit update).tree.root.IsHeadVariableAt path v →
        v.hasInitial = true → (∃ old, p.root.IsHeadVariableAt path old ∧ old.hasInitial = true) ∨
          Node.StandsWithin "x".toList (p.Puts update) p.root path v := by
  intro source update
  have hreads : ((parse? (.ofPath "a.js") source.toList).any fun p =>
      (p.edit update).result.toOption == some 2 &&
        decide (p.root.Everywhere (Shape.SparesHead "x".toList))) = true := by
    decide +kernel
  obtain ⟨p, hp, hread⟩ := (Option.any_eq_true _ _).mp hreads
  obtain ⟨hcount, hheads⟩ := Bool.and_eq_true_iff.mp hread
  have hreached : (ScriptOptions.editor {}).Reached p := reached_of_parse? hp
  exact ⟨p, hp, eq_of_beq hcount,
    (variables_of_update hreached rfl rfl (of_decide_eq_true hheads)).1⟩

/-- The variable at the head of a loop over values is given an initial value if it has the name. -/
theorem initial_of_update_head :
    let update : Modification :=
      { path := "a.js", operation := .update, target := { identifier := some "x" },
        value := some (.text "1") }
    ∃ p path old v, parse? (.ofPath "a.js") "for (const x of xs) f(x);".toList = some p ∧
      (p.edit update).result.toOption = some 1 ∧
      p.root.IsHeadVariableAt path old ∧ old.hasInitial = false ∧
      (p.edit update).tree.root.IsHeadVariableAt path v ∧ v.hasInitial = true := by
  intro update
  let holdsHead (n : Node) (hasInitial : Bool) : Bool :=
    ((n.at? [1, 0]).any fun loop => (Node.shape loop).isLoopOver) &&
      ((n.at? [1, 0, 0]).any fun list => (Node.shape list).isVariableList) &&
      (n.at? [1, 0, 0, 0]).any fun v =>
        (Node.shape v).isDeclarator && Node.hasInitial v == hasInitial
  have hreads : ((parse? (.ofPath "a.js") "for (const x of xs) f(x);".toList).any fun p =>
      (p.edit update).result.toOption == some 1 && holdsHead p.root false &&
        holdsHead (p.edit update).tree.root true) = true := by
    decide +kernel
  have hhead {n : Node} {hasInitial : Bool} (h : holdsHead n hasInitial = true) :
      ∃ v, n.IsHeadVariableAt [1, 0, 0, 0] v ∧ v.hasInitial = hasInitial := by
    simp only [holdsHead, Bool.and_eq_true, Option.any_eq_true, beq_iff_eq] at h
    obtain ⟨⟨⟨loop, hloop, hover⟩, list, hlist, hvariables⟩, v, hv, hdeclarator, hinitial⟩ := h
    exact ⟨v, ⟨[1, 0], 0, loop, list, rfl, hloop, hover, hlist, hvariables, hv, hdeclarator⟩,
      hinitial⟩
  obtain ⟨p, hp, hread⟩ := (Option.any_eq_true _ _).mp hreads
  simp only [Bool.and_eq_true, beq_iff_eq] at hread
  obtain ⟨⟨hcount, hbefore⟩, hafter⟩ := hread
  obtain ⟨old, hold, hnone⟩ := hhead hbefore
  obtain ⟨v, hv, hsome⟩ := hhead hafter
  exact ⟨p, _, old, v, hp, hcount, hold, hnone, hv, hsome⟩

end Program

end SourceEdit.Script
