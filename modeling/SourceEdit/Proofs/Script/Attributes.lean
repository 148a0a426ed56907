import Mathlib.Algebra.GroupWithZero.Nat
import SourceEdit.Proofs.Script.Replacement
import SourceEdit.Proofs.Script.Update

/-!
# Attributes of elements that are set

An update with an attribute sets it on the elements of a name, wherever they stand: inside the
children, the expressions and the type arguments of other elements, and inside the values of other
attributes.  What the attribute held before is not gone into, since it goes.

`Node.AttributesSet` says this of the paths of a tree, as a condition on the tree before and the tree
afterwards: what stands where an attribute is overwritten or added, that every other node keeps its
place, and that every element of the name that is left has the attribute.  That elements have their
three parts (`Shape.Furnishes`) is an invariant of all edits.
-/

namespace SourceEdit.Script

namespace Node

variable {identifier name : Name} {value n m : Node} {path : List Nat}

/-! ### What it means to have set an attribute -/

/-- The attributes of an element. -/
def attributes (n : Node) : List Node := (n.children[1]?.map Tree.children).getD []

/-- A path leads to a place among the attributes of an element of the identifier. -/
def IsPlacedAt (identifier : Name) (p : List Node → Nat → Prop) (n : Node) (path : List Nat) : Prop :=
  ∃ (outer : List Nat) (i : Nat) (e : Node), path = outer ++ [1, i] ∧ n.at? outer = some e ∧
    e.isAddressed identifier .element = true ∧ p e.attributes i

/-- The first attribute of its name stands at a path, in an element of the identifier. -/
def IsOverwrittenAt (identifier name : Name) : Node → List Nat → Prop :=
  IsPlacedAt identifier fun attributes i => attributes.findIdx? (isAttribute name) = some i

/-- A path leads behind the attributes of an element of the identifier, none of which has the name.
-/
def IsAddedAt (identifier name : Name) : Node → List Nat → Prop :=
  IsPlacedAt identifier fun attributes i =>
    attributes.findIdx? (isAttribute name) = none ∧ i = attributes.length

/-- A path leads neither to an attribute that is overwritten nor through one. -/
def IsRetainedAt (identifier name : Name) (n : Node) (path : List Nat) : Prop :=
  ∀ outer, outer <+: path → ¬IsOverwrittenAt identifier name n outer

/-- The first attribute of its name that an element has holds a value. -/
def HasAttribute (name : Name) (value e : Node) : Prop :=
  ∃ a, e.attributes.find? (isAttribute name) = some a ∧ a.children = [value]

/-- `m` is `n` with a value set for an attribute of all elements of an identifier; `count` is the
number of these elements that are left. -/
structure AttributesSet (identifier name : Name) (value n m : Node) (count : Nat) : Prop where
  overwritten : ∀ path old, IsOverwrittenAt identifier name n path →
    (∀ outer, outer <+: path → IsOverwrittenAt identifier name n outer → outer = path) →
    n.at? path = some old → m.at? path = some (.node old.value [value])
  added : ∀ path, IsAddedAt identifier name n path → IsRetainedAt identifier name n path →
    m.at? path = some (ofShape (.attribute name) 0 0 [value])
  kept : ∀ path old, IsRetainedAt identifier name n path → n.at? path = some old →
    ∃ new, m.at? path = some new ∧ new.value = old.value ∧
      (new.children.length = old.children.length ∨
        new.children.length = old.children.length + 1 ∧
          IsAddedAt identifier name n (path ++ [old.children.length]))
  given : ∀ e ∈ m.preorder, e.isAddressed identifier .element = true → HasAttribute name value e
  counted : count = m.preorder.countP (isAddressed identifier .element)

/-! ### What stands among the attributes -/

theorem getElem?_setAttributesOfParts (parts : List Node) (i : Nat) :
    (setAttributesOfParts identifier name value true parts).1[i]? =
      if parts.findIdx? (isAttribute name) = some i then
        parts[i]?.map fun old => .node old.value [value]
      else if parts.findIdx? (isAttribute name) = none ∧ i = parts.length then
        some (ofShape (.attribute name) 0 0 [value])
      else parts[i]?.map fun n => (setAttributes identifier name value n).1 := by
  induction parts generalizing i with
  | nil => cases i <;> simp [setAttributesOfParts]
  | cons n rest ih =>
    cases h : n.isAttribute name with
    | true =>
      rw [setAttributesOfParts_of_isAttribute h, setAttributesOfParts_false, List.findIdx?_cons, h]
      cases i <;> simp
    | false =>
      rw [setAttributesOfParts_of_not_isAttribute h, List.findIdx?_cons, h]
      cases i with
      | zero => simp
      | succ i => simp [ih i]

/-! ### Following paths -/

/-- Outside of the attributes of an element of the name, attributes are set part by part. -/
theorem getElem?_children_setAttributes (hn : n.Everywhere Shape.Furnishes) {i : Nat}
    (hi : ¬(i = 1 ∧ n.isAddressed identifier .element = true)) :
    (setAttributes identifier name value n).1.children[i]? =
      n.children[i]?.map fun part => (setAttributes identifier name value part).1 := by
  cases h : n.isAddressed identifier .element with
  | false =>
    obtain ⟨head, parts⟩ := n
    rw [setAttributes_of_not_addressed hn h]
    exact List.getElem?_map
  | true =>
    obtain ⟨isClosed, a, b, arguments, group, children, rfl, -⟩ := exists_element hn h
    rw [setAttributes_element]
    match i with
    | 0 | 2 => rfl
    | i + 3 => rfl
    | 1 => exact (hi ⟨rfl, h⟩).elim

/-- What stands at a path that is not among the attributes of an element of the name. -/
theorem at?_setAttributes_cons (hn : n.Everywhere Shape.Furnishes) {i : Nat}
    (hi : ¬(i = 1 ∧ n.isAddressed identifier .element = true)) (path : List Nat) :
    (setAttributes identifier name value n).1.at? (i :: path) =
      n.children[i]?.bind fun part => (setAttributes identifier name value part).1.at? path := by
  rw [Tree.at?_cons, getElem?_children_setAttributes hn hi]
  cases n.children[i]? <;> rfl

/-- What stands among the attributes of an element of the name. -/
theorem at?_setAttributes_attribute (hn : n.Everywhere Shape.Furnishes)
    (h : n.isAddressed identifier .element = true) (i : Nat) (path : List Nat) :
    (setAttributes identifier name value n).1.at? (1 :: i :: path) =
      (setAttributesOfParts identifier name value true n.attributes).1[i]?.bind
        fun part => part.at? path := by
  obtain ⟨isClosed, a, b, arguments, group, children, rfl, -⟩ := exists_element hn h
  rw [setAttributes_element, beq_self_eq_true]
  rfl

/-- What holds of the end of a path holds of the path, if it can be followed step by step; the path
to an attribute of an element of the name is taken in one step. -/
theorem path_induction (identifier : Name) {motive : Node → List Nat → Prop}
    (nil : ∀ n, motive n [])
    (cons : ∀ n i path, ¬(i = 1 ∧ n.isAddressed identifier .element = true) →
      (∀ part, n.children[i]? = some part → motive part path) → motive n (i :: path))
    (group : ∀ n, n.isAddressed identifier .element = true → motive n [1])
    (within : ∀ n i path, n.isAddressed identifier .element = true →
      (∀ part, n.attributes[i]? = some part → motive part path) → motive n (1 :: i :: path))
    (n : Node) (path : List Nat) : motive n path := by
  induction hlength : path.length using Nat.strong_induction_on generalizing n path with
  | _ k ih =>
    subst hlength
    match path with
    | [] => exact nil n
    | i :: path =>
      by_cases hi : i = 1 ∧ n.isAddressed identifier .element = true
      · obtain ⟨rfl, h⟩ := hi
        match path with
        | [] => exact group n h
        | i :: path =>
          refine within n i path h fun part _ => ih _ ?_ part path rfl
          simp only [List.length_cons]
          omega
      · exact cons n i path hi fun part _ => ih _ (by simp) part path rfl

section Placed

variable {p : List Node → Nat → Prop}

theorem isPlacedAt_cons {i : Nat} {part : Node} (h : n.children[i]? = some part)
    (hplaced : IsPlacedAt identifier p part path) : IsPlacedAt identifier p n (i :: path) := by
  obtain ⟨outer, j, e, rfl, he, haddressed, hp⟩ := hplaced
  exact ⟨i :: outer, j, e, rfl, Tree.at?_cons_eq_some.mpr ⟨part, h, he⟩, haddressed, hp⟩

theorem not_isPlacedAt_of_length_lt (h : path.length < 2) : ¬IsPlacedAt identifier p n path := by
  rintro ⟨outer, i, e, rfl, -⟩
  rw [List.length_append, List.length_cons, List.length_singleton] at h
  omega

/-- A place that is not among the attributes of an element itself is one in a part of it. -/
theorem IsPlacedAt.exists_part {i : Nat} (h : IsPlacedAt identifier p n (i :: path))
    (hi : ¬(i = 1 ∧ n.isAddressed identifier .element = true)) :
    ∃ part, n.children[i]? = some part ∧ IsPlacedAt identifier p part path := by
  obtain ⟨outer, j, e, hpath, he, haddressed, hp⟩ := h
  cases outer with
  | nil =>
    obtain ⟨rfl, -⟩ := List.cons.inj hpath
    obtain rfl := Option.some.inj he
    exact (hi ⟨rfl, haddressed⟩).elim
  | cons i' outer =>
    obtain ⟨rfl, rfl⟩ := List.cons.inj hpath
    obtain ⟨part, hpart, he⟩ := Tree.at?_cons_eq_some.mp he
    exact ⟨part, hpart, outer, j, e, rfl, he, haddressed, hp⟩

/-- A place behind an attribute of an element is the attribute itself, or one in it. -/
theorem IsPlacedAt.of_attribute (hn : n.Everywhere Shape.Furnishes)
    (haddressed : n.isAddressed identifier .element = true) {i : Nat}
    (h : IsPlacedAt identifier p n (1 :: i :: path)) :
    path = [] ∧ p n.attributes i ∨
      ∃ part, n.attributes[i]? = some part ∧ IsPlacedAt identifier p part path := by
  obtain ⟨isClosed, a, b, arguments, group, children, rfl, hgroup⟩ := exists_element hn haddressed
  obtain ⟨outer, j, e, hpath, he, he', hp⟩ := h
  match outer with
  | [] =>
    obtain ⟨-, hpath⟩ := List.cons.inj hpath
    obtain ⟨rfl, rfl⟩ := List.cons.inj hpath
    obtain rfl := Option.some.inj he
    exact .inl ⟨rfl, hp⟩
  | [i'] =>
    obtain ⟨rfl, -⟩ := List.cons.inj hpath
    rw [Tree.at?_singleton] at he
    obtain rfl : group = e := Option.some.inj he
    obtain ⟨_, hshape⟩ := isAddressed_element_iff.mp he'
    cases hgroup.symm.trans hshape
  | i' :: i'' :: outer =>
    simp only [List.cons_append, List.cons.injEq] at hpath
    obtain ⟨rfl, rfl, rfl⟩ := hpath
    obtain ⟨group', hgroup', he⟩ := Tree.at?_cons_eq_some.mp he
    obtain rfl : group = group' := Option.some.inj hgroup'
    obtain ⟨part, hpart, he⟩ := Tree.at?_cons_eq_some.mp he
    exact .inr ⟨part, hpart, outer, j, e, rfl, he, he', hp⟩

theorem isPlacedAt_of_attribute {i : Nat} {part : Node} (hpart : n.attributes[i]? = some part)
    (h : IsPlacedAt identifier p part path) : IsPlacedAt identifier p n (1 :: i :: path) := by
  cases hgroup : n.children[1]? with
  | none => simp [attributes, hgroup] at hpart
  | some group =>
    refine isPlacedAt_cons hgroup (isPlacedAt_cons ?_ h)
    simpa [attributes, hgroup] using hpart

end Placed

/-! ### What stands at the paths of the edited tree -/

theorem everywhere_children {suits : Shape → List Node → Prop} (h : n.Everywhere suits) {i : Nat}
    {part : Node} (hpart : n.children[i]? = some part) : part.Everywhere suits := by
  obtain ⟨head, parts⟩ := n
  exact (everywhere_node.mp h).2 part (List.mem_of_getElem? hpart)

theorem everywhere_attributes {suits : Shape → List Node → Prop} (h : n.Everywhere suits) {i : Nat}
    {part : Node} (hpart : n.attributes[i]? = some part) : part.Everywhere suits := by
  cases hgroup : n.children[1]? with
  | none => simp [attributes, hgroup] at hpart
  | some group =>
    refine everywhere_children (everywhere_children h hgroup) (i := i) ?_
    simpa [attributes, hgroup] using hpart

/-- A path to an attribute leads through the attributes of the element. -/
theorem at?_attribute (n : Node) (i : Nat) (path : List Nat) :
    n.at? (1 :: i :: path) = n.attributes[i]?.bind fun part => part.at? path := by
  rw [Tree.at?_cons, attributes]
  cases n.children[1]? <;> rfl

/-- The value stands where the first attribute of the name was, unless the attribute was inside
another one that is overwritten. -/
theorem at?_setAttributes_of_overwritten (hn : n.Everywhere Shape.Furnishes) {old : Node}
    (h : IsOverwrittenAt identifier name n path)
    (houtermost : ∀ outer, outer <+: path → IsOverwrittenAt identifier name n outer → outer = path)
    (hold : n.at? path = some old) :
    (setAttributes identifier name value n).1.at? path = some (.node old.value [value]) := by
  induction n, path using path_induction identifier with
  | nil n => exact (not_isPlacedAt_of_length_lt (by simp) h).elim
  | group n => exact (not_isPlacedAt_of_length_lt (by simp) h).elim
  | cons n i path hi ih =>
    obtain ⟨part, hpart, h⟩ := h.exists_part hi
    rw [Tree.at?_cons, hpart, Option.bind_some] at hold
    rw [at?_setAttributes_cons hn hi, hpart, Option.bind_some]
    refine ih part hpart (everywhere_children hn hpart) h (fun outer hprefix houter => ?_) hold
    exact (List.cons.inj (houtermost (i :: outer) (List.cons_prefix_cons.mpr ⟨rfl, hprefix⟩)
      (isPlacedAt_cons hpart houter))).2
  | within n i path haddressed ih =>
    rw [at?_attribute] at hold
    rw [at?_setAttributes_attribute hn haddressed, getElem?_setAttributesOfParts]
    by_cases hfirst : n.attributes.findIdx? (isAttribute name) = some i
    · have hhere : IsOverwrittenAt identifier name n [1, i] :=
        ⟨[], i, n, rfl, rfl, haddressed, hfirst⟩
      -- what stands inside an attribute that is overwritten is not outermost
      obtain rfl : path = [] := by
        have heq := houtermost [1, i] ⟨path, rfl⟩ hhere
        simpa using heq.symm
      rw [if_pos hfirst]
      cases hpart : n.attributes[i]? with
      | none => simp [hpart] at hold
      | some part =>
        rw [hpart, Option.bind_some] at hold
        obtain rfl := Option.some.inj hold
        rfl
    · obtain ⟨-, hhere⟩ | ⟨part, hpart, h⟩ := h.of_attribute hn haddressed
      · exact (hfirst hhere).elim
      · rw [hpart, Option.bind_some] at hold
        have hlt : i ≠ n.attributes.length := (List.getElem?_eq_some_iff.mp hpart).1.ne
        rw [if_neg hfirst, if_neg fun hnone => hlt hnone.2, hpart, Option.map_some, Option.bind_some]
        refine ih part hpart (everywhere_attributes hn hpart) h (fun outer hprefix houter => ?_) hold
        have heq := houtermost (1 :: i :: outer)
          (List.cons_prefix_cons.mpr ⟨rfl, List.cons_prefix_cons.mpr ⟨rfl, hprefix⟩⟩)
          (isPlacedAt_of_attribute hpart houter)
        simpa using heq

theorem IsRetainedAt.part {i : Nat} {part : Node} (h : IsRetainedAt identifier name n (i :: path))
    (hpart : n.children[i]? = some part) : IsRetainedAt identifier name part path :=
  fun outer hprefix houter => h (i :: outer) (List.cons_prefix_cons.mpr ⟨rfl, hprefix⟩)
    (isPlacedAt_cons hpart houter)

theorem IsRetainedAt.attribute {i : Nat} {part : Node}
    (h : IsRetainedAt identifier name n (1 :: i :: path)) (hpart : n.attributes[i]? = some part) :
    IsRetainedAt identifier name part path :=
  fun outer hprefix houter =>
    h (1 :: i :: outer) (List.cons_prefix_cons.mpr ⟨rfl, List.cons_prefix_cons.mpr ⟨rfl, hprefix⟩⟩)
      (isPlacedAt_of_attribute hpart houter)

/-- A path that is retained does not lead through the attribute that is overwritten. -/
theorem IsRetainedAt.findIdx?_ne {i : Nat} (h : IsRetainedAt identifier name n (1 :: i :: path))
    (haddressed : n.isAddressed identifier .element = true) :
    n.attributes.findIdx? (isAttribute name) ≠ some i := fun hfirst =>
  h [1, i] ⟨path, rfl⟩ ⟨[], i, n, rfl, rfl, haddressed, hfirst⟩

/-- The attribute stands where it is added, unless that is inside one that is overwritten. -/
theorem at?_setAttributes_of_added (hn : n.Everywhere Shape.Furnishes)
    (h : IsAddedAt identifier name n path) (hretained : IsRetainedAt identifier name n path) :
    (setAttributes identifier name value n).1.at? path =
      some (ofShape (.attribute name) 0 0 [value]) := by
  induction n, path using path_induction identifier with
  | nil n => exact (not_isPlacedAt_of_length_lt (by simp) h).elim
  | group n => exact (not_isPlacedAt_of_length_lt (by simp) h).elim
  | cons n i path hi ih =>
    obtain ⟨part, hpart, h⟩ := h.exists_part hi
    rw [at?_setAttributes_cons hn hi, hpart, Option.bind_some]
    exact ih part hpart (everywhere_children hn hpart) h (hretained.part hpart)
  | within n i path haddressed ih =>
    rw [at?_setAttributes_attribute hn haddressed, getElem?_setAttributesOfParts,
      if_neg (hretained.findIdx?_ne haddressed)]
    obtain ⟨rfl, hhere⟩ | ⟨part, hpart, h⟩ := h.of_attribute hn haddressed
    · rw [if_pos hhere]
      rfl
    · have hlt : i ≠ n.attributes.length := (List.getElem?_eq_some_iff.mp hpart).1.ne
      rw [if_neg fun hnone => hlt hnone.2, hpart, Option.map_some, Option.bind_some]
      exact ih part hpart (everywhere_attributes hn hpart) h (hretained.attribute hpart)

theorem length_setAttributesOfParts (identifier name : Name) (value : Node) (parts : List Node) :
    (setAttributesOfParts identifier name value true parts).1.length =
      parts.length + if parts.findIdx? (isAttribute name) = none then 1 else 0 := by
  induction parts with
  | nil => rfl
  | cons n rest ih =>
    cases h : n.isAttribute name with
    | true =>
      rw [setAttributesOfParts_of_isAttribute h, setAttributesOfParts_false, List.findIdx?_cons, h]
      simp
    | false =>
      rw [setAttributesOfParts_of_not_isAttribute h, List.findIdx?_cons, h]
      simp [ih, Nat.add_right_comm]

theorem length_children_setAttributes (hn : n.Everywhere Shape.Furnishes) :
    (setAttributes identifier name value n).1.children.length = n.children.length := by
  cases h : n.isAddressed identifier .element with
  | false =>
    obtain ⟨head, parts⟩ := n
    rw [setAttributes_of_not_addressed hn h]
    exact List.length_map _
  | true =>
    obtain ⟨isClosed, a, b, arguments, group, children, rfl, -⟩ := exists_element hn h
    rw [setAttributes_element]
    rfl

/-- Every node that no attribute is set around keeps its value and its parts, but for the attribute
that is added. -/
theorem at?_setAttributes_of_retained (hn : n.Everywhere Shape.Furnishes)
    (h : IsRetainedAt identifier name n path) {old : Node} (hold : n.at? path = some old) :
    ∃ new, (setAttributes identifier name value n).1.at? path = some new ∧ new.value = old.value ∧
      (new.children.length = old.children.length ∨
        new.children.length = old.children.length + 1 ∧
          IsAddedAt identifier name n (path ++ [old.children.length])) := by
  induction n, path using path_induction identifier with
  | nil n =>
    obtain rfl := Option.some.inj hold
    exact ⟨_, rfl, value_setAttributes _ _ _ _, .inl (length_children_setAttributes hn)⟩
  | group n haddressed =>
    obtain ⟨isClosed, a, b, arguments, group, children, rfl, -⟩ := exists_element hn haddressed
    obtain rfl : group = old := by
      rw [Tree.at?_singleton] at hold
      exact Option.some.inj hold
    refine ⟨.node group.value (setAttributesOfParts identifier name value true group.children).1,
      ?_, rfl, ?_⟩
    · rw [setAttributes_element, beq_self_eq_true]
      rfl
    · have hlength := length_setAttributesOfParts identifier name value group.children
      split at hlength
      · next hnone =>
        -- the group gets one more attribute, at its end
        exact .inr ⟨hlength, [], _, _, rfl, rfl, haddressed, hnone, rfl⟩
      · exact .inl hlength
  | cons n i path hi ih =>
    obtain ⟨part, hpart, hold⟩ := Tree.at?_cons_eq_some.mp hold
    obtain ⟨new, hnew, hvalue, hlength⟩ := ih part hpart (everywhere_children hn hpart)
      (h.part hpart) hold
    refine ⟨new, ?_, hvalue, hlength.imp_right (And.imp_right (isPlacedAt_cons hpart))⟩
    rw [at?_setAttributes_cons hn hi, hpart, Option.bind_some, hnew]
  | within n i path haddressed ih =>
    rw [at?_attribute] at hold
    obtain ⟨part, hpart, hold⟩ := Option.bind_eq_some_iff.mp hold
    obtain ⟨new, hnew, hvalue, hlength⟩ := ih part hpart (everywhere_attributes hn hpart)
      (h.attribute hpart) hold
    have hlt : i ≠ n.attributes.length := (List.getElem?_eq_some_iff.mp hpart).1.ne
    refine ⟨new, ?_, hvalue, hlength.imp_right (And.imp_right (isPlacedAt_of_attribute hpart))⟩
    rw [at?_setAttributes_attribute hn haddressed, getElem?_setAttributesOfParts,
      if_neg (h.findIdx?_ne haddressed), if_neg fun hnone => hlt hnone.2, hpart, Option.map_some,
      Option.bind_some, hnew]

/-! ### The elements that are left -/

/-- The parts that are left when an attribute is set among them hold it. -/
theorem find?_setAttributesOfParts (identifier name : Name) (value : Node) (parts : List Node) :
    ∃ a, (setAttributesOfParts identifier name value true parts).1.find? (isAttribute name) = some a ∧
      a.children = [value] := by
  induction parts with
  | nil =>
    refine ⟨ofShape (.attribute name) 0 0 [value], List.find?_cons_of_pos ?_, rfl⟩
    exact beq_self_eq_true _
  | cons n rest ih =>
    cases h : n.isAttribute name with
    | true =>
      rw [setAttributesOfParts_of_isAttribute h]
      exact ⟨_, List.find?_cons_of_pos h, rfl⟩
    | false =>
      rw [setAttributesOfParts_of_not_isAttribute h, List.find?_cons_of_neg]
      · exact ih
      · rw [isAttribute, shape_setAttributes]
        exact Bool.eq_false_iff.mp h

/-- The elements of the identifier among nodes all have the attribute, and have been counted. -/
def Accounted (identifier name : Name) (value : Node) (nodes : List Node) (count : Nat) : Prop :=
  (∀ e ∈ nodes, e.isAddressed identifier .element = true → HasAttribute name value e) ∧
    count = nodes.countP (isAddressed identifier .element)

section Accounted

variable {nodes others : List Node} {count count' : Nat}

theorem Accounted.append (h : Accounted identifier name value nodes count)
    (h' : Accounted identifier name value others count') :
    Accounted identifier name value (nodes ++ others) (count + count') :=
  ⟨List.forall_mem_append.mpr ⟨h.1, h'.1⟩, by rw [List.countP_append, h.2, h'.2]⟩

theorem Accounted.cons (h : Accounted identifier name value nodes count)
    (hn : n.isAddressed identifier .element = true → HasAttribute name value n) :
    Accounted identifier name value (n :: nodes)
      ((if n.isAddressed identifier .element then 1 else 0) + count) :=
  ⟨List.forall_mem_cons.mpr ⟨hn, h.1⟩, by rw [List.countP_cons, h.2, Nat.add_comm]⟩

/-- A node that is no element has nothing to account for. -/
theorem Accounted.cons_of_not_element (h : Accounted identifier name value nodes count)
    (hn : n.shape.isElement = false) : Accounted identifier name value (n :: nodes) count := by
  have hnone : ¬n.isAddressed identifier .element = true := by
    rw [isAddressed_element_iff]
    rintro ⟨isClosed, hshape⟩
    rw [hshape] at hn
    cases hn
  simpa [hnone] using h.cons fun haddressed => (hnone haddressed).elim

/-- What a value that holds no element is put into has nothing to account for. -/
theorem accounted_value (name : Name) (hvalue : value.holdsLocated identifier .element = false) :
    Accounted identifier name value value.preorder 0 := by
  have hnone : ∀ e ∈ value.preorder, ¬e.isAddressed identifier .element = true := by
    intro e he haddressed
    exact Bool.eq_false_iff.mp hvalue (holdsLocated_iff.mpr ⟨e, he, haddressed⟩)
  exact ⟨fun e he haddressed => (hnone e he haddressed).elim, (List.countP_eq_zero.mpr hnone).symm⟩

end Accounted

theorem accounted_setAttributes (hvalue : value.holdsLocated identifier .element = false)
    (hn : n.Everywhere Shape.Furnishes) :
    Accounted identifier name value (setAttributes identifier name value n).1.preorder
      (setAttributes identifier name value n).2 := by
  refine setAttributes_induction identifier name value
    (fun n r => n.Everywhere Shape.Furnishes → Accounted identifier name value r.1.preorder r.2)
    (fun _ parts r => (∀ n ∈ parts, n.Everywhere Shape.Furnishes) →
      Accounted identifier name value (preorderOf r.1) r.2)
    ?element ?other ?nil ?attributeSet ?attributeKept ?part n hn
  case element =>
    intro tag isClosed a b arguments group attributes children iharguments ihchildren ihattributes hn
    obtain ⟨hfurnishes, hparts⟩ := everywhere_node.mp hn
    obtain ⟨_, _, _, heq, hgroup⟩ := hfurnishes.element rfl
    cases heq
    simp only [List.forall_mem_cons] at hparts
    obtain ⟨hnarguments, hngroup, hnchildren, -⟩ := hparts
    -- the new attributes, in the part that holds them
    have hgroup : (Node.shape (.node group
        (setAttributesOfParts identifier name value (tag == identifier) attributes).1)).isElement =
          false :=
      congrArg Shape.isElement hgroup
    have hinner := (iharguments hnarguments).append
      (((ihattributes (everywhere_node.mp hngroup).2).cons_of_not_element hgroup).append
        (ihchildren hnchildren))
    -- the element is counted exactly if it has the name, and then it has the attribute
    have hnamed {parts : List Node} : isAddressed identifier .element
        (.node ⟨.element tag isClosed, a, b⟩ parts) = (tag == identifier) :=
      isAddressed_element_node ..
    have hself := hinner.cons
      (n := .node ⟨.element tag isClosed, a, b⟩
        [(setAttributes identifier name value arguments).1,
          .node group (setAttributesOfParts identifier name value (tag == identifier) attributes).1,
          (setAttributes identifier name value children).1]) fun haddressed => by
      rw [hnamed] at haddressed
      rw [haddressed]
      exact find?_setAttributesOfParts ..
    simpa [preorder, preorderOf, hnamed, Nat.add_assoc] using hself
  case other =>
    intro head parts hother ih hn
    obtain ⟨hfurnishes, hn⟩ := everywhere_node.mp hn
    refine (ih hn).cons_of_not_element (Bool.eq_false_iff.mpr fun helement => ?_)
    -- an element has attributes, so it would be the case before
    obtain ⟨arguments, ⟨group, attributes⟩, children, rfl, -⟩ := hfurnishes.element helement
    obtain ⟨shape, a, b⟩ := head
    cases shape with
    | element tag isClosed => exact hother tag isClosed a b _ _ _ _ rfl rfl
    | _ => cases helement
  case nil =>
    intro isSet _
    cases isSet with
    | false => exact ⟨by simp [preorderOf], rfl⟩
    | true =>
      simpa [preorderOf, preorder, ofShape] using
        (accounted_value name hvalue).cons_of_not_element (n := ofShape (.attribute name) 0 0 [value]) rfl
  case attributeSet =>
    intro _ other a b _ _ _ ih hn
    have hvalue := (accounted_value name hvalue).cons_of_not_element
      (n := .node ⟨.attribute other, a, b⟩ [value]) rfl
    simpa [preorderOf, preorder] using hvalue.append (ih (List.forall_mem_cons.mp hn).2)
  case attributeKept =>
    intro _ other a b parts _ _ ihparts ihrest hn
    obtain ⟨hn, hnrest⟩ := List.forall_mem_cons.mp hn
    have hinner := (ihparts (everywhere_node.mp hn).2).cons_of_not_element
      (n := .node ⟨.attribute other, a, b⟩
        (setAttributesOfParts identifier name value false parts).1) rfl
    simpa [preorderOf, preorder] using hinner.append (ihrest hnrest)
  case part =>
    intro _ _ _ _ ihn ihrest hn
    obtain ⟨hn, hnrest⟩ := List.forall_mem_cons.mp hn
    simpa [preorderOf] using (ihn hn).append (ihrest hnrest)

theorem attributesSet_setAttributes (hvalue : value.holdsLocated identifier .element = false)
    (hn : n.Everywhere Shape.Furnishes) (name : Name) :
    AttributesSet identifier name value n (setAttributes identifier name value n).1
      (setAttributes identifier name value n).2 where
  overwritten _ _ h houtermost hold := at?_setAttributes_of_overwritten hn h houtermost hold
  added _ h hretained := at?_setAttributes_of_added hn h hretained
  kept _ _ h hold := at?_setAttributes_of_retained hn h hold
  given := (accounted_setAttributes hvalue hn).1
  counted := (accounted_setAttributes hvalue hn).2

end Node

namespace Program

variable {p : Program}

/-- An update with an attribute sets it on every element of the name, if there is one: the first
attribute of its name is overwritten in its place, or else a new one is added behind all others, and
every node that is not inside an overwritten attribute stays where and as it was. -/
theorem attributes_of_update {options : ScriptOptions} (hp : options.editor.Reached p)
    {m : Modification} (hm : m.operation = .update) {identifier name value : String}
    (hid : m.target.identifier = some identifier) (hname : m.target.attributeName = some name)
    (hvalue : m.valueText? = some value)
    (helement : p.root.holdsLocated identifier.toList .element = true) :
    ∃ root count, p.edit m = .done { p with root } count ∧
      Node.AttributesSet identifier.toList name.toList
        (.ofShape (.attributeText value.toList) 0 0) p.root root count := by
  have hsettled := settled_of_reached hp
  refine ⟨_, _, ?_, Node.attributesSet_setAttributes rfl hsettled.furnished name.toList⟩
  simp only [edit, hid, editNamed, hm, update_attribute hsettled hname helement,
    requiredValue_eq hvalue, Edited.needing, withRoot]

/-- Setting an attribute on three elements, one of which has it; a fourth element goes with what the
attribute held. -/
theorem attributes_of_update_nested :
    let source := "var C = <C><C a=<C/> b={<C/>} \x7b...a\x7d/>a</C>;"
    let update : Modification :=
      { path := "a.jsx", operation := .update,
        target := { identifier := some "C", attributeName := some "a" }, value := some (.text "1") }
    ∃ p root, parse? (.ofPath "a.jsx") source.toList = some p ∧
      p.edit update = .done { p with root } 3 ∧
      Node.AttributesSet "C".toList "a".toList (.ofShape (.attributeText "1".toList) 0 0) p.root
        root 3 := by
  intro source update
  have hreads : ((parse? (.ofPath "a.jsx") source.toList).any fun p =>
      p.root.holdsLocated "C".toList .element &&
        (p.edit update).result.toOption == some 3) = true := by
    decide +kernel
  obtain ⟨p, hp, hread⟩ := (Option.any_eq_true _ _).mp hreads
  obtain ⟨helement, hcount⟩ := Bool.and_eq_true_iff.mp hread
  have hreached : (ScriptOptions.editor {}).Reached p := reached_of_parse? hp
  obtain ⟨root, count, hedit, hset⟩ :=
    attributes_of_update (m := update) hreached rfl rfl rfl rfl helement
  obtain rfl : count = 3 := by
    rw [hedit] at hcount
    exact Option.some.inj (eq_of_beq hcount)
  exact ⟨p, root, hp, hedit, hset⟩

end Program

end SourceEdit.Script
