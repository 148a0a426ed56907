import Mathlib.Algebra.Ring.Nat
import SourceEdit.Proofs.Script.Settled

/-!
# What becomes of the parts of a node

Exchanging parts and dropping emptied declarations leave the shape of a node as it is and work on
its parts: `Node.fst_exchange` and `Node.withoutEmptied_eq` say which parts a node has afterwards.
What holds everywhere in a tree is therefore carried over one node at a time
(`Node.Everywhere.exchange`, `Node.Everywhere.withoutEmptied`).
-/

namespace SourceEdit.Script

/-- The shapes of nodes that a deletion drops parts of. -/
def Shape.isList : Shape → Bool
  | .statements | .variableList .. | .children => true
  | _ => false

namespace Node

variable {suits suits' : Shape → List Node → Prop}

/-! ### Exchanging parts -/

section Exchange

variable (f : Shape → Node → Option (List Node))

/-- What an exchange puts in the place of a part of a node of a shape. -/
def exchanged (parent : Shape) (n : Node) : List Node := (f parent n).getD [(exchange f n).1]

/-- Each part gives way to what it is exchanged for. -/
theorem fst_exchangeParts (parent : Shape) (parts : List Node) :
    (exchangeParts f parent parts).1 = parts.flatMap (exchanged f parent) := by
  induction parts with
  | nil => rfl
  | cons n rest ih =>
    rw [exchangeParts, List.flatMap_cons, ← ih]
    cases h : f parent n <;> simp [exchanged, h]

/-- The number of edits that an exchange counts for a part of a node of a shape. -/
def exchangedCount (parent : Shape) (n : Node) : Nat :=
  if (f parent n).isSome then 1 else (exchange f n).2

/-- The edits of the parts add up. -/
theorem snd_exchangeParts (parent : Shape) (parts : List Node) :
    (exchangeParts f parent parts).2 = (parts.map (exchangedCount f parent)).sum := by
  induction parts with
  | nil => rfl
  | cons n rest ih =>
    rw [exchangeParts, List.map_cons, List.sum_cons, ← ih]
    cases h : f parent n <;> simp [exchangedCount, h, Nat.add_comm]

/-- A node keeps its head when its parts are exchanged. -/
theorem fst_exchange (head : Head) (parts : List Node) :
    (exchange f (.node head parts)).1 = .node head (parts.flatMap (exchanged f head.shape)) := by
  rw [exchange, ← fst_exchangeParts]

/-- What is exchanged is a part, so the node itself keeps its shape. -/
theorem shape_exchange (n : Node) : (exchange f n).1.shape = n.shape := by
  obtain ⟨head, parts⟩ := n
  rw [fst_exchange]
  rfl

variable {f}

/-- What is put in the place of a part is new, or the part gone into. -/
theorem mem_exchanged {parent : Shape} {n m : Node} (h : m ∈ exchanged f parent n) :
    (∃ new, f parent n = some new ∧ m ∈ new) ∨ f parent n = none ∧ m = (exchange f n).1 := by
  unfold exchanged at h
  cases hf : f parent n with
  | none =>
    rw [hf] at h
    exact .inr ⟨rfl, List.mem_singleton.mp h⟩
  | some new =>
    rw [hf] at h
    exact .inl ⟨new, rfl, h⟩

/-- A property of all nodes that holds of what is put in, and of nodes with exchanged parts. -/
theorem Everywhere.exchange
    (hparts : ∀ shape parts, suits shape parts → suits' shape (parts.flatMap (exchanged f shape)))
    (hnew : ∀ shape n new, f shape n = some new → n.Everywhere suits →
      ∀ m ∈ new, m.Everywhere suits')
    {n : Node} (h : n.Everywhere suits) : (Node.exchange f n).1.Everywhere suits' := by
  induction h with
  | @node head parts hsuits heverywhere ih =>
    rw [fst_exchange]
    refine .node (hparts _ _ hsuits) fun m hm => ?_
    obtain ⟨n, hn, hm⟩ := List.mem_flatMap.mp hm
    obtain ⟨new, hf, hm⟩ | ⟨-, rfl⟩ := mem_exchanged hm
    · exact hnew _ n new hf (heverywhere n hn) m hm
    · exact ih n hn

end Exchange

/-! ### Substituting parts -/

section Substitute

variable {p : Node → Nat → Bool} {g : Node → Node}

/-- Each part is substituted by its number. -/
theorem fst_substituteParts (parent : Node) (i : Nat) (parts : List Node) :
    (substituteParts p g parent i parts).1 =
      parts.mapIdx fun j n => if p parent (i + j) then g n else (substitute p g n).1 := by
  induction parts generalizing i with
  | nil => rfl
  | cons n rest ih =>
    have hrest := ih (i + 1)
    rw [substituteParts, List.mapIdx_cons]
    cases h : p parent i <;> simp [hrest, Nat.add_right_comm, ← Nat.add_assoc]

/-- A part that is found gives way to its substitute; the others are gone into. -/
theorem children_substitute (n : Node) : (substitute p g n).1.children =
    n.children.mapIdx fun i part => if p n i then g part else (substitute p g part).1 := by
  obtain ⟨head, parts⟩ := n
  rw [substitute]
  simp [fst_substituteParts, Tree.children]

theorem value_substitute (n : Node) : (substitute p g n).1.value = n.value := by
  obtain ⟨head, parts⟩ := n
  rfl

theorem shape_substitute (n : Node) : (substitute p g n).1.shape = n.shape :=
  congrArg Head.shape (value_substitute n)

end Substitute

/-! ### Setting attributes -/

section SetAttributes

variable {identifier name : Name} {value n : Node}

/-- Whether a node is an attribute of a name. -/
def isAttribute (name : Name) (n : Node) : Bool := n.shape == .attribute name

/-- Parts that are no attributes of the tag are gone into. -/
theorem setAttributesOfParts_false (identifier name : Name) (value : Node) (parts : List Node) :
    setAttributesOfParts identifier name value false parts =
      (parts.map fun n => (setAttributes identifier name value n).1,
        (parts.map fun n => (setAttributes identifier name value n).2).sum) := by
  induction parts with
  | nil => rfl
  | cons n rest ih =>
    unfold setAttributesOfParts
    split
    · next heq => cases heq
    · next heq =>
      cases heq
      simp [ih, setAttributes]
    · next heq =>
      cases heq
      simp [ih]

/-- A node that is no element keeps its parts, with the attribute set inside them. -/
theorem setAttributes_of_not_element {head : Head} (h : head.shape.isElement = false)
    (parts : List Node) : setAttributes identifier name value (.node head parts) =
      (.node head (parts.map fun n => (setAttributes identifier name value n).1),
        (parts.map fun n => (setAttributes identifier name value n).2).sum) := by
  rw [setAttributes, setAttributesOfParts_false]
  rintro tag isClosed a b _ _ _ _ rfl -
  cases h

/-- The attributes of an element are set before anything inside it. -/
theorem setAttributes_element (tag : Name) (isClosed : Bool) (a b : Nat)
    (arguments group children : Node) :
    setAttributes identifier name value
      (.node ⟨.element tag isClosed, a, b⟩ [arguments, group, children]) =
      let attributes := setAttributesOfParts identifier name value (tag == identifier) group.children
      (.node ⟨.element tag isClosed, a, b⟩ [(setAttributes identifier name value arguments).1,
          .node group.value attributes.1, (setAttributes identifier name value children).1],
        (if tag == identifier then 1 else 0) + (setAttributes identifier name value arguments).2 +
          attributes.2 + (setAttributes identifier name value children).2) := by
  obtain ⟨head, attributes⟩ := group
  rfl

/-- The first attribute of the name is overwritten, and those behind it are gone into. -/
theorem setAttributesOfParts_of_isAttribute (h : n.isAttribute name = true) (rest : List Node) :
    setAttributesOfParts identifier name value true (n :: rest) =
      (.node n.value [value] :: (setAttributesOfParts identifier name value false rest).1,
        (setAttributesOfParts identifier name value false rest).2) := by
  obtain ⟨⟨shape, a, b⟩, parts⟩ := n
  obtain rfl : shape = .attribute name := eq_of_beq h
  simp [setAttributesOfParts, Tree.value]

/-- A part that is no attribute of the name is gone into. -/
theorem setAttributesOfParts_of_not_isAttribute (h : n.isAttribute name = false)
    (rest : List Node) : setAttributesOfParts identifier name value true (n :: rest) =
      ((setAttributes identifier name value n).1 ::
          (setAttributesOfParts identifier name value true rest).1,
        (setAttributes identifier name value n).2 +
          (setAttributesOfParts identifier name value true rest).2) := by
  obtain ⟨⟨shape, a, b⟩, parts⟩ := n
  cases shape with
  | «attribute» other =>
    have hother : (other == name) = false := by
      rw [beq_eq_false_iff_ne]
      rintro rfl
      simp [isAttribute, Node.shape, Tree.value] at h
    simp [setAttributesOfParts, hother, setAttributes]
  | _ => rfl

end SetAttributes

/-! ### Dropping emptied declarations -/

/-- What is left of the parts of a node of a shape when emptied declarations are dropped. -/
def leftParts : Shape → List Node → List Node
  | .forLoop, first :: rest =>
    (if isEmptied first then absent else withoutEmptied first) :: rest.map withoutEmptied
  | .statements, parts => (parts.filter fun n => !isEmptiedStatement n).map withoutEmptied
  | _, parts => parts.map withoutEmptied

/-- A node keeps its head when emptied declarations are dropped from its parts. -/
theorem withoutEmptied_eq (head : Head) (parts : List Node) :
    withoutEmptied (.node head parts) = .node head (leftParts head.shape parts) := by
  obtain ⟨shape, a, b⟩ := head
  dsimp only
  unfold leftParts
  split
  · simp [withoutEmptied, withoutEmptiedParts_eq]
  · simp [withoutEmptied, withoutEmptiedParts_eq]
  · next hstatements hloop =>
    unfold withoutEmptied
    split
    · next heq =>
      cases heq
      exact (hloop _ _ rfl rfl).elim
    · next heq =>
      cases heq
      rw [withoutEmptiedParts_of_ne hstatements]

theorem shape_withoutEmptied (n : Node) : (withoutEmptied n).shape = n.shape := by
  obtain ⟨head, parts⟩ := n
  rw [withoutEmptied_eq]
  rfl

/-- What is left of the parts are these parts, or the mark that one is missing. -/
theorem mem_leftParts {shape : Shape} {parts : List Node} {m : Node}
    (h : m ∈ leftParts shape parts) : m = absent ∨ ∃ n ∈ parts, m = withoutEmptied n := by
  unfold leftParts at h
  split at h
  · next first rest =>
    obtain rfl | h := List.mem_cons.mp h
    · split
      · exact .inl rfl
      · exact .inr ⟨first, by simp, rfl⟩
    · obtain ⟨n, hn, rfl⟩ := List.mem_map.mp h
      exact .inr ⟨n, by simp [hn], rfl⟩
  · obtain ⟨n, hn, rfl⟩ := List.mem_map.mp h
    exact .inr ⟨n, (List.mem_filter.mp hn).1, rfl⟩
  · obtain ⟨n, hn, rfl⟩ := List.mem_map.mp h
    exact .inr ⟨n, hn, rfl⟩

/-- A property of all nodes that holds of nodes with fewer parts. -/
theorem Everywhere.withoutEmptied
    (hparts : ∀ shape parts, suits shape parts → suits' shape (leftParts shape parts))
    (habsent : absent.Everywhere suits') {n : Node} (h : n.Everywhere suits) :
    (Node.withoutEmptied n).Everywhere suits' := by
  induction h with
  | @node head parts hsuits _ ih =>
    rw [withoutEmptied_eq]
    refine .node (hparts _ _ hsuits) fun m hm => ?_
    obtain rfl | ⟨n, hn, rfl⟩ := mem_leftParts hm
    · exact habsent
    · exact ih n hn

/-! ### Deletions -/

/-- Elsewhere than in a list, a deletion finds nothing but elements. -/
theorem isAddressed_of_deletion {identifier : Name} {shape : Shape} (hshape : shape.isList = false) {n : Node}
    {new : List Node} (h : deletion identifier shape n = some new) :
    n.isAddressed identifier .element = true ∧ new = [null] := by
  unfold deletion at h
  split at h
  case h_1 | h_2 | h_3 => cases hshape
  case h_4 => cases h
  case h_5 =>
    split at h
    · next helement => exact ⟨helement, (Option.some.inj h).symm⟩
    · cases h

/-- Elsewhere than in a list, one node takes the place of every part. -/
theorem exchanged_deletion {shape : Shape} (hshape : shape.isList = false) (identifier : Name)
    (n : Node) : ∃ m, exchanged (deletion identifier) shape n = [m] := by
  unfold exchanged
  cases h : deletion identifier shape n with
  | none => exact ⟨_, rfl⟩
  | some new => exact ⟨null, (isAddressed_of_deletion hshape h).2⟩

/-- A deletion puts nothing but `null` in the place of a part. -/
theorem eq_null_of_mem_deletion {identifier : Name} {parent : Shape} {n m : Node} {new : List Node}
    (h : deletion identifier parent n = some new) (hm : m ∈ new) : m = null := by
  unfold deletion at h
  split at h
  case h_4 => cases h
  case h_5 =>
    split at h
    · cases h
      exact List.mem_singleton.mp hm
    · cases h
  all_goals
    split at h
    · cases h
      cases hm
    · cases h

/-- A deletion exchanges parts for nothing, and drops what is emptied. -/
theorem fst_deleteNamed (identifier : Name) (head : Head) (parts : List Node) :
    (deleteNamed identifier (.node head parts)).1 = .node head
      (leftParts head.shape (parts.flatMap (exchanged (deletion identifier) head.shape))) := by
  dsimp only [deleteNamed]
  rw [fst_exchange, withoutEmptied_eq]

/-- What is dropped because it is empty is not counted. -/
theorem snd_deleteNamed (identifier : Name) (head : Head) (parts : List Node) :
    (deleteNamed identifier (.node head parts)).2 =
      (parts.map (exchangedCount (deletion identifier) head.shape)).sum :=
  snd_exchangeParts _ _ parts

/-- A deletion leaves variables in declarations. -/
theorem Placed.deleteNamed {n : Node} (h : n.Placed) (identifier : Name) :
    (deleteNamed identifier n).1.Placed := by
  have habsent : absent.Placed := placed_node.mpr (by simp [Shape.Places])
  have hnull : null.Placed := placed_node.mpr (by simp [Shape.Places])
  have hexchanged : (exchange (deletion identifier) n).1.Placed := by
    refine Everywhere.exchange (fun shape parts hplaces m hm => ?_) (fun shape n new hnew _ m hm => ?_) h
    · obtain ⟨n, hn, hm⟩ := List.mem_flatMap.mp hm
      obtain ⟨new, hnew, hm⟩ | ⟨-, rfl⟩ := mem_exchanged hm
      · rw [eq_null_of_mem_deletion hnew hm]
        nofun
      · rw [shape_exchange]
        exact hplaces n hn
    · rw [eq_null_of_mem_deletion hnew hm]
      exact hnull
  refine Everywhere.withoutEmptied (fun shape parts hplaces m hm => ?_) habsent hexchanged
  obtain rfl | ⟨n, hn, rfl⟩ := mem_leftParts hm
  · nofun
  · rw [shape_withoutEmptied]
    exact hplaces n hn

end Node

end SourceEdit.Script
