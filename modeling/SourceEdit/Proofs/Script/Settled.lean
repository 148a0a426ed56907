import Mathlib.Data.List.Basic
import SourceEdit.Proofs.Script.OnePass
import SourceEdit.Proofs.Script.WellFormed

/-!
# Trees with no declaration to drop

A deletion also drops every declaration that declares no variable, whether or not it was this
deletion that emptied it.  A deletion that finds nothing can therefore only be said to change nothing
of a tree in which there is no such declaration to drop.  `Node.Settled` says that there is none: it
holds of well-formed trees, nothing is dropped from a tree of which it holds, and it holds of what is
left of any tree.
-/

namespace SourceEdit.Script

/-- Whether a deletion finds nothing to drop among the parts of a node of a shape. -/
def Shape.Settles : Shape → List Node → Prop
  | .forLoop, first :: _ => Node.isEmptied first = false
  | .statements, parts => ∀ n ∈ parts, Node.isEmptiedStatement n = false
  | _, _ => True

namespace Node

/-- No node of a tree holds a statement or a start of a loop that declares no variable. -/
def Settled : Node → Prop := Everywhere Shape.Settles

theorem settled_node {head : Head} {parts : List Node} :
    Node.Settled (.node head parts) ↔ head.shape.Settles parts ∧ ∀ n ∈ parts, Node.Settled n :=
  everywhere_node

/-! ### Declarations that declare nothing -/

theorem isEmptied_node {head : Head} {parts : List Node} :
    isEmptied (.node head parts) = true ↔
      (∃ kind isDeclared, head.shape = .variableList kind isDeclared) ∧ parts = [] := by
  obtain ⟨shape, a, b⟩ := head
  constructor
  · intro h
    unfold isEmptied at h
    split at h
    · next heq =>
      cases heq
      exact ⟨⟨_, _, rfl⟩, rfl⟩
    · cases h
  · rintro ⟨⟨kind, isDeclared, rfl⟩, rfl⟩
    rfl

/-- A statement declares no variable if it is, or exports, a declaration that declares none. -/
theorem isEmptiedStatement_node {head : Head} {parts : List Node} :
    isEmptiedStatement (.node head parts) = true ↔
      isEmptied (.node head parts) = true ∨
        head.shape = .exportDeclaration ∧ ∃ inner, parts = [inner] ∧ isEmptied inner = true := by
  obtain ⟨shape, a, b⟩ := head
  unfold isEmptiedStatement
  split
  · next inner heq =>
    cases heq
    simp [isEmptied_node]
  · next hne =>
    refine ⟨.inl, fun h => h.resolve_right ?_⟩
    rintro ⟨rfl, inner, rfl, -⟩
    exact hne a b inner rfl

theorem isEmptied_eq_false {n : Node} (h : isEmptiedStatement n = false) : isEmptied n = false := by
  obtain ⟨head, parts⟩ := n
  rw [Bool.eq_false_iff] at h ⊢
  exact fun hn => h (isEmptiedStatement_node.mpr (.inl hn))

/-- A well-formed declaration declares a variable. -/
theorem WellFormed.isEmptied_eq_false {n : Node} (h : n.WellFormed) : isEmptied n = false := by
  obtain ⟨⟨shape, a, b⟩, parts⟩ := n
  rw [Bool.eq_false_iff, Ne, isEmptied_node]
  rintro ⟨⟨kind, isDeclared, rfl⟩, rfl⟩
  exact (wellFormed_node.mp h).1.2.1 rfl rfl

theorem WellFormed.isEmptiedStatement_eq_false {n : Node} (h : n.WellFormed) :
    isEmptiedStatement n = false := by
  obtain ⟨head, parts⟩ := n
  rw [Bool.eq_false_iff, Ne, isEmptiedStatement_node]
  rintro (hn | ⟨-, inner, rfl, hinner⟩)
  · exact Bool.eq_false_iff.mp h.isEmptied_eq_false hn
  · have hwf : inner.WellFormed := (wellFormed_node.mp h).2 inner (by simp)
    exact Bool.eq_false_iff.mp hwf.isEmptied_eq_false hinner

/-- Well-formed trees are settled. -/
theorem WellFormed.settled {n : Node} (h : n.WellFormed) : n.Settled := by
  induction h with
  | @node head parts hadmits hparts ih =>
    refine settled_node.mpr ⟨?_, ih⟩
    unfold Shape.Settles
    split
    · exact WellFormed.isEmptied_eq_false (hparts _ (by simp))
    · exact fun n hn => WellFormed.isEmptiedStatement_eq_false (hparts n hn)
    · trivial

/-! ### Dropping declarations that declare nothing -/

theorem withoutEmptiedParts_eq (areStatements : Bool) (parts : List Node) :
    withoutEmptiedParts areStatements parts =
      (parts.filter fun n => !(areStatements && isEmptiedStatement n)).map withoutEmptied := by
  induction parts with
  | nil => rfl
  | cons n rest ih =>
    rw [withoutEmptiedParts, ih, List.filter_cons]
    cases areStatements && isEmptiedStatement n <;> rfl

/-- Only statements are dropped. -/
theorem withoutEmptiedParts_of_ne {shape : Shape} (h : shape ≠ .statements) (parts : List Node) :
    withoutEmptiedParts (shape == .statements) parts = parts.map withoutEmptied := by
  simp [withoutEmptiedParts_eq, beq_eq_false_iff_ne.mpr h]

theorem withoutEmptied_node {head : Head} {parts : List Node} (h : head.shape.Settles parts) :
    withoutEmptied (.node head parts) = .node head (parts.map withoutEmptied) := by
  obtain ⟨shape, a, b⟩ := head
  unfold withoutEmptied
  split
  · next heq =>
    cases heq
    simp only [Shape.Settles] at h
    simp [h, withoutEmptiedParts_eq]
  · next heq =>
    cases heq
    rw [withoutEmptiedParts_eq, List.filter_eq_self.mpr]
    intro n hn
    cases hshape : shape == .statements with
    | false => rfl
    | true =>
      cases eq_of_beq hshape
      simp [h n hn]

/-- There is nothing to drop from a settled tree. -/
theorem withoutEmptied_eq_self {n : Node} (h : n.Settled) : withoutEmptied n = n := by
  induction h with
  | @node head parts hsettles hparts ih =>
    rw [withoutEmptied_node hsettles, List.map_congr_left ih, List.map_id']

/-- A declaration is not emptied by what is dropped inside it. -/
theorem isEmptied_withoutEmptied (n : Node) : isEmptied (withoutEmptied n) = isEmptied n := by
  unfold withoutEmptied
  split
  · rfl
  · next head parts hne =>
    rw [Bool.eq_iff_iff, isEmptied_node, isEmptied_node]
    refine and_congr_right fun ⟨kind, isDeclared, hshape⟩ => ?_
    rw [withoutEmptiedParts_of_ne (by simp [hshape]), List.map_eq_nil_iff]

theorem isEmptiedStatement_withoutEmptied (n : Node) :
    isEmptiedStatement (withoutEmptied n) = isEmptiedStatement n := by
  have hsame := isEmptied_withoutEmptied n
  unfold withoutEmptied at hsame ⊢
  split at hsame
  · rfl
  · next head parts hne =>
    rw [Bool.eq_iff_iff, isEmptiedStatement_node, isEmptiedStatement_node, hsame]
    refine or_congr_right (and_congr_right fun hshape => ?_)
    rw [withoutEmptiedParts_of_ne (by simp [hshape])]
    simp [List.map_eq_singleton_iff, isEmptied_withoutEmptied]

/-- What is left when everything has been dropped is settled. -/
theorem settled_withoutEmptied (n : Node) : (withoutEmptied n).Settled := by
  induction n using Node.induction with
  | node head parts ih =>
    unfold withoutEmptied
    split
    · next a b first rest heq =>
      -- a loop, whose first part may be an emptied declaration
      cases heq
      have hfirst := ih first (by simp)
      refine settled_node.mpr ⟨?_, List.forall_mem_cons.mpr ⟨?_, ?_⟩⟩
      · dsimp only [Shape.Settles]
        split
        · rfl
        · next hne => simpa [isEmptied_withoutEmptied] using hne
      · split
        · exact settled_node.mpr ⟨trivial, by simp⟩
        · exact hfirst
      · simp only [withoutEmptiedParts_eq, List.forall_mem_map, List.mem_filter]
        exact fun n hn => ih n (by simp [hn.1])
    · next hne heq =>
      cases heq
      refine settled_node.mpr ⟨?_, ?_⟩
      · unfold Shape.Settles
        split
        · next first rest hshape hparts =>
          rw [withoutEmptiedParts_of_ne (by simp [hshape])] at hparts
          obtain ⟨n, others, rfl, -⟩ := List.map_eq_cons_iff.mp hparts
          exact (hne _ _ n others (by rw [← hshape]) rfl).elim
        · next hshape =>
          simp only [hshape, withoutEmptiedParts_eq, List.forall_mem_map, List.mem_filter]
          intro n hn
          simpa [isEmptiedStatement_withoutEmptied] using hn.2
        · trivial
      · simp only [withoutEmptiedParts_eq, List.forall_mem_map, List.mem_filter]
        exact fun n hn => ih n hn.1

end Node

end SourceEdit.Script
