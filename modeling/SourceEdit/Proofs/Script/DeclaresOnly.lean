import SourceEdit.Proofs.Script.Address

/-!
# Declarations of variables of one name

A deletion empties the declarations all variables of which have its name (`Node.declaresOnly`), and
so the statements that are or export such a declaration (`Node.statesOnly`).  Where there is no
variable of the name, a statement that declares something still does so afterwards
(`Node.statesOnly_eq_false`).
-/

namespace SourceEdit.Script.Node

variable {identifier : Name}

/-- Whether a node is a declaration all variables of which have a name. -/
def declaresOnly (identifier : Name) (n : Node) : Bool :=
  n.shape.isVariableList && n.children.all (isAddressed identifier .declarator)

/-- Whether a statement declares, or exports, variables of a name only. -/
def statesOnly (identifier : Name) : Node → Bool
  | .node ⟨.exportDeclaration, _, _⟩ [inner] => declaresOnly identifier inner
  | n => declaresOnly identifier n

theorem statesOnly_node {head : Head} {parts : List Node} :
    statesOnly identifier (.node head parts) = true ↔
      declaresOnly identifier (.node head parts) = true ∨
        head.shape = .exportDeclaration ∧ ∃ inner, parts = [inner] ∧
          declaresOnly identifier inner = true := by
  obtain ⟨shape, a, b⟩ := head
  unfold statesOnly
  split
  · next inner heq =>
    cases heq
    simp [declaresOnly, Node.shape, Tree.value, Shape.isVariableList]
  · next hne =>
    refine ⟨.inl, fun h => h.resolve_right ?_⟩
    rintro ⟨rfl, inner, rfl, -⟩
    exact hne a b inner rfl

/-! ### Nodes of a tree -/

theorem sublist_preorderOf (parts : List Node) : parts.Sublist (preorderOf parts) := by
  induction parts with
  | nil => exact .slnil
  | cons n rest ih =>
    obtain ⟨head, parts⟩ := n
    rw [preorderOf, preorder, List.cons_append]
    exact (ih.trans (List.sublist_append_right _ _)).cons_cons _

theorem children_sublist_preorder (n : Node) : n.children.Sublist n.preorder := by
  obtain ⟨head, parts⟩ := n
  exact (sublist_preorderOf parts).cons _

/-- The declaration that a statement is or exports is found in it. -/
theorem preorder_declared_sublist (n : Node) : (declared n).preorder.Sublist n.preorder := by
  have hone (head : Head) (inner : Node) :
      inner.preorder.Sublist (preorder (.node head [inner])) := by
    rw [preorder, preorderOf, preorderOf, List.append_nil]
    exact List.sublist_cons_self _ _
  unfold declared
  split
  · exact hone _ _
  · exact hone _ _
  · exact .refl _

/-! ### What is declared -/

section DeclaresOnly

variable {n : Node} (h : n.declaresOnly identifier = true)

include h

theorem shape_of_declaresOnly : ∃ kind isDeclare, n.shape = .variableList kind isDeclare := by
  have hlist := (Bool.and_eq_true_iff.mp h).1
  cases hshape : n.shape with
  | variableList kind isDeclare => exact ⟨kind, isDeclare, rfl⟩
  | _ => rw [hshape] at hlist; cases hlist

theorem isAddressed_of_declaresOnly :
    ∀ v ∈ n.children, isAddressed identifier .declarator v = true :=
  List.all_eq_true.mp (Bool.and_eq_true_iff.mp h).2

theorem statesOnly_of_declaresOnly : n.statesOnly identifier = true := by
  obtain ⟨head, parts⟩ := n
  exact statesOnly_node.mpr (.inl h)

theorem declared_of_declaresOnly : declared n = n := by
  obtain ⟨⟨shape, a, b⟩, parts⟩ := n
  obtain ⟨kind, isDeclare, hshape⟩ := shape_of_declaresOnly h
  obtain rfl : shape = .variableList kind isDeclare := hshape
  rfl

theorem isEmptied_of_declaresOnly (hnil : n.children = []) : isEmptied n = true := by
  obtain ⟨head, parts⟩ := n
  exact isEmptied_node.mpr ⟨shape_of_declaresOnly h, hnil⟩

/-- Elsewhere than in a list, a deletion goes into such a declaration. -/
theorem deletion_of_declaresOnly {shape : Shape} (hshape : shape.isList = false) :
    deletion identifier shape n = none := by
  cases hnew : deletion identifier shape n with
  | none => rfl
  | some new =>
    obtain ⟨⟨nshape, a, b⟩, parts⟩ := n
    obtain ⟨kind, isDeclare, heq⟩ := shape_of_declaresOnly h
    obtain rfl : nshape = .variableList kind isDeclare := heq
    have helement := (isAddressed_of_deletion hshape hnew).1
    cases helement

end DeclaresOnly

section StatesOnly

variable {n : Node} (h : n.statesOnly identifier = true)

include h

/-- A statement that declares or exports variables of a name only does so by one declaration. -/
theorem declaresOnly_declared : (declared n).declaresOnly identifier = true := by
  obtain ⟨⟨shape, a, b⟩, parts⟩ := n
  obtain honly | ⟨hshape, inner, rfl, hinner⟩ := statesOnly_node.mp h
  · rwa [declared_of_declaresOnly honly]
  · obtain rfl : shape = .exportDeclaration := hshape
    exact hinner

/-- A statement that a deletion empties had variables before, if it was not one to drop. -/
theorem children_declared_ne_nil (hn : isEmptiedStatement n = false) :
    (declared n).children ≠ [] := by
  intro hnil
  have hempty := isEmptied_of_declaresOnly (declaresOnly_declared h) hnil
  obtain ⟨⟨shape, a, b⟩, parts⟩ := n
  rw [Bool.eq_false_iff, Ne, isEmptiedStatement_node, not_or] at hn
  obtain honly | ⟨hshape, inner, rfl, -⟩ := statesOnly_node.mp h
  · rw [declared_of_declaresOnly honly] at hempty
    exact hn.1 hempty
  · obtain rfl : shape = .exportDeclaration := hshape
    exact hn.2 ⟨rfl, inner, rfl, hempty⟩

end StatesOnly

/-- Where no variable of the name is found, a statement that declares something declares something
else. -/
theorem statesOnly_eq_false {n : Node}
    (hnone : ∀ m ∈ n.preorder, m.isAddressed identifier .declarator = false)
    (hn : isEmptiedStatement n = false) : n.statesOnly identifier = false := by
  rw [Bool.eq_false_iff]
  intro h
  obtain ⟨v, hv⟩ := List.exists_mem_of_ne_nil _ (children_declared_ne_nil h hn)
  have hfound := isAddressed_of_declaresOnly (declaresOnly_declared h) v hv
  have hmem := (preorder_declared_sublist n).mem ((children_sublist_preorder _).mem hv)
  exact Bool.false_ne_true ((hnone v hmem).symm.trans hfound)

/-! ### What a deletion empties -/

/-- A declaration is emptied by a deletion if all its variables have the name. -/
theorem isEmptied_exchange (identifier : Name) (n : Node) :
    isEmptied (exchange (deletion identifier) n).1 = declaresOnly identifier n := by
  obtain ⟨⟨shape, a, b⟩, parts⟩ := n
  rw [fst_exchange]
  cases shape with
  | variableList kind isDeclare =>
    have hgone (n : Node) : exchanged (deletion identifier) (.variableList kind isDeclare) n = [] ↔
        n.isAddressed identifier .declarator = true := by
      cases h : n.isAddressed identifier .declarator <;> simp [exchanged, deletion, h]
    rw [Bool.eq_iff_iff, isEmptied_node, List.flatMap_eq_nil_iff]
    simp [hgone, declaresOnly, Node.shape, Tree.value, Tree.children, Shape.isVariableList]
  | _ => rfl

theorem isEmptied_of_mem_exchanged {shape : Shape} (hshape : shape.isList = false) {n m : Node}
    (hm : m ∈ exchanged (deletion identifier) shape n) :
    isEmptied m = declaresOnly identifier n := by
  obtain ⟨new, hnew, hm⟩ | ⟨-, rfl⟩ := mem_exchanged hm
  · have helement := (isAddressed_of_deletion hshape hnew).1
    rw [eq_null_of_mem_deletion hnew hm]
    obtain ⟨⟨nshape, a, b⟩, parts⟩ := n
    cases nshape with
    | variableList => cases helement
    | _ => rfl
  · exact isEmptied_exchange identifier n

theorem isEmptiedStatement_exchange (identifier : Name) (n : Node) :
    isEmptiedStatement (exchange (deletion identifier) n).1 = statesOnly identifier n := by
  have hbare := isEmptied_exchange identifier n
  obtain ⟨head, parts⟩ := n
  rw [fst_exchange] at hbare ⊢
  rw [Bool.eq_iff_iff, isEmptiedStatement_node, statesOnly_node, hbare]
  refine or_congr_right (and_congr_right fun hshape => ?_)
  have hlist : head.shape.isList = false := by rw [hshape]; rfl
  have hone := exchanged_deletion hlist identifier
  match parts with
  | [] => simp
  | [inner] =>
    obtain ⟨m, hm⟩ := hone inner
    have hempty : isEmptied m = declaresOnly identifier inner :=
      isEmptied_of_mem_exchanged hlist (by rw [hm]; exact List.mem_singleton_self m)
    simp [hm, hempty]
  | n :: n' :: others =>
    obtain ⟨m, hm⟩ := hone n
    obtain ⟨m', hm'⟩ := hone n'
    simp [hm, hm']

end SourceEdit.Script.Node
