import SourceEdit.Proofs.Reached
import SourceEdit.Proofs.Script.Address

/-!
# What a deletion removes

A deletion looks for variables in declarations, for functions in lists of statements and for elements
in all parts but the values of attributes.  Variables stand nowhere else, so none of the name is left.
A function that is the body of an `if`, a loop or a label is left, and so is an element that is the
value of an attribute: `Shape.Confines` excludes both, and then nothing is left but imports.

Neither the exchange of parts nor the dropping of emptied declarations changes what the nodes that
stay are addressed by and declare.  What holds of the parts of a node before a deletion (`Places`,
`Confines`) can therefore be carried over to the parts that it has afterwards (`Lacks`, `Freed`).
-/

namespace SourceEdit.Script

namespace Shape

/-- The shapes of statements that export a declaration. -/
def isExport : Shape → Bool
  | .exportDeclaration | .exportDefault => true
  | _ => false

/-- A deletion finds the functions and the elements of a name among the parts of a node. An exported
function is found where its export stands. -/
structure Confines (identifier : Name) (shape : Shape) (parts : List Node) : Prop where
  functions : ∀ n ∈ parts, n.declaresFunction identifier = true →
    shape = .statements ∨
      shape.isExport = true ∧ parts.length = 1 ∧ n.isAddressed identifier .function = true
  elements : ∀ n ∈ parts, n.isAddressed identifier .element = true →
    (Node.deletion identifier shape n).isSome = true

instance (identifier : Name) (shape : Shape) (parts : List Node) :
    Decidable (shape.Confines identifier parts) :=
  decidable_of_iff (_ ∧ _) ⟨fun h => ⟨h.1, h.2⟩, fun h => ⟨h.functions, h.elements⟩⟩

/-- No function and no element of a name is among the parts of a node, but for the function that an
export exports. -/
structure Freed (identifier : Name) (shape : Shape) (parts : List Node) : Prop where
  functions : ∀ n ∈ parts, n.declaresFunction identifier = true →
    shape.isExport = true ∧ parts = [n] ∧ n.isAddressed identifier .function = true
  elements : ∀ n ∈ parts, n.isAddressed identifier .element = false

/-- No part of a node is a construct of a kind and a name. -/
def Lacks (identifier : Name) (kind : LocatedKind) (_ : Shape) (parts : List Node) : Prop :=
  ∀ n ∈ parts, n.isAddressed identifier kind = false

end Shape

namespace Node

variable {identifier : Name}

/-! ### Addresses -/

/-- What a node declares is addressed as a function only if it is a function or an export of one. -/
theorem declaresFunction_node {head : Head} {parts : List Node} {identifier : Name} :
    declaresFunction identifier (.node head parts) = true ↔
      isAddressed identifier .function (.node head parts) = true ∨
        head.shape.isExport = true ∧ ∃ inner, parts = [inner] ∧
          inner.isAddressed identifier .function = true := by
  obtain ⟨shape, a, b⟩ := head
  cases shape with
  | exportDeclaration | exportDefault =>
    match parts with
    | [] => simp [declaresFunction, declared, Shape.isExport]
    | [inner] => simp [declaresFunction, declared, Shape.isExport, isAddressed, address?, shape, Tree.value]
    | _ :: _ :: _ => simp [declaresFunction, declared, Shape.isExport]
  | _ => simp [declaresFunction, declared, Shape.isExport]

/-- An element is neither a name nor a function. -/
theorem name?_of_isElement {n : Node} (h : n.isAddressed identifier .element = true) :
    n.name? = none ∧ ∀ other, n.isAddressed other .function = false := by
  have haddress : n.address? = some (.element, identifier) := eq_of_beq h
  refine ⟨?_, fun other => by simp [isAddressed, haddress]⟩
  obtain ⟨⟨shape, a, b⟩, parts⟩ := n
  cases shape with
  | name => cases haddress
  | _ => rfl

/-! ### What is put in the place of parts -/

/-- A deletion leaves what the address of a node is read off, or puts `null` in the place of an
element there. -/
theorem keepsAddresses_deletion (identifier : Name) : KeepsAddresses (deletion identifier) := by
  intro shape n new hshape hnew
  have hlist : shape.isList = false := by
    cases shape <;> first | rfl | cases hshape
  obtain ⟨helement, rfl⟩ := isAddressed_of_deletion hlist hnew
  obtain ⟨hname, hfunction⟩ := name?_of_isElement helement
  exact ⟨null, rfl, hname.symm, fun other => (hfunction other).symm⟩

theorem address?_deletion (identifier : Name) (n : Node) :
    (exchange (deletion identifier) n).1.address? = n.address? :=
  (keepsAddresses_deletion identifier).address?_exchange n

/-! ### What is left when emptied declarations are dropped -/

theorem leftParts_of_readsParts {shape : Shape} (h : shape.readsParts = true) (parts : List Node) :
    leftParts shape parts = parts.map withoutEmptied := by
  cases shape <;> first | rfl | cases h

theorem forall₂_withoutEmptied {shape : Shape} (hshape : shape.readsParts = true)
    {parts : List Node} (h : ∀ n ∈ parts, (withoutEmptied n).address? = n.address?) :
    List.Forall₂ Alike (leftParts shape parts) parts := by
  rw [leftParts_of_readsParts hshape, List.forall₂_map_left_iff, List.forall₂_same]
  refine fun n hn => ⟨?_, fun other => isAddressed_congr (h n hn) other _⟩
  rw [Node.name?, shape_withoutEmptied, ← Node.name?]

theorem address?_withoutEmptied (n : Node) : (withoutEmptied n).address? = n.address? := by
  induction n using Node.induction with
  | node head parts ih =>
    rw [withoutEmptied_eq]
    exact address?_congr fun hshape => List.forall₂_take 2 (forall₂_withoutEmptied hshape ih)

theorem declaresFunction_withoutEmptied (identifier : Name) (n : Node) :
    declaresFunction identifier (withoutEmptied n) = declaresFunction identifier n := by
  obtain ⟨head, parts⟩ := n
  rw [withoutEmptied_eq]
  exact declaresFunction_congr (fun hshape => List.forall₂_take 2
    (forall₂_withoutEmptied hshape fun n _ => address?_withoutEmptied n)) identifier

/-! ### What a deletion removes -/

/-- A part that a deletion does not find in a declaration of variables is no variable of the name. -/
theorem isAddressed_of_deletion_eq_none {shape : Shape} {n : Node}
    (hplaces : n.shape.isDeclarator = true → shape.isVariableList = true)
    (h : deletion identifier shape n = none) : n.isAddressed identifier .declarator = false := by
  rw [Bool.eq_false_iff]
  intro haddressed
  have hlist := hplaces (isDeclarator_of_isAddressed haddressed)
  cases shape with
  | variableList => simp [deletion, haddressed] at h
  | _ => cases hlist

theorem lacks_exchanged {shape : Shape} {parts : List Node} (h : shape.Places parts) :
    shape.Lacks identifier .declarator (parts.flatMap (exchanged (deletion identifier) shape)) := by
  intro m hm
  obtain ⟨n, hn, hm⟩ := List.mem_flatMap.mp hm
  obtain ⟨new, hnew, hm⟩ | ⟨hnone, rfl⟩ := mem_exchanged hm
  · rw [eq_null_of_mem_deletion hnew hm]
    rfl
  · rw [isAddressed_congr (address?_deletion identifier n)]
    exact isAddressed_of_deletion_eq_none (h n hn) hnone

theorem freed_exchanged {shape : Shape} {parts : List Node} (h : shape.Confines identifier parts) :
    shape.Freed identifier (parts.flatMap (exchanged (deletion identifier) shape)) := by
  refine ⟨fun m hm hdeclares => ?_, fun m hm => ?_⟩ <;>
    obtain ⟨n, hn, hm⟩ := List.mem_flatMap.mp hm <;>
    obtain ⟨new, hnew, hm⟩ | ⟨hnone, rfl⟩ := mem_exchanged hm
  · rw [eq_null_of_mem_deletion hnew hm] at hdeclares
    cases hdeclares
  · rw [(keepsAddresses_deletion identifier).declaresFunction_exchange] at hdeclares
    obtain rfl | ⟨hexport, hone, hfunction⟩ := h.functions n hn hdeclares
    · simp [deletion, hdeclares] at hnone
    · obtain ⟨other, rfl⟩ := List.length_eq_one_iff.mp hone
      obtain rfl := List.mem_singleton.mp hn
      refine ⟨hexport, by simp [exchanged, hnone], ?_⟩
      rwa [isAddressed_congr (address?_deletion identifier n)]
  · rw [eq_null_of_mem_deletion hnew hm]
    rfl
  · rw [isAddressed_congr (address?_deletion identifier n), Bool.eq_false_iff]
    intro helement
    simpa [hnone] using h.elements n hn helement

theorem lacks_leftParts {kind : LocatedKind} {shape : Shape} {parts : List Node}
    (h : shape.Lacks identifier kind parts) : shape.Lacks identifier kind (leftParts shape parts) := by
  intro m hm
  obtain rfl | ⟨n, hn, rfl⟩ := mem_leftParts hm
  · rfl
  · rw [isAddressed_congr (address?_withoutEmptied n)]
    exact h n hn

theorem freed_leftParts {shape : Shape} {parts : List Node} (h : shape.Freed identifier parts) :
    shape.Freed identifier (leftParts shape parts) := by
  refine ⟨fun m hm hdeclares => ?_, lacks_leftParts h.elements⟩
  obtain rfl | ⟨n, hn, rfl⟩ := mem_leftParts hm
  · cases hdeclares
  · rw [declaresFunction_withoutEmptied] at hdeclares
    obtain ⟨hexport, rfl, hfunction⟩ := h.functions n hn hdeclares
    refine ⟨hexport, ?_, ?_⟩
    · cases shape <;> first | rfl | cases hexport
    · rwa [isAddressed_congr (address?_withoutEmptied n)]

theorem lacks_deleteNamed {n : Node} (h : n.Placed) :
    (deleteNamed identifier n).1.Everywhere (Shape.Lacks identifier .declarator) := by
  have hleaf (shape : Shape) : shape.Lacks identifier .declarator [] := List.forall_mem_nil _
  refine .withoutEmptied (fun _ _ => lacks_leftParts) (.of_no_parts (hleaf _)) (h.exchange ?_ ?_)
  · exact fun _ _ => lacks_exchanged
  · exact fun _ _ _ hnew _ m hm => eq_null_of_mem_deletion hnew hm ▸ .of_no_parts (hleaf _)

theorem freed_deleteNamed {n : Node} (h : n.Everywhere (Shape.Confines identifier)) :
    (deleteNamed identifier n).1.Everywhere (Shape.Freed identifier) := by
  have hleaf (shape : Shape) : shape.Freed identifier [] := ⟨by simp, by simp⟩
  refine .withoutEmptied (fun _ _ => freed_leftParts) (.of_no_parts (hleaf _)) (h.exchange ?_ ?_)
  · exact fun _ _ => freed_exchanged
  · exact fun _ _ _ hnew _ m hm => eq_null_of_mem_deletion hnew hm ▸ .of_no_parts (hleaf _)

/-! ### What is found in a tree -/

/-- Where no part is addressed, nothing but the whole tree can be. -/
theorem Everywhere.eq_of_mem_preorder {kind : LocatedKind} {n : Node}
    (h : n.Everywhere (Shape.Lacks identifier kind)) {m : Node} (hm : m ∈ n.preorder)
    (haddressed : m.isAddressed identifier kind = true) : m = n := by
  induction h with
  | @node head parts hlacks _ ih =>
    obtain rfl | ⟨n, hn, hm⟩ := mem_preorder_node.mp hm
    · rfl
    · obtain rfl := ih n hn hm
      exact (Bool.false_ne_true ((hlacks m hn).symm.trans haddressed)).elim

/-- A function is found in a tree only if the tree is a statement that declares it. -/
theorem Everywhere.declaresFunction_of_mem_preorder {n : Node}
    (h : n.Everywhere (Shape.Freed identifier)) {m : Node} (hm : m ∈ n.preorder)
    (hfunction : m.isAddressed identifier .function = true) :
    declaresFunction identifier n = true := by
  induction h with
  | @node head parts hfreed _ ih =>
    obtain rfl | ⟨n, hn, hm⟩ := mem_preorder_node.mp hm
    · exact declaresFunction_node.mpr (.inl hfunction)
    · obtain ⟨hexport, rfl, hfunction⟩ := hfreed.functions n hn (ih n hn hm)
      exact declaresFunction_node.mpr (.inr ⟨hexport, n, rfl, hfunction⟩)

end Node

namespace Program

variable {p : Program}

theorem declaresFunction_root (hp : p.Settled) (identifier : Name) :
    p.root.declaresFunction identifier = false := by
  have hroot := isAddressed_root hp identifier .function
  obtain ⟨interpreter, hshape⟩ := hp.isProgram
  obtain ⟨⟨⟨shape, a, b⟩, parts⟩, dialect⟩ := p
  obtain rfl : shape = .program interpreter := hshape
  rw [Bool.eq_false_iff, Ne, Node.declaresFunction_node]
  simp [hroot, Shape.isExport]

/-- What a deletion makes of a script. -/
theorem edit_of_delete (hp : p.Settled) {m : Modification} (hm : m.operation = .delete)
    {identifier : String} (hid : m.target.identifier = some identifier) :
    (p.edit m).tree = { p with root := (Node.deleteNamed identifier.toList p.root).1 } := by
  simp only [edit, hid, editNamed, hm, rewrite_delete hp]
  rfl

/-- After a deletion, no variable of the name is left; and if the functions and the elements of the
name stand where a deletion looks for them, nothing is left but import declarations. -/
theorem locate_of_deletion {options : ScriptOptions} (hp : options.editor.Reached p)
    {m : Modification} (hm : m.operation = .delete) {found : List (LocatedKind × Node)}
    (hfound : (p.edit m).tree.locate m.target = .ok found) :
    (∀ c ∈ found, c.1 ≠ .declarator) ∧
      ∀ identifier, m.target.identifier = some identifier →
        p.root.Everywhere (Shape.Confines identifier.toList) →
          ∀ c ∈ found, c.1 = .importDeclaration := by
  have hq : (p.edit m).tree.Settled := settled_of_reached (.edited m hp)
  unfold locate at hfound
  split at hfound
  · cases hfound
  · next identifier hid =>
    rw [edit_of_delete (settled_of_reached hp) hm hid] at hfound hq
    obtain rfl := Except.ok.inj hfound
    -- what is left of a kind would have to be the whole script
    have hlacks (kind : LocatedKind)
        (h : (Node.deleteNamed identifier.toList p.root).1.Everywhere
          (Shape.Lacks identifier.toList kind)) (c : LocatedKind × Node)
        (hc : c ∈ (Node.deleteNamed identifier.toList p.root).1.located identifier.toList) :
        c.1 ≠ kind := by
      rintro rfl
      obtain ⟨hmem, haddressed⟩ := Node.mem_located.mp hc
      rw [h.eq_of_mem_preorder hmem haddressed] at haddressed
      exact Bool.false_ne_true ((isAddressed_root hq _ _).symm.trans haddressed)
    have hvariables := hlacks .declarator (Node.lacks_deleteNamed (settled_of_reached hp).placed)
    refine ⟨hvariables, fun other hother hconfines c hc => ?_⟩
    obtain rfl : identifier = other := Option.some.inj (hid.symm.trans hother)
    have hfreed := Node.freed_deleteNamed hconfines
    have helements := hlacks .element (hfreed.mono fun _ _ h => h.elements) c hc
    have hfunctions : c.1 ≠ .function := by
      intro hfunction
      obtain ⟨hmem, haddressed⟩ := Node.mem_located.mp hc
      rw [hfunction] at haddressed
      have hdeclares := hfreed.declaresFunction_of_mem_preorder hmem haddressed
      exact Bool.false_ne_true ((declaresFunction_root hq _).symm.trans hdeclares)
    cases hkind : c.1 with
    | function => exact (hfunctions hkind).elim
    | declarator => exact (hvariables c hc hkind).elim
    | element => exact (helements hkind).elim
    | importDeclaration => rfl

/-- Deleting an exported function, a variable, an element in an expression and a child. -/
theorem locate_of_deletion_confined :
    let source := "export function a() {}\nvar a = <a/>, b = <b><a/></b>;"
    let delete : Modification :=
      { path := "a.jsx", operation := .delete, target := { identifier := some "a" } }
    ∃ p found, parse? (.ofPath "a.jsx") source.toList = some p ∧
      (p.edit delete).tree.locate delete.target = .ok found ∧
      ∀ c ∈ found, c.1 = .importDeclaration := by
  intro source delete
  have hreads : ((parse? (.ofPath "a.jsx") source.toList).any fun p =>
      decide (p.root.Everywhere (Shape.Confines "a".toList))) = true := by
    decide +kernel
  obtain ⟨p, hp, hconfines⟩ := (Option.any_eq_true _ _).mp hreads
  have hparse : (ScriptOptions.editor {}).parse "a.jsx" source = .ok p := by
    simp only [ScriptOptions.editor, hp]
  have hfound : (p.edit delete).tree.locate delete.target =
      .ok ((p.edit delete).tree.root.located "a".toList) := rfl
  refine ⟨p, _, hp, hfound, ?_⟩
  exact (locate_of_deletion (.parsed _ _ hparse) rfl hfound).2 "a" rfl (of_decide_eq_true hconfines)

/-- An element that is the value of an attribute is left, while another one is deleted. -/
theorem locate_of_deletion_attribute :
    let source := "v = [<C/>, <a b=<C/>/>];"
    let delete : Modification :=
      { path := "a.jsx", operation := .delete, target := { identifier := some "C" } }
    ∃ p found, parse? (.ofPath "a.jsx") source.toList = some p ∧
      (p.edit delete).result.toOption = some 1 ∧
      (p.edit delete).tree.locate delete.target = .ok found ∧ found.map (·.1) = [.element] := by
  intro source delete
  have hreads : ((parse? (.ofPath "a.jsx") source.toList).any fun p =>
      (p.edit delete).result.toOption == some 1 &&
        ((p.edit delete).tree.root.located "C".toList).map (·.1) == [.element]) = true := by
    decide +kernel
  obtain ⟨p, hp, hleft⟩ := (Option.any_eq_true _ _).mp hreads
  obtain ⟨hcount, hfound⟩ := Bool.and_eq_true_iff.mp hleft
  exact ⟨p, _, hp, eq_of_beq hcount, rfl, eq_of_beq hfound⟩

end Program

end SourceEdit.Script
