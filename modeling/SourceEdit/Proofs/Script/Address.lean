import Mathlib.Data.List.Forall2
import SourceEdit.Proofs.Script.Parts

/-!
# Addresses of the nodes of a script

The address of a node is read off its shape and, for functions and variables, off the name that its
first part is.  `address?_congr` says which parts make no difference to it.  An exchange of parts that
`KeepsAddresses` and a substitution that `SparesAddresses` therefore leave the address of every node
that they go into, and what is found in a tree (`mem_located`, `holdsLocated_iff`) can be followed
through them.
-/

namespace SourceEdit.Script

namespace Shape

/-- Whether the address or the declared function of a node of a shape is read off its parts. -/
def readsParts : Shape → Bool
  | .function _ | .declarator _ | .exportDeclaration | .exportDefault => true
  | _ => false

end Shape

namespace Node

variable {identifier : Name}

/-! ### Addresses -/

/-- Two nodes make no difference to what the nodes that hold them are addressed by and declare. -/
structure Alike (m n : Node) : Prop where
  name? : m.name? = n.name?
  isFunction (identifier : Name) :
    m.isAddressed identifier .function = n.isAddressed identifier .function

theorem isAddressed_congr {m n : Node} (h : m.address? = n.address?) (identifier : Name)
    (kind : LocatedKind) : m.isAddressed identifier kind = n.isAddressed identifier kind := by
  rw [isAddressed, isAddressed, h]

/-- Lists whose first parts are alike are both empty, or begin with parts that are alike. -/
theorem cases_of_forall₂_take {new parts : List Node}
    (h : List.Forall₂ Alike (new.take 2) (parts.take 2)) :
    (new = [] ∧ parts = []) ∨
      ∃ m ms n ns, new = m :: ms ∧ parts = n :: ns ∧ Alike m n := by
  cases new with
  | nil =>
    cases parts with
    | nil => exact .inl ⟨rfl, rfl⟩
    | cons => cases h
  | cons m ms =>
    cases parts with
    | nil => cases h
    | cons n ns =>
      obtain _ | ⟨hfirst, -⟩ := h
      exact .inr ⟨m, ms, n, ns, rfl, rfl, hfirst⟩

/-- The address of a node is read off its first part. -/
theorem address?_congr {head : Head} {new parts : List Node}
    (h : head.shape.readsParts = true → List.Forall₂ Alike (new.take 2) (parts.take 2)) :
    address? (.node head new) = address? (.node head parts) := by
  obtain ⟨shape, a, b⟩ := head
  cases shape with
  | function | declarator =>
    obtain ⟨rfl, rfl⟩ | ⟨_, _, _, _, rfl, rfl, hn⟩ := cases_of_forall₂_take (h rfl)
    · rfl
    · simp [address?, shape, Tree.value, Tree.children, hn.name?]
  | _ => rfl

/-- The function that a node declares is read off the part that is its only one. -/
theorem declaresFunction_congr {head : Head} {new parts : List Node}
    (h : head.shape.readsParts = true → List.Forall₂ Alike (new.take 2) (parts.take 2))
    (identifier : Name) :
    declaresFunction identifier (.node head new) = declaresFunction identifier (.node head parts) := by
  have hwhole := isAddressed_congr (address?_congr h) identifier .function
  obtain ⟨shape, a, b⟩ := head
  cases shape with
  | exportDeclaration | exportDefault =>
    match new, parts, h rfl with
    | [], [], _ => rfl
    | [_], [_], .cons hn _ => exact hn.isFunction identifier
    | _ :: _ :: _, _ :: _ :: _, _ => exact hwhole
  | _ => exact hwhole

/-- A variable is addressed only if it is one. -/
theorem isDeclarator_of_isAddressed {n : Node} (h : n.isAddressed identifier .declarator = true) :
    n.shape.isDeclarator = true := by
  have haddress : n.address? = some (.declarator, identifier) := eq_of_beq h
  unfold address? at haddress
  split at haddress
  · split at haddress
    · obtain ⟨name, -, heq⟩ := Option.map_eq_some_iff.mp haddress
      cases heq
    · cases haddress
  · next hshape _ => rw [hshape]; rfl
  · cases haddress
  · cases haddress
  · cases haddress

theorem isAddressed_element_iff {n : Node} :
    n.isAddressed identifier .element = true ↔ ∃ isClosed, n.shape = .element identifier isClosed := by
  obtain ⟨⟨shape, a, b⟩, parts⟩ := n
  cases shape <;> cases parts <;> simp [isAddressed, address?, Node.shape, Tree.value, Tree.children]

theorem isAddressed_element_node (tag : Name) (isClosed : Bool) (a b : Nat) (parts : List Node) :
    isAddressed identifier .element (.node ⟨.element tag isClosed, a, b⟩ parts) =
      (tag == identifier) := by
  rw [Bool.eq_iff_iff, isAddressed_element_iff, beq_iff_eq]
  simp [Node.shape, Tree.value]

/-! ### Exchanging parts -/

/-- Where an address is read off the parts of a node, an exchange puts one node in the place of
another, and one that makes no difference. -/
def KeepsAddresses (f : Shape → Node → Option (List Node)) : Prop :=
  ∀ shape n new, shape.readsParts = true → f shape n = some new → ∃ m, new = [m] ∧ Alike m n

section Exchange

variable {f : Shape → Node → Option (List Node)}

theorem KeepsAddresses.forall₂_exchanged (hf : KeepsAddresses f) {shape : Shape}
    (hshape : shape.readsParts = true) {parts : List Node}
    (h : ∀ n ∈ parts, (exchange f n).1.address? = n.address?) :
    List.Forall₂ Alike (parts.flatMap (exchanged f shape)) parts := by
  induction parts with
  | nil => exact .nil
  | cons n rest ih =>
    obtain ⟨hn, hrest⟩ := List.forall_mem_cons.mp h
    have hpart : ∃ m, exchanged f shape n = [m] ∧ Alike m n := by
      unfold exchanged
      cases hnew : f shape n with
      | some new => exact hf shape n new hshape hnew
      | none =>
        refine ⟨_, rfl, ?_, fun other => isAddressed_congr hn other _⟩
        rw [Node.name?, shape_exchange, ← Node.name?]
    obtain ⟨m, hm, halike⟩ := hpart
    rw [List.flatMap_cons, hm]
    exact .cons halike (ih hrest)

theorem KeepsAddresses.address?_exchange (hf : KeepsAddresses f) (n : Node) :
    (exchange f n).1.address? = n.address? := by
  induction n using Node.induction with
  | node head parts ih =>
    rw [fst_exchange]
    exact address?_congr fun hshape => List.forall₂_take 2 (hf.forall₂_exchanged hshape ih)

theorem KeepsAddresses.declaresFunction_exchange (hf : KeepsAddresses f) (identifier : Name)
    (n : Node) : declaresFunction identifier (exchange f n).1 = declaresFunction identifier n := by
  obtain ⟨head, parts⟩ := n
  rw [fst_exchange]
  exact declaresFunction_congr (fun hshape => List.forall₂_take 2
    (hf.forall₂_exchanged hshape fun n _ => hf.address?_exchange n)) identifier

end Exchange

/-! ### Substituting parts -/

/-- Where an address is read off the parts of a node, a substitution leaves the two first ones. -/
def SparesAddresses (p : Node → Nat → Bool) : Prop :=
  ∀ parent i, parent.shape.readsParts = true → i < 2 → p parent i = false

theorem sparesAddresses_isValueSlot (identifier : Name) :
    SparesAddresses (isValueSlot identifier) := by
  intro parent i _ hi
  simp [isValueSlot, show i ≠ 2 by omega]

section Substitute

variable {p : Node → Nat → Bool} {g : Node → Node}

theorem SparesAddresses.forall₂_substitute (hp : SparesAddresses p) {n : Node}
    (hshape : n.shape.readsParts = true)
    (h : ∀ part ∈ n.children, (substitute p g part).1.address? = Node.address? part) :
    List.Forall₂ Alike ((substitute p g n).1.children.take 2) (n.children.take 2) := by
  have halike (part : Node) (hpart : part ∈ n.children) : Alike (substitute p g part).1 part :=
    ⟨by rw [Node.name?, shape_substitute, ← Node.name?],
      fun other => isAddressed_congr (h part hpart) other _⟩
  rw [children_substitute]
  match hparts : n.children with
  | [] => exact .nil
  | [first] =>
    simpa [hp n 0 hshape (by omega)] using halike first (by simp [hparts])
  | first :: second :: _ =>
    simpa [hp n 0 hshape (by omega), hp n 1 hshape (by omega)] using
      And.intro (halike first (by simp [hparts])) (halike second (by simp [hparts]))

theorem SparesAddresses.address?_substitute (hp : SparesAddresses p) (n : Node) :
    (substitute p g n).1.address? = n.address? := by
  induction n using Node.induction with
  | node head parts ih =>
    exact address?_congr fun hshape => hp.forall₂_substitute (n := .node head parts) hshape ih

end Substitute

/-! ### What is found in a tree -/

theorem mem_preorder_node {head : Head} {parts : List Node} {m : Node} :
    m ∈ preorder (.node head parts) ↔ m = .node head parts ∨ ∃ n ∈ parts, m ∈ n.preorder := by
  have hparts : ∀ parts, preorderOf parts = parts.flatMap preorder := by
    intro parts
    induction parts with
    | nil => rfl
    | cons n rest ih => rw [preorderOf, ih, List.flatMap_cons]
  rw [preorder, hparts, List.mem_cons, List.mem_flatMap]

theorem mem_preorder_self (n : Node) : n ∈ n.preorder := by
  obtain ⟨head, parts⟩ := n
  exact mem_preorder_node.mpr (.inl rfl)

/-- What an identifier addresses is found among the nodes of a tree. -/
theorem mem_located {n : Node} {found : LocatedKind × Node} :
    found ∈ n.located identifier ↔
      found.2 ∈ n.preorder ∧ found.2.isAddressed identifier found.1 = true := by
  obtain ⟨kind, node⟩ := found
  simp only [located, List.mem_filterMap, isAddressed, beq_iff_eq]
  constructor
  · rintro ⟨part, hpart, h⟩
    split at h
    · next other name haddress =>
      split at h
      · next hname =>
        obtain ⟨rfl, rfl⟩ := Prod.mk.inj (Option.some.inj h)
        exact ⟨hpart, by rw [haddress, hname]⟩
      · cases h
    · cases h
  · rintro ⟨hnode, haddress⟩
    exact ⟨node, hnode, by simp [haddress]⟩

theorem holdsLocated_iff {kind : LocatedKind} {n : Node} :
    n.holdsLocated identifier kind = true ↔
      ∃ m ∈ n.preorder, m.isAddressed identifier kind = true := by
  simp only [holdsLocated, List.any_eq_true, mem_located, beq_iff_eq]
  constructor
  · rintro ⟨⟨_, m⟩, ⟨hm, haddressed⟩, rfl⟩
    exact ⟨m, hm, haddressed⟩
  · rintro ⟨m, hm, haddressed⟩
    exact ⟨(kind, m), ⟨hm, haddressed⟩, rfl⟩

end Node

end SourceEdit.Script
