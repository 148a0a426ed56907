import SourceEdit.Script.Locate

/-!
# Trees with keys

While an edit is under way, every node has a key that no other node has.  What is located is told by
its key and not by its name: a node that is put in meanwhile has a key of its own, whatever it is
called.  Keys are numbers, given in the order of the text, and a node keeps its key when it is moved
or when its parts are exchanged.
-/

namespace SourceEdit.Script

/-- What a node with a key carries. -/
structure KeyedHead where
  head : Head
  key : Nat
deriving DecidableEq, Repr, Inhabited

/-- A syntax tree in which every node has a key. -/
abbrev KeyedNode := Tree KeyedHead

namespace Node

mutual

/-- The node with keys from `next` on, and the first key behind these. -/
def keyed (next : Nat) : Node → KeyedNode × Nat
  | .node head parts =>
    let (parts, last) := keyedParts (next + 1) parts
    (.node ⟨head, next⟩ parts, last)

/-- Nodes with keys from `next` on, and the first key behind these. -/
def keyedParts (next : Nat) : List Node → List KeyedNode × Nat
  | [] => ([], next)
  | n :: rest =>
    let (n, next) := keyed next n
    let (rest, last) := keyedParts next rest
    (n :: rest, last)

end

end Node

namespace KeyedNode

/-- The shape of a node. -/
def shape (n : KeyedNode) : Shape := n.value.head.shape

/-- The key of a node. -/
def key (n : KeyedNode) : Nat := n.value.key

mutual

/-- The node without its keys. -/
def erase : KeyedNode → Node
  | .node value parts => .node value.head (eraseParts parts)

/-- The nodes without their keys. -/
def eraseParts : List KeyedNode → List Node
  | [] => []
  | n :: rest => erase n :: eraseParts rest

end

mutual

/-- The nodes of a tree, each before its parts. -/
def preorder : KeyedNode → List KeyedNode
  | .node value parts => .node value parts :: preorderOf parts

/-- The nodes of a forest, each before its parts. -/
def preorderOf : List KeyedNode → List KeyedNode
  | [] => []
  | n :: rest => preorder n ++ preorderOf rest

end

/-- The kinds and the keys of the constructs that an identifier addresses, in the order of the text.
-/
def located (identifier : Name) (n : KeyedNode) : List (LocatedKind × Nat) :=
  n.preorder.filterMap fun part =>
    match (erase part).address? with
    | some (kind, name) => if name == identifier then some (kind, key part) else none
    | none => none

/-- The declaration that a statement is or exports. -/
def declared : KeyedNode → KeyedNode
  | .node ⟨⟨.exportDeclaration, _, _⟩, _⟩ [inner] => inner
  | .node ⟨⟨.exportDefault, _, _⟩, _⟩ [inner] => inner
  | n => n

/-! ### Keys of nodes -/

theorem mem_preorder_self (n : KeyedNode) : n ∈ n.preorder := by
  cases n
  exact List.mem_cons_self

theorem mem_preorderOf {parts : List KeyedNode} {m : KeyedNode} :
    m ∈ preorderOf parts ↔ ∃ n ∈ parts, m ∈ preorder n := by
  induction parts with
  | nil => simp [preorderOf]
  | cons n rest ih => simp [preorderOf, ih]

theorem mem_preorder_node {value : KeyedHead} {parts : List KeyedNode} {m : KeyedNode} :
    m ∈ preorder (.node value parts) ↔ m = .node value parts ∨ ∃ n ∈ parts, m ∈ preorder n := by
  rw [preorder, List.mem_cons, mem_preorderOf]

/-- The declaration that a statement is or exports is one of its nodes. -/
theorem declared_mem_preorder (n : KeyedNode) : declared n ∈ n.preorder := by
  unfold declared
  split
  · exact mem_preorder_node.mpr (.inr ⟨_, by simp, mem_preorder_self _⟩)
  · exact mem_preorder_node.mpr (.inr ⟨_, by simp, mem_preorder_self _⟩)
  · exact mem_preorder_self n

end KeyedNode

namespace Node

mutual

/-- The keys of a tree are consecutive. -/
theorem snd_keyed (next : Nat) (n : Node) : (n.keyed next).2 = next + n.size := by
  obtain ⟨head, parts⟩ := n
  simp only [keyed, snd_keyedParts, Tree.size]
  omega

theorem snd_keyedParts (next : Nat) (parts : List Node) :
    (keyedParts next parts).2 = next + Tree.sizeAll parts := by
  match parts with
  | [] => simp [keyedParts, Tree.sizeAll]
  | n :: rest =>
    simp only [keyedParts, snd_keyedParts, snd_keyed, Tree.sizeAll]
    omega

end

mutual

/-- The keys of a tree are those that it was given. -/
theorem key_of_mem_keyed {next : Nat} {n : Node} {m : KeyedNode}
    (h : m ∈ (n.keyed next).1.preorder) : next ≤ m.key ∧ m.key < (n.keyed next).2 := by
  obtain ⟨head, parts⟩ := n
  have hlast := snd_keyedParts (next + 1) parts
  simp only [keyed] at h ⊢
  obtain rfl | ⟨k, hk, hm⟩ := KeyedNode.mem_preorder_node.mp h
  · simp only [KeyedNode.key, Tree.value]
    omega
  · have := key_of_mem_keyedParts (KeyedNode.mem_preorderOf.mpr ⟨k, hk, hm⟩)
    omega

theorem key_of_mem_keyedParts {next : Nat} {parts : List Node} {m : KeyedNode}
    (h : m ∈ KeyedNode.preorderOf (keyedParts next parts).1) :
    next ≤ m.key ∧ m.key < (keyedParts next parts).2 := by
  match parts with
  | [] => cases h
  | n :: rest =>
    simp only [keyedParts] at h ⊢
    have hn := snd_keyed next n
    have hrest := snd_keyedParts (n.keyed next).2 rest
    obtain hm | hm := List.mem_append.mp h
    · have := key_of_mem_keyed hm
      omega
    · have := key_of_mem_keyedParts hm
      omega

end

mutual

/-- Giving keys to a tree leaves its size. -/
theorem size_keyed (next : Nat) (n : Node) : (n.keyed next).1.size = n.size := by
  obtain ⟨head, parts⟩ := n
  simp only [keyed, Tree.size, sizeAll_keyedParts]

theorem sizeAll_keyedParts (next : Nat) (parts : List Node) :
    Tree.sizeAll (keyedParts next parts).1 = Tree.sizeAll parts := by
  match parts with
  | [] => rfl
  | n :: rest => simp only [keyedParts, Tree.sizeAll, size_keyed, sizeAll_keyedParts]

end

end Node

end SourceEdit.Script
