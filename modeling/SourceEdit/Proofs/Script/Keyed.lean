import SourceEdit.Proofs.Script.Address

/-!
# Nodes that are told by their keys

A tree that was given keys is the tree itself when they are taken away again, and no two of its nodes
have the same one (`Node.key_injective_keyed`).  So a rewriter that starts knows the nodes of a tree:
it holds the key of a node exactly if the identifier addresses the node (`Rewriter.knows_start`).
-/

namespace SourceEdit.Script

namespace KeyedNode

/-! ### Taking keys away -/

theorem eraseParts_eq_map (parts : List KeyedNode) : eraseParts parts = parts.map erase := by
  induction parts with
  | nil => rfl
  | cons n rest ih => rw [eraseParts, ih, List.map_cons]

theorem erase_node (value : KeyedHead) (parts : List KeyedNode) :
    erase (.node value parts) = .node value.head (parts.map erase) := by
  rw [erase, eraseParts_eq_map]

theorem shape_erase (n : KeyedNode) : (erase n).shape = n.shape := by
  obtain ⟨value, parts⟩ := n
  rfl

theorem erase_declared (n : KeyedNode) : erase n.declared = (erase n).declared := by
  obtain ⟨⟨⟨shape, a, b⟩, key⟩, parts⟩ := n
  cases shape with
  | exportDeclaration | exportDefault =>
    match parts with
    | [] | [_] | _ :: _ :: _ => rfl
  | _ => rfl

/-- A part of a node with a part of its own is a node of the tree. -/
theorem mem_preorder_of_mem {value : KeyedHead} {parts : List KeyedNode} {n m : KeyedNode}
    (hn : n ∈ parts) (hm : m ∈ n.preorder) : m ∈ preorder (.node value parts) :=
  mem_preorder_node.mpr (.inr ⟨n, hn, hm⟩)

/-- The nodes of a tree are still there when their keys are taken away. -/
theorem preorder_erase (n : KeyedNode) : (erase n).preorder = n.preorder.map erase := by
  induction n using Tree.induction with
  | node value parts ih =>
    rw [erase, Node.preorder, preorder, List.map_cons, erase]
    congr 1
    clear value
    induction parts with
    | nil => rfl
    | cons n rest ihrest =>
      obtain ⟨hn, hrest⟩ := List.forall_mem_cons.mp ih
      rw [eraseParts, Node.preorderOf, preorderOf, List.map_append, hn, ihrest hrest]

/-- What is found by its key has been addressed. -/
theorem mem_located {identifier : Name} {n : KeyedNode} {kind : LocatedKind} {key : Nat} :
    (kind, key) ∈ n.located identifier ↔
      ∃ m ∈ n.preorder, m.key = key ∧ (erase m).isAddressed identifier kind = true := by
  simp only [located, List.mem_filterMap, Node.isAddressed, beq_iff_eq]
  constructor
  · rintro ⟨m, hm, h⟩
    split at h
    · next other name haddress =>
      split at h
      · next hname =>
        obtain ⟨rfl, rfl⟩ := Prod.mk.inj (Option.some.inj h)
        exact ⟨m, hm, rfl, by rw [haddress, hname]⟩
      · cases h
    · cases h
  · rintro ⟨m, hm, rfl, haddress⟩
    exact ⟨m, hm, by simp [haddress]⟩

end KeyedNode

namespace Node

mutual

/-- A tree that is given keys is the same tree. -/
theorem erase_keyed (next : Nat) (n : Node) : (n.keyed next).1.erase = n := by
  obtain ⟨head, parts⟩ := n
  rw [keyed, KeyedNode.erase, eraseParts_keyedParts]

theorem eraseParts_keyedParts (next : Nat) (parts : List Node) :
    KeyedNode.eraseParts (keyedParts next parts).1 = parts := by
  match parts with
  | [] => rfl
  | n :: rest =>
    simp only [keyedParts, KeyedNode.eraseParts, erase_keyed, eraseParts_keyedParts]

end

mutual

/-- No two nodes of a tree are given the same key. -/
theorem key_injective_keyed {next : Nat} {n : Node} {m m' : KeyedNode}
    (hm : m ∈ (n.keyed next).1.preorder) (hm' : m' ∈ (n.keyed next).1.preorder)
    (h : m.key = m'.key) : m = m' := by
  obtain ⟨head, parts⟩ := n
  -- the root has the first key, and its parts have keys behind it
  have hpart {k : KeyedNode} (hk : k ∈ KeyedNode.preorderOf (keyedParts (next + 1) parts).1) :
      next < k.key := (key_of_mem_keyedParts hk).1
  simp only [keyed, KeyedNode.preorder, List.mem_cons] at hm hm'
  obtain rfl | hm := hm
  · obtain rfl | hm' := hm'
    · rfl
    · exact absurd h (Nat.ne_of_lt (hpart hm'))
  · obtain rfl | hm' := hm'
    · exact absurd h (Nat.ne_of_gt (hpart hm))
    · exact key_injective_keyedParts hm hm' h

theorem key_injective_keyedParts {next : Nat} {parts : List Node} {m m' : KeyedNode}
    (hm : m ∈ KeyedNode.preorderOf (keyedParts next parts).1)
    (hm' : m' ∈ KeyedNode.preorderOf (keyedParts next parts).1) (h : m.key = m'.key) : m = m' := by
  match parts with
  | [] => cases hm
  | n :: rest =>
    -- the keys of the parts behind the first one are those that it left
    have hapart {k k' : KeyedNode} (hk : k ∈ (n.keyed next).1.preorder)
        (hk' : k' ∈ KeyedNode.preorderOf (keyedParts (n.keyed next).2 rest).1) : k.key < k'.key :=
      Nat.lt_of_lt_of_le (key_of_mem_keyed hk).2 (key_of_mem_keyedParts hk').1
    simp only [keyedParts, KeyedNode.preorderOf, List.mem_append] at hm hm'
    obtain hm | hm := hm
    · obtain hm' | hm' := hm'
      · exact key_injective_keyed hm hm' h
      · exact absurd h (Nat.ne_of_lt (hapart hm hm'))
    · obtain hm' | hm' := hm'
      · exact absurd h (Nat.ne_of_gt (hapart hm' hm))
      · exact key_injective_keyedParts hm hm' h

end

end Node

namespace Rewriter

/-- A rewriter holds exactly the keys of those nodes of a tree that an identifier addresses. -/
def Knows (r : Rewriter) (identifier : Name) (n : KeyedNode) : Prop :=
  ∀ m ∈ n.preorder, ∀ kind, r.holds kind m.key = m.erase.isAddressed identifier kind

variable {r : Rewriter} {identifier : Name}

theorem Knows.self {n : KeyedNode} (h : r.Knows identifier n) (kind : LocatedKind) :
    r.holds kind n.key = n.erase.isAddressed identifier kind :=
  h n n.mem_preorder_self kind

theorem Knows.part {value : KeyedHead} {parts : List KeyedNode} {n : KeyedNode}
    (h : r.Knows identifier (.node value parts)) (hn : n ∈ parts) : r.Knows identifier n :=
  fun m hm => h m (KeyedNode.mem_preorder_of_mem hn hm)

/-- The function that a statement declares is known by its key. -/
theorem Knows.declaresFunction {n : KeyedNode} (h : r.Knows identifier n) :
    r.holds .function n.declared.key = n.erase.declaresFunction identifier := by
  rw [h _ n.declared_mem_preorder, KeyedNode.erase_declared, Node.declaresFunction]

/-- A rewriter that starts knows the nodes of its tree. -/
theorem knows_start (action : Action) (identifier : Name) (n : Node) :
    (start action identifier n).Knows identifier (n.keyed 0).1 := by
  intro m hm kind
  rw [Bool.eq_iff_iff, holds, List.contains_iff_mem]
  refine KeyedNode.mem_located.trans ⟨?_, fun haddressed => ⟨m, hm, rfl, haddressed⟩⟩
  rintro ⟨m', hm', hkey, haddressed⟩
  exact Node.key_injective_keyed hm' hm hkey ▸ haddressed

/-- If a rewriter that takes away knows a variable of a tree, it drops emptied statements. -/
theorem Knows.isAddressed_of_not_dropsStatements {n : KeyedNode} (h : r.Knows identifier n)
    (haction : r.action = .delete) (hdrops : r.dropsStatements = false) :
    ∀ m ∈ n.erase.preorder, m.isAddressed identifier .declarator = false := by
  rw [KeyedNode.preorder_erase]
  intro m hm
  obtain ⟨k, hk, rfl⟩ := List.mem_map.mp hm
  rw [← h k hk .declarator, holds, List.contains_eq_mem, decide_eq_false_iff_not]
  intro hfound
  have : r.dropsStatements = true := by
    rw [dropsStatements, haction]
    exact List.any_eq_true.mpr ⟨_, hfound, rfl⟩
  exact Bool.false_ne_true (hdrops.symm.trans this)

end Rewriter

end SourceEdit.Script
