import SourceEdit.Script.Keyed

/-!
# Going through a script

A `Rewriter` goes through a tree from the top.  At every node it first exchanges the parts that were
located, then goes into all parts, those that it has just put in included, and then drops
declarations that declare nothing.  What it puts in may hold constructs of the name that was looked
for, but their keys are new, so they were not located and are left as they are.  That is also why the
rewriter comes to an end: a part that is exchanged makes room for one copy of what is put in, and a
copy makes no room for another (`Rewriter.cost`).
-/

namespace SourceEdit.Script

namespace Node

/-- The value of an element that is deleted where a value is needed. -/
def null : Node := ofShape .null 0 0

/-- Whether a node is a declaration that declares no variable. -/
def isEmptied : Node → Bool
  | .node ⟨.variableList _ _, _, _⟩ [] => true
  | _ => false

/-- Whether a statement declares, or exports, no variable. -/
def isEmptiedStatement : Node → Bool
  | .node ⟨.exportDeclaration, _, _⟩ [inner] => isEmptied inner
  | n => isEmptied n

/-- An attribute with a text. -/
def attributeWith (name : Name) (text : List Char) : Node :=
  ofShape (.attribute name) 0 0 [ofShape (.attributeText text) 0 0]

end Node

namespace KeyedNode

/-! ### Parts that are exchanged -/

/-- A function in the place of an exported one is exported, too. -/
def keepExport (old new : KeyedNode) : KeyedNode :=
  match old, shape new with
  | .node ⟨⟨.exportDeclaration, a, b⟩, key⟩ _, .function _ =>
    .node ⟨⟨.exportDeclaration, a, b⟩, key⟩ [new]
  | .node ⟨⟨.exportDefault, a, b⟩, key⟩ _, .function _ => .node ⟨⟨.exportDefault, a, b⟩, key⟩ [new]
  | _, _ => new

/-- The variable with another value. -/
def withValue (old new : KeyedNode) : KeyedNode :=
  match old with
  | .node head [bound, type, _] => .node head [bound, type, new]
  | _ => old

/-- Attributes with the first one of a name overwritten, or else with a new last one. -/
def setAttribute (new : KeyedNode) : List KeyedNode → List KeyedNode
  | [] => [new]
  | n :: rest =>
    if shape n == shape new then .node n.value new.children :: rest else n :: setAttribute new rest

/-- The element with an attribute set. -/
def withAttribute (old new : KeyedNode) : KeyedNode :=
  match old with
  | .node head [arguments, .node group attributes, children] =>
    .node head [arguments, .node group (setAttribute new attributes), children]
  | _ => old

end KeyedNode

/-- What an edit does to the nodes that were located. -/
inductive Action where
  | keep
  /-- Takes functions, variables and elements away. -/
  | delete
  /-- Puts a statement in the place of functions. -/
  | replace (new : Node)
  /-- Gives variables a value. -/
  | setValue (value : Node)
  /-- Sets an attribute of elements. -/
  | setAttribute (name : Name) (text : List Char)

/-- The number of nodes that an action puts in for one that was located. -/
def Action.size : Action → Nat
  | .keep | .delete => 0
  | .replace new => new.size
  | .setValue value => value.size
  | .setAttribute name text => (Node.attributeWith name text).size

/-- An edit under way: what it does, and to which nodes. -/
structure Rewriter where
  action : Action
  /-- The nodes that were located, by their keys. -/
  found : List (LocatedKind × Nat)
  /-- The first key that no node had when they were located. -/
  limit : Nat
  found_lt : ∀ located ∈ found, located.2 < limit

namespace Rewriter

/-- Keys that no node had when the nodes were located. -/
abbrev Fresh (r : Rewriter) : Type := { key : Nat // r.limit ≤ key }

variable (r : Rewriter)

/-- Whether the node of a key was located. -/
def holds (kind : LocatedKind) (key : Nat) : Bool := r.found.contains (kind, key)

/-- A copy of a node, with new keys. -/
def copy (n : Node) (next : r.Fresh) : KeyedNode × r.Fresh :=
  ((n.keyed next.1).1, ⟨(n.keyed next.1).2, by rw [Node.snd_keyed]; have := next.2; omega⟩)

/-! ### Exchanging parts -/

/-- Whether a part of a node of a shape is exchanged for others. An element that is the value of an
attribute is not deleted. -/
def takes (parent : Shape) (part : KeyedNode) : Bool :=
  match r.action with
  | .keep => false
  | .delete =>
    match parent with
    | .statements => r.holds .function part.declared.key
    | .variableList .. => r.holds .declarator part.key
    | .attribute _ => false
    | _ => r.holds .element part.key
  | .replace _ => parent == .statements && r.holds .function part.declared.key
  | .setValue _ => parent matches .variableList .. && r.holds .declarator part.key
  | .setAttribute .. => r.holds .element part.key

/-- What is put in the place of a part of a node of a shape. -/
def substitutes (parent : Shape) (part : KeyedNode) (next : r.Fresh) : List KeyedNode × r.Fresh :=
  match r.action with
  | .keep => ([part], next)
  | .delete =>
    match parent with
    | .statements | .variableList .. | .children => ([], next)
    | _ =>
      let (null, next) := r.copy .null next
      ([null], next)
  | .replace new =>
    let (new, next) := r.copy new next
    ([part.keepExport new], next)
  | .setValue value =>
    let (value, next) := r.copy value next
    ([part.withValue value], next)
  | .setAttribute name text =>
    let (new, next) := r.copy (.attributeWith name text) next
    ([part.withAttribute new], next)

/-- Exchanges those parts of a node of a shape that were located, and counts them. -/
def exchangeParts (parent : Shape) (next : r.Fresh) :
    List KeyedNode → List KeyedNode × r.Fresh × Nat
  | [] => ([], next, 0)
  | n :: rest =>
    if r.takes parent n then
      let (new, next) := r.substitutes parent n next
      let (rest, next, count) := exchangeParts parent next rest
      (new ++ rest, next, count + 1)
    else
      let (rest, next, count) := exchangeParts parent next rest
      (n :: rest, next, count)

/-! ### The end of the way -/

mutual

/-- The number of nodes of a tree and of those that may be put in. -/
def cost : KeyedNode → Nat
  | .node value parts => costOfParts value.head.shape parts + 1

/-- The number of nodes of the parts of a node of a shape and of those that may be put in. -/
def costOfParts (parent : Shape) : List KeyedNode → Nat
  | [] => 0
  | n :: rest => cost n + (if r.takes parent n then r.action.size else 0) + costOfParts parent rest

end

/-- The number of nodes of a forest and of those that may be put in below its roots. -/
def costAll : List KeyedNode → Nat
  | [] => 0
  | n :: rest => r.cost n + costAll rest

variable {r}

theorem holds_of_le {key : Nat} (h : r.limit ≤ key) (kind : LocatedKind) :
    r.holds kind key = false := by
  rw [holds, List.contains_eq_mem, decide_eq_false_iff_not]
  intro hfound
  have := r.found_lt _ hfound
  omega

/-- All nodes of a tree have keys that no node had when the nodes were located. -/
def IsNew (r : Rewriter) (n : KeyedNode) : Prop := ∀ m ∈ n.preorder, r.limit ≤ m.key

theorem isNew_node {value : KeyedHead} {parts : List KeyedNode} :
    r.IsNew (.node value parts) ↔ r.limit ≤ value.key ∧ ∀ n ∈ parts, r.IsNew n := by
  constructor
  · exact fun h => ⟨h _ (KeyedNode.mem_preorder_self _), fun n hn m hm =>
      h m (KeyedNode.mem_preorder_node.mpr (.inr ⟨n, hn, hm⟩))⟩
  · rintro ⟨hvalue, hparts⟩ m hm
    obtain rfl | ⟨n, hn, hm⟩ := KeyedNode.mem_preorder_node.mp hm
    · exact hvalue
    · exact hparts n hn m hm

theorem isNew_copy (n : Node) (next : r.Fresh) : r.IsNew (r.copy n next).1 := fun _ hm =>
  Nat.le_trans next.2 (Node.key_of_mem_keyed hm).1

/-- What is new is not taken. -/
theorem IsNew.takes {part : KeyedNode} (h : r.IsNew part) (parent : Shape) :
    r.takes parent part = false := by
  have hpart (kind : LocatedKind) : r.holds kind part.key = false :=
    holds_of_le (h _ (KeyedNode.mem_preorder_self part)) kind
  have hdeclared (kind : LocatedKind) : r.holds kind part.declared.key = false :=
    holds_of_le (h _ (KeyedNode.declared_mem_preorder part)) kind
  unfold Rewriter.takes
  split
  · rfl
  · split <;> simp [hpart, hdeclared]
  · simp [hdeclared]
  · simp [hpart]
  · simp [hpart]

mutual

/-- What is new makes no room for anything else. -/
theorem IsNew.cost {n : KeyedNode} (h : r.IsNew n) : r.cost n = n.size := by
  match n with
  | .node value parts =>
    rw [Rewriter.cost, IsNew.costOfParts (isNew_node.mp h).2, Tree.size]

theorem IsNew.costOfParts {parent : Shape} {parts : List KeyedNode} (h : ∀ n ∈ parts, r.IsNew n) :
    r.costOfParts parent parts = Tree.sizeAll parts := by
  match parts with
  | [] => rfl
  | n :: rest =>
    obtain ⟨hn, hrest⟩ := List.forall_mem_cons.mp h
    rw [Rewriter.costOfParts, IsNew.cost hn, IsNew.costOfParts hrest, hn.takes, Tree.sizeAll]
    simp

end

theorem cost_copy (n : Node) (next : r.Fresh) : r.cost (r.copy n next).1 = n.size := by
  rw [(isNew_copy n next).cost, copy, Node.size_keyed]

theorem cost_pos (n : KeyedNode) : 0 < r.cost n := by
  cases n
  exact Nat.succ_pos _

theorem costAll_append (parts others : List KeyedNode) :
    r.costAll (parts ++ others) = r.costAll parts + r.costAll others := by
  induction parts with
  | nil => simp [costAll]
  | cons n rest ih => simp only [List.cons_append, costAll, ih]; omega

theorem cost_keepExport_le (old : KeyedNode) {new : KeyedNode} (hnew : r.IsNew new) :
    r.cost (old.keepExport new) ≤ r.cost new + 1 := by
  have hwrapper (value : KeyedHead) : r.cost (.node value [new]) = r.cost new + 1 := by
    simp [cost, costOfParts, hnew.takes]
  unfold KeyedNode.keepExport
  split
  · exact Nat.le_of_eq (hwrapper _)
  · exact Nat.le_of_eq (hwrapper _)
  · omega

theorem cost_withValue_le (old : KeyedNode) {new : KeyedNode} (hnew : r.IsNew new) :
    r.cost (old.withValue new) ≤ r.cost old + r.cost new := by
  unfold KeyedNode.withValue
  split
  · simp only [cost, costOfParts, hnew.takes]
    simp
    omega
  · omega

/-- An attribute that is overwritten or added makes room for nothing in its elements. -/
theorem costOfParts_setAttribute_le (parent : Shape) {new : KeyedNode} (hnew : r.IsNew new)
    {name : Name} {text : List Char} (haction : r.action = .setAttribute name text)
    (attributes : List KeyedNode) :
    r.costOfParts parent (new.setAttribute attributes) ≤
      r.costOfParts parent attributes + r.cost new := by
  induction attributes with
  | nil => simp [KeyedNode.setAttribute, costOfParts, hnew.takes]
  | cons n rest ih =>
    rw [KeyedNode.setAttribute]
    split
    · -- an element is taken by its key, which an attribute keeps when it is overwritten
      obtain ⟨value, parts⟩ := n
      obtain ⟨newValue, newParts⟩ := new
      have htakes (others : List KeyedNode) :
          r.takes parent (.node value others) = r.holds .element value.key := by
        simp [takes, haction, KeyedNode.key, Tree.value]
      have hcost (shape : Shape) : r.costOfParts shape newParts = Tree.sizeAll newParts :=
        IsNew.costOfParts (isNew_node.mp hnew).2
      simp only [costOfParts, Tree.value, Tree.children, htakes, cost, hcost]
      omega
    · simp only [costOfParts]
      omega

theorem cost_withAttribute_le (old : KeyedNode) {new : KeyedNode} (hnew : r.IsNew new)
    {name : Name} {text : List Char} (haction : r.action = .setAttribute name text) :
    r.cost (old.withAttribute new) ≤ r.cost old + r.cost new := by
  unfold KeyedNode.withAttribute
  split
  · next head arguments group attributes children =>
    have hgroup (others : List KeyedNode) :
        r.takes head.head.shape (.node group others) = r.holds .element group.key := by
      simp [takes, haction, KeyedNode.key, Tree.value]
    have := costOfParts_setAttribute_le group.head.shape hnew haction attributes
    simp only [cost, costOfParts, hgroup]
    omega
  · omega

/-- What is put in the place of a part holds no more than the part and what it makes room for. -/
theorem costAll_substitutes_le (parent : Shape) (part : KeyedNode) (next : r.Fresh) :
    r.costAll (r.substitutes parent part next).1 ≤ r.cost part + r.action.size := by
  have hpos := r.cost_pos part
  unfold substitutes
  split
  · next haction => simp [costAll]
  · next haction =>
    have hnull : r.cost (r.copy .null next).1 = 1 := cost_copy ..
    split <;> simp only [costAll, hnull] <;> omega
  · next new haction =>
    have := r.cost_keepExport_le part (isNew_copy new next)
    simp only [costAll, haction, Action.size, cost_copy] at this ⊢
    omega
  · next value haction =>
    have := cost_withValue_le part (isNew_copy value next)
    simp only [costAll, haction, Action.size, cost_copy] at this ⊢
    omega
  · next name text haction =>
    have := cost_withAttribute_le part (isNew_copy (.attributeWith name text) next) haction
    simp only [costAll, haction, Action.size, cost_copy] at this ⊢
    omega

theorem costAll_exchangeParts_le (parent : Shape) (next : r.Fresh) (parts : List KeyedNode) :
    r.costAll (r.exchangeParts parent next parts).1 ≤ r.costOfParts parent parts := by
  induction parts generalizing next with
  | nil => simp [exchangeParts, costAll]
  | cons n rest ih =>
    rw [exchangeParts]
    split
    · next htakes =>
      have hnew := costAll_substitutes_le parent n next
      have hrest := ih (r.substitutes parent n next).2
      simp only [costAll_append, costOfParts, htakes, if_true]
      omega
    · have hrest := ih next
      simp only [costAll, costOfParts]
      omega

/-! ### Going through a tree -/

/-- Whether emptied statements are dropped, which they are if variables are deleted. -/
def dropsStatements (r : Rewriter) : Bool :=
  r.action matches .delete && r.found.any (·.1 == .declarator)

/-- Drops the declarations among the parts of a node of a shape that declare nothing. -/
def cleaned (r : Rewriter) (parent : Shape) (parts : List KeyedNode) : List KeyedNode :=
  match parent, parts with
  | .statements, parts =>
    if r.dropsStatements then parts.filter fun n => !(KeyedNode.erase n).isEmptiedStatement
    else parts
  | .forLoop, first :: rest =>
    if (KeyedNode.erase first).isEmptied then .node ⟨⟨.absent, 0, 0⟩, KeyedNode.key first⟩ [] :: rest
    else first :: rest
  | _, parts => parts

mutual

/-- Goes through a tree and counts the edits made. -/
def walk (r : Rewriter) (next : r.Fresh) : KeyedNode → KeyedNode × r.Fresh × Nat
  | .node value parts =>
    let exchanged := r.exchangeParts value.head.shape next parts
    let walked := walkParts r exchanged.2.1 exchanged.1
    (.node value (r.cleaned value.head.shape walked.1), walked.2.1, exchanged.2.2 + walked.2.2)
termination_by n => 2 * r.cost n
decreasing_by
  have := costAll_exchangeParts_le value.head.shape next parts
  simp only [cost]
  omega

/-- Goes through the trees of a forest. -/
def walkParts (r : Rewriter) (next : r.Fresh) : List KeyedNode → List KeyedNode × r.Fresh × Nat
  | [] => ([], next, 0)
  | n :: rest =>
    let walked := walk r next n
    let others := walkParts r walked.2.1 rest
    (walked.1 :: others.1, others.2.1, walked.2.2 + others.2.2)
termination_by parts => 2 * r.costAll parts + 1
decreasing_by
  · simp only [costAll]
    omega
  · have := r.cost_pos n
    simp only [costAll]
    omega

end

end Rewriter

end SourceEdit.Script
