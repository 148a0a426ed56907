import SourceEdit.Proofs.Script.Keyed

/-!
# What a rewriter makes of a tree

The keys that a rewriter gives to copies are of no account: `Rewriter.Makes` says what it makes of a
tree, and how many edits it counts, whichever key is the next one.  What is made of a node follows
from what is made of its parts, and of the parts from each one of them: `Rewriter.Turns` is about the
parts of a node together with what is put in their place, one lemma for a part that is taken and one
for a part that is not.  A tree none of whose nodes is taken stays as it is.
-/

namespace SourceEdit.Script.Rewriter

variable {r : Rewriter}

/-- A rewriter makes a tree of a tree, with a number of edits. -/
def Makes (r : Rewriter) (n : KeyedNode) (result : Node) (count : Nat) : Prop :=
  ∀ next, (r.walk next n).1.erase = result ∧ (r.walk next n).2.2 = count

/-- A rewriter makes trees of the trees of a forest, with a number of edits. -/
def MakesAll (r : Rewriter) (parts : List KeyedNode) (results : List Node) (count : Nat) : Prop :=
  ∀ next, (r.walkParts next parts).1.map KeyedNode.erase = results ∧
    (r.walkParts next parts).2.2 = count

/-- A rewriter makes trees of the parts of a node of a shape, which may be taken. -/
def Turns (r : Rewriter) (parent : Shape) (parts : List KeyedNode) (results : List Node)
    (count : Nat) : Prop :=
  ∀ next next', (r.walkParts next' (r.exchangeParts parent next parts).1).1.map KeyedNode.erase =
      results ∧
    (r.exchangeParts parent next parts).2.2 +
      (r.walkParts next' (r.exchangeParts parent next parts).1).2.2 = count

/-! ### Forests -/

theorem makesAll_nil : r.MakesAll [] [] 0 := fun next => by simp [walkParts]

theorem Makes.cons {n : KeyedNode} {rest : List KeyedNode} {result : Node} {results : List Node}
    {count others : Nat} (hn : r.Makes n result count) (hrest : r.MakesAll rest results others) :
    r.MakesAll (n :: rest) (result :: results) (count + others) := by
  intro next
  obtain ⟨hresult, hcount⟩ := hn next
  obtain ⟨hresults, hothers⟩ := hrest (r.walk next n).2.1
  rw [walkParts, List.map_cons]
  exact ⟨by rw [hresult, hresults], by rw [hcount, hothers]⟩

theorem Makes.singleton {n : KeyedNode} {result : Node} {count : Nat} (h : r.Makes n result count) :
    r.MakesAll [n] [result] count :=
  h.cons makesAll_nil

theorem walkParts_append (next : r.Fresh) (parts others : List KeyedNode) :
    r.walkParts next (parts ++ others) =
      ((r.walkParts next parts).1 ++ (r.walkParts (r.walkParts next parts).2.1 others).1,
        (r.walkParts (r.walkParts next parts).2.1 others).2.1,
        (r.walkParts next parts).2.2 + (r.walkParts (r.walkParts next parts).2.1 others).2.2) := by
  induction parts generalizing next with
  | nil => simp [walkParts]
  | cons n rest ih =>
    rw [List.cons_append, walkParts, ih, walkParts]
    simp [Nat.add_assoc]

/-! ### The parts of a node -/

theorem turns_nil {parent : Shape} : r.Turns parent [] [] 0 := fun next next' => by
  simp [exchangeParts, walkParts]

/-- A part that is not taken is gone into. -/
theorem Makes.turns {n : KeyedNode} {result : Node} {count : Nat} (h : r.Makes n result count)
    {parent : Shape} (htakes : r.takes parent n = false) : r.Turns parent [n] [result] count := by
  intro next next'
  have := h.singleton next'
  rw [exchangeParts, htakes]
  simpa [exchangeParts] using this

/-- What is put in the place of a part that is taken is gone into. -/
theorem turns_of_takes {parent : Shape} {n : KeyedNode} {results : List Node} {count : Nat}
    (htakes : r.takes parent n = true)
    (h : ∀ next, r.MakesAll (r.substitutes parent n next).1 results count) :
    r.Turns parent [n] results (count + 1) := by
  intro next next'
  obtain ⟨hresults, hcount⟩ := h next next'
  rw [exchangeParts, htakes]
  simp only [exchangeParts, if_true, List.append_nil]
  exact ⟨hresults, by omega⟩

theorem exchangeParts_cons (parent : Shape) (next : r.Fresh) (n : KeyedNode)
    (rest : List KeyedNode) : ∃ next', (r.exchangeParts parent next (n :: rest)).1 =
        (r.exchangeParts parent next [n]).1 ++ (r.exchangeParts parent next' rest).1 ∧
      (r.exchangeParts parent next (n :: rest)).2.2 =
        (r.exchangeParts parent next [n]).2.2 + (r.exchangeParts parent next' rest).2.2 := by
  cases htakes : r.takes parent n with
  | true =>
    exact ⟨(r.substitutes parent n next).2, by simp [exchangeParts, htakes, Nat.add_comm]⟩
  | false => exact ⟨next, by simp [exchangeParts, htakes]⟩

theorem Turns.cons {parent : Shape} {n : KeyedNode} {rest : List KeyedNode}
    {results others : List Node} {count countRest : Nat} (hn : r.Turns parent [n] results count)
    (hrest : r.Turns parent rest others countRest) :
    r.Turns parent (n :: rest) (results ++ others) (count + countRest) := by
  intro next next'
  obtain ⟨nextRest, hparts, hcount⟩ := exchangeParts_cons parent next n rest
  obtain ⟨hresults, hn⟩ := hn next next'
  obtain ⟨hothers, hrest⟩ := hrest nextRest
    (r.walkParts next' (r.exchangeParts parent next [n]).1).2.1
  rw [hparts, hcount, walkParts_append, List.map_append, hresults, hothers]
  refine ⟨rfl, ?_⟩
  dsimp only
  omega

/-- What is made of the parts of a node is made of each one of them. -/
theorem turns_flatMap {parent : Shape} {parts : List KeyedNode} {results : KeyedNode → List Node}
    {count : KeyedNode → Nat} (h : ∀ n ∈ parts, r.Turns parent [n] (results n) (count n)) :
    r.Turns parent parts (parts.flatMap results) (parts.map count).sum := by
  induction parts with
  | nil => exact turns_nil
  | cons n rest ih =>
    obtain ⟨hn, hrest⟩ := List.forall_mem_cons.mp h
    exact hn.cons (ih hrest)

theorem turns_map {parent : Shape} {parts : List KeyedNode} {result : KeyedNode → Node}
    {count : KeyedNode → Nat} (h : ∀ n ∈ parts, r.Turns parent [n] [result n] (count n)) :
    r.Turns parent parts (parts.map result) (parts.map count).sum := by
  have := turns_flatMap h
  rwa [← List.map_eq_flatMap] at this

/-! ### Nodes -/

/-- What is left of the parts of a node of a shape, without declarations that declare nothing. -/
def cleanedNodes (r : Rewriter) : Shape → List Node → List Node
  | .statements, parts =>
    if r.dropsStatements then parts.filter fun n => !n.isEmptiedStatement else parts
  | .forLoop, first :: rest => (if first.isEmptied then .absent else first) :: rest
  | _, parts => parts

theorem erase_cleaned (shape : Shape) (parts : List KeyedNode) :
    (r.cleaned shape parts).map KeyedNode.erase =
      r.cleanedNodes shape (parts.map KeyedNode.erase) := by
  unfold cleaned
  split
  · rw [cleanedNodes]
    split
    · rw [List.filter_map]
      rfl
    · rfl
  · rw [List.map_cons, cleanedNodes]
    split <;> rfl
  · next hstatements hloop =>
    unfold cleanedNodes
    split
    · next heq => exact (hstatements rfl).elim
    · next heq =>
      obtain ⟨first, rest, rfl, -⟩ := List.map_eq_cons_iff.mp heq
      exact (hloop _ _ rfl rfl).elim
    · rfl

/-- There is nothing to drop among parts that suit their shape. -/
theorem cleanedNodes_eq_self {shape : Shape} {parts : List Node} (h : shape.Settles parts) :
    r.cleanedNodes shape parts = parts := by
  unfold cleanedNodes
  split
  · split
    · exact List.filter_eq_self.mpr fun n hn => by simp [h n hn]
    · rfl
  · rw [show Node.isEmptied _ = false from h]
    rfl
  · rfl

theorem Turns.node {value : KeyedHead} {parts : List KeyedNode} {results : List Node}
    {count : Nat} (h : r.Turns value.head.shape parts results count) :
    r.Makes (.node value parts) (.node value.head (r.cleanedNodes value.head.shape results))
      count := by
  intro next
  obtain ⟨hresults, hcount⟩ := h next (r.exchangeParts value.head.shape next parts).2.1
  rw [walk, KeyedNode.erase_node, erase_cleaned, hresults]
  exact ⟨rfl, hcount⟩

/-- Nothing is dropped from a node that is settled once its parts have been made. -/
theorem Turns.node_of_settled {value : KeyedHead} {parts : List KeyedNode} {results : List Node}
    {count : Nat} (h : r.Turns value.head.shape parts results count)
    (hs : Node.Settled (.node value.head results)) :
    r.Makes (.node value parts) (.node value.head results) count := by
  have := h.node
  rwa [cleanedNodes_eq_self (Node.settled_node.mp hs).1] at this

/-! ### What is left as it is -/

/-- A tree of which nothing is taken stays as it is. -/
theorem makes_self {n : KeyedNode} (h : ∀ m ∈ n.preorder, ∀ parent, r.takes parent m = false)
    (hs : n.erase.Settled) : r.Makes n n.erase 0 := by
  induction n using Tree.induction with
  | node value parts ih =>
    rw [KeyedNode.erase_node] at hs ⊢
    have hpart (n : KeyedNode) (hn : n ∈ parts) : r.Turns value.head.shape [n] [n.erase] 0 :=
      (ih n hn (fun m hm => h m (KeyedNode.mem_preorder_of_mem hn hm))
        ((Node.settled_node.mp hs).2 _ (List.mem_map_of_mem hn))).turns
        (h n (KeyedNode.mem_preorder_of_mem hn n.mem_preorder_self) _)
    have hparts := turns_map hpart
    rw [List.map_const', List.sum_replicate_nat, Nat.mul_zero] at hparts
    exact hparts.node_of_settled hs

theorem IsNew.of_mem_preorder {n m : KeyedNode} (h : r.IsNew n) (hm : m ∈ n.preorder) :
    r.IsNew m := by
  induction n using Tree.induction with
  | node value parts ih =>
    obtain rfl | ⟨part, hpart, hm⟩ := KeyedNode.mem_preorder_node.mp hm
    · exact h
    · exact ih part hpart ((isNew_node.mp h).2 part hpart) hm

/-- What is new stays as it is. -/
theorem IsNew.makes {n : KeyedNode} (h : r.IsNew n) (hs : n.erase.Settled) :
    r.Makes n n.erase 0 :=
  makes_self (fun _ hm => (h.of_mem_preorder hm).takes) hs

/-- A copy that is put in stays as it is. -/
theorem makes_copy {n : Node} (hs : n.Settled) (next : r.Fresh) :
    r.Makes (r.copy n next).1 n 0 := by
  have herase : (r.copy n next).1.erase = n := Node.erase_keyed _ _
  have := (isNew_copy n next).makes (by rwa [herase])
  rwa [herase] at this

end SourceEdit.Script.Rewriter
