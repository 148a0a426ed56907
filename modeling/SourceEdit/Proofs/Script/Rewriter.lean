import SourceEdit.Proofs.Script.DeclaresOnly
import SourceEdit.Proofs.Script.Furnished
import SourceEdit.Proofs.Script.Walk

/-!
# A rewriter edits in one pass

A rewriter goes into everything that it puts in, and tells what it has to edit by keys; an edit in
one pass goes into nothing that it puts in, and tells what it has to edit by names.  They come to the
same for each of the four actions, by induction on the tree: a part is taken exactly if its name is
found (`Rewriter.Knows`), and what is put in stays as it is, whatever it declares, because its keys
are new (`Rewriter.makes_copy`).
-/

namespace SourceEdit.Script.Rewriter

variable {r : Rewriter} {identifier : Name}

/-! ### Deletions -/

/-- The declarations that a deletion drops are those that it has emptied. -/
theorem cleanedNodes_withoutEmptied (shape : Shape) (parts : List Node)
    (h : r.dropsStatements = false → shape = .statements →
      ∀ n ∈ parts, n.isEmptiedStatement = false) :
    r.cleanedNodes shape (parts.map Node.withoutEmptied) = Node.leftParts shape parts := by
  have hparts : (parts.map Node.withoutEmptied).filter (fun n => !n.isEmptiedStatement) =
      (parts.filter fun n => !n.isEmptiedStatement).map Node.withoutEmptied := by
    rw [List.filter_map]
    exact congrArg _ (List.filter_congr fun n _ => by
      rw [Function.comp_apply, Node.isEmptiedStatement_withoutEmptied])
  unfold Node.leftParts
  split
  · rw [List.map_cons, cleanedNodes, Node.isEmptied_withoutEmptied]
  · rw [cleanedNodes, hparts]
    split
    · rfl
    · next hdrops =>
      rw [List.filter_eq_self.mpr]
      exact fun n hn => by simp [h (Bool.eq_false_iff.mpr hdrops) rfl n hn]
  · next hstatements hloop =>
    unfold cleanedNodes
    split
    · exact (hstatements rfl).elim
    · next heq =>
      obtain ⟨first, rest, rfl, -⟩ := List.map_eq_cons_iff.mp heq
      exact (hloop _ _ rfl rfl).elim
    · rfl

section Delete

variable (haction : r.action = .delete)
include haction

/-- A part is taken away if its name is found. -/
theorem takes_of_delete {n : KeyedNode} (h : r.Knows identifier n) (parent : Shape) :
    r.takes parent n = (Node.deletion identifier parent n.erase).isSome := by
  have hfound (b : Bool) (new : List Node) : b = (if b then some new else none).isSome := by
    cases b <;> rfl
  simp only [takes, haction, Node.deletion, h.self, h.declaresFunction]
  split <;> split <;> first | exact hfound _ _ | simp_all

/-- What is put in the place of a part that is taken away stays as it is. -/
theorem makesAll_of_delete {parent : Shape} {n : Node} {new : List Node}
    (hnew : Node.deletion identifier parent n = some new) (part : KeyedNode) (next : r.Fresh) :
    r.MakesAll (r.substitutes parent part next).1 new 0 := by
  have hsettled : Node.null.Settled := .of_no_parts trivial
  have hnull := (makes_copy hsettled next).singleton
  have heq {b : Bool} {found : List Node} (h : (if b then some found else none) = some new) :
      new = found := by
    split at h
    · exact (Option.some.inj h).symm
    · cases h
  simp only [substitutes, haction]
  unfold Node.deletion at hnew
  split at hnew
  case h_4 => cases hnew
  case h_5 =>
    rw [heq hnew]
    split <;> first | exact hnull | simp_all
  all_goals
    rw [heq hnew]
    exact makesAll_nil

/-- What a deletion makes of a part, before it drops declarations from it. -/
theorem turns_of_delete {parent : Shape} {n : KeyedNode} (h : r.Knows identifier n)
    (ih : r.Makes n (Node.deleteNamed identifier n.erase).1
      (Node.deleteNamed identifier n.erase).2) :
    r.Turns parent [n]
      ((Node.exchanged (Node.deletion identifier) parent n.erase).map Node.withoutEmptied)
      (Node.exchangedCount (Node.deletion identifier) parent n.erase) := by
  have htakes := takes_of_delete haction h parent
  cases hnew : Node.deletion identifier parent n.erase with
  | none =>
    rw [hnew] at htakes
    simpa [Node.exchanged, Node.exchangedCount, hnew, Node.deleteNamed] using ih.turns htakes
  | some new =>
    rw [hnew] at htakes
    have hkept : new.map Node.withoutEmptied = new := by
      have hnull : ∀ m ∈ new, m.withoutEmptied = m := fun m hm => by
        rw [Node.eq_null_of_mem_deletion hnew hm]
        rfl
      rw [List.map_congr_left hnull, List.map_id']
    have := turns_of_takes htakes (makesAll_of_delete haction hnew n)
    simpa [Node.exchanged, Node.exchangedCount, hnew, hkept] using this

/-- A rewriter that takes away deletes what has the name. -/
theorem makes_deleteNamed {n : KeyedNode} (h : r.Knows identifier n) (hs : n.erase.Settled) :
    r.Makes n (Node.deleteNamed identifier n.erase).1
      (Node.deleteNamed identifier n.erase).2 := by
  induction n using Tree.induction with
  | node value parts ih =>
    rw [KeyedNode.erase_node] at hs
    obtain ⟨hsettles, hsettled⟩ := Node.settled_node.mp hs
    have hturns : r.Turns value.head.shape parts _ _ := turns_flatMap fun n hn =>
      turns_of_delete haction (h.part hn) (ih n hn (h.part hn) (hsettled _ (List.mem_map_of_mem hn)))
    -- statements are dropped only where a declaration may have been emptied
    have hdrops (hnone : r.dropsStatements = false) (hshape : value.head.shape = .statements) :
        ∀ n ∈ (parts.map KeyedNode.erase).flatMap
          (Node.exchanged (Node.deletion identifier) value.head.shape),
          n.isEmptiedStatement = false := by
      intro m hm
      obtain ⟨n, hn, hm⟩ := List.mem_flatMap.mp hm
      obtain ⟨part, hpart, rfl⟩ := List.mem_map.mp hn
      obtain ⟨new, hnew, hm⟩ | ⟨-, rfl⟩ := Node.mem_exchanged hm
      · rw [Node.eq_null_of_mem_deletion hnew hm]
        rfl
      · rw [Node.isEmptiedStatement_exchange]
        rw [hshape] at hsettles
        exact Node.statesOnly_eq_false
          ((h.part hpart).isAddressed_of_not_dropsStatements haction hnone) (hsettles _ hn)
    have hnode := hturns.node
    rw [← List.map_flatMap, ← List.flatMap_map, cleanedNodes_withoutEmptied _ _ hdrops] at hnode
    rw [KeyedNode.erase_node, Node.fst_deleteNamed, Node.snd_deleteNamed, List.map_map]
    exact hnode

end Delete

/-! ### One node for another -/

section Substitute

variable {p : Node → Nat → Bool} {g : Node → Node}

/-- A part that is found is substituted, and one that is not is gone into. -/
theorem turns_substituteParts {parent : Node} {i : Nat} {parts : List KeyedNode}
    (h : ∀ j n, parts[j]? = some n → r.Turns parent.shape [n]
      [if p parent (i + j) then g n.erase else (Node.substitute p g n.erase).1]
      (if p parent (i + j) then 1 else (Node.substitute p g n.erase).2)) :
    r.Turns parent.shape parts
      (Node.substituteParts p g parent i (parts.map KeyedNode.erase)).1
      (Node.substituteParts p g parent i (parts.map KeyedNode.erase)).2 := by
  induction parts generalizing i with
  | nil => exact turns_nil
  | cons n rest ih =>
    have hrest := ih (i := i + 1) fun j m hm => by
      rw [Nat.add_right_comm]
      exact h (j + 1) m hm
    have hparts := (h 0 n rfl).cons hrest
    rw [List.map_cons, Node.substituteParts]
    cases hfound : p parent i with
    | true => simpa [hfound, Nat.add_comm] using hparts
    | false => simpa [hfound] using hparts

theorem makes_substitute {value : KeyedHead} {parts : List KeyedNode}
    (h : ∀ i n, parts[i]? = some n → r.Turns value.head.shape [n]
      [if p (KeyedNode.erase (.node value parts)) i then g n.erase
        else (Node.substitute p g n.erase).1]
      (if p (KeyedNode.erase (.node value parts)) i then 1
        else (Node.substitute p g n.erase).2))
    (hs : (Node.substitute p g (KeyedNode.erase (.node value parts))).1.Settled) :
    r.Makes (.node value parts)
      (Node.substitute p g (KeyedNode.erase (.node value parts))).1
      (Node.substitute p g (KeyedNode.erase (.node value parts))).2 := by
  rw [KeyedNode.erase_node] at h hs ⊢
  have hturns := @turns_substituteParts r p g (.node value.head (parts.map KeyedNode.erase)) 0 parts
    fun i n hn => by
      rw [Nat.zero_add]
      exact h i n hn
  exact hturns.node_of_settled hs

end Substitute

/-! ### Replacements -/

/-- A function takes the place of an exported one inside the export. -/
theorem keepExport_eq (old new : KeyedNode) :
    (∃ value, old.keepExport new = .node value [new] ∧
        Node.keepExport old.erase new.erase = .node value.head [new.erase]) ∨
      old.keepExport new = new ∧ Node.keepExport old.erase new.erase = new.erase := by
  obtain ⟨⟨⟨shape, a, b⟩, key⟩, parts⟩ := old
  have hshape := KeyedNode.shape_erase new
  by_cases hfunction : ∃ head, new.shape = .function head
  · obtain ⟨head, hhead⟩ := hfunction
    rw [hhead] at hshape
    cases shape with
    | exportDeclaration =>
      exact .inl ⟨⟨⟨.exportDeclaration, a, b⟩, key⟩, by simp only [KeyedNode.keepExport, hhead],
        by simp only [KeyedNode.erase_node, Node.keepExport, hshape]⟩
    | exportDefault =>
      exact .inl ⟨⟨⟨.exportDefault, a, b⟩, key⟩, by simp only [KeyedNode.keepExport, hhead],
        by simp only [KeyedNode.erase_node, Node.keepExport, hshape]⟩
    | _ => exact .inr ⟨rfl, rfl⟩
  · have hnone : ¬∃ head, new.erase.shape = .function head := hshape ▸ hfunction
    refine .inr ⟨?_, ?_⟩
    · unfold KeyedNode.keepExport
      split
      · next heq => exact (hfunction ⟨_, heq⟩).elim
      · next heq => exact (hfunction ⟨_, heq⟩).elim
      · rfl
    · unfold Node.keepExport
      split
      · next heq => exact (hnone ⟨_, heq⟩).elim
      · next heq => exact (hnone ⟨_, heq⟩).elim
      · rfl

section Replace

variable {new : Node} (haction : r.action = .replace new) (hnew : IsSound new)
include haction hnew

/-- What is put in the place of a function stays as it is. -/
theorem makesAll_of_replace (part : KeyedNode) (parent : Shape) (next : r.Fresh) :
    r.MakesAll (r.substitutes parent part next).1 [Node.keepExport part.erase new] 0 := by
  have hfits := Node.keepExport_fits hnew part.erase
  have hcopy := makes_copy (Node.fits_of_isSound hnew).settled next
  have herase : (r.copy new next).1.erase = new := Node.erase_keyed _ _
  simp only [substitutes, haction]
  refine Makes.singleton ?_
  obtain ⟨value, hkept, hnode⟩ | ⟨hkept, hsame⟩ := keepExport_eq part (r.copy new next).1
  · rw [herase] at hnode
    rw [hkept, hnode]
    exact (hcopy.turns ((isNew_copy new next).takes _)).node_of_settled (hnode ▸ hfits.settled)
  · rw [herase] at hsame
    rw [hkept, hsame]
    exact hcopy

/-- A rewriter that puts a statement in replaces the functions that have the name. -/
theorem makes_replaceFunctions {n : KeyedNode} (h : r.Knows identifier n) (hs : n.erase.Settled) :
    r.Makes n (Node.replaceFunctions identifier new n.erase).1
      (Node.replaceFunctions identifier new n.erase).2 := by
  induction n using Tree.induction with
  | node value parts ih =>
    refine makes_substitute (fun i n hn => ?_)
      ((Node.replaceFunctions_follows hnew identifier _).settled hs)
    have hmem := List.mem_of_getElem? hn
    rw [KeyedNode.erase_node] at hs ⊢
    have htakes : r.takes value.head.shape n = Node.isFunctionSlot identifier
        (.node value.head (parts.map KeyedNode.erase)) i := by
      simp [takes, haction, Node.isFunctionSlot, Node.shape, Tree.value, Tree.children, hn,
        (h.part hmem).declaresFunction]
    cases hfound : Node.isFunctionSlot identifier (.node value.head (parts.map KeyedNode.erase)) i with
    | true => exact turns_of_takes (htakes.trans hfound) (makesAll_of_replace haction hnew n _)
    | false =>
      exact (ih n hmem (h.part hmem) ((Node.settled_node.mp hs).2 _ (List.mem_map_of_mem hmem))).turns
        (htakes.trans hfound)

end Replace

/-! ### Nodes that are edited and gone into -/

/-- A node is gone into; or, if it is taken, what is put in its place is, and counts as one edit more.
-/
def Edits (r : Rewriter) (isTaken : Bool) (put : r.Fresh → KeyedNode) (n : KeyedNode)
    (result : Node × Nat) : Prop :=
  if isTaken then ∃ count, result.2 = count + 1 ∧ ∀ next, r.Makes (put next) result.1 count
  else r.Makes n result.1 result.2

theorem Makes.edits {n : KeyedNode} {result : Node × Nat} (h : r.Makes n result.1 result.2)
    (put : r.Fresh → KeyedNode) : r.Edits false put n result := h

theorem Edits.turns {isTaken : Bool} {put : r.Fresh → KeyedNode} {n : KeyedNode}
    {result : Node × Nat} (h : r.Edits isTaken put n result) {parent : Shape}
    (htakes : r.takes parent n = isTaken)
    (hput : ∀ next, (r.substitutes parent n next).1 = [put next]) :
    r.Turns parent [n] [result.1] result.2 := by
  cases isTaken with
  | true =>
    obtain ⟨count, hcount, hmakes⟩ := h
    rw [hcount]
    refine turns_of_takes htakes fun next => ?_
    rw [hput]
    exact (hmakes next).singleton
  | false => exact Makes.turns h htakes

/-! ### Values of variables -/

section SetValue

variable {new : Node} (haction : r.action = .setValue new) (hnew : IsSound new)

/-- The value of a variable of the name is substituted, and its other parts are gone into. -/
theorem setValues_declarator {head : Head} {bound type old : Node}
    (h : Node.isAddressed identifier .declarator (.node head [bound, type, old]) = true) :
    Node.setValues identifier new (.node head [bound, type, old]) =
      (.node head [(Node.setValues identifier new bound).1, (Node.setValues identifier new type).1,
        new], (Node.setValues identifier new bound).2 + ((Node.setValues identifier new type).2 + 1)) := by
  simp [Node.setValues, Node.substitute, Node.substituteParts, Node.isValueSlot, h]

include haction in
/-- A part is given a value if it is a variable of the name in a declaration. -/
theorem takes_of_setValue {n : KeyedNode} (h : r.Knows identifier n) (parent : Shape) :
    r.takes parent n =
      (parent.isVariableList && n.erase.isAddressed identifier .declarator) := by
  simp only [takes, haction, h.self]
  cases parent <;> rfl

include haction hnew in
/-- A rewriter gives the variables of the name a value. -/
theorem edits_setValues {n : KeyedNode} (h : r.Knows identifier n) (hs : n.erase.Settled)
    (hplaced : n.erase.Placed) (hfurnished : n.erase.Everywhere Shape.Furnishes) :
    r.Edits (n.erase.isAddressed identifier .declarator)
      (fun next => n.withValue (r.copy new next).1) n (Node.setValues identifier new n.erase) := by
  induction n using Tree.induction with
  | node value parts ih =>
    have hsettled := (Node.setValues_follows hnew identifier _).settled hs
    rw [KeyedNode.erase_node] at hs hplaced hfurnished
    have hmem {n : KeyedNode} (hn : n ∈ parts) : n.erase ∈ parts.map KeyedNode.erase :=
      List.mem_map_of_mem hn
    -- a variable stands in a declaration, where it is taken
    have hpart {n : KeyedNode} (hn : n ∈ parts) : r.Turns value.head.shape [n]
        [(Node.setValues identifier new n.erase).1] (Node.setValues identifier new n.erase).2 := by
      refine (ih n hn (h.part hn) ((Node.settled_node.mp hs).2 _ (hmem hn))
        ((Node.placed_node.mp hplaced).2 _ (hmem hn))
        ((Node.everywhere_node.mp hfurnished).2 _ (hmem hn))).turns ?_ fun next => ?_
      · rw [takes_of_setValue haction (h.part hn)]
        cases haddressed : n.erase.isAddressed identifier .declarator with
        | false => exact Bool.and_false _
        | true =>
          rw [(Node.placed_node.mp hplaced).1 _ (hmem hn)
            (Node.isDeclarator_of_isAddressed haddressed)]
          rfl
      · simp only [substitutes, haction]
    cases haddressed : (KeyedNode.erase (.node value parts)).isAddressed identifier .declarator with
    | false =>
      refine (makes_substitute (fun i n hn => ?_) hsettled).edits _
      rw [Node.isValueSlot, haddressed]
      exact hpart (List.mem_of_getElem? hn)
    | true =>
      rw [KeyedNode.erase_node] at haddressed hsettled ⊢
      obtain ⟨_, _, _, hparts⟩ := (Node.everywhere_node.mp hfurnished).1.declarator
        (Node.isDeclarator_of_isAddressed haddressed)
      obtain ⟨bound, type, old, rfl⟩ := List.length_eq_three.mp
        ((List.length_map _).symm.trans (congrArg List.length hparts))
      rw [List.map_cons, List.map_cons, List.map_singleton] at haddressed hsettled ⊢
      rw [setValues_declarator haddressed] at hsettled ⊢
      refine ⟨_, (Nat.add_assoc _ _ 1).symm, fun next => ?_⟩
      have hcopy := (makes_copy (Node.fits_of_isSound hnew).settled next).turns
        ((isNew_copy new next).takes value.head.shape)
      exact Turns.node_of_settled
        ((hpart (by simp)).cons ((hpart (by simp)).cons hcopy)) hsettled

end SetValue

/-! ### Attributes of elements -/

section SetAttribute

variable {name : Name} {text : List Char} (haction : r.action = .setAttribute name text)
include haction

/-- An element is taken by its key, whatever its parts are. -/
theorem takes_of_setAttribute {value : KeyedHead} {parts : List KeyedNode}
    (h : r.Knows identifier (.node value parts)) (parent : Shape) (others : List KeyedNode) :
    r.takes parent (.node value others) =
      (KeyedNode.erase (.node value parts)).isAddressed identifier .element := by
  rw [← h.self]
  simp only [takes, haction]
  rfl

/-- An attribute that is overwritten holds the new value, and nothing else in it is edited. -/
theorem turns_overwritten {value : KeyedHead} {parts : List KeyedNode}
    (h : r.Knows identifier (.node value parts)) (hattribute : value.head.shape = .attribute name)
    (parent : Shape) (next : r.Fresh) :
    r.Turns parent [.node value (r.copy (Node.attributeWith name text) next).1.children]
      [.node value.head [Node.ofShape (.attributeText text) 0 0]] 0 := by
  have hnone : (KeyedNode.erase (.node value parts)).isAddressed identifier .element = false := by
    rw [Bool.eq_false_iff, Ne, Node.isAddressed_element_iff, KeyedNode.shape_erase]
    rintro ⟨isClosed, hshape⟩
    cases hattribute.symm.trans hshape
  have hsettled : (Node.ofShape (.attributeText text) 0 0).Settled := .of_no_parts trivial
  let behind : r.Fresh := ⟨next.1 + 1, Nat.le_succ_of_le next.2⟩
  have hparts := (makes_copy hsettled behind).turns
    ((isNew_copy _ behind).takes value.head.shape)
  refine (hparts.node_of_settled ?_).turns ((takes_of_setAttribute haction h parent _).trans hnone)
  rw [Node.settled_node, hattribute]
  exact ⟨trivial, List.forall_mem_singleton.mpr hsettled⟩

/-- The first attribute of the name is overwritten, or a new one is put behind the others, and the
others are gone into. -/
theorem turns_setAttribute (hattribute : (Node.attributeWith name text).Settled)
    {parent : Shape} {attributes : List KeyedNode}
    (hknows : ∀ n ∈ attributes, r.Knows identifier n)
    (h : ∀ n ∈ attributes, r.Turns parent [n]
      [(Node.setAttributes identifier name (Node.ofShape (.attributeText text) 0 0) n.erase).1]
      (Node.setAttributes identifier name (Node.ofShape (.attributeText text) 0 0) n.erase).2)
    (next : r.Fresh) :
    r.Turns parent ((r.copy (Node.attributeWith name text) next).1.setAttribute attributes)
      (Node.setAttributesOfParts identifier name (.ofShape (.attributeText text) 0 0) true
        (attributes.map KeyedNode.erase)).1
      (Node.setAttributesOfParts identifier name (.ofShape (.attributeText text) 0 0) true
        (attributes.map KeyedNode.erase)).2 := by
  have hnew := isNew_copy (Node.attributeWith name text) next
  induction attributes with
  | nil => exact (makes_copy hattribute next).turns (hnew.takes parent)
  | cons n rest ih =>
    obtain ⟨hn, hrest⟩ := List.forall_mem_cons.mp h
    obtain ⟨hknows, hknowsRest⟩ := List.forall_mem_cons.mp hknows
    have hshape : (KeyedNode.shape n == KeyedNode.shape (r.copy (.attributeWith name text) next).1) =
        n.erase.isAttribute name := by
      rw [Node.isAttribute, KeyedNode.shape_erase]
      rfl
    rw [KeyedNode.setAttribute, hshape, List.map_cons]
    cases hsame : n.erase.isAttribute name with
    | true =>
      rw [if_pos rfl, Node.setAttributesOfParts_of_isAttribute hsame, Node.setAttributesOfParts_false,
        List.map_map, List.map_map]
      -- the attribute that is there is overwritten, and the others are gone into
      obtain ⟨value, parts⟩ := n
      have hattribute : value.head.shape = .attribute name := eq_of_beq hsame
      have hturns := (turns_overwritten haction hknows hattribute parent next).cons (turns_map hrest)
      rw [Nat.zero_add] at hturns
      exact hturns
    | false =>
      rw [if_neg Bool.false_ne_true, Node.setAttributesOfParts_of_not_isAttribute hsame]
      exact hn.cons (ih hknowsRest hrest)

/-- An element with the attribute set is gone into, but for what the attribute held. -/
theorem makes_withAttribute {value group : KeyedHead} {arguments children : KeyedNode}
    {attributes : List KeyedNode} {newArguments newChildren : Node × Nat}
    (harguments : r.Turns value.head.shape [arguments] [newArguments.1] newArguments.2)
    (hattributes : ∀ n ∈ attributes, r.Turns group.head.shape [n]
      [(Node.setAttributes identifier name (Node.ofShape (.attributeText text) 0 0) n.erase).1]
      (Node.setAttributes identifier name (Node.ofShape (.attributeText text) 0 0) n.erase).2)
    (hchildren : r.Turns value.head.shape [children] [newChildren.1] newChildren.2)
    (hknows : r.Knows identifier (.node group attributes)) (hgroup : group.head.shape = .group)
    (hsettled : Node.Settled (.node value.head [newArguments.1,
      .node group.head (Node.setAttributesOfParts identifier name
        (Node.ofShape (.attributeText text) 0 0) true (attributes.map KeyedNode.erase)).1,
      newChildren.1]))
    (next : r.Fresh) :
    r.Makes (KeyedNode.withAttribute (.node value [arguments, .node group attributes, children])
        (r.copy (Node.attributeWith name text) next).1)
      (.node value.head [newArguments.1,
        .node group.head (Node.setAttributesOfParts identifier name
          (Node.ofShape (.attributeText text) 0 0) true (attributes.map KeyedNode.erase)).1,
        newChildren.1])
      (newArguments.2 + ((Node.setAttributesOfParts identifier name
        (Node.ofShape (.attributeText text) 0 0) true (attributes.map KeyedNode.erase)).2 +
        newChildren.2)) := by
  have hattribute : (Node.attributeWith name text).Settled :=
    Node.settled_node.mpr ⟨trivial, List.forall_mem_singleton.mpr (.of_no_parts trivial)⟩
  have hnone : (KeyedNode.erase (.node group attributes)).isAddressed identifier .element = false := by
    rw [Bool.eq_false_iff, Ne, Node.isAddressed_element_iff, KeyedNode.shape_erase]
    rintro ⟨isClosed, hshape⟩
    cases hgroup.symm.trans hshape
  have hparts := turns_setAttribute haction hattribute (fun n hn => hknows.part hn) hattributes next
  -- the group is no element itself, so it is walked through as any other part
  have hmiddle := (hparts.node_of_settled ((Node.settled_node.mp hsettled).2 _ (by simp))).turns
    ((takes_of_setAttribute haction hknows value.head.shape _).trans hnone)
  exact (harguments.cons (hmiddle.cons hchildren)).node_of_settled hsettled

/-- A rewriter sets an attribute of the elements of the name. -/
theorem edits_setAttributes {n : KeyedNode} (h : r.Knows identifier n) (hs : n.erase.Settled)
    (hfurnished : n.erase.Everywhere Shape.Furnishes) :
    r.Edits (n.erase.isAddressed identifier .element)
        (fun next => n.withAttribute (r.copy (Node.attributeWith name text) next).1) n
        (Node.setAttributes identifier name (.ofShape (.attributeText text) 0 0) n.erase) ∧
      ∀ part ∈ n.children, ∀ parent, r.Turns parent [part]
        [(Node.setAttributes identifier name (.ofShape (.attributeText text) 0 0)
          (KeyedNode.erase part)).1]
        (Node.setAttributes identifier name (.ofShape (.attributeText text) 0 0)
          (KeyedNode.erase part)).2 := by
  induction n using Tree.induction with
  | node value parts ih =>
    have hsettled := (Node.setAttributes_follows (Node.wellFormed_attributeText text) rfl identifier
      name _).settled hs
    rw [KeyedNode.erase_node] at hs hfurnished
    have hmem {n : KeyedNode} (hn : n ∈ parts) : n.erase ∈ parts.map KeyedNode.erase :=
      List.mem_map_of_mem hn
    have hedits {n : KeyedNode} (hn : n ∈ parts) := ih n hn (h.part hn)
      ((Node.settled_node.mp hs).2 _ (hmem hn)) ((Node.everywhere_node.mp hfurnished).2 _ (hmem hn))
    have hpart (n : KeyedNode) (hn : n ∈ parts) (parent : Shape) : r.Turns parent [n]
        [(Node.setAttributes identifier name (.ofShape (.attributeText text) 0 0) n.erase).1]
        (Node.setAttributes identifier name (.ofShape (.attributeText text) 0 0) n.erase).2 := by
      -- a part is not an attribute that is set here, so it is edited on its own
      refine (hedits hn).1.turns ?_ fun next => ?_
      · obtain ⟨value, others⟩ := n
        exact takes_of_setAttribute haction (h.part hn) parent others
      · simp only [substitutes, haction]
    refine ⟨?_, hpart⟩
    cases haddressed : (KeyedNode.erase (.node value parts)).isAddressed identifier .element with
    | false =>
      refine Makes.edits ?_ _
      rw [KeyedNode.erase_node] at haddressed hsettled ⊢
      rw [Node.setAttributes_of_not_addressed hfurnished haddressed, List.map_map, List.map_map]
        at hsettled ⊢
      exact (turns_map fun n hn => hpart n hn _).node_of_settled hsettled
    | true =>
      rw [KeyedNode.erase_node] at haddressed hsettled ⊢
      -- the attribute is set before the walk goes into the element
      obtain ⟨isClosed, a, b, _, _, _, hnode, hgroup⟩ := Node.exists_element hfurnished haddressed
      obtain ⟨head, key⟩ := value
      obtain ⟨rfl, hparts⟩ := Tree.node.inj hnode
      obtain ⟨arguments, ⟨group, attributes⟩, children, rfl⟩ := List.length_eq_three.mp
        ((List.length_map _).symm.trans (congrArg List.length hparts))
      obtain ⟨-, rfl, -⟩ : _ ∧ _ = _ ∧ _ := by simpa using hparts
      have hmiddle : .node group attributes ∈ [arguments, .node group attributes, children] := by simp
      rw [List.map_cons, List.map_cons, List.map_singleton, KeyedNode.erase_node,
        Node.setAttributes_element, beq_self_eq_true, if_pos rfl] at hsettled ⊢
      refine ⟨_, ?_, makes_withAttribute haction (hpart _ (by simp) _)
        (fun n hn => (hedits hmiddle).2 n hn _) (hpart _ (by simp) _) (h.part hmiddle) hgroup hsettled⟩
      simp only [Nat.add_assoc, Nat.add_comm 1]
      rfl

end SetAttribute

end SourceEdit.Script.Rewriter
