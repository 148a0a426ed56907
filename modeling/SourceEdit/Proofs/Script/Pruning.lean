import Mathlib.Data.List.Forall2
import SourceEdit.Proofs.Script.Emptied

/-!
# What a deletion takes away

`Node.Pruned` says of two trees that one is the other without the functions, variables and elements
of a name, and lists what was taken away.  A function goes from a list of statements, with its
export; a variable from its declaration; an element from its siblings, or it gives way to `null`.
With its last variable a declaration goes as well, if it is a statement of a list, exported or not,
or the start of a `for` loop.  Every other part stays, pruned itself: also a declaration that stands
elsewhere, without its variables (`Program.declaration_of_deletion_body`).

A deletion prunes a settled tree and counts what it takes away (`Node.pruned_deleteNamed`): one part
first (`Node.prunedParts_step`), then all parts of a node.  Two properties are proved of
`Node.Pruned` alone, along its rules.  What is taken away was located, each node once
(`Node.Pruned.sublist_located`), and every node that neither is located nor stands inside such a
node is still there, in the same order (`Node.Pruned.exists_survivors`).
-/

namespace SourceEdit.Script

namespace Node

variable {identifier : Name}

/-! ### Trees without what a name addresses -/

/-- Whether a part of a node of a shape goes, or gives way to `null`. -/
def isGone (identifier : Name) (shape : Shape) (n : Node) : Bool :=
  match shape with
  | .statements => n.declaresFunction identifier || n.statesOnly identifier
  | .variableList .. => n.isAddressed identifier .declarator
  | .attribute _ => false
  | _ => n.isAddressed identifier .element

/-- Whether a node is a `for` loop that starts with a declaration of variables of a name only. -/
def startsOnly (identifier : Name) : Node → Bool
  | .node ⟨.forLoop, _, _⟩ (first :: _) => declaresOnly identifier first
  | _ => false

mutual

/-- The second tree is the first one without what a name addresses; the list holds what was taken
away. -/
inductive Pruned (identifier : Name) : Node → Node → List Node → Prop
  | node {head : Head} {parts left removed : List Node} :
      startsOnly identifier (.node head parts) = false →
      PrunedParts identifier head.shape parts left removed →
      Pruned identifier (.node head parts) (.node head left) removed
  /-- A loop loses the declaration that it starts with. -/
  | loop {a b : Nat} {first : Node} {rest left removed : List Node} :
      first.declaresOnly identifier = true → first.children ≠ [] →
      PrunedParts identifier .forLoop rest left removed →
      Pruned identifier (.node ⟨.forLoop, a, b⟩ (first :: rest))
        (.node ⟨.forLoop, a, b⟩ (absent :: left)) (first.children ++ removed)

/-- What is left of the parts of a node of a shape, and what was taken away. -/
inductive PrunedParts (identifier : Name) : Shape → List Node → List Node → List Node → Prop
  | nil {shape : Shape} : PrunedParts identifier shape [] [] []
  | kept {shape : Shape} {n m : Node} {parts left inner removed : List Node} :
      isGone identifier shape n = false → Pruned identifier n m inner →
      PrunedParts identifier shape parts left removed →
      PrunedParts identifier shape (n :: parts) (m :: left) (inner ++ removed)
  /-- A function goes with its export. -/
  | function {n : Node} {parts left removed : List Node} :
      n.declaresFunction identifier = true →
      PrunedParts identifier .statements parts left removed →
      PrunedParts identifier .statements (n :: parts) left (declared n :: removed)
  /-- A declaration goes with its variables. -/
  | declaration {n : Node} {parts left removed : List Node} :
      n.statesOnly identifier = true → (declared n).children ≠ [] →
      PrunedParts identifier .statements parts left removed →
      PrunedParts identifier .statements (n :: parts) left ((declared n).children ++ removed)
  | declarator {shape : Shape} {n : Node} {parts left removed : List Node} :
      shape.isVariableList = true → n.isAddressed identifier .declarator = true →
      PrunedParts identifier shape parts left removed →
      PrunedParts identifier shape (n :: parts) left (n :: removed)
  | child {n : Node} {parts left removed : List Node} :
      n.isAddressed identifier .element = true →
      PrunedParts identifier .children parts left removed →
      PrunedParts identifier .children (n :: parts) left (n :: removed)
  /-- An element that is an expression gives way to `null`. -/
  | expression {shape : Shape} {n : Node} {parts left removed : List Node} :
      shape.isList = false → (∀ name, shape ≠ .attribute name) →
      n.isAddressed identifier .element = true →
      PrunedParts identifier shape parts left removed →
      PrunedParts identifier shape (n :: parts) (null :: left) (n :: removed)

end

/-- The second tree is the first one without what a name addresses. -/
def PrunesTo (identifier : Name) (n m : Node) : Prop := ∃ removed, Pruned identifier n m removed

/-! ### What is taken away -/

/-- Whether a node is found under a name. -/
def isNamed (identifier : Name) (n : Node) : Bool :=
  n.address?.any fun address => address.2 == identifier

theorem isNamed_of_isAddressed {kind : LocatedKind} {n : Node}
    (h : n.isAddressed identifier kind = true) : n.isNamed identifier = true := by
  rw [isNamed, eq_of_beq h]
  exact beq_self_eq_true identifier

theorem map_snd_located (identifier : Name) (n : Node) :
    (n.located identifier).map (·.2) = n.preorder.filter (isNamed identifier) := by
  rw [located, List.map_filterMap]
  induction n.preorder with
  | nil => rfl
  | cons k ks ih =>
    rw [List.filterMap_cons, List.filter_cons, ih, isNamed]
    cases k.address? with
    | none => simp
    | some address => by_cases hname : address.2 = identifier <;> simp [hname]

/-- What is taken away was located, each node once. -/
theorem Pruned.sublist_located {n m : Node} {removed : List Node}
    (h : Pruned identifier n m removed) :
    removed.Sublist ((n.located identifier).map (·.2)) := by
  have hnamed {part whole : List Node} (hsub : part.Sublist whole)
      (hpart : ∀ k ∈ part, isNamed identifier k = true) :
      part.Sublist (whole.filter (isNamed identifier)) := by
    rw [← List.filter_eq_self.mpr hpart]
    exact hsub.filter _
  have hone {n k : Node} {kind : LocatedKind} (hk : k ∈ n.preorder)
      (haddressed : k.isAddressed identifier kind = true) :
      [k].Sublist (n.preorder.filter (isNamed identifier)) :=
    hnamed (List.singleton_sublist.mpr hk)
      (List.forall_mem_singleton.mpr (isNamed_of_isAddressed haddressed))
  have hall {n : Node} (h : n.declaresOnly identifier = true) :
      n.children.Sublist (n.preorder.filter (isNamed identifier)) :=
    hnamed (children_sublist_preorder n) fun v hv =>
      isNamed_of_isAddressed (isAddressed_of_declaresOnly h v hv)
  have happend {n : Node} {parts inner removed : List Node}
      (hinner : inner.Sublist (n.preorder.filter (isNamed identifier)))
      (hremoved : removed.Sublist ((preorderOf parts).filter (isNamed identifier))) :
      (inner ++ removed).Sublist ((preorderOf (n :: parts)).filter (isNamed identifier)) := by
    rw [preorderOf, List.filter_append]
    exact hinner.append hremoved
  rw [map_snd_located]
  -- along the rules; what is found in parts is what is found in one after the other
  induction h using Pruned.rec
    (motive_2 := fun _ parts _ removed _ =>
      removed.Sublist ((preorderOf parts).filter (isNamed identifier))) with
  | node _ _ ih => exact ih.trans ((List.sublist_cons_self _ _).filter _)
  | loop honly _ _ ih =>
    exact (happend (hall honly) ih).trans ((List.sublist_cons_self _ _).filter _)
  | nil => exact .slnil
  | kept _ _ _ ihn ih => exact happend ihn ih
  | @function n _ _ _ hfunction _ ih =>
    have hmem : declared n ∈ n.preorder :=
      (preorder_declared_sublist n).subset (mem_preorder_self _)
    exact happend (hone hmem hfunction) ih
  | @declaration n _ _ _ hstates _ _ ih =>
    have hvariables := hall (declaresOnly_declared hstates)
    exact happend (hvariables.trans ((preorder_declared_sublist n).filter _)) ih
  | declarator _ haddressed _ ih => exact happend (hone (mem_preorder_self _) haddressed) ih
  | child haddressed _ ih => exact happend (hone (mem_preorder_self _) haddressed) ih
  | expression _ _ haddressed _ ih => exact happend (hone (mem_preorder_self _) haddressed) ih

/-! ### What is still there -/

/-- Whether a node is located as something that a deletion removes, or declares such nodes only. -/
def isAffected (identifier : Name) (n : Node) : Bool :=
  n.declaresFunction identifier || n.statesOnly identifier ||
    n.isAddressed identifier .declarator || n.isAddressed identifier .element

mutual

/-- A node and the nodes below it that neither are affected nor stand inside an affected node, each
before its parts. -/
def survivors (identifier : Name) : Node → List Node
  | .node head parts => .node head parts :: survivorsOf identifier parts

/-- The nodes of a forest that neither are affected nor stand inside an affected node. -/
def survivorsOf (identifier : Name) : List Node → List Node
  | [] => []
  | n :: ns =>
    (if isAffected identifier n then [] else survivors identifier n) ++ survivorsOf identifier ns

end

theorem survivorsOf_cons {n : Node} (h : isAffected identifier n = true) (parts : List Node) :
    survivorsOf identifier (n :: parts) = survivorsOf identifier parts := by
  rw [survivorsOf, if_pos h, List.nil_append]

/-- Every node that neither is affected nor stands inside an affected node is still there, pruned,
and they stand in the same order. -/
theorem Pruned.exists_survivors {n m : Node} {removed : List Node}
    (h : Pruned identifier n m removed) :
    ∃ left, left.Sublist m.preorder ∧
      List.Forall₂ (PrunesTo identifier) (survivors identifier n) left := by
  induction h using Pruned.rec
    (motive_2 := fun _ parts left _ _ => ∃ others, others.Sublist (preorderOf left) ∧
      List.Forall₂ (PrunesTo identifier) (survivorsOf identifier parts) others) with
  | node hstart hparts ih =>
    obtain ⟨others, hsub, hleft⟩ := ih
    exact ⟨_, hsub.cons_cons _, .cons ⟨_, .node hstart hparts⟩ hleft⟩
  | @loop a b first rest left removed honly hne hparts ih =>
    obtain ⟨others, hsub, hleft⟩ := ih
    have haffected : isAffected identifier first = true := by
      simp [isAffected, statesOnly_of_declaresOnly honly]
    refine ⟨_, (hsub.trans (List.sublist_append_right absent.preorder _)).cons_cons _, ?_⟩
    rw [survivors, survivorsOf_cons haffected]
    exact .cons ⟨_, .loop honly hne hparts⟩ hleft
  | nil => exact ⟨[], .slnil, .nil⟩
  | @kept shape n m parts left _ _ _ _ _ ihn ih =>
    obtain ⟨others, hsub, hleft⟩ := ih
    cases haffected : isAffected identifier n with
    | true =>
      -- a part may be affected and stay, as an element that is the value of an attribute does
      rw [survivorsOf_cons haffected]
      exact ⟨others, hsub.trans (List.sublist_append_right m.preorder _), hleft⟩
    | false =>
      obtain ⟨left, hsubn, hleftn⟩ := ihn
      rw [survivorsOf, if_neg (Bool.eq_false_iff.mp haffected)]
      exact ⟨left ++ others, hsubn.append hsub, List.rel_append hleftn hleft⟩
  | function hfunction _ ih =>
    rwa [survivorsOf_cons (by simp [isAffected, hfunction])]
  | declaration hstates _ _ ih => rwa [survivorsOf_cons (by simp [isAffected, hstates])]
  | declarator _ haddressed _ ih => rwa [survivorsOf_cons (by simp [isAffected, haddressed])]
  | child haddressed _ ih => rwa [survivorsOf_cons (by simp [isAffected, haddressed])]
  | expression _ _ haddressed _ ih =>
    obtain ⟨others, hsub, hleft⟩ := ih
    rw [survivorsOf_cons (by simp [isAffected, haddressed])]
    exact ⟨others, hsub.trans (List.sublist_append_right null.preorder _), hleft⟩

/-! ### What a deletion leaves and counts -/

/-- The edits that an exchange makes in the place of a part of a node of a shape. -/
def editsOf (f : Shape → Node → Option (List Node)) (shape : Shape) (n : Node) : Nat :=
  if (f shape n).isSome then 1 else (exchange f n).2

theorem snd_exchangeParts_cons (f : Shape → Node → Option (List Node)) (shape : Shape) (n : Node)
    (parts : List Node) : (exchangeParts f shape (n :: parts)).2 =
      editsOf f shape n + (exchangeParts f shape parts).2 := by
  rw [exchangeParts, editsOf]
  cases f shape n with
  | some new => exact Nat.add_comm _ _
  | none => rfl

theorem withoutEmptiedParts_append (areStatements : Bool) (parts others : List Node) :
    withoutEmptiedParts areStatements (parts ++ others) =
      withoutEmptiedParts areStatements parts ++ withoutEmptiedParts areStatements others := by
  simp only [withoutEmptiedParts_eq, List.filter_append, List.map_append]

/-- A deletion counts the variables of a declaration that it empties. -/
theorem snd_exchange_of_declaresOnly {n : Node} (h : n.declaresOnly identifier = true) :
    (exchange (deletion identifier) n).2 = n.children.length := by
  have hvariables := isAddressed_of_declaresOnly h
  obtain ⟨⟨shape, a, b⟩, parts⟩ := n
  obtain ⟨kind, isDeclare, hshape⟩ := shape_of_declaresOnly h
  obtain rfl : shape = .variableList kind isDeclare := hshape
  change (exchangeParts (deletion identifier) (.variableList kind isDeclare) parts).2 = parts.length
  change ∀ v ∈ parts, isAddressed identifier .declarator v = true at hvariables
  clear h
  induction parts with
  | nil => rfl
  | cons v rest ih =>
    obtain ⟨hv, hrest⟩ := List.forall_mem_cons.mp hvariables
    rw [snd_exchangeParts_cons, ih hrest, editsOf, deletion, if_pos hv, List.length_cons]
    exact Nat.add_comm _ _

theorem snd_exchange_of_statesOnly {n : Node} (h : n.statesOnly identifier = true) :
    (exchange (deletion identifier) n).2 = (declared n).children.length := by
  rw [← snd_exchange_of_declaresOnly (declaresOnly_declared h)]
  obtain ⟨⟨shape, a, b⟩, parts⟩ := n
  obtain honly | ⟨hshape, inner, rfl, hinner⟩ := statesOnly_node.mp h
  · rw [declared_of_declaresOnly honly]
  · obtain rfl : shape = .exportDeclaration := hshape
    have hstays : deletion identifier .exportDeclaration inner = none :=
      deletion_of_declaresOnly hinner rfl
    change (exchangeParts (deletion identifier) .exportDeclaration [inner]).2 = _
    rw [snd_exchangeParts_cons, editsOf, hstays]
    rfl

/-- What goes is what an exchange finds, or a statement that the exchange empties. -/
theorem isGone_eq (identifier : Name) (shape : Shape) (n : Node) :
    isGone identifier shape n = ((deletion identifier shape n).isSome ||
      (shape == .statements && n.statesOnly identifier)) := by
  have hisSome (found : Bool) (new : List Node) :
      found = (if found = true then some new else none).isSome := by cases found <;> rfl
  unfold isGone deletion
  cases shape with
  | statements => exact congrArg (· || statesOnly identifier n) (hisSome _ _)
  | _ => first | exact (hisSome _ _).trans (Bool.or_false _).symm | rfl

/-- A part that an exchange finds is taken away itself. -/
theorem prunedParts_found {shape : Shape} {n : Node} {parts left removed new : List Node}
    (hnew : deletion identifier shape n = some new)
    (hparts : PrunedParts identifier shape parts left removed) :
    ∃ k, PrunedParts identifier shape (n :: parts)
      (withoutEmptiedParts (shape == .statements) new ++ left) (k :: removed) := by
  cases hlist : shape.isList with
  | false =>
    obtain ⟨helement, rfl⟩ := isAddressed_of_deletion hlist hnew
    have hattribute (name : Name) : shape ≠ .attribute name := by
      rintro rfl
      cases hnew
    have hstatements : (shape == .statements) = false := by
      cases shape <;> first | rfl | cases hlist
    rw [hstatements]
    exact ⟨n, .expression hlist hattribute helement hparts⟩
  | true =>
    -- nothing takes the place of what goes from a list
    unfold deletion at hnew
    cases shape with
    | statements =>
      obtain ⟨hfunction, heq⟩ := Option.ite_none_right_eq_some.mp hnew
      cases heq
      exact ⟨declared n, .function hfunction hparts⟩
    | variableList =>
      obtain ⟨haddressed, heq⟩ := Option.ite_none_right_eq_some.mp hnew
      cases heq
      exact ⟨n, .declarator rfl haddressed hparts⟩
    | children =>
      obtain ⟨helement, heq⟩ := Option.ite_none_right_eq_some.mp hnew
      cases heq
      exact ⟨n, .child helement hparts⟩
    | _ => cases hlist

/-- What is left of one part comes before what is left of the others, and so does what is taken
away. -/
theorem prunedParts_step {shape : Shape} {n : Node} {parts left removed : List Node}
    (hsettles : shape = .statements → isEmptiedStatement n = false)
    (hn : ∃ inner, Pruned identifier n (deleteNamed identifier n).1 inner ∧
      (deleteNamed identifier n).2 = inner.length)
    (hparts : PrunedParts identifier shape parts left removed) :
    ∃ here, PrunedParts identifier shape (n :: parts)
        (withoutEmptiedParts (shape == .statements) (exchanged (deletion identifier) shape n) ++
          left) (here ++ removed) ∧
      editsOf (deletion identifier) shape n = here.length := by
  have hgone := isGone_eq identifier shape n
  cases hnew : deletion identifier shape n with
  | some new =>
    rw [editsOf, exchanged, hnew]
    obtain ⟨k, hpruned⟩ := prunedParts_found hnew hparts
    exact ⟨[k], hpruned, rfl⟩
  | none =>
    -- the part is gone into, and then dropped if this has emptied it
    rw [editsOf, exchanged, hnew]
    rw [hnew, Option.isSome_none, Bool.false_or] at hgone
    have hstates := isEmptiedStatement_exchange identifier n
    cases hdropped : shape == .statements && n.statesOnly identifier with
    | true =>
      obtain ⟨hshape, hdrop⟩ := Bool.and_eq_true_iff.mp hdropped
      obtain rfl : shape = .statements := eq_of_beq hshape
      have hnone : withoutEmptiedParts true [(exchange (deletion identifier) n).1] = [] := by
        simp [withoutEmptiedParts, hstates, hdrop]
      rw [Option.getD_none, beq_self_eq_true, hnone, List.nil_append]
      exact ⟨_, .declaration hdrop (children_declared_ne_nil hdrop (hsettles rfl)) hparts,
        snd_exchange_of_statesOnly hdrop⟩
    | false =>
      obtain ⟨inner, hpruned, hcount⟩ := hn
      have hone : withoutEmptiedParts (shape == .statements)
          [(exchange (deletion identifier) n).1] = [(deleteNamed identifier n).1] := by
        simp [withoutEmptiedParts, hstates, hdropped, deleteNamed]
      rw [Option.getD_none, hone]
      exact ⟨inner, .kept (hgone.trans hdropped) hpruned hparts, hcount⟩

/-- What is left of all parts, and the edits that are counted. -/
theorem prunedParts_deletion {shape : Shape} {parts : List Node}
    (hsettles : shape = .statements → ∀ n ∈ parts, isEmptiedStatement n = false)
    (ih : ∀ n ∈ parts, ∃ inner, Pruned identifier n (deleteNamed identifier n).1 inner ∧
      (deleteNamed identifier n).2 = inner.length) :
    ∃ removed, PrunedParts identifier shape parts
      (withoutEmptiedParts (shape == .statements)
        (parts.flatMap (exchanged (deletion identifier) shape))) removed ∧
      (exchangeParts (deletion identifier) shape parts).2 = removed.length := by
  induction parts with
  | nil => exact ⟨[], .nil, rfl⟩
  | cons n rest ihrest =>
    obtain ⟨hn, hrest⟩ := List.forall_mem_cons.mp ih
    obtain ⟨removed, hparts, hcount⟩ :=
      ihrest (fun hshape => (List.forall_mem_cons.mp (hsettles hshape)).2) hrest
    obtain ⟨here, hpruned, hcountn⟩ :=
      prunedParts_step (fun hshape => hsettles hshape n (by simp)) hn hparts
    refine ⟨here ++ removed, ?_, ?_⟩
    · rw [List.flatMap_cons, withoutEmptiedParts_append]
      exact hpruned
    · rw [snd_exchangeParts_cons, hcountn, hcount, List.length_append]

theorem exists_of_startsOnly {head : Head} {parts : List Node}
    (h : startsOnly identifier (.node head parts) = true) : head.shape = .forLoop ∧
      ∃ first rest, parts = first :: rest ∧ declaresOnly identifier first = true := by
  unfold startsOnly at h
  split at h
  · next heq =>
    cases heq
    exact ⟨rfl, _, _, rfl, h⟩
  · cases h

/-- What is left of the parts of a node that is no loop with a start to drop. -/
theorem leftParts_deletion {head : Head} {parts : List Node}
    (h : startsOnly identifier (.node head parts) = false) :
    leftParts head.shape (parts.flatMap (exchanged (deletion identifier) head.shape)) =
      withoutEmptiedParts (head.shape == .statements)
        (parts.flatMap (exchanged (deletion identifier) head.shape)) := by
  obtain ⟨shape, a, b⟩ := head
  cases shape with
  | statements => simp [leftParts, withoutEmptiedParts_eq]
  | forLoop =>
    rw [withoutEmptiedParts_of_ne (by simp)]
    cases parts with
    | nil => rfl
    | cons first rest =>
      obtain ⟨m, hm⟩ : ∃ m, exchanged (deletion identifier) .forLoop first = [m] :=
        exchanged_deletion rfl identifier first
      -- what takes the place of the start is not to drop
      have hstart : isEmptied m = false := by
        rw [isEmptied_of_mem_exchanged rfl (hm ▸ List.mem_singleton_self m)]
        exact h
      simp [hm, leftParts, hstart]
  | _ =>
    rw [withoutEmptiedParts_of_ne (by simp)]
    rfl

theorem deleteNamed_node (head : Head) (parts : List Node) :
    deleteNamed identifier (.node head parts) =
      (.node head
        (leftParts head.shape (parts.flatMap (exchanged (deletion identifier) head.shape))),
        (exchangeParts (deletion identifier) head.shape parts).2) := by
  have hleft : withoutEmptied (exchange (deletion identifier) (.node head parts)).1 = .node head
      (leftParts head.shape (parts.flatMap (exchanged (deletion identifier) head.shape))) := by
    rw [fst_exchange, withoutEmptied_eq]
  exact Prod.ext hleft rfl

/-- A deletion takes away what a name addresses, and counts it. -/
theorem pruned_deleteNamed {n : Node} (h : n.Settled) :
    ∃ removed, Pruned identifier n (deleteNamed identifier n).1 removed ∧
      (deleteNamed identifier n).2 = removed.length := by
  induction h with
  | @node head parts hsettles _ ih =>
    rw [deleteNamed_node]
    cases hstart : startsOnly identifier (.node head parts) with
    | false =>
      have hstatements : head.shape = .statements → ∀ n ∈ parts, isEmptiedStatement n = false := by
        intro hshape
        rw [hshape] at hsettles
        exact hsettles
      obtain ⟨removed, hparts, hcount⟩ := prunedParts_deletion hstatements ih
      rw [leftParts_deletion hstart]
      exact ⟨removed, .node hstart hparts, hcount⟩
    | true =>
      obtain ⟨shape, a, b⟩ := head
      obtain ⟨rfl, first, rest, rfl, honly⟩ := exists_of_startsOnly hstart
      have hnone : Shape.forLoop = .statements → ∀ n ∈ rest, isEmptiedStatement n = false := nofun
      obtain ⟨removed, hparts, hcount⟩ := prunedParts_deletion hnone (List.forall_mem_cons.mp ih).2
      -- the exchange does not find the start but empties it, and then it is dropped
      have hstays : deletion identifier .forLoop first = none := deletion_of_declaresOnly honly rfl
      have hfirst : exchanged (deletion identifier) .forLoop first =
          [(exchange (deletion identifier) first).1] := by rw [exchanged, hstays]; rfl
      have hdropped : isEmptied (exchange (deletion identifier) first).1 = true := by
        rw [isEmptied_exchange, honly]
      have hvariables : first.children ≠ [] := fun hnil =>
        Bool.eq_false_iff.mp hsettles (isEmptied_of_declaresOnly honly hnil)
      refine ⟨first.children ++ removed, ?_, ?_⟩
      · rw [List.flatMap_cons, hfirst]
        simp only [List.singleton_append, leftParts, hdropped, if_true]
        rw [withoutEmptiedParts_of_ne (by simp)] at hparts
        exact .loop honly hvariables hparts
      · rw [snd_exchangeParts_cons, hcount, List.length_append,
          ← snd_exchange_of_declaresOnly honly, editsOf, hstays]
        rfl

end Node

namespace Program

variable {p : Program}

/-- A deletion leaves the script without what it takes away, and counts that. What it takes away was
located, each node once; all that neither was located nor stood inside a located node is still
there, in the same order. -/
theorem pruned_of_deletion {options : ScriptOptions} (hp : options.editor.Reached p)
    {m : Modification} (hm : m.operation = .delete) {identifier : String}
    (hid : m.target.identifier = some identifier) :
    ∃ root removed, p.edit m = .done { p with root } removed.length ∧
      Node.Pruned identifier.toList p.root root removed ∧
      removed.Sublist ((p.root.located identifier.toList).map (·.2)) ∧
      ∃ left, left.Sublist root.preorder ∧
        List.Forall₂ (Node.PrunesTo identifier.toList)
          (p.root.survivors identifier.toList) left := by
  have hsettled := settled_of_reached hp
  obtain ⟨removed, hpruned, hcount⟩ : ∃ removed,
      Node.Pruned identifier.toList p.root (Node.deleteNamed identifier.toList p.root).1 removed ∧
        (Node.deleteNamed identifier.toList p.root).2 = removed.length :=
    Node.pruned_deleteNamed hsettled.root
  refine ⟨_, removed, ?_, hpruned, hpruned.sublist_located, hpruned.exists_survivors⟩
  simp only [edit, hid, editNamed, hm, rewrite_delete hsettled, withRoot, hcount]

/-- Deleting the start of a loop, variables of a declaration and of an exported one, a function that
holds a variable, and elements that are expressions, children and the parts of other elements. -/
theorem pruned_of_deletion_loop :
    let source := "for (var C = 1;;) \x7b var a, C; function C() \x7b var C; \x7d " ++
      "v = [<C/>, <a b=\x7b<C/>\x7d><C><C/></C></a>]; \x7d export var C;"
    let delete : Modification :=
      { path := "a.jsx", operation := .delete, target := { identifier := some "C" } }
    ∃ p root removed, parse? (.ofPath "a.jsx") source.toList = some p ∧
      p.edit delete = .done { p with root } 7 ∧ removed.length = 7 ∧
      Node.Pruned "C".toList p.root root removed := by
  intro source delete
  have hreads : ((parse? (.ofPath "a.jsx") source.toList).any fun p =>
      (p.edit delete).result.toOption == some 7) = true := by
    decide +kernel
  obtain ⟨p, hp, hcount⟩ := (Option.any_eq_true _ _).mp hreads
  have hreached : (ScriptOptions.editor {}).Reached p := reached_of_parse? hp
  obtain ⟨root, removed, hedit, hpruned, -, -⟩ :=
    pruned_of_deletion (m := delete) hreached rfl rfl
  have hseven : removed.length = 7 := by
    rw [hedit] at hcount
    exact Option.some.inj (eq_of_beq hcount)
  exact ⟨p, root, removed, hp, hseven ▸ hedit, hseven, hpruned⟩

/-- The only variable of a declaration that is the body of a loop is taken away, and the declaration
is left. -/
theorem declaration_of_deletion_body :
    let delete : Modification :=
      { path := "a.js", operation := .delete, target := { identifier := some "x" } }
    ∃ p, parse? (.ofPath "a.js") "while (a) var x = 1;".toList = some p ∧
      (∀ n ∈ p.root.preorder, Node.isEmptiedStatement n = false) ∧
      (p.edit delete).result.toOption = some 1 ∧
      ∃ n ∈ (p.edit delete).tree.root.preorder, Node.isEmptiedStatement n = true := by
  intro delete
  have hreads : ((parse? (.ofPath "a.js") "while (a) var x = 1;".toList).any fun p =>
      (p.root.preorder.all fun n => !Node.isEmptiedStatement n) &&
        (p.edit delete).result.toOption == some 1 &&
        (p.edit delete).tree.root.preorder.any Node.isEmptiedStatement) = true := by
    decide +kernel
  obtain ⟨p, hp, hleft⟩ := (Option.any_eq_true _ _).mp hreads
  simp only [Bool.and_eq_true, List.all_eq_true, Bool.not_eq_true', beq_iff_eq,
    List.any_eq_true] at hleft
  obtain ⟨⟨hnone, hcount⟩, hleft⟩ := hleft
  exact ⟨p, hp, hnone, hcount, hleft⟩

end Program

end SourceEdit.Script
