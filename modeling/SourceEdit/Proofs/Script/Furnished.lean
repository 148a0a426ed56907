import SourceEdit.Proofs.Script.Address
import SourceEdit.Proofs.Script.Follows

/-!
# Nodes keep their parts

An element that is read has type arguments, a group of attributes, and children, a script has its
directives and a list of statements, and a variable a pattern, a type and a value
(`Shape.Furnishes`).  No edit takes one of these parts away: what is exchanged for a part of such a
node is one part again, and neither a group nor a list of statements is exchanged itself
(`Node.Everywhere.furnished_exchange`, `Node.Everywhere.furnished_substitute`).
-/

namespace SourceEdit.Script

namespace Shape

/-- Whether a node of a shape is only there to hold parts of any number. -/
def isRun (shape : Shape) : Bool := shape == .group || shape == .statements

/-- Whether a shape asks for parts of its own. -/
def isFurnished (shape : Shape) : Bool := shape.isElement || shape.isProgram || shape.isDeclarator

theorem furnishes_of_not_isFurnished {shape : Shape} (h : shape.isFurnished = false)
    (parts : List Node) : shape.Furnishes parts := by
  simp only [isFurnished, Bool.or_eq_false_iff] at h
  exact ⟨by simp [h.1.1], by simp [h.1.2], by simp [h.2]⟩

end Shape

/-- A node that takes the place of a run of parts is a run like that. -/
def Node.KeepsRun (m n : Node) : Prop := n.shape.isRun = true → m.shape = n.shape

namespace Shape

/-- Parts may be exchanged one for one, if the runs among them stay runs. -/
theorem Furnishes.of_forall₂ {shape : Shape} {parts new : List Node}
    (hnew : List.Forall₂ Node.KeepsRun new parts)
    (h : shape.Furnishes parts) : shape.Furnishes new := by
  refine ⟨fun helement => ?_, fun hprogram => ?_, fun hdeclarator => ?_⟩
  · obtain ⟨arguments, attributes, children, rfl, hshape⟩ := h.element helement
    match new, hnew with
    | [newArguments, newAttributes, newChildren], .cons _ (.cons hkept (.cons _ .nil)) =>
      exact ⟨newArguments, newAttributes, newChildren, rfl,
        (hkept (by rw [hshape]; rfl)).trans hshape⟩
  · obtain ⟨directives, statements, rfl, hshape⟩ := h.program hprogram
    match new, hnew with
    | [newDirectives, newStatements], .cons _ (.cons hkept .nil) =>
      exact ⟨newDirectives, newStatements, rfl, (hkept (by rw [hshape]; rfl)).trans hshape⟩
  · obtain ⟨bound, type, value, rfl⟩ := h.declarator hdeclarator
    match new, hnew with
    | [newBound, newType, newValue], .cons _ (.cons _ (.cons _ .nil)) =>
      exact ⟨newBound, newType, newValue, rfl⟩

end Shape

namespace Node

variable {identifier : Name} {n : Node}

/-! ### Exchanges and deletions -/

/-- Exchanging parts keeps the parts of elements and scripts, if it exchanges these one for one and
exchanges no runs of parts. -/
theorem Everywhere.furnished_exchange {f : Shape → Node → Option (List Node)}
    (hrun : ∀ shape n, n.shape.isRun = true → f shape n = none)
    (hone : ∀ shape n new, shape.isFurnished = true → f shape n = some new → ∃ m, new = [m])
    (hnew : ∀ shape n new, f shape n = some new → n.Everywhere Shape.Furnishes →
      ∀ m ∈ new, m.Everywhere Shape.Furnishes)
    (h : n.Everywhere Shape.Furnishes) : (Node.exchange f n).1.Everywhere Shape.Furnishes := by
  refine h.exchange (fun shape parts hfurnishes => ?_) hnew
  cases hshape : shape.isFurnished with
  | false => exact Shape.furnishes_of_not_isFurnished hshape _
  | true =>
    refine hfurnishes.of_forall₂ ?_
    clear hfurnishes
    induction parts with
    | nil => exact .nil
    | cons part rest ih =>
      obtain ⟨m, hm, hkept⟩ : ∃ m, exchanged f shape part = [m] ∧
          (part.shape.isRun = true → m.shape = part.shape) := by
        unfold exchanged
        cases hf : f shape part with
        | none => exact ⟨_, rfl, fun _ => shape_exchange f part⟩
        | some new =>
          obtain ⟨m, rfl⟩ := hone shape part new hshape hf
          exact ⟨m, rfl, fun hpart => by simp [hrun shape part hpart] at hf⟩
      rw [List.flatMap_cons, hm]
      exact .cons hkept ih

/-- A run of parts is not addressed, and no function is declared by it. -/
theorem isAddressed_of_isRun (h : n.shape.isRun = true) :
    (∀ kind, n.isAddressed identifier kind = false) ∧ n.declaresFunction identifier = false := by
  obtain ⟨⟨shape, a, b⟩, parts⟩ := n
  obtain hshape | hshape := Bool.or_eq_true_iff.mp h
  · obtain rfl : shape = .group := eq_of_beq hshape
    exact ⟨fun _ => rfl, rfl⟩
  · obtain rfl : shape = .statements := eq_of_beq hshape
    exact ⟨fun _ => rfl, rfl⟩

theorem furnished_deleteNamed (h : n.Everywhere Shape.Furnishes) (identifier : Name) :
    (deleteNamed identifier n).1.Everywhere Shape.Furnishes := by
  have hexchanged : (exchange (deletion identifier) n).1.Everywhere Shape.Furnishes := by
    refine h.furnished_exchange (fun shape n hn => ?_) (fun shape n new hshape hnew => ?_)
      fun shape n new hnew _ m hm => ?_
    · unfold deletion
      split <;> simp [isAddressed_of_isRun hn]
    · unfold deletion at hnew
      split at hnew
      case h_5 =>
        split at hnew
        · exact ⟨null, (Option.some.inj hnew).symm⟩
        · cases hnew
      all_goals cases hshape
    · rw [eq_null_of_mem_deletion hnew hm]
      exact .of_no_parts (Shape.furnishes_of_not_isFurnished rfl [])
  refine Everywhere.withoutEmptied (fun shape parts hfurnishes => ?_)
    (.of_no_parts (Shape.furnishes_of_not_isFurnished rfl [])) hexchanged
  cases hshape : shape.isFurnished with
  | false => exact Shape.furnishes_of_not_isFurnished hshape _
  | true =>
    have hleft : leftParts shape parts = parts.map withoutEmptied := by
      unfold leftParts
      split
      · cases hshape
      · cases hshape
      · rfl
    rw [hleft]
    refine hfurnishes.of_forall₂ ?_
    rw [List.forall₂_map_left_iff, List.forall₂_same]
    exact fun part _ _ => shape_withoutEmptied part

/-! ### Substitutions -/

/-- Putting one node in the place of another keeps the parts of all nodes, if it works on no element
and on no script. -/
theorem Everywhere.furnished_substitute {p : Node → Nat → Bool} {g : Node → Node}
    (hp : ∀ parent i, p parent i = true →
      parent.shape.isElement = false ∧ parent.shape.isProgram = false)
    (hg : ∀ old, (g old).Everywhere Shape.Furnishes) (h : n.Everywhere Shape.Furnishes) :
    (substitute p g n).1.Everywhere Shape.Furnishes := by
  induction h with
  | @node head parts hfurnishes _ ih =>
    rw [substitute]
    dsimp only
    rw [fst_substituteParts]
    have hkept {i : Nat} (hparent : head.shape.isElement = true ∨ head.shape.isProgram = true) :
        p (.node head parts) i = false := by
      rw [Bool.eq_false_iff]
      intro hfound
      obtain ⟨helement, hprogram⟩ := hp _ _ hfound
      exact hparent.elim (Bool.eq_false_iff.mp helement) (Bool.eq_false_iff.mp hprogram)
    refine .node ⟨fun helement => ?_, fun hprogram => ?_, fun hdeclarator => ?_⟩ fun m hm => ?_
    · obtain ⟨arguments, attributes, children, rfl, hshape⟩ := hfurnishes.element helement
      refine ⟨(substitute p g arguments).1, (substitute p g attributes).1,
        (substitute p g children).1, ?_, (shape_substitute attributes).trans hshape⟩
      simp [hkept (.inl helement)]
    · obtain ⟨directives, statements, rfl, hshape⟩ := hfurnishes.program hprogram
      refine ⟨(substitute p g directives).1, (substitute p g statements).1, ?_,
        (shape_substitute statements).trans hshape⟩
      simp [hkept (.inr hprogram)]
    · obtain ⟨bound, type, value, rfl⟩ := hfurnishes.declarator hdeclarator
      exact ⟨_, _, _, rfl⟩
    · obtain ⟨i, hi, rfl⟩ := List.mem_mapIdx.mp hm
      split
      · exact hg _
      · exact ih _ (List.getElem_mem hi)

theorem furnished_replaceFunctions {new : Node} (hnew : new.Everywhere Shape.Furnishes)
    (h : n.Everywhere Shape.Furnishes) (identifier : Name) :
    (replaceFunctions identifier new n).1.Everywhere Shape.Furnishes := by
  have hinner := List.forall_mem_singleton.mpr hnew
  refine h.furnished_substitute (fun parent i hfound => ?_) fun old => ?_
  · simp only [isFunctionSlot, Bool.and_eq_true, beq_iff_eq] at hfound
    rw [hfound.1]
    exact ⟨rfl, rfl⟩
  · unfold keepExport
    split
    · exact .node (Shape.furnishes_of_not_isFurnished rfl _) hinner
    · exact .node (Shape.furnishes_of_not_isFurnished rfl _) hinner
    · exact hnew

theorem furnished_setValues {value : Node} (hvalue : value.Everywhere Shape.Furnishes)
    (h : n.Everywhere Shape.Furnishes) (identifier : Name) :
    (setValues identifier value n).1.Everywhere Shape.Furnishes := by
  refine h.furnished_substitute (fun parent i hfound => ?_) fun _ => hvalue
  obtain ⟨haddressed, -⟩ := Bool.and_eq_true_iff.mp hfound
  have hshape := isDeclarator_of_isAddressed haddressed
  cases hparent : parent.shape <;> simp_all [Shape.isDeclarator, Shape.isElement, Shape.isProgram]

/-! ### Attributes -/

/-- An element of a furnished tree has its three parts, the second of which is no element. -/
theorem exists_element (hn : n.Everywhere Shape.Furnishes)
    (h : n.isAddressed identifier .element = true) :
    ∃ (isClosed : Bool) (a b : Nat) (arguments group children : Node),
      n = .node ⟨.element identifier isClosed, a, b⟩ [arguments, group, children] ∧
        group.shape = .group := by
  obtain ⟨⟨shape, a, b⟩, parts⟩ := n
  obtain ⟨isClosed, hshape⟩ := isAddressed_element_iff.mp h
  obtain rfl : shape = .element identifier isClosed := hshape
  obtain ⟨arguments, group, children, rfl, hgroup⟩ := (everywhere_node.mp hn).1.element rfl
  exact ⟨isClosed, a, b, arguments, group, children, rfl, hgroup⟩

/-- In a node that is no element of the name, attributes are set part by part. -/
theorem setAttributes_of_not_addressed {name : Name} {value : Node} {head : Head}
    {parts : List Node} (hn : Everywhere Shape.Furnishes (.node head parts))
    (h : isAddressed identifier .element (.node head parts) = false) :
    setAttributes identifier name value (.node head parts) =
      (.node head (parts.map fun n => (setAttributes identifier name value n).1),
        (parts.map fun n => (setAttributes identifier name value n).2).sum) := by
  cases helement : head.shape.isElement with
  | false => exact setAttributes_of_not_element helement parts
  | true =>
    obtain ⟨arguments, group, children, rfl, hgroup⟩ := (everywhere_node.mp hn).1.element helement
    obtain ⟨shape, a, b⟩ := head
    cases shape with
    | element tag isClosed =>
      obtain ⟨group, attributes⟩ := group
      have hnone : group.shape.isElement = false := congrArg Shape.isElement hgroup
      rw [isAddressed_element_node] at h
      rw [setAttributes_element, h, setAttributesOfParts_false]
      simp [setAttributes_of_not_element hnone, Tree.children, Tree.value, Nat.add_assoc]
    | _ => cases helement

theorem furnished_setAttributes {value : Node} (hvalue : value.Everywhere Shape.Furnishes)
    (h : n.Everywhere Shape.Furnishes) (identifier name : Name) :
    (setAttributes identifier name value n).1.Everywhere Shape.Furnishes := by
  have hattribute (other : Name) (a b : Nat) {parts : List Node}
      (hparts : ∀ n ∈ parts, n.Everywhere Shape.Furnishes) :
      Everywhere Shape.Furnishes (.node ⟨.attribute other, a, b⟩ parts) :=
    .node (Shape.furnishes_of_not_isFurnished rfl parts) hparts
  -- Lists keep the shapes of their parts only where no attribute is set: a new one may be added.
  refine setAttributes_induction identifier name value
    (fun n r => n.Everywhere Shape.Furnishes → r.1.Everywhere Shape.Furnishes)
    (fun isSet parts r => (∀ n ∈ parts, n.Everywhere Shape.Furnishes) →
      (∀ n ∈ r.1, n.Everywhere Shape.Furnishes) ∧ (isSet = false →
        List.Forall₂ KeepsRun r.1 parts))
    ?element ?other ?nil ?attributeSet ?attributeKept ?part n h
  case element =>
    intro tag isClosed a b _ group _ _ iharguments ihchildren ihattributes hn
    obtain ⟨hfurnishes, hparts⟩ := everywhere_node.mp hn
    obtain ⟨_, _, _, heq, hgroup⟩ := hfurnishes.element rfl
    cases heq
    simp only [List.forall_mem_cons] at hparts
    obtain ⟨hnarguments, hngroup, hnchildren, -⟩ := hparts
    have hgroup : group.shape = .group := hgroup
    have hnew := (ihattributes (everywhere_node.mp hngroup).2).1
    -- an element has its three parts still
    refine .node ⟨fun _ => ⟨_, _, _, rfl, hgroup⟩, (by cases ·), (by cases ·)⟩ ?_
    refine List.forall_mem_cons.mpr ⟨iharguments hnarguments, List.forall_mem_cons.mpr
      ⟨.node (Shape.furnishes_of_not_isFurnished (by rw [hgroup]; rfl) _) hnew,
        List.forall_mem_singleton.mpr (ihchildren hnchildren)⟩⟩
  case other =>
    intro head parts _ ih hn
    obtain ⟨hfurnishes, hn⟩ := everywhere_node.mp hn
    exact .node (hfurnishes.of_forall₂ ((ih hn).2 rfl)) (ih hn).1
  case nil =>
    intro isSet _
    cases isSet with
    | false => exact ⟨by simp, fun _ => .nil⟩
    | true =>
      refine ⟨List.forall_mem_singleton.mpr (hattribute name 0 0 ?_), fun hset => by cases hset⟩
      exact List.forall_mem_singleton.mpr hvalue
  case attributeSet =>
    intro isSet other a b _ _ hset ih hn
    refine ⟨List.forall_mem_cons.mpr ⟨hattribute other a b (List.forall_mem_singleton.mpr hvalue),
      (ih (List.forall_mem_cons.mp hn).2).1⟩, ?_⟩
    rintro rfl
    cases hset
  case attributeKept =>
    intro _ other a b _ _ _ ihparts ihrest hn
    obtain ⟨hn, hnrest⟩ := List.forall_mem_cons.mp hn
    exact ⟨List.forall_mem_cons.mpr
      ⟨hattribute other a b (ihparts (everywhere_node.mp hn).2).1, (ihrest hnrest).1⟩,
      fun hset => .cons (fun _ => rfl) ((ihrest hnrest).2 hset)⟩
  case part =>
    intro _ n _ _ ihn ihrest hn
    obtain ⟨hn, hnrest⟩ := List.forall_mem_cons.mp hn
    exact ⟨List.forall_mem_cons.mpr ⟨ihn hn, (ihrest hnrest).1⟩,
      fun hset => .cons (fun _ => shape_setAttributes identifier name value n)
        ((ihrest hnrest).2 hset)⟩

end Node

end SourceEdit.Script
