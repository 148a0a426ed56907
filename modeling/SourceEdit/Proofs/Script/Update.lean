import SourceEdit.Proofs.Script.Edit

/-!
# Updates of scripts done twice

A variable that has been given a value is still the variable of its name, and the value is not gone
into, whatever it declares.  So giving it the value once more changes nothing
(`setValues_setValues`), neither at the variable nor inside its pattern and its declared type.
An attribute that has been set, or added, is found when it is set again, and the elements of the name
are still there (`setAttributes_setAttributes`, `holdsLocated_setAttributes`).
-/

namespace SourceEdit.Script

namespace Node

variable {identifier name : Name} {value : Node}

/-! ### Values of variables -/

/-- A substitution changes nothing if it has been done before, when it finds the same parts again
and leaves what it has put in. -/
theorem substitute_substitute {p : Node → Nat → Bool} {g : Node → Node}
    (hp : ∀ n i, p (substitute p g n).1 i = p n i) (hg : ∀ n, g (g n) = g n) (n : Node) :
    (substitute p g (substitute p g n).1).1 = (substitute p g n).1 := by
  induction n using Node.induction with
  | node head parts ih =>
    have hsame := hp (.node head parts)
    rw [substitute] at hsame ⊢
    dsimp only at hsame ⊢
    rw [fst_substituteParts] at hsame ⊢
    rw [substitute]
    dsimp only
    rw [fst_substituteParts, List.mapIdx_mapIdx]
    congr 1
    refine List.mapIdx_eq_mapIdx_iff.mpr fun i hi => ?_
    simp only [Nat.zero_add] at hsame
    simp only [Function.comp_apply, Nat.zero_add, hsame]
    cases p (.node head parts) i with
    | true => exact hg _
    | false => exact ih _ (List.getElem_mem hi)

theorem setValues_setValues (identifier : Name) (value n : Node) :
    (setValues identifier value (setValues identifier value n).1).1 =
      (setValues identifier value n).1 := by
  refine substitute_substitute (g := fun _ => value) (fun n i => ?_) (fun _ => rfl) n
  rw [isValueSlot, isAddressed_congr
    ((sparesAddresses_isValueSlot identifier).address?_substitute n), ← isValueSlot]

/-! ### Attributes of elements -/

/-- An element is addressed by its shape alone. -/
theorem isAddressed_element_congr {m n : Node} (hn : n.isAddressed identifier .element = true)
    (h : m.shape = n.shape) : m.isAddressed identifier .element = true :=
  isAddressed_element_iff.mpr (h ▸ isAddressed_element_iff.mp hn)

/-- An attribute that has been set is set again, and one that has been added is found. -/
theorem setAttributes_setAttributes (identifier name : Name) (value n : Node) :
    (setAttributes identifier name value (setAttributes identifier name value n).1).1 =
      (setAttributes identifier name value n).1 := by
  -- A list keeps its length where no attribute is set; that tells elements from other nodes.
  refine setAttributes_induction identifier name value
    (fun _ r => (setAttributes identifier name value r.1).1 = r.1)
    (fun isSet parts r => (setAttributesOfParts identifier name value isSet r.1).1 = r.1 ∧
      (isSet = false → r.1.length = parts.length))
    ?element ?other ?nil ?attributeSet ?attributeKept ?part n
  case element =>
    intro tag _ _ _ _ _ _ _ iharguments ihchildren ihattributes
    rw [setAttributes]
    simp only [iharguments, ihchildren, ihattributes.1]
  case other =>
    intro head parts hother ih
    obtain ⟨hagain, hlength⟩ := ih
    dsimp only
    rw [setAttributes]
    · simp only [hagain]
    · -- the number of parts is the same, so this is no element with attributes either
      intro tag isClosed a b _ _ _ _ hhead hparts
      rw [hparts] at hlength
      obtain ⟨arguments, ⟨group, attributes⟩, children, rfl⟩ :=
        List.length_eq_three.mp (hlength rfl).symm
      exact hother tag isClosed a b arguments group attributes children hhead rfl
  case nil =>
    intro isSet
    cases isSet <;> simp [setAttributesOfParts, ofShape]
  case attributeSet =>
    intro isSet _ _ _ _ _ hset ih
    rw [setAttributesOfParts, if_pos hset]
    exact ⟨by simp only [ih.1], fun hnone => by simp [hnone] at hset⟩
  case attributeKept =>
    intro isSet _ _ _ _ _ hset ihparts ihrest
    rw [setAttributesOfParts, if_neg hset]
    exact ⟨by simp only [ihparts.1, ihrest.1], fun hnone => by simpa using ihrest.2 hnone⟩
  case part =>
    intro isSet n rest hpart ihn ihrest
    refine ⟨?_, fun hnone => by simpa using ihrest.2 hnone⟩
    rw [setAttributesOfParts]
    · simp only [ihn, ihrest.1]
    · -- what is no attribute is none afterwards
      intro other a b parts heq
      have hshape := shape_setAttributes identifier name value n
      rw [heq] at hshape
      obtain ⟨⟨shape, a, b⟩, parts⟩ := n
      obtain rfl : .attribute other = shape := hshape
      exact hpart other a b parts rfl

/-- A construct is found in a node if it is the node or is found in one of its parts. -/
theorem holdsLocated_node {kind : LocatedKind} {head : Head} {parts : List Node} :
    holdsLocated identifier kind (.node head parts) = true ↔
      isAddressed identifier kind (.node head parts) = true ∨
        ∃ n ∈ parts, n.holdsLocated identifier kind = true := by
  simp only [holdsLocated_iff, mem_preorder_node]
  constructor
  · rintro ⟨m, rfl | ⟨n, hn, hm⟩, haddressed⟩
    · exact .inl haddressed
    · exact .inr ⟨n, hn, m, hm, haddressed⟩
  · rintro (haddressed | ⟨n, hn, m, hm, haddressed⟩)
    · exact ⟨_, .inl rfl, haddressed⟩
    · exact ⟨m, .inr ⟨n, hn, hm⟩, haddressed⟩

/-- Setting attributes leaves an element of the name: what an attribute held may be gone, but then
the element that has the attribute is one itself. -/
theorem holdsLocated_setAttributes {n : Node} (h : n.holdsLocated identifier .element = true) :
    (setAttributes identifier name value n).1.holdsLocated identifier .element = true := by
  -- An attribute that is set may drop an element, but then the element that it stands on is found.
  refine setAttributes_induction identifier name value
    (fun n r => n.holdsLocated identifier .element = true →
      r.1.holdsLocated identifier .element = true)
    (fun isSet parts r => isSet = false →
      (∃ part ∈ parts, part.holdsLocated identifier .element = true) →
        ∃ part ∈ r.1, part.holdsLocated identifier .element = true)
    ?element ?other ?nil ?attributeSet ?attributeKept ?part n h
  case element =>
    intro tag isClosed a b arguments group attributes children iharguments ihchildren ihattributes
      hholds
    -- the element itself is found, or what is found is inside it
    by_cases htag : tag = identifier
    · exact holdsLocated_node.mpr (.inl (isAddressed_element_iff.mpr ⟨isClosed, htag ▸ rfl⟩))
    · have hgroup (h : holdsLocated identifier .element (.node group attributes) = true) :
          holdsLocated identifier .element (.node group
            (setAttributesOfParts identifier name value (tag == identifier) attributes).1) = true := by
        obtain haddressed | hpart := holdsLocated_node.mp h
        · exact holdsLocated_node.mpr (.inl (isAddressed_element_congr haddressed rfl))
        · exact holdsLocated_node.mpr (.inr (ihattributes (by simpa using htag) hpart))
      refine holdsLocated_node.mpr (.inr ?_)
      obtain haddressed | ⟨part, hpart, hheld⟩ := holdsLocated_node.mp hholds
      · obtain ⟨_, hshape⟩ := isAddressed_element_iff.mp haddressed
        cases hshape
        exact absurd rfl htag
      · simp only [List.mem_cons, List.not_mem_nil, or_false] at hpart
        obtain rfl | rfl | rfl := hpart
        · exact ⟨_, by simp, iharguments hheld⟩
        · exact ⟨_, by simp, hgroup hheld⟩
        · exact ⟨_, by simp, ihchildren hheld⟩
  case other =>
    intro head parts _ ih hholds
    obtain haddressed | hpart := holdsLocated_node.mp hholds
    · exact holdsLocated_node.mpr (.inl (isAddressed_element_congr haddressed rfl))
    · exact holdsLocated_node.mpr (.inr (ih rfl hpart))
  case nil => simp
  case attributeSet =>
    rintro _ _ _ _ _ _ hset _ rfl
    cases hset
  case attributeKept =>
    intro _ other a b parts rest _ ihparts ihrest hnone
    simp only [List.exists_mem_cons_iff, holdsLocated_node]
    rintro ((haddressed | hpart) | hrest)
    · exact .inl (.inl (isAddressed_element_congr haddressed rfl))
    · exact .inl (.inr (ihparts rfl hpart))
    · exact .inr (ihrest hnone hrest)
  case part =>
    intro _ n rest _ ihn ihrest hnone
    simp only [List.exists_mem_cons_iff]
    rintro (hpart | hrest)
    · exact .inl (ihn hpart)
    · exact .inr (ihrest hnone hrest)

end Node

namespace Program

/-! ### Updates -/

variable {p : Program} {m : Modification} {identifier : Name}

/-- An update with an attribute sets it on the elements of the name, if there is one. -/
theorem update_attribute (hp : p.Settled) {name : String} (hname : m.target.attributeName = some name)
    (helement : p.root.holdsLocated identifier .element = true) :
    p.update identifier m = .needing p m.requiredValue fun value =>
      p.withRoot (Node.setAttributes identifier name.toList
        (.ofShape (.attributeText value.toList) 0 0) p.root) := by
  simp only [update, hname, helement, rewrite_setAttribute hp]

/-- An update without one gives the variables of the name a value, if there is one. -/
theorem update_value (hp : p.Settled) (hnone : m.target.attributeName = none ∨
      p.root.holdsLocated identifier .element = false) :
    p.update identifier m = if p.root.holdsLocated identifier .declarator then
      .needing p m.requiredValue fun value => .needing p (p.expressionOfValue value) fun value =>
        p.withRoot (Node.setValues identifier value p.root)
      else .done p 0 := by
  have hgive (value : String) : (Edited.needing p (p.expressionOfValue value) fun value =>
      p.rewrite identifier (.setValue value)) = .needing p (p.expressionOfValue value) fun value =>
        p.withRoot (Node.setValues identifier value p.root) := by
    cases hvalue : p.expressionOfValue value with
    | error err => rfl
    | ok new => exact rewrite_setValue hp (isSound_expressionOfValue hvalue)
  unfold update
  dsimp only
  split
  · next name hname helement =>
    obtain hnone | hnone := hnone
    · cases hname.symm.trans hnone
    · cases helement.symm.trans hnone
  · simp only [hgive, rewrite_keep hp]

/-- An update that is to set an attribute has to find an element of the name. -/
theorem idempotentAt_update (hp : p.Settled) (hm : m.operation = .update)
    (h : m.target.attributeName = none ∨ ∃ identifier, m.target.identifier = some identifier ∧
      p.root.holdsLocated identifier.toList .element = true) :
    IdempotentAt (edit · m) Eq p := by
  intro n hn
  have hq := (edit_sound hp m).invariant
  dsimp only at hn hq ⊢
  cases hid : m.target.identifier with
  | none =>
    rw [edit, hid] at hn
    cases hn
  | some identifier =>
    have hedit (q : Program) : q.edit m = q.update identifier.toList m := by
      simp only [edit, hid, editNamed, hm]
    simp only [hedit] at hn hq ⊢
    cases hname : m.target.attributeName with
    | some name =>
      have hholds : p.root.holdsLocated identifier.toList .element = true := by
        obtain hnone | ⟨other, hother, hholds⟩ := h
        · cases hname.symm.trans hnone
        · obtain rfl : identifier = other := Option.some.inj (hid.symm.trans hother)
          exact hholds
      rw [update_attribute hp hname hholds] at hn hq ⊢
      obtain ⟨value, hvalue, -⟩ := Edited.exists_of_needing hn
      simp only [hvalue, Edited.needing, withRoot, Edited.done] at hq ⊢
      rw [update_attribute hq hname (Node.holdsLocated_setAttributes hholds)]
      simp only [hvalue, Edited.needing, withRoot, Edited.done, Node.setAttributes_setAttributes]
      exact ⟨_, rfl, trivial⟩
    | none =>
      rw [update_value hp (.inl hname)] at hn hq ⊢
      by_cases hheld : p.root.holdsLocated identifier.toList .declarator = true
      · rw [if_pos hheld] at hn hq ⊢
        obtain ⟨text, htext, hn⟩ := Edited.exists_of_needing hn
        obtain ⟨value, hvalue, -⟩ := Edited.exists_of_needing hn
        -- the value is read in the dialect of the script, which stays the same
        have hvalue' (root : Node) : expressionOfValue { p with root } text = .ok value := hvalue
        simp only [htext, hvalue, Edited.needing, withRoot, Edited.done] at hq ⊢
        rw [update_value hq (.inl hname)]
        simp only [htext, hvalue', Edited.needing, withRoot, Edited.done, Node.setValues_setValues]
        split <;> exact ⟨_, rfl, rfl⟩
      · rw [if_neg hheld] at hq ⊢
        dsimp only [Edited.done]
        rw [update_value hp (.inl hname), if_neg hheld]
        exact ⟨0, rfl, rfl⟩

end Program

end SourceEdit.Script
