import Mathlib.Data.List.Forall2
import SourceEdit.Proofs.Script.Parser.Statements
import SourceEdit.Proofs.Script.Parts

/-!
# One node for another

A deletion settles what it leaves.  The other edits put nodes in the place of others one for one:
`Node.Fits` is what a node satisfies that can be put anywhere in a settled tree, and `Node.Follows`
what one satisfies that can take the place of a given node.  An edit in one pass that counts nothing
changes nothing.
-/

namespace SourceEdit.Script

namespace Node

/-! ### One node for another -/

/-- A node can be put anywhere in a settled tree with all variables in declarations. -/
structure Fits (m : Node) : Prop where
  settled : m.Settled
  placed : m.Placed
  isEmptiedStatement : isEmptiedStatement m = false
  isDeclarator : m.shape.isDeclarator = false

/-- A node can take the place of another in such a tree. -/
structure Follows (m n : Node) : Prop where
  settled : n.Settled → m.Settled
  placed : n.Placed → m.Placed
  isEmptied : isEmptied n = false → isEmptied m = false
  isEmptiedStatement : isEmptiedStatement n = false → isEmptiedStatement m = false
  isDeclarator : m.shape.isDeclarator = true → n.shape.isDeclarator = true

theorem Fits.follows {m : Node} (hm : m.Fits) (n : Node) : m.Follows n where
  settled _ := hm.settled
  placed _ := hm.placed
  isEmptied _ := isEmptied_eq_false hm.isEmptiedStatement
  isEmptiedStatement _ := hm.isEmptiedStatement
  isDeclarator h := (Bool.false_ne_true (hm.isDeclarator.symm.trans h)).elim

theorem fits_of_wellFormed {m : Node} (hm : m.WellFormed) (h : m.shape.isDeclarator = false) :
    m.Fits where
  settled := hm.settled
  placed := hm.placed
  isEmptiedStatement := hm.isEmptiedStatement_eq_false
  isDeclarator := h

theorem fits_of_isSound {m : Node} (hm : IsSound m) : m.Fits :=
  fits_of_wellFormed hm.1.wellFormed hm.2

theorem Follows.refl (n : Node) : n.Follows n := ⟨id, id, id, id, id⟩

/-- Parts that are exchanged one for one, and others after them, suit the shape that the former
parts suited. -/
theorem settles_append {shape : Shape} {parts new extra : List Node}
    (hnew : List.Forall₂ Follows new parts)
    (hextra : ∀ n ∈ extra, Node.isEmptiedStatement n = false) (h : shape.Settles parts) :
    shape.Settles (new ++ extra) := by
  unfold Shape.Settles
  split
  · next first rest heq =>
    cases hnew with
    | nil =>
      obtain rfl : extra = first :: rest := heq
      exact isEmptied_eq_false (hextra first (by simp))
    | cons hfirst _ =>
      cases heq
      exact hfirst.isEmptied h
  · simp only [Shape.Settles] at h
    have hall : ∀ n ∈ new, Node.isEmptiedStatement n = false := by
      clear hextra
      induction hnew with
      | nil => simp
      | cons hn _ ih =>
        rw [List.forall_mem_cons] at h ⊢
        exact ⟨hn.isEmptiedStatement h.1, ih h.2⟩
    exact List.forall_mem_append.mpr ⟨hall, hextra⟩
  · trivial

/-- Every part that was exchanged one for one takes the place of a former part. -/
theorem exists_of_forall₂ {new parts : List Node} (hnew : List.Forall₂ Follows new parts) :
    ∀ m ∈ new, ∃ n ∈ parts, m.Follows n := by
  induction hnew with
  | nil => simp
  | @cons m n _ _ hn _ ih =>
    refine List.forall_mem_cons.mpr ⟨⟨n, by simp, hn⟩, fun m' hm' => ?_⟩
    obtain ⟨n', hn', hfollows⟩ := ih m' hm'
    exact ⟨n', List.mem_cons_of_mem _ hn', hfollows⟩

/-- A list of nodes that can be put anywhere may follow parts that were exchanged one for one. -/
theorem settled_append {new parts extra : List Node} (hnew : List.Forall₂ Follows new parts)
    (hextra : ∀ n ∈ extra, n.Fits) {shape : Shape}
    (h : shape.Settles parts ∧ ∀ n ∈ parts, n.Settled) :
    shape.Settles (new ++ extra) ∧ ∀ n ∈ new ++ extra, n.Settled := by
  refine ⟨settles_append hnew (fun n hn => (hextra n hn).isEmptiedStatement) h.1, ?_⟩
  refine List.forall_mem_append.mpr ⟨fun m hm => ?_, fun n hn => (hextra n hn).settled⟩
  obtain ⟨n, hn, hfollows⟩ := exists_of_forall₂ hnew m hm
  exact hfollows.settled (h.2 n hn)

theorem placed_append {new parts extra : List Node} (hnew : List.Forall₂ Follows new parts)
    (hextra : ∀ n ∈ extra, n.Fits) {shape : Shape}
    (h : shape.Places parts ∧ ∀ n ∈ parts, n.Placed) :
    shape.Places (new ++ extra) ∧ ∀ n ∈ new ++ extra, n.Placed := by
  have hold (m : Node) (hm : m ∈ new) :
      (m.shape.isDeclarator = true → shape.isVariableList = true) ∧ m.Placed := by
    obtain ⟨n, hn, hfollows⟩ := exists_of_forall₂ hnew m hm
    exact ⟨fun hdeclarator => h.1 n hn (hfollows.isDeclarator hdeclarator),
      hfollows.placed (h.2 n hn)⟩
  have hadded (m : Node) (hm : m ∈ extra) :
      (m.shape.isDeclarator = true → shape.isVariableList = true) ∧ m.Placed :=
    ⟨fun hdeclarator => by simp [(hextra m hm).isDeclarator] at hdeclarator, (hextra m hm).placed⟩
  have hall := List.forall_mem_append.mpr ⟨hold, hadded⟩
  exact ⟨fun m hm => (hall m hm).1, fun m hm => (hall m hm).2⟩

/-- A node with parts in the place of its parts can take its place. -/
theorem Follows.node {new parts : List Node} (hnew : List.Forall₂ Follows new parts)
    (head : Head) : Follows (.node head new) (.node head parts) := by
  have hempty : Node.isEmptied (.node head parts) = false →
      Node.isEmptied (.node head new) = false := by
    simp only [Bool.eq_false_iff, Ne, isEmptied_node]
    rintro h ⟨hshape, rfl⟩
    cases hnew
    exact h ⟨hshape, rfl⟩
  refine ⟨fun h => ?_, fun h => ?_, hempty, ?_, id⟩
  · have hsuits := settled_append hnew (List.forall_mem_nil Fits) (settled_node.mp h)
    rw [List.append_nil] at hsuits
    exact settled_node.mpr hsuits
  · have hplaced := placed_append hnew (List.forall_mem_nil Fits) (placed_node.mp h)
    rw [List.append_nil] at hplaced
    exact placed_node.mpr hplaced
  · simp only [Bool.eq_false_iff, Ne, isEmptiedStatement_node, not_or] at hempty ⊢
    rintro ⟨hne, hexport⟩
    refine ⟨hempty hne, ?_⟩
    rintro ⟨hshape, inner, rfl, hinner⟩
    obtain ⟨old, _, hinnerFollows, hrest, rfl⟩ := List.forall₂_cons_left_iff.mp hnew
    cases hrest
    refine hexport ⟨hshape, old, rfl, ?_⟩
    by_contra hold
    exact Bool.eq_false_iff.mp (hinnerFollows.isEmptied (Bool.eq_false_iff.mpr hold)) hinner

/-! ### Exchanges -/

/-- An exchange that counts no edit makes none. -/
theorem exchange_eq_self {f : Shape → Node → Option (List Node)} {n : Node}
    (h : (exchange f n).2 = 0) : (exchange f n).1 = n := by
  refine (exchange.mutual_induct_unfolding f (fun n r => r.2 = 0 → r.1 = n)
    (fun _ parts r => r.2 = 0 → r.1 = parts) ?node ?nil ?edited ?kept).1 n h
  case node =>
    intro head parts _ _ heq ih hcount
    rw [heq] at ih
    obtain rfl := ih hcount
    rfl
  case nil => exact fun _ _ => rfl
  case edited => exact fun _ _ _ _ _ _ _ _ _ hcount => nomatch hcount
  case kept =>
    intro _ n rest _ _ hrest _ _ _ hn ihrest ihn hcount
    rw [hrest] at ihrest
    rw [hn] at ihn
    obtain ⟨hinner, hcount⟩ := Nat.add_eq_zero_iff.mp hcount
    obtain rfl := ihrest hcount
    obtain rfl := ihn hinner
    rfl

/-- A substitution that counts no edit makes none. -/
theorem substitute_eq_self {p : Node → Nat → Bool} {g : Node → Node} {n : Node}
    (h : (substitute p g n).2 = 0) : (substitute p g n).1 = n := by
  refine (substitute.mutual_induct_unfolding p g (fun n r => r.2 = 0 → r.1 = n)
    (fun _ _ parts r => r.2 = 0 → r.1 = parts) ?node ?nil ?found ?kept).1 n h
  case node =>
    intro head parts _ _ heq ih hcount
    rw [heq] at ih
    obtain rfl := ih hcount
    rfl
  case nil => exact fun _ _ _ => rfl
  case found => exact fun _ _ _ _ _ _ _ _ _ hcount => nomatch hcount
  case kept =>
    intro _ _ n rest _ _ hrest _ _ _ hn ihrest ihn hcount
    rw [hrest] at ihrest
    rw [hn] at ihn
    obtain ⟨hinner, hcount⟩ := Nat.add_eq_zero_iff.mp hcount
    obtain rfl := ihrest hcount
    obtain rfl := ihn hinner
    rfl

/-- A tree in which nodes are substituted that can take the place of others can take the place of the
tree. -/
theorem substitute_follows {p : Node → Nat → Bool} {g : Node → Node} (hg : ∀ n, (g n).Follows n)
    (n : Node) : (substitute p g n).1.Follows n := by
  refine (substitute.mutual_induct_unfolding p g (fun n r => r.1.Follows n)
    (fun _ _ parts r => List.Forall₂ Follows r.1 parts) ?node ?nil ?found ?kept).1 n
  case node =>
    intro head parts _ _ heq ih
    rw [heq] at ih
    exact .node ih head
  case nil => exact fun _ _ => .nil
  case found =>
    intro _ _ n rest _ _ hrest _ ih
    rw [hrest] at ih
    exact .cons (hg n) ih
  case kept =>
    intro _ _ n rest _ _ hrest _ _ _ hn ihrest ihn
    rw [hrest] at ihrest
    rw [hn] at ihn
    exact .cons ihn ihrest

/-- The function put in the place of another one is exported if that one is. -/
theorem keepExport_fits {new : Node} (hnew : IsSound new) (old : Node) :
    (keepExport old new).Fits := by
  unfold keepExport
  split
  · exact fits_of_isSound (isSound_node.mpr (by simpa [Shape.Takes] using hnew))
  · exact fits_of_isSound (isSound_node.mpr (by simpa [Shape.Takes] using hnew))
  · exact fits_of_isSound hnew

theorem replaceFunctions_follows {new : Node} (hnew : IsSound new) (identifier : Name)
    (n : Node) : (replaceFunctions identifier new n).1.Follows n :=
  substitute_follows (fun old => (keepExport_fits hnew old).follows old) n

theorem setValues_follows {value : Node} (hvalue : IsSound value) (identifier : Name)
    (n : Node) : (setValues identifier value n).1.Follows n :=
  substitute_follows (fun old => (fits_of_isSound hvalue).follows old) n

/-! ### Attributes -/

/-- If no attribute was set, nothing changed. -/
theorem setAttributes_eq_self {identifier name : Name} {value n : Node}
    (h : (setAttributes identifier name value n).2 = 0) :
    (setAttributes identifier name value n).1 = n := by
  -- Every attribute that is set is counted, so none is set.
  refine setAttributes_induction identifier name value
    (fun n r => r.2 = 0 → r.1 = n)
    (fun isSet parts r => isSet = false → r.2 = 0 → r.1 = parts)
    ?element ?other ?nil ?attributeSet ?attributeKept ?part n h
  case element =>
    intro tag _ _ _ _ _ _ _ iharguments ihchildren ihattributes hcount
    obtain ⟨hcount, hinner⟩ := Nat.add_eq_zero_iff.mp hcount
    obtain ⟨hcount, hset⟩ := Nat.add_eq_zero_iff.mp hcount
    obtain ⟨hnamed, hgiven⟩ := Nat.add_eq_zero_iff.mp hcount
    have hnamed : (tag == identifier) = false := by simpa using hnamed
    rw [iharguments hgiven, ihchildren hinner, ihattributes hnamed hset]
  case other =>
    intro _ _ _ ih hcount
    rw [ih rfl hcount]
  case nil =>
    rintro _ rfl _
    rfl
  case attributeSet =>
    rintro _ _ _ _ _ _ hset _ rfl
    cases hset
  case attributeKept =>
    intro _ _ _ _ _ _ _ ihparts ihrest hset hcount
    obtain ⟨hinner, hcount⟩ := Nat.add_eq_zero_iff.mp hcount
    rw [ihparts rfl hinner, ihrest hset hcount]
  case part =>
    intro _ _ _ _ ihn ihrest hset hcount
    obtain ⟨hinner, hcount⟩ := Nat.add_eq_zero_iff.mp hcount
    rw [ihn hinner, ihrest hset hcount]

theorem value_setAttributes (identifier name : Name) (value n : Node) :
    (setAttributes identifier name value n).1.value = n.value := by
  unfold setAttributes
  split <;> rfl

theorem shape_setAttributes (identifier name : Name) (value n : Node) :
    (setAttributes identifier name value n).1.shape = n.shape :=
  congrArg Head.shape (value_setAttributes identifier name value n)

theorem wellFormed_attributeText (text : List Char) :
    (ofShape (.attributeText text) 0 0).WellFormed :=
  .of_no_parts ⟨nofun, nofun, ⟨nofun, nofun, nofun⟩⟩

/-- Attributes are set in the place of others, and new ones come last. -/
theorem setAttributes_follows {value : Node} (hvalue : value.WellFormed)
    (hdeclarator : value.shape.isDeclarator = false) (identifier name : Name) (n : Node) :
    (setAttributes identifier name value n).1.Follows n := by
  have hattribute (other : Name) (a b : Nat) : Fits (.node ⟨.attribute other, a, b⟩ [value]) := by
    refine fits_of_wellFormed (wellFormed_node.mpr ⟨⟨?_, nofun, ⟨nofun, nofun, nofun⟩⟩, ?_⟩) rfl
    · simp [Shape.Places, hdeclarator]
    · simpa using hvalue
  refine setAttributes_induction identifier name value
    (fun n r => r.1.Follows n)
    (fun isSet parts r => ∃ new extra, r.1 = new ++ extra ∧ List.Forall₂ Follows new parts ∧
      (∀ n ∈ extra, n.Fits) ∧ (isSet = false → extra = []))
    ?element ?other ?nil ?attributeSet ?attributeKept ?part n
  case element =>
    intro tag isClosed a b _ group attributes _ iharguments ihchildren ihattributes
    obtain ⟨new, extra, heq, hnew, hextra, -⟩ := ihattributes
    rw [heq]
    -- the list of attributes may have grown, but an element asks nothing of its parts
    refine ⟨fun h => settled_node.mpr ⟨trivial, ?_⟩, fun h => placed_node.mpr ⟨?_, ?_⟩, fun _ => rfl,
      fun _ => rfl, id⟩
    · have hparts := (settled_node.mp h).2
      simp only [List.forall_mem_cons] at hparts ⊢
      obtain ⟨harguments, hgroup, hchildren, -⟩ := hparts
      exact ⟨iharguments.settled harguments,
        settled_node.mpr (settled_append hnew hextra (settled_node.mp hgroup)),
        ihchildren.settled hchildren, by simp⟩
    · have hplaces := (placed_node.mp h).1
      simp only [Shape.Places, List.forall_mem_cons] at hplaces ⊢
      obtain ⟨harguments, hgroup, hchildren, -⟩ := hplaces
      exact ⟨fun hd => harguments (iharguments.isDeclarator hd), hgroup,
        fun hd => hchildren (ihchildren.isDeclarator hd), by simp⟩
    · have hparts := (placed_node.mp h).2
      simp only [List.forall_mem_cons] at hparts ⊢
      obtain ⟨harguments, hgroup, hchildren, -⟩ := hparts
      exact ⟨iharguments.placed harguments,
        placed_node.mpr (placed_append hnew hextra (placed_node.mp hgroup)),
        ihchildren.placed hchildren, by simp⟩
  case other =>
    intro head _ _ ih
    obtain ⟨new, extra, heq, hnew, -, hextra⟩ := ih
    rw [heq, hextra rfl, List.append_nil]
    exact .node hnew head
  case nil =>
    intro isSet
    cases isSet with
    | false => exact ⟨[], [], rfl, .nil, by simp, fun _ => rfl⟩
    | true =>
      exact ⟨[], [_], rfl, .nil, List.forall_mem_singleton.mpr (hattribute name 0 0), by simp⟩
  case attributeSet =>
    intro _ other a b _ _ _ ih
    obtain ⟨new, extra, heq, hnew, hextra, hnone⟩ := ih
    exact ⟨_ :: new, extra, congrArg _ heq, .cons ((hattribute other a b).follows _) hnew, hextra,
      fun _ => hnone rfl⟩
  case attributeKept =>
    intro _ other a b _ _ _ ihparts ihrest
    obtain ⟨inner, extra, heq, hinner, -, hnone⟩ := ihparts
    obtain rfl := hnone rfl
    rw [List.append_nil] at heq
    obtain ⟨new, extra, hrest, hnew, hextra⟩ := ihrest
    exact ⟨_ :: new, extra, congrArg _ hrest, .cons (.node (heq ▸ hinner) _) hnew, hextra⟩
  case part =>
    intro _ n _ _ ihn ihrest
    obtain ⟨new, extra, hrest, hnew, hextra⟩ := ihrest
    exact ⟨_ :: new, extra, congrArg _ hrest, .cons ihn hnew, hextra⟩

/-! ### Insertions -/

/-- A statement is inserted after one that was there before. -/
theorem insertAfterImports?_eq_some {new : Node} {parts result : List Node}
    (h : insertAfterImports? new parts = some result) :
    ∃ before last after, parts = before ++ last :: after ∧
      result = before ++ last :: new :: after := by
  unfold insertAfterImports? at h
  split at h
  · next last before hdrop =>
    split at h
    · have hparts := List.takeWhile_append_dropWhile (p := fun n => !holdsImport n)
        (l := parts.reverse)
      rw [hdrop] at hparts
      refine ⟨before.reverse, last, _, ?_, (Option.some.inj h).symm⟩
      simpa using (congrArg List.reverse hparts).symm
    · cases h
  · cases h

/-- A list with a statement inserted can take the place of the list. -/
theorem insertAfterImports?_follows {new : Node} (hnew : IsSound new) {parts result : List Node}
    (h : insertAfterImports? new parts = some result) (head : Head) :
    Follows (.node head result) (.node head parts) := by
  obtain ⟨before, last, after, rfl, rfl⟩ := insertAfterImports?_eq_some h
  obtain ⟨shape, a, b⟩ := head
  have hfits := fits_of_isSound hnew
  have hdeclares : isEmptiedStatement (.node ⟨shape, a, b⟩ (before ++ last :: new :: after)) = false := by
    simp [Bool.eq_false_iff, isEmptiedStatement_node, isEmptied_node, List.append_eq_singleton_iff]
  refine ⟨?_, ?_, fun _ => isEmptied_eq_false hdeclares, fun _ => hdeclares, id⟩
  · simp only [settled_node, List.forall_mem_append, List.forall_mem_cons]
    rintro ⟨hsuits, hbefore, hlast, hafter⟩
    refine ⟨?_, hbefore, hlast, hfits.settled, hafter⟩
    unfold Shape.Settles
    split
    · next first rest heq =>
      -- the first part of a loop is one of those that were there before
      cases before with
      | nil =>
        cases heq
        exact hsuits
      | cons =>
        cases heq
        exact hsuits
    · simp only [Shape.Settles, List.forall_mem_append, List.forall_mem_cons] at hsuits ⊢
      exact ⟨hsuits.1, hsuits.2.1, hfits.isEmptiedStatement, hsuits.2.2⟩
    · trivial
  · simp only [placed_node, Shape.Places, List.forall_mem_append, List.forall_mem_cons]
    rintro ⟨⟨hplaced, hplaces, hrest⟩, hbefore, hlast, hafter⟩
    refine ⟨⟨hplaced, hplaces, ?_, hrest⟩, hbefore, hlast, hfits.placed, hafter⟩
    simp [hfits.isDeclarator]

end Node

end SourceEdit.Script
