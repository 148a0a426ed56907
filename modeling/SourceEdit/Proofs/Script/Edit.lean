import SourceEdit.Proofs.EditOutcome
import SourceEdit.Proofs.Script.Rewriter

/-!
# Edits of scripts leave settled scripts

Every edit of a script is one in one pass (`Program.rewrite_delete`, `Program.rewrite_replace`,
`Program.rewrite_setValue`, `Program.rewrite_setAttribute`), if the script is `Program.Settled`: if
there is no declaration to drop, variables stand in declarations, and nodes have their parts.  Every
script that is read is settled, and every edit of one leaves one (`Program.edit_sound`).
-/

namespace SourceEdit.Script

namespace Program

/-- A script of which an edit that finds nothing leaves everything as it is, with its variables in
declarations, and with the parts that its nodes have to have. -/
structure Settled (p : Program) : Prop where
  root : p.root.Settled
  placed : p.root.Placed
  furnished : p.root.Everywhere Shape.Furnishes
  isProgram : ∃ interpreter, p.root.shape = .program interpreter

/-- An edit of a script leaves a settled one, and leaves it as it was if the edit is idle. -/
def SoundEdit (p : Program) (e : Edited Program) : Prop := e.Keeps Settled Eq p

variable {p : Program}

/-- Every program that is read is settled. -/
theorem settled_parse? {dialect : Dialect} {text : List Char} (h : parse? dialect text = some p) :
    p.Settled := by
  have hsound := isSound_parse? h
  obtain ⟨interpreter, stop, directives, statements, hroot, -⟩ := parse?_eq_some h
  exact ⟨hsound.1.wellFormed.settled, hsound.1.wellFormed.placed, hsound.1.wellFormed.furnished,
    interpreter, by rw [hroot]; rfl⟩

/-- The statement at the head of a value is sound. -/
theorem isSound_statementOfValue {value : String} {n : Node} (h : p.statementOfValue value = .ok n) :
    IsSound n := by
  unfold statementOfValue at h
  split at h
  · cases h
  · next q hq =>
    obtain ⟨interpreter, stop, directives, statements, hroot, -, hsound⟩ := parse?_eq_some hq
    have hbody : q.body = statements := by rw [body, hroot]; rfl
    rw [hbody] at h
    split at h
    · cases h
    · next n' rest =>
      cases h
      exact (isSound_cons.mp hsound).1

/-- The expression at the head of a value is sound. -/
theorem isSound_expressionOfValue {value : String} {n : Node}
    (h : p.expressionOfValue value = .ok n) : IsSound n := by
  unfold expressionOfValue at h
  split at h
  · cases h
  · next hread =>
    cases h
    exact isSound_expression? hread

/-- A whole script is not addressed itself. -/
theorem isAddressed_root (hp : p.Settled) (identifier : Name) (kind : LocatedKind) :
    p.root.isAddressed identifier kind = false := by
  obtain ⟨interpreter, hshape⟩ := hp.isProgram
  rw [Node.isAddressed, Node.address?, hshape]
  rfl

/-! ### Edits in one pass -/

/-- The outcome of an edit of the tree. -/
def withRoot (p : Program) (result : Node × Nat) : Edited Program :=
  .done { p with root := result.1 } result.2

section Rewrite

variable {identifier : Name}

/-- What a rewriter makes of the tree of a script is what becomes of the script. -/
theorem rewrite_eq {action : Action} {result : Node × Nat}
    (h : (Rewriter.start action identifier p.root).Makes (p.root.keyed 0).1 result.1 result.2) :
    p.rewrite identifier action = p.withRoot result := by
  obtain ⟨hroot, hcount⟩ := h ⟨_, Nat.le_refl _⟩
  rw [rewrite, withRoot, ← hroot, ← hcount]

/-- A rewriter that keeps everything makes no edit. -/
theorem rewrite_keep (hp : p.Settled) : p.rewrite identifier .keep = .done p 0 := by
  change p.rewrite identifier .keep = p.withRoot (p.root, 0)
  refine rewrite_eq ?_
  have hself := Rewriter.makes_self (r := Rewriter.start .keep identifier p.root)
    (n := (p.root.keyed 0).1) (fun _ _ _ => rfl) (by rw [Node.erase_keyed]; exact hp.root)
  rwa [Node.erase_keyed] at hself

theorem rewrite_delete (hp : p.Settled) :
    p.rewrite identifier .delete = p.withRoot (Node.deleteNamed identifier p.root) := by
  refine rewrite_eq ?_
  have h := Rewriter.knows_start .delete identifier p.root
  have hmakes := Rewriter.makes_deleteNamed rfl h (by rw [Node.erase_keyed]; exact hp.root)
  rwa [Node.erase_keyed] at hmakes

theorem rewrite_replace (hp : p.Settled) {new : Node} (hnew : IsSound new) :
    p.rewrite identifier (.replace new) = p.withRoot (Node.replaceFunctions identifier new p.root) := by
  refine rewrite_eq ?_
  have h := Rewriter.knows_start (.replace new) identifier p.root
  have hmakes := Rewriter.makes_replaceFunctions rfl hnew h (by rw [Node.erase_keyed]; exact hp.root)
  rwa [Node.erase_keyed] at hmakes

theorem rewrite_setValue (hp : p.Settled) {new : Node} (hnew : IsSound new) :
    p.rewrite identifier (.setValue new) = p.withRoot (Node.setValues identifier new p.root) := by
  refine rewrite_eq ?_
  have h := Rewriter.knows_start (.setValue new) identifier p.root
  have hedits := Rewriter.edits_setValues rfl hnew h (by rw [Node.erase_keyed]; exact hp.root)
    (by rw [Node.erase_keyed]; exact hp.placed) (by rw [Node.erase_keyed]; exact hp.furnished)
  rwa [Node.erase_keyed, isAddressed_root hp] at hedits

theorem rewrite_setAttribute (hp : p.Settled) (name : Name) (text : List Char) :
    p.rewrite identifier (.setAttribute name text) =
      p.withRoot (Node.setAttributes identifier name (.ofShape (.attributeText text) 0 0) p.root) := by
  refine rewrite_eq ?_
  have h := Rewriter.knows_start (.setAttribute name text) identifier p.root
  have hedits := (Rewriter.edits_setAttributes rfl h (by rw [Node.erase_keyed]; exact hp.root)
    (by rw [Node.erase_keyed]; exact hp.furnished)).1
  rwa [Node.erase_keyed, isAddressed_root hp] at hedits

end Rewrite

/-! ### What edits leave -/

/-- An edit of the tree is sound if what it leaves is settled, and if it changes nothing when it
counts nothing. -/
theorem withRoot_sound {result : Node × Nat} (hroot : Settled { p with root := result.1 })
    (h : result.2 = 0 → result.1 = p.root) : p.SoundEdit (p.withRoot result) := by
  refine ⟨hroot, fun hidle => ?_⟩
  rw [withRoot, Edited.done, h ((Edited.idle_done _ _).mp hidle)]

/-- A tree that can take the place of the tree of a settled script. -/
theorem Settled.of_follows (hp : p.Settled) {root : Node} (h : root.Follows p.root)
    (hfurnished : root.Everywhere Shape.Furnishes) (hshape : root.shape = p.root.shape) :
    Settled { p with root := root } where
  root := h.settled hp.root
  placed := h.placed hp.placed
  furnished := hfurnished
  isProgram := hshape ▸ hp.isProgram

theorem deleteNamed_sound (hp : p.Settled) (identifier : Name) :
    p.SoundEdit (p.withRoot (Node.deleteNamed identifier p.root)) := by
  refine withRoot_sound ⟨Node.settled_withoutEmptied _, Node.Placed.deleteNamed hp.placed identifier,
    Node.furnished_deleteNamed hp.furnished identifier, ?_⟩ fun hcount => ?_
  · dsimp only [Node.deleteNamed]
    rw [Node.shape_withoutEmptied, Node.shape_exchange]
    exact hp.isProgram
  · dsimp only [Node.deleteNamed] at hcount ⊢
    rw [Node.exchange_eq_self hcount, Node.withoutEmptied_eq_self hp.root]

theorem replaceFunctions_sound (hp : p.Settled) (identifier : Name) {new : Node}
    (hnew : IsSound new) : p.SoundEdit (p.withRoot (Node.replaceFunctions identifier new p.root)) :=
  withRoot_sound (hp.of_follows (Node.replaceFunctions_follows hnew identifier p.root)
    (Node.furnished_replaceFunctions hnew.1.wellFormed.furnished hp.furnished identifier)
    (Node.shape_substitute _)) Node.substitute_eq_self

theorem setValues_sound (hp : p.Settled) (identifier : Name) {value : Node}
    (hvalue : IsSound value) : p.SoundEdit (p.withRoot (Node.setValues identifier value p.root)) :=
  withRoot_sound (hp.of_follows (Node.setValues_follows hvalue identifier p.root)
    (Node.furnished_setValues hvalue.1.wellFormed.furnished hp.furnished identifier)
    (Node.shape_substitute _)) Node.substitute_eq_self

theorem setAttributes_sound (hp : p.Settled) (identifier name : Name) (text : List Char) :
    p.SoundEdit (p.withRoot
      (Node.setAttributes identifier name (.ofShape (.attributeText text) 0 0) p.root)) :=
  have hvalue := Node.wellFormed_attributeText text
  withRoot_sound (hp.of_follows (Node.setAttributes_follows hvalue rfl identifier name p.root)
    (Node.furnished_setAttributes hvalue.furnished hp.furnished identifier name)
    (Node.shape_setAttributes _ _ _ _)) Node.setAttributes_eq_self

/-- A script with other statements in the place of its own. -/
theorem settled_withBody (hp : p.Settled) {statements : List Node}
    (h : ∀ list, Node.Follows (.node list statements) (.node list p.body))
    (hfurnished : (∀ n ∈ p.body, n.Everywhere Shape.Furnishes) →
      ∀ n ∈ statements, n.Everywhere Shape.Furnishes) : (p.withBody statements).Settled := by
  unfold withBody
  split
  · next head directives list former hroot =>
    have hbody : p.body = former := by simp [body, hroot, Tree.children]
    have hlist := h list
    rw [hbody] at hlist hfurnished
    obtain ⟨interpreter, hprogram⟩ := hp.isProgram
    have hparts := hp.furnished
    rw [hroot] at hparts hprogram
    obtain ⟨hfurnishes, hparts⟩ := Node.everywhere_node.mp hparts
    simp only [List.forall_mem_cons] at hparts
    obtain ⟨hdirectives, hformer, -⟩ := hparts
    obtain ⟨_, _, heq, hshape⟩ := hfurnishes.program (by rw [show head.shape = _ from hprogram]; rfl)
    cases heq
    have hnew : Node.Everywhere Shape.Furnishes (.node list statements) := by
      refine .node (Shape.furnishes_of_not_isFurnished ?_ _)
        (hfurnished (Node.everywhere_node.mp hformer).2)
      rw [show list.shape = .statements from hshape]
      rfl
    -- the shapes of the script's own parts are the same, so it is a script still
    have hkept : List.Forall₂ Node.KeepsRun
        [directives, .node list statements] [directives, .node list former] :=
      .cons (fun _ => rfl) (.cons (fun _ => rfl) .nil)
    refine hp.of_follows ?_ (.node (hfurnishes.of_forall₂ hkept) (by simp [hdirectives, hnew]))
      (by rw [hroot]; rfl)
    rw [hroot]
    exact .node (.cons (.refl _) (.cons hlist .nil)) head
  · exact hp

theorem insertImport_sound (hp : p.Settled) (value : String) : p.SoundEdit (p.insertImport value) := by
  refine .needing hp fun new hnew => ?_
  replace hnew := isSound_statementOfValue hnew
  split
  · exact .failed hp _
  · split
    · next hinsert =>
      refine .done (settled_withBody hp (Node.insertAfterImports?_follows hnew hinsert)
        fun hall => ?_) nofun
      obtain ⟨before, last, after, hbody, rfl⟩ := Node.insertAfterImports?_eq_some hinsert
      rw [hbody] at hall
      simp only [List.forall_mem_append, List.forall_mem_cons] at hall ⊢
      exact ⟨hall.1, hall.2.1, hnew.1.wellFormed.furnished, hall.2.2⟩
    · exact .done hp fun _ => rfl

theorem keep_sound (hp : p.Settled) (identifier : Name) :
    p.SoundEdit (p.rewrite identifier .keep) := by
  rw [rewrite_keep hp]
  exact .done hp fun _ => rfl

theorem update_sound (hp : p.Settled) (identifier : Name) (m : Modification) :
    p.SoundEdit (p.update identifier m) := by
  unfold update
  dsimp only
  split
  · refine .needing hp fun value _ => ?_
    rw [rewrite_setAttribute hp]
    exact setAttributes_sound hp _ _ _
  · split
    · refine .needing hp fun value _ => .needing hp fun new hnew => ?_
      replace hnew := isSound_expressionOfValue hnew
      rw [rewrite_setValue hp hnew]
      exact setValues_sound hp _ hnew
    · exact keep_sound hp _

/-- Every edit of a settled script leaves a settled one, and leaves the script as it was if it is
stopped by an error or makes no edit. -/
theorem edit_sound (hp : p.Settled) (m : Modification) : p.SoundEdit (p.edit m) := by
  unfold edit
  split
  · exact .failed hp _
  · unfold editNamed
    split
    · split
      · exact .needing hp fun value _ => insertImport_sound hp value
      · exact .done hp fun _ => rfl
    · rw [rewrite_delete hp]
      exact deleteNamed_sound hp _
    · split
      · refine .needing hp fun value _ => .needing hp fun new hnew => ?_
        replace hnew := isSound_statementOfValue hnew
        rw [rewrite_replace hp hnew]
        exact replaceFunctions_sound hp _ hnew
      · exact keep_sound hp _
    · exact update_sound hp _ m

end Program

end SourceEdit.Script
