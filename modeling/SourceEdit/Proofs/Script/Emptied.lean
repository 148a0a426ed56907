import SourceEdit.Proofs.Script.DeclaresOnly
import SourceEdit.Proofs.Script.Deletion

/-!
# What a deletion empties

A deletion empties the declarations all variables of which have its name, and then drops emptied
declarations from lists of statements, from exports that stand there and from the heads of `for`
loops.  Everywhere else an emptied declaration stays: as the body of an `if`, a loop or a label, and
in the head of a `for` loop over an object or over values.  `Shape.Anchors` asks that what will be
emptied stands where it is dropped; then no declaration is left without variables.
-/

namespace SourceEdit.Script

namespace Shape

/-- A declaration of variables declares one. -/
def Declares (shape : Shape) (parts : List Node) : Prop := shape.isVariableList = true → parts ≠ []

instance (shape : Shape) (parts : List Node) : Decidable (shape.Declares parts) :=
  inferInstanceAs (Decidable (_ → _))

/-- The parts of a node that declare nothing, and those that state nothing because what they export
declares nothing, stand where they are dropped. -/
def Anchors (isBare isVoid : Node → Bool) : Shape → List Node → Prop
  | .statements, _ => True
  | .forLoop, first :: others =>
    (isVoid first = true → isBare first = true) ∧ ∀ n ∈ others, isVoid n = false
  | .exportDeclaration, [inner] => isVoid inner = true → isBare inner = true
  | _, parts => ∀ n ∈ parts, isVoid n = false

instance (isBare isVoid : Node → Bool) (shape : Shape) (parts : List Node) :
    Decidable (shape.Anchors isBare isVoid parts) := by
  unfold Anchors
  split <;> infer_instance

end Shape

namespace Node

variable {identifier : Name}

/-- A part that takes the place of another one declares something if the other one does. -/
theorem emptied_of_mem_exchanged {shape : Shape} {n m : Node}
    (hm : m ∈ exchanged (deletion identifier) shape n) :
    (isEmptiedStatement m = true → statesOnly identifier n = true) ∧
      (isEmptiedStatement m = true → declaresOnly identifier n = true → isEmptied m = true) := by
  obtain ⟨new, hnew, hm⟩ | ⟨-, rfl⟩ := mem_exchanged hm
  · rw [eq_null_of_mem_deletion hnew hm]
    exact ⟨nofun, nofun⟩
  · rw [isEmptied_exchange, isEmptiedStatement_exchange]
    exact ⟨id, fun _ => id⟩

theorem anchors_exchanged {shape : Shape} {parts : List Node}
    (h : shape.Anchors (declaresOnly identifier) (statesOnly identifier) parts) :
    shape.Anchors isEmptied isEmptiedStatement
      (parts.flatMap (exchanged (deletion identifier) shape)) := by
  have hvoid {parts : List Node} (h : ∀ n ∈ parts, statesOnly identifier n = false) :
      ∀ m ∈ parts.flatMap (exchanged (deletion identifier) shape), isEmptiedStatement m = false := by
    intro m hm
    obtain ⟨n, hn, hm⟩ := List.mem_flatMap.mp hm
    rw [Bool.eq_false_iff]
    exact fun hempty => Bool.eq_false_iff.mp (h n hn) ((emptied_of_mem_exchanged hm).1 hempty)
  -- in a loop and in an export, the part that may be emptied keeps its place
  have hbare {n m : Node} (h : statesOnly identifier n = true → declaresOnly identifier n = true)
      (hm : exchanged (deletion identifier) shape n = [m]) :
      isEmptiedStatement m = true → isEmptied m = true := by
    have hmem : m ∈ exchanged (deletion identifier) shape n := by simp [hm]
    have hemptied := emptied_of_mem_exchanged hmem
    exact fun hvoid => hemptied.2 hvoid (h (hemptied.1 hvoid))
  cases shape with
  | statements => trivial
  | forLoop =>
    cases parts with
    | nil => exact hvoid h
    | cons first others =>
      obtain ⟨m, hm⟩ : ∃ m, exchanged (deletion identifier) .forLoop first = [m] :=
        exchanged_deletion rfl identifier first
      rw [List.flatMap_cons, hm]
      exact ⟨hbare h.1 hm, hvoid h.2⟩
  | exportDeclaration =>
    have hone : ∀ n, ∃ m, exchanged (deletion identifier) .exportDeclaration n = [m] :=
      exchanged_deletion rfl identifier
    match parts with
    | [] => exact hvoid h
    | [inner] =>
      obtain ⟨m, hm⟩ := hone inner
      rw [List.flatMap_cons, hm]
      exact hbare h hm
    | n :: n' :: others =>
      have hall := hvoid h
      obtain ⟨m, hm⟩ := hone n
      obtain ⟨m', hm'⟩ := hone n'
      rw [List.flatMap_cons, List.flatMap_cons, hm, hm'] at hall ⊢
      exact hall
  | _ => exact hvoid h

/-- Nothing that is left declares nothing, if what is emptied stands where it is dropped. -/
theorem exists_of_mem_leftParts {head : Head} {parts : List Node}
    (h : head.shape.Anchors isEmptied isEmptiedStatement parts)
    (hn : isEmptiedStatement (.node head parts) = false) {m : Node}
    (hm : m ∈ leftParts head.shape parts) :
    m = absent ∨ ∃ n ∈ parts, m = withoutEmptied n ∧ isEmptiedStatement n = false := by
  obtain ⟨shape, a, b⟩ := head
  have hkept {l : List Node} (hl : ∀ n ∈ l, n ∈ parts ∧ isEmptiedStatement n = false)
      (hm : m ∈ l.map withoutEmptied) :
      ∃ n ∈ parts, m = withoutEmptied n ∧ isEmptiedStatement n = false := by
    obtain ⟨n, hn, rfl⟩ := List.mem_map.mp hm
    exact ⟨n, (hl n hn).1, rfl, (hl n hn).2⟩
  -- Only lists, loops and exports are cleaned up, each in its own way.
  cases shape with
  | statements =>
    refine .inr (hkept (fun n hn => ?_) hm)
    simpa using List.mem_filter.mp hn
  | forLoop =>
    match parts with
    | [] => cases hm
    | first :: others =>
      obtain rfl | hm := List.mem_cons.mp hm
      · split
        · exact .inl rfl
        · next hbare =>
          refine .inr ⟨first, by simp, rfl, ?_⟩
          rw [Bool.eq_false_iff]
          exact fun hvoid => hbare (h.1 hvoid)
      · exact .inr (hkept (fun n hn => ⟨by simp [hn], h.2 n hn⟩) hm)
  | exportDeclaration =>
    match parts with
    | [] => cases hm
    | [inner] =>
      refine .inr ⟨inner, by simp, List.mem_singleton.mp hm, ?_⟩
      rw [Bool.eq_false_iff]
      intro hvoid
      exact Bool.eq_false_iff.mp hn
        (isEmptiedStatement_node.mpr (.inr ⟨rfl, inner, rfl, h hvoid⟩))
    | n :: n' :: others => exact .inr (hkept (fun n hn => ⟨hn, h n hn⟩) hm)
  | _ => exact .inr (hkept (fun n hn => ⟨hn, h n hn⟩) hm)

/-- If what is emptied stands where it is dropped, every declaration that is left declares a
variable. -/
theorem declares_withoutEmptied {n : Node}
    (h : n.Everywhere (Shape.Anchors isEmptied isEmptiedStatement))
    (hn : isEmptiedStatement n = false) : (withoutEmptied n).Everywhere Shape.Declares := by
  induction h with
  | @node head parts hanchors _ ih =>
    rw [withoutEmptied_eq]
    refine .node (fun hlist hleft => ?_) fun m hm => ?_
    · have hempty : isEmptied (.node head parts) = true := by
        obtain ⟨shape, a, b⟩ := head
        cases shape with
        | variableList => exact isEmptied_node.mpr ⟨⟨_, _, rfl⟩, List.map_eq_nil_iff.mp hleft⟩
        | _ => cases hlist
      exact Bool.false_ne_true ((isEmptied_eq_false hn).symm.trans hempty)
    · obtain rfl | ⟨n, hmem, rfl, hstates⟩ := exists_of_mem_leftParts hanchors hn hm
      · exact .of_no_parts fun hlist => by cases hlist
      · exact ih n hmem hstates

end Node

namespace Program

variable {p : Program}

/-- A deletion leaves no declaration without variables, if the declarations that declare variables of
the name only stand where emptied ones are dropped. -/
theorem declares_of_deletion {options : ScriptOptions} (hp : options.editor.Reached p)
    {m : Modification} (hm : m.operation = .delete) {identifier : String}
    (hid : m.target.identifier = some identifier)
    (h : p.root.Everywhere (Shape.Anchors (Node.declaresOnly identifier.toList)
      (Node.statesOnly identifier.toList))) :
    (p.edit m).tree.root.Everywhere Shape.Declares := by
  rw [edit_of_delete (settled_of_reached hp) hm hid]
  refine Node.declares_withoutEmptied (h.exchange (fun _ _ => Node.anchors_exchanged) ?_) ?_
  · intro _ _ _ hnew _ m hm
    exact Node.eq_null_of_mem_deletion hnew hm ▸ .of_no_parts (by simp [Shape.Anchors])
  · rw [Node.isEmptiedStatement_exchange]
    obtain ⟨interpreter, hshape⟩ := (settled_of_reached hp).isProgram
    obtain ⟨⟨⟨shape, a, b⟩, parts⟩, dialect⟩ := p
    obtain rfl : shape = .program interpreter := hshape
    rfl

/-- Deleting a declaration, an exported one, the start of a loop and one variable of two. -/
theorem declares_of_deletion_anchored :
    let source := "var a; export let a = 1; for (let a = 0;;) b; if (b) var a, b;"
    let delete : Modification :=
      { path := "a.js", operation := .delete, target := { identifier := some "a" } }
    ∃ p, parse? (.ofPath "a.js") source.toList = some p ∧
      (p.edit delete).tree.root.Everywhere Shape.Declares := by
  intro source delete
  have hreads : ((parse? (.ofPath "a.js") source.toList).any fun p =>
      decide (p.root.Everywhere (Shape.Anchors (Node.declaresOnly "a".toList)
        (Node.statesOnly "a".toList)))) = true := by
    decide +kernel
  obtain ⟨p, hp, hanchors⟩ := (Option.any_eq_true _ _).mp hreads
  have hparse : (ScriptOptions.editor {}).parse "a.js" source = .ok p := by
    simp only [ScriptOptions.editor, hp]
  exact ⟨p, hp, declares_of_deletion (.parsed _ _ hparse) rfl rfl (of_decide_eq_true hanchors)⟩

/-- The declaration that is the whole branch of an `if` is left without variables. -/
theorem declares_of_deletion_branch :
    let delete : Modification :=
      { path := "a.js", operation := .delete, target := { identifier := some "x" } }
    ∃ p, parse? (.ofPath "a.js") "if (a) var x = 1;".toList = some p ∧
      ¬(p.edit delete).tree.root.Everywhere Shape.Declares := by
  intro delete
  have hreads : ((parse? (.ofPath "a.js") "if (a) var x = 1;".toList).any fun p =>
      decide ¬(p.edit delete).tree.root.Everywhere Shape.Declares) = true := by
    decide +kernel
  obtain ⟨p, hp, hleft⟩ := (Option.any_eq_true _ _).mp hreads
  exact ⟨p, hp, of_decide_eq_true hleft⟩

end Program

end SourceEdit.Script
