import SourceEdit.Proofs.Script.Deletion
import SourceEdit.Proofs.Script.Substitution

/-!
# Functions replaced by a statement

A replacement substitutes a statement for the functions of a name.  It looks for them in lists of
statements, at any depth, and neither inside a function that goes nor inside what is put in its
place: `Program.substituted_of_replacement` says so path by path.  What stands in the place of a
statement that is an export is told by `Node.Succeeds`.
-/

namespace SourceEdit.Script

namespace Shape

/-- Whether a shape is that of a function. -/
def isFunction : Shape → Bool
  | .function _ => true
  | _ => false

end Shape

namespace Node

variable {identifier : Name}

/-- What stands in the place of a statement when a new one is put there. -/
inductive Succeeds (new : Node) : Node → Node → Prop
  /-- A bare function stays within the export of the old statement. -/
  | exported {head : Head} {parts : List Node} : new.shape.isFunction = true →
      head.shape.isExport = true → Succeeds new (.node head parts) (.node head [new])
  /-- Otherwise the new statement stands for the whole old one. -/
  | whole {old : Node} : ¬(new.shape.isFunction = true ∧ old.shape.isExport = true) →
      Succeeds new old new

theorem succeeds_keepExport (new old : Node) : Succeeds new old (keepExport old new) := by
  obtain ⟨⟨shape, a, b⟩, parts⟩ := old
  cases hfunction : new.shape.isFunction with
  | true =>
    obtain ⟨head, hnew⟩ : ∃ head, new.shape = .function head := by
      cases hshape : new.shape with
      | function head => exact ⟨head, rfl⟩
      | _ => rw [hshape] at hfunction; cases hfunction
    unfold keepExport
    rw [hnew]
    cases shape with
    | exportDeclaration | exportDefault => exact .exported hfunction rfl
    | _ => exact .whole fun h => by cases h.2
  | false =>
    have hkeep : keepExport (.node ⟨shape, a, b⟩ parts) new = new := by
      unfold keepExport
      split
      · next hshape => rw [hshape] at hfunction; cases hfunction
      · next hshape => rw [hshape] at hfunction; cases hfunction
      · rfl
    rw [hkeep]
    exact .whole fun h => by simp [hfunction] at h

/-! ### Statements that are found -/

/-- A node that stands in a tree is one of its nodes, and so is every node below it. -/
theorem mem_preorder_of_at? {n part k : Node} {path : List Nat} (h : n.at? path = some part)
    (hk : k ∈ part.preorder) : k ∈ n.preorder := by
  induction path generalizing n with
  | nil =>
    obtain rfl := Option.some.inj h
    exact hk
  | cons i path ih =>
    obtain ⟨child, hchild, hpart⟩ := Tree.at?_cons_eq_some.mp h
    obtain ⟨head, parts⟩ := n
    exact mem_preorder_node.mpr (.inr ⟨child, List.mem_of_getElem? hchild, ih hpart⟩)

/-- The function that a statement declares is found in it. -/
theorem holdsLocated_of_declaresFunction {n : Node} (h : n.declaresFunction identifier = true) :
    n.holdsLocated identifier .function = true := by
  rw [holdsLocated_iff]
  obtain ⟨head, parts⟩ := n
  obtain haddressed | ⟨-, inner, rfl, haddressed⟩ := declaresFunction_node.mp h
  · exact ⟨_, mem_preorder_self _, haddressed⟩
  · exact ⟨inner, mem_preorder_node.mpr (.inr ⟨inner, by simp, mem_preorder_self inner⟩), haddressed⟩

theorem substituted_replaceFunctions (identifier : Name) (new n : Node) :
    Substituted (isFunctionSlot identifier) (Succeeds new) n
      (replaceFunctions identifier new n).1 (replaceFunctions identifier new n).2 :=
  substituted_substitute (succeeds_keepExport new) n

/-- Where no function of the name is found, there is none to replace. -/
theorem replaceFunctions_of_not_holdsLocated {n : Node}
    (h : n.holdsLocated identifier .function = false) (new : Node) :
    replaceFunctions identifier new n = (n, 0) := by
  have hcount : (replaceFunctions identifier new n).2 = 0 := by
    obtain ⟨paths, -, hpaths, hcount⟩ := (substituted_replaceFunctions identifier new n).counted
    rw [hcount, List.length_eq_zero_iff, List.eq_nil_iff_forall_not_mem]
    intro path hpath
    obtain ⟨⟨outer, i, parent, part, rfl, hparent, hpart, hfound⟩, -⟩ := (hpaths path).mp hpath
    have hdeclares : declaresFunction identifier part = true := by
      rw [isFunctionSlot, hpart] at hfound
      exact (Bool.and_eq_true_iff.mp hfound).2
    obtain ⟨k, hk, haddressed⟩ := holdsLocated_iff.mp (holdsLocated_of_declaresFunction hdeclares)
    have hpart : n.at? (outer ++ [i]) = some part :=
      Tree.at?_concat_eq_some.mpr ⟨parent, hparent, hpart⟩
    exact Bool.eq_false_iff.mp h
      (holdsLocated_iff.mpr ⟨k, mem_preorder_of_at? hpart hk, haddressed⟩)
  exact Prod.ext (substitute_eq_self hcount) hcount

end Node

namespace Program

variable {p : Program}

/-- A replacement puts the first statement of the value in the place of every statement of a list
that declares or exports the function of the name, and does not stand inside another such statement.
All else stays where and as it was, each of these statements counts, and what has been put in is not
edited, whatever it declares. -/
theorem substituted_of_replacement {options : ScriptOptions} (hp : options.editor.Reached p)
    {m : Modification} (hm : m.operation = .replace) {identifier : String}
    (hid : m.target.identifier = some identifier) {value : String}
    (hvalue : m.valueText? = some value) {q : Program}
    (hread : parse? p.dialect value.toList = some q) {new : Node} (hfirst : q.body.head? = some new) :
    ∃ root count, p.edit m = .done { p with root } count ∧
      Node.Substituted (Node.isFunctionSlot identifier.toList) (Node.Succeeds new) p.root root
        count := by
  have hsettled := settled_of_reached hp
  have hnew : p.statementOfValue value = .ok new := by
    obtain ⟨rest, hbody⟩ := List.head?_eq_some_iff.mp hfirst
    simp only [statementOfValue, hread, hbody]
  have hrewrite : p.rewrite identifier.toList (.replace new) = _ :=
    rewrite_replace hsettled (isSound_statementOfValue hnew)
  have hsubstituted := Node.substituted_replaceFunctions identifier.toList new p.root
  refine ⟨_, _, ?_, hsubstituted⟩
  simp only [edit, hid, editNamed, hm]
  cases hheld : p.root.holdsLocated identifier.toList .function with
  | true =>
    simp only [requiredValue_eq hvalue, hnew, Edited.needing, hrewrite, withRoot, if_pos]
  | false =>
    rw [if_neg Bool.false_ne_true, rewrite_keep hsettled,
      Node.replaceFunctions_of_not_holdsLocated hheld]

/-- Replacing an exported function that holds another one, and one inside a block, by a function
that holds one of the name again. -/
theorem substituted_of_replacement_exported :
    let source := "export function f() { function f() {} }\nif (a) { b(); function f() {} }"
    let replace : Modification :=
      { path := "a.js", operation := .replace, target := { identifier := some "f" },
        value := some (.text "function g() { function f() {} } c();") }
    ∃ p new root, parse? (.ofPath "a.js") source.toList = some p ∧
      p.edit replace = .done { p with root } 2 ∧
      Node.Substituted (Node.isFunctionSlot "f".toList) (Node.Succeeds new) p.root root 2 := by
  intro source replace
  have hreads : ((parse? (.ofPath "a.js") source.toList).any fun p =>
      (p.edit replace).result.toOption == some 2 &&
        (parse? p.dialect "function g() { function f() {} } c();".toList).any fun q =>
          q.body.head?.isSome) = true := by
    decide +kernel
  obtain ⟨p, hp, hread⟩ := (Option.any_eq_true _ _).mp hreads
  obtain ⟨hcount, hread⟩ := Bool.and_eq_true_iff.mp hread
  obtain ⟨q, hq, hfirst⟩ := (Option.any_eq_true _ _).mp hread
  obtain ⟨new, hnew⟩ := Option.isSome_iff_exists.mp hfirst
  have hreached : (ScriptOptions.editor {}).Reached p := reached_of_parse? hp
  obtain ⟨root, count, hedit, hsubstituted⟩ :=
    substituted_of_replacement (m := replace) hreached rfl rfl rfl hq hnew
  obtain rfl : count = 2 := by
    rw [hedit] at hcount
    exact Option.some.inj (eq_of_beq hcount)
  exact ⟨p, new, root, hp, hedit, hsubstituted⟩

end Program

end SourceEdit.Script
