import SourceEdit.Proofs.Markup.Update
import SourceEdit.Proofs.Reached
import SourceEdit.Proofs.Script.Update
import SourceEdit.Proofs.Stylesheet.Update

/-!
# Updates done twice

An update says what a value, an attribute or a text is to be, and not how it is to change.  Once an
update has succeeded it succeeds again and leaves the same tree, in each of the three grammars.  What
is addressed the second time may differ: an attribute that has been set can decide on whether an
element matches, and a value can hold variables of the name.

An update of a script that names an attribute turns to variables when there is no element of the
name.  Done twice it would then turn to the elements that the value may hold, so it is asked for one.
-/

namespace SourceEdit

/-- An update that succeeds succeeds once more, and leaves the tree that it left before. -/
theorem idempotentAt_of_update {m : Modification} (hm : m.operation = .update) :
    (∀ sheet : Stylesheet, IdempotentAt (Stylesheet.edit · m) Arena.Alike sheet) ∧
      (∀ tree : Markup, tree.IsDocument → IdempotentAt (Markup.edit · m) Arena.Alike tree) ∧
      ∀ (options : ScriptOptions) (p : Script.Program), options.editor.Reached p →
        (m.target.attributeName = none ∨ ∃ identifier, m.target.identifier = some identifier ∧
          p.root.holdsLocated identifier.toList .element = true) →
        IdempotentAt (Script.Program.edit · m) Eq p :=
  ⟨Stylesheet.idempotentAt_update hm, fun _ => Markup.idempotentAt_update hm,
    fun _ _ hp => Script.Program.idempotentAt_update (Script.Program.settled_of_reached hp) hm⟩

/-- Setting the attribute by which an element has been found; and giving a variable, in whose declared
type there is another one of the name, a value that declares a third. -/
theorem idempotentAt_of_update_found :
    let set : Modification :=
      { path := "a", operation := .update, value := some (.text "b"),
        target := { selector := some ".a", property := some "b", attributeName := some "class",
                    identifier := some "a" } }
    let give : Modification :=
      { path := "a.ts", operation := .update, target := { identifier := some "x" },
        value := some (.text "() => { let x = 1; }") }
    let sheet := (Stylesheet.ofText ".a{b:c}").edit set
    let tree := (Markup.ofText {} "<p class=a>").edit set
    (∃ n, (sheet.tree.edit set).result = .ok n ∧ sheet.tree.Alike (sheet.tree.edit set).tree) ∧
      (∃ n, (Markup.edit tree.tree set).result = .ok n ∧
        Arena.Alike tree.tree (Markup.edit tree.tree set).tree) ∧
      ∃ p, Script.Program.parse? (.ofPath "a.ts")
          "let x: { [(() => { let x = 2; })()]: number } = 3;".toList = some p ∧
        (p.edit give).result = .ok 2 ∧ ∃ n, ((p.edit give).tree.edit give).result = .ok n ∧
          (p.edit give).tree = ((p.edit give).tree.edit give).tree := by
  intro set give sheet tree
  obtain ⟨hsheet, htree, -⟩ := idempotentAt_of_update (m := set) rfl
  obtain ⟨-, -, hscript⟩ := idempotentAt_of_update (m := give) rfl
  have hdone {σ : Type} {e : Edited σ} {n : Nat} (h : e.result.toOption = some n) :
      e.result = .ok n := by
    cases hresult : e.result with
    | error err => simp [hresult, Except.toOption] at h
    | ok n => simpa [hresult, Except.toOption] using h
  -- the value declares the variable as well, and so does the declared type
  have hreads : ((Script.Program.parse? (.ofPath "a.ts")
      "let x: { [(() => { let x = 2; })()]: number } = 3;".toList).any fun p =>
      (p.edit give).result.toOption == some 2) = true := by
    decide +kernel
  obtain ⟨p, hp, hcount⟩ := (Option.any_eq_true _ _).mp hreads
  have hgiven := hdone (eq_of_beq hcount)
  have hreached : (ScriptOptions.editor {}).Reached p := Script.Program.reached_of_parse? hp
  refine ⟨hsheet _ 1 (hdone ?_), htree _ (Markup.isDocument_ofText {} _) 1 (hdone ?_), p, hp, hgiven,
    hscript _ p hreached (.inl rfl) 2 hgiven⟩
  · decide +kernel
  · decide +kernel

end SourceEdit
