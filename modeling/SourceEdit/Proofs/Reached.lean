import SourceEdit.Editor
import SourceEdit.Proofs.Arena.Graft
import SourceEdit.Proofs.Markup.Edit
import SourceEdit.Proofs.Script.Edit
import SourceEdit.Proofs.Stylesheet.Edit

/-!
# Trees that edits lead to

`Editor.Reached` holds of the trees that reading a text and any number of edits lead to, those that
failed included.  Every editor keeps an invariant of its trees, so what is known of an edit of a tree
with the invariant holds along every run.  In particular an edit that fails or counts nothing leaves
the tree as it was.
-/

namespace SourceEdit

/-- The trees that reading a text and any number of edits lead to. -/
inductive Editor.Reached (e : Editor) : e.Tree → Prop
  | parsed (path source : String) {tree : e.Tree} :
      e.parse path source = .ok tree → Reached e tree
  | edited {tree : e.Tree} (m : Modification) : Reached e tree → Reached e (e.edit tree m).tree

/-- An invariant that reading establishes and edits keep holds of every tree that is reached. -/
theorem Editor.Reached.invariant {e : Editor} {I : e.Tree → Prop} {R : e.Tree → e.Tree → Prop}
    (hparse : ∀ path source tree, e.parse path source = .ok tree → I tree)
    (hedit : ∀ tree m, I tree → (e.edit tree m).Keeps I R tree) {tree : e.Tree}
    (h : e.Reached tree) : I tree := by
  induction h with
  | parsed path source hread => exact hparse path source _ hread
  | edited m _ ih => exact (hedit _ m ih).invariant

theorem Stylesheet.wellFormed_of_reached {options : StylesheetOptions} {sheet : Stylesheet}
    (h : options.editor.Reached sheet) : sheet.WellFormed := by
  refine Editor.Reached.invariant (e := options.editor) (I := Arena.WellFormed) (R := Arena.Alike) ?_
    (fun sheet m hw => edit_sound hw m) h
  intro _ source sheet hread
  obtain rfl : ofText source = sheet := Except.ok.inj hread
  exact .ofForest _ _

theorem Markup.wellFormed_of_reached {options : MarkupOptions} {tree : Markup}
    (h : options.editor.Reached tree) : Arena.WellFormed tree := by
  refine Editor.Reached.invariant (e := options.editor) (I := Arena.WellFormed) (R := Arena.Alike) ?_
    (fun tree m hw => edit_sound hw m) h
  intro _ source tree hread
  obtain rfl : ofText options source = tree := Except.ok.inj hread
  exact .ofForest _ _

theorem Script.Program.settled_of_reached {options : ScriptOptions} {p : Script.Program}
    (h : options.editor.Reached p) : p.Settled := by
  refine Editor.Reached.invariant (e := options.editor) (I := Settled) (R := Eq) ?_
    (fun p m hp => edit_sound hp m) h
  intro path source p hread
  dsimp only [ScriptOptions.editor] at hread
  split at hread
  · next q hparse =>
    obtain rfl : q = p := Except.ok.inj hread
    exact settled_parse? hparse
  · cases hread

/-- A script that is read is reached. -/
theorem Script.Program.reached_of_parse? {options : ScriptOptions} {path source : String}
    {p : Script.Program} (h : parse? (.ofPath path) source.toList = some p) :
    options.editor.Reached p := by
  refine Editor.Reached.parsed (e := options.editor) path source ?_
  simp only [ScriptOptions.editor, h]

/-- A step that fails or makes no edit changes nothing, in any of the three grammars and whatever
was read and edited before. -/
theorem edit_unchanged_of_idle (options : Options) (m : Modification) :
    (∀ sheet : Stylesheet, options.stylesheet.editor.Reached sheet → (sheet.edit m).Idle →
      (sheet.edit m).tree.view (sheet.edit m).tree.root = sheet.view sheet.root) ∧
    (∀ tree : Markup, options.markup.editor.Reached tree → (tree.edit m).Idle →
      (tree.edit m).tree.view (tree.edit m).tree.root = tree.view tree.root) ∧
    ∀ p : Script.Program, options.script.editor.Reached p → (p.edit m).Idle →
      (p.edit m).tree = p := by
  refine ⟨fun sheet hsheet hidle => ?_, fun tree htree hidle => ?_, fun p hp hidle => ?_⟩
  · exact (Stylesheet.edit_sound (Stylesheet.wellFormed_of_reached hsheet) m).unchanged hidle
  · exact (Markup.edit_sound (Markup.wellFormed_of_reached htree) m).unchanged hidle
  · exact ((p.edit_sound (Script.Program.settled_of_reached hp) m).unchanged hidle).symm

/-- Deleting once more what has been deleted already. -/
theorem edit_unchanged_of_idle_deletions :
    let delete : Modification :=
      { path := "a", operation := .delete, target := { selector := some "a", identifier := some "a" } }
    let sheet := ((Stylesheet.ofText "a{}").edit delete).tree
    let tree := ((Markup.ofText {} "<a>").edit delete).tree
    (sheet.edit delete).tree.view sheet.root = sheet.view sheet.root ∧
      (tree.edit delete).tree.view tree.root = tree.view tree.root ∧
      ∃ p, Script.Program.parse? (.ofPath "a.js") "var a".toList = some p ∧
        ((p.edit delete).tree.edit delete).tree = (p.edit delete).tree := by
  intro delete sheet tree
  obtain ⟨hsheet, htree, hscript⟩ := edit_unchanged_of_idle {} delete
  have hidle {σ : Type} {e : Edited σ} (h : e.result.toOption = some 0) : e.Idle := by
    intro n hn
    rw [hn] at h
    exact Option.some.inj h
  have hreads : ((Script.Program.parse? (.ofPath "a.js") "var a".toList).any fun p =>
      ((p.edit delete).tree.edit delete).result.toOption == some 0) = true := by
    decide +kernel
  obtain ⟨p, hp, hcount⟩ := (Option.any_eq_true _ _).mp hreads
  have hparse : (ScriptOptions.editor {}).parse "a.js" "var a" = .ok p := by
    simp only [ScriptOptions.editor, hp]
  refine ⟨hsheet sheet (.edited delete (.parsed "a" "a{}" rfl)) (hidle ?_),
    htree tree (.edited delete (.parsed "a" "<a>" rfl)) (hidle ?_), p, hp,
    hscript _ (.edited delete (.parsed _ _ hparse)) (hidle (eq_of_beq hcount))⟩
  · decide +kernel
  · decide +kernel

end SourceEdit
