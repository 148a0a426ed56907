import SourceEdit.Proofs.Arena.DocumentOrder
import SourceEdit.Proofs.Markup.Placement
import SourceEdit.Proofs.Stylesheet.Rewriting

/-!
# What a target addresses

Locating goes through the nodes that a search from the root meets.  An arena also holds what edits
have taken out of the tree, or have read and not used, with the links inside of it as they were.
None of this is ever found: in every tree that reading and editing lead to, a target addresses the
attached nodes that its selector matches, each once and in document order
(`lists_of_locate`).
-/

namespace SourceEdit

theorem Stylesheet.Node.isMatch_iff (p : SelectorPattern) (n : Stylesheet.Node) :
    n.isMatch p = true ↔ ∃ selector, n = .rule selector ∧ p.isMatch selector = true := by
  cases n <;> simp [Node.isMatch]

theorem Markup.Node.isMatch_iff (s : SimpleSelector) (n : Markup.Node) :
    n.isMatch s = true ↔ ∃ name attributes, n = .element name attributes ∧
      s.isMatch name.localName (attributeValue? attributes) = true := by
  cases n <;> simp [Node.isMatch]

/-- A target with a selector that can be read addresses the attached rules, or elements, that the
selector matches, each once and in document order, whatever was read and edited before.  A rule is
matched by its own selector, and an element by its own tag, class or id. -/
theorem lists_of_locate (options : Options) (target : Target) :
    (∀ sheet : Stylesheet, options.stylesheet.editor.Reached sheet →
      ∀ rules, sheet.locate target = .ok rules → ∃ p, target.SelectsRules p ∧
        sheet.Lists (fun n => ∃ selector, n = .rule selector ∧ p.isMatch selector = true) rules) ∧
    ∀ tree : Markup, options.markup.editor.Reached tree →
      ∀ elements, tree.locate target = .ok elements → ∃ s, target.Selects s ∧
        tree.Lists (fun n => ∃ name attributes, n = .element name attributes ∧
          s.isMatch name.localName (Markup.attributeValue? attributes) = true) elements := by
  refine ⟨fun sheet hsheet rules h => ?_, fun tree htree elements h => ?_⟩
  · obtain ⟨p, hp, rfl⟩ := Stylesheet.locate_eq_ok_iff.mp h
    exact ⟨p, hp, (Stylesheet.wellFormed_of_reached hsheet).lists_matching
      (Stylesheet.Node.isMatch_iff p)⟩
  · obtain ⟨s, hs, rfl⟩ := Markup.locate_eq_ok_iff.mp h
    rw [Markup.elementsMatching_eq]
    exact ⟨s, hs, (Markup.wellFormed_of_reached htree).lists_matching (Markup.Node.isMatch_iff s)⟩

/-- Matching nodes that were deleted, that were read and not used, and that came in before older
ones. -/
theorem lists_of_locate_detached :
    let delete : Modification :=
      { path := "a", operation := .delete, target := { selector := some "b" } }
    let replace (value : String) : Modification :=
      { path := "a", operation := .replace, target := { selector := some "c" },
        value := some (.text value) }
    let sheet := (((Stylesheet.ofText "a{b{a{}}c{}a{}}d{}").edit delete).tree.edit
      (replace "b,a{}a{}")).tree
    let tree := (((Markup.ofText {} "<p class=a><b><i class=a></i></b><c></c><i class=ba>").edit
      delete).tree.edit (replace "<q class=a>")).tree
    (∃ p, SelectorPattern.ofText "a" = .ok p ∧
      sheet.Lists (fun n => ∃ selector, n = .rule selector ∧ p.isMatch selector = true) [1, 7, 5]) ∧
    ∃ s, SimpleSelector.ofText ".a" = .ok s ∧
      tree.Lists (fun n => ∃ name attributes, n = .element name attributes ∧
        s.isMatch name.localName (Markup.attributeValue? attributes) = true) [1, 6, 5] := by
  intro delete replace sheet tree
  have hreached (source : String) (first second : Modification) :
      (StylesheetOptions.editor {}).Reached
          (((Stylesheet.ofText source).edit first).tree.edit second).tree ∧
        (MarkupOptions.editor {}).Reached
          (((Markup.ofText {} source).edit first).tree.edit second).tree :=
    ⟨.edited second (.edited first (.parsed "a" source rfl)),
      .edited second (.edited first (.parsed "a" source rfl))⟩
  have hrules : sheet.locate { selector := some "a" } = .ok [1, 7, 5] := by
    decide +kernel
  have helements : tree.locate { selector := some ".a" } = .ok [1, 6, 5] := by
    decide +kernel
  obtain ⟨p, ⟨_, ⟨⟩, hp⟩, hlists⟩ := (lists_of_locate {} { selector := some "a" }).1 sheet
    (hreached _ delete (replace "b,a{}a{}")).1 [1, 7, 5] hrules
  obtain ⟨s, ⟨_, ⟨⟩, hs⟩, hlists'⟩ := (lists_of_locate {} { selector := some ".a" }).2 tree
    (hreached _ delete (replace "<q class=a>")).2 [1, 6, 5] helements
  exact ⟨⟨p, hp, hlists⟩, s, hs, hlists'⟩

end SourceEdit
