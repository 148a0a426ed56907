import SourceEdit.Proofs.Script.Parser.Declarations
import SourceEdit.Script.Parser.Modules

/-!
# Imports and exports are well-formed
-/

namespace SourceEdit.Script.Parser

instance : Checked Specifier := ⟨fun s => IsSound s.first ∧ IsSound s.second⟩

@[grind =]
theorem isSound_specifier {s : Specifier} : IsSound s ↔ IsSound s.first ∧ IsSound s.second := .rfl

variable {parse : Goal → Parser Node} (h : ∀ goal, (parse goal).Yields)

include h

/-! ### Names on the other side -/

omit h in
/-- A name on the other side may be a string. -/
@[grind ←]
theorem exportName_yields : exportName.Yields := by
  unfold exportName
  grind

omit h in
/-- The word `type` may be a name of its own. -/
@[grind ←]
theorem specifierAfterType_yields {type : Node × Token} (htype : IsSound type) :
    (specifierAfterType type).Yields := by
  unfold specifierAfterType
  grind

omit h in
/-- A specifier has a name on either side, which may be the same. -/
@[grind ←]
theorem specifier_yields : specifier.Yields := by
  unfold specifier
  grind

/-! ### Sources -/

omit h in
@[grind ←]
theorem importAttribute_yields : importAttribute.Yields := by
  unfold importAttribute
  grind

omit h in
/-- Attributes in braces, or none. -/
@[grind ←]
theorem importAttributes_yields : importAttributes.Yields := by
  unfold importAttributes
  grind

omit h in
/-- A source with its attributes. -/
@[grind ←]
theorem moduleSource_yields : moduleSource.Yields := by
  unfold moduleSource
  grind

/-! ### Imports -/

omit h in
@[grind ←]
theorem importNamed_yields (typeOnly : Bool) : (importNamed typeOnly).Yields := by
  unfold importNamed
  grind

omit h in
/-- An import names what it takes, one by one or all together. -/
@[grind ←]
theorem importList_yields (typeOnly : Bool) : (importList typeOnly).Yields := by
  unfold importList
  grind

omit h in
/-- Every import. -/
@[grind ←]
theorem importDeclaration_yields (start : Nat) : (importDeclaration start).Yields := by
  unfold importDeclaration
  repeat' with_reducible first | refine .bind ?_ fun _ _ => ?_ | split
  all_goals grind

/-! ### Exports -/

omit h in
/-- An export of names, with or without a source. -/
@[grind ←]
theorem exportNames_yields (typeOnly : Bool) (start : Nat) :
    (exportNames typeOnly start).Yields := by
  unfold exportNames
  repeat' with_reducible refine .bind ?_ fun _ _ => ?_
  all_goals grind

omit h in
/-- An export of everything, which may have a name. -/
@[grind ←]
theorem exportAll_yields (typeOnly : Bool) (start : Nat) : (exportAll typeOnly start).Yields := by
  unfold exportAll
  grind

@[grind ←]
theorem exportMarks_yields {marks : List Node} (hmarks : IsSound marks) :
    (exportMarks parse marks).Yields := by
  unfold exportMarks
  grind

/-- A default export is a function, a class or an expression. -/
@[grind ←]
theorem defaultValue_yields {marks : List Node} (hmarks : IsSound marks) :
    (defaultValue parse marks).Yields := by
  unfold defaultValue
  repeat' with_reducible first | refine .bind ?_ fun _ _ => ?_ | split
  all_goals grind

/-- An export of what is declared there. -/
@[grind ←]
theorem exportedDeclaration_yields {marks : List Node} (hmarks : IsSound marks) :
    (exportedDeclaration parse marks).Yields := by
  unfold exportedDeclaration
  repeat' with_reducible refine .bind ?_ fun _ _ => ?_
  all_goals grind

/-- Every export. -/
@[grind ←]
theorem exportDeclaration_yields (start : Nat) {marks : List Node} (hmarks : IsSound marks) :
    (exportDeclaration parse start marks).Yields := by
  unfold exportDeclaration
  repeat' with_reducible refine .bind ?_ fun _ _ => ?_
  all_goals grind

end SourceEdit.Script.Parser
