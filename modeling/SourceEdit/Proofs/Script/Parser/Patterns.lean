import SourceEdit.Proofs.Script.Parser.Yields
import SourceEdit.Script.Parser.Patterns
import SourceEdit.Script.Parser.Targets

/-!
# Patterns, parameters and assignment targets are well-formed

A pattern is read from the text; a target is made of the parts of the expression that it was read as,
so it is sound because that expression is (`Node.isSound_target?`).
-/

namespace SourceEdit.Script.Parser

variable {parse : Goal → Parser Node} (h : ∀ goal, (parse goal).Yields)

include h

@[grind ←]
theorem assignmentWithIn_yields : (assignmentWithIn parse).Yields := by
  unfold assignmentWithIn
  grind

@[grind ←]
theorem typeAfterColon_yields : (typeAfterColon parse).Yields := by
  unfold typeAfterColon
  grind

@[grind ←]
theorem valueAfterEq_yields : (valueAfterEq parse).Yields := by
  unfold valueAfterEq
  grind

/-! ### Patterns -/

/-- What is left of an array or an object goes to a pattern, which comes last. -/
@[grind ←]
theorem restPattern_yields (close : Punct) (start : Nat) :
    (restPattern parse close start).Yields := by
  unfold restPattern
  repeat' with_reducible refine .bind ?_ fun _ _ => ?_
  all_goals grind

/-- The elements of an array pattern may be missing. -/
@[grind ←]
theorem arrayPattern_yields : (arrayPattern parse).Yields := by
  unfold arrayPattern
  repeat' with_reducible first | refine .bind ?_ fun _ _ => ?_ | refine .collect ?_ | split
  all_goals grind

/-- A variable of the name of a property, with a default if it has one. -/
@[grind ←]
theorem shorthandPattern_yields : (shorthandPattern parse).Yields := by
  unfold shorthandPattern
  repeat' with_reducible first | refine .bind ?_ fun _ _ => ?_ | split
  all_goals grind

/-- A property goes to a pattern with a default. -/
@[grind ←]
theorem patternProperty_yields : (patternProperty parse).Yields := by
  unfold patternProperty
  repeat' with_reducible refine .bind ?_ fun _ _ => ?_
  all_goals grind

/-- The properties of an object pattern. -/
@[grind ←]
theorem objectPattern_yields : (objectPattern parse).Yields := by
  unfold objectPattern
  repeat' with_reducible refine .bind ?_ fun _ _ => ?_
  all_goals grind

/-- A name, an array pattern or an object pattern. -/
@[grind ←]
theorem pattern_yields : (pattern parse).Yields := by
  unfold pattern
  grind

/-- A pattern with its default. -/
@[grind ←]
theorem patternElement_yields : (patternElement parse).Yields := by
  unfold patternElement
  grind

/-! ### Parameters -/

@[grind ←]
theorem decorators_yields : (decorators parse).Yields := by
  unfold decorators
  repeat' with_reducible first | refine .bind ?_ fun _ _ => ?_ | refine .collect ?_ | split
  all_goals grind

/-- A parameter has decorators, a pattern, a type and a default. -/
@[grind ←]
theorem parameter_yields (owner : ParameterOwner) (start : Nat) {marks : List Node}
    (hmarks : IsSound marks) : (parameter parse owner start marks).Yields := by
  unfold parameter
  repeat' with_reducible refine .bind ?_ fun _ _ => ?_
  all_goals grind

/-- What is left of the arguments goes to a pattern. -/
@[grind ←]
theorem restParameter_yields (start : Nat) {marks : List Node} (hmarks : IsSound marks) :
    (restParameter parse start marks).Yields := by
  unfold restParameter
  repeat' with_reducible refine .bind ?_ fun _ _ => ?_
  all_goals grind

/-- The type of `this` may be given as a first parameter. -/
@[grind ←]
theorem receiver_yields : (receiver parse).Yields := by
  unfold receiver
  repeat' with_reducible first | refine .bind ?_ fun _ _ => ?_ | split
  all_goals grind

/-- Parameters in parentheses. -/
@[grind ←]
theorem parameters_yields (owner : ParameterOwner) : (parameters parse owner).Yields := by
  unfold parameters
  repeat' with_reducible refine .bind ?_ fun _ _ => ?_
  all_goals grind

end SourceEdit.Script.Parser

/-! ### Targets -/

namespace SourceEdit.Script

namespace Node

@[grind ←]
theorem isSound_withoutParentheses {n : Node} (hn : IsSound n) : IsSound n.withoutParentheses := by
  fun_induction withoutParentheses n <;> grind

/-- What is assigned to is a name or a member. -/
@[grind ←]
theorem isSound_simpleTarget? {n : Node} (hn : IsSound n) : IsSound n.simpleTarget? := by
  unfold simpleTarget?
  grind

/-- The targets of an expression, of the elements of an array and of the properties of an object are
sound together, since they are nested in one another. -/
private theorem isSound_targets :
    (∀ n : Node, IsSound n → IsSound n.target?) ∧
    (∀ ns : List Node, IsSound ns → IsSound (targetProperties? ns)) ∧
    ∀ ns : List Node, IsSound ns → IsSound (targetItems? ns) := by
  apply target?.mutual_induct
  case case9 =>
    intro isComputed a b key c d parts rest ih hns
    rw [targetProperties?]
    have hparts : IsSound key ∧ IsSound parts ∧ IsSound rest := by grind
    refine isSound_bind (ih hparts.2.2) fun targets htargets => ?_
    simp [Shape.Takes, hparts, htargets]
  case case10 =>
    intro isComputed a b key value rest hne ihvalue ihrest hns
    rw [targetProperties?]
    · have hparts : IsSound key ∧ IsSound value ∧ IsSound rest := by grind
      refine isSound_bind (ihvalue hparts.2.1) fun target htarget => ?_
      refine isSound_bind (ihrest hparts.2.2) fun targets htargets => ?_
      grind
    · exact hne
  all_goals grind [target?, targetItems?, targetProperties?]

/-- An array or an object on the left of an assignment becomes a pattern. -/
@[grind ←]
theorem isSound_target? {n : Node} (hn : IsSound n) : IsSound n.target? := isSound_targets.1 n hn

end Node

namespace Parser

@[grind ←]
theorem simpleTarget_yields {n : Node} (hn : IsSound n) : (simpleTarget n).Yields := by
  have ht := Node.isSound_simpleTarget? hn
  unfold simpleTarget
  grind

@[grind ←]
theorem target_yields {n : Node} (hn : IsSound n) : (target n).Yields := by
  have ht := Node.isSound_target? hn
  unfold target
  grind

end Parser

end SourceEdit.Script
