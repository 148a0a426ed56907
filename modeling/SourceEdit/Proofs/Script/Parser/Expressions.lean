import SourceEdit.Proofs.Script.Parser.Functions
import SourceEdit.Proofs.Script.Parser.Patterns
import SourceEdit.Proofs.Script.Parser.Types
import SourceEdit.Script.Parser.Elements
import SourceEdit.Script.Parser.Expressions

/-!
# Elements and expressions are well-formed

The text of an attribute has been read as a token between quotes, in a mode of its own, and so it can
be put between quotes again (`Parser.attributeValue_yields`).  Everything else is put together from
the parts that have been read.
-/

namespace SourceEdit.Script.Parser

variable {parse : Goal → Parser Node} (h : ∀ goal, (parse goal).Yields)

include h

/-! ### Expressions in elements -/

/-- Braces in an element hold an expression, or nothing. -/
@[grind ←]
theorem innerExpression_yields : (innerExpression parse).Yields := by
  unfold innerExpression
  grind

/-- Braces between tags may hold a spread as well. -/
@[grind ←]
theorem containerChild_yields : (containerChild parse).Yields := by
  unfold containerChild
  grind

/-! ### Attributes -/

/-- The value of an attribute is sound, since its token is read in a mode of its own. -/
theorem attributeValue_yields {α : Type} [Checked α] {f : Node → Parser α}
    (hf : ∀ value, IsSound value → (f value).Yields) (mark : Token) :
    (advancePast .attributeValue mark >>= fun _ => attributeValue parse >>= f).Yields := by
  intro c s a s' ha
  obtain ⟨_, t, hmark, ha⟩ := bind_eq_some.mp ha
  obtain ⟨value, u, hvalue, ha⟩ := bind_eq_some.mp ha
  refine hf value ?_ c u a s' ha
  obtain ⟨trivia, htoken⟩ := token_of_advancePast hmark
  unfold attributeValue at hvalue
  obtain ⟨start, _, hstart, hvalue⟩ := bind_eq_some.mp hvalue
  obtain ⟨-, rfl⟩ := here_eq_some.mp hstart
  obtain ⟨_, _, hcurrent, hvalue⟩ := bind_eq_some.mp hvalue
  obtain ⟨rfl, rfl⟩ := current_eq_some.mp hcurrent
  refine (?_ : Parser.Yields _) c _ value u hvalue
  split
  · next hkind =>
    refine .bind (.of_isPlain _) fun _ _ => .finish ?_
    exact ⟨Lexer.isQuotable_next htoken.symm hkind, isSound_nil.mpr trivial⟩
  all_goals grind

/-- An attribute holds its value, which may be a text, braces or an element; a spread holds an
expression. -/
@[grind ←]
theorem attribute?_yields : (attribute? parse).Yields := by
  unfold attribute?
  repeat' with_reducible first
    | refine attributeValue_yields h (fun _ _ => ?_) _
    | refine .bind ?_ fun _ _ => ?_
    | split
  all_goals grind

/-! ### Elements -/

/-- What stands between tags is texts, braces and elements. -/
@[grind ←]
theorem children_yields : (children parse).Yields := by
  unfold children
  repeat' with_reducible first | refine .bind ?_ fun _ _ => ?_ | refine .collect ?_ | split
  all_goals grind

/-- An element holds its type arguments, its attributes and its children; a fragment holds children.
-/
@[grind ←]
theorem element_yields (inContent : Bool) : (element parse inContent).Yields := by
  unfold element
  repeat' with_reducible first | refine .bind ?_ fun _ _ => ?_ | split
  all_goals grind

/-! ### Literals -/

omit h in
/-- A token that becomes a node without parts. -/
@[grind ←]
theorem leaf_yields {shape : Shape} (hshape : shape.Takes []) : (leaf shape).Yields := by
  unfold leaf
  grind

omit h in
@[grind ←]
theorem regex_yields : regex.Yields := by
  unfold regex
  grind

/-- A template holds its texts and expressions in turn. -/
@[grind ←]
theorem template_yields (isTagged : Bool) : (template parse isTagged).Yields := by
  unfold template
  repeat' with_reducible first
    | refine .bind ?_ fun _ _ => ?_ | refine .iterate (fun _ _ => ?_) ?_ | split
  all_goals grind

/-- Three dots and an expression. -/
@[grind ←]
theorem spread_yields (start : Nat) : (spread parse start).Yields := by
  unfold spread
  grind

/-- An array holds expressions, spreads and holes. -/
@[grind ←]
theorem array_yields : (array parse).Yields := by
  unfold array
  repeat' with_reducible first | refine .bind ?_ fun _ _ => ?_ | refine .collect ?_ | split
  all_goals grind

/-- A property without a value, which stands for the variable of its name and may have a default
there. -/
@[grind ←]
theorem shorthandProperty_yields (t : Token) {key : Node} (hkey : IsSound key) :
    (shorthandProperty parse t key).Yields := by
  unfold shorthandProperty
  repeat' with_reducible first | refine .bind ?_ fun _ _ => ?_ | split
  all_goals grind

/-- A property, a method, an accessor or a spread. -/
@[grind ←]
theorem objectMember_yields : (objectMember parse).Yields := by
  unfold objectMember
  repeat' with_reducible first | refine .bind ?_ fun _ _ => ?_ | split | dsimp only
  all_goals grind

/-- An object holds its members. -/
@[grind ←]
theorem object_yields : (object parse).Yields := by
  unfold object
  grind

/-- Parentheses around an expression are left in the tree. -/
@[grind ←]
theorem parenthesized_yields : (parenthesized parse).Yields := by
  unfold parenthesized
  repeat' with_reducible first | refine .bind ?_ fun _ _ => ?_ | refine .within ?_ | split
  all_goals grind

/-! ### Operands -/

/-- An import inside an expression is a call or `import.meta`. -/
@[grind ←]
theorem importExpression_yields : (importExpression parse).Yields := by
  unfold importExpression
  repeat' with_reducible first | refine .bind ?_ fun _ _ => ?_ | split
  all_goals grind

/-- Arguments are expressions and spreads. -/
@[grind ←]
theorem arguments_yields : (arguments parse).Yields := by
  unfold arguments
  repeat' with_reducible refine .bind ?_ fun _ _ => ?_
  all_goals grind

omit h in
/-- What is instantiated may be taken apart from its type arguments. -/
theorem isSound_splitInstantiation {n : Node} (hn : IsSound n) :
    IsSound (splitInstantiation n) := by
  fun_cases splitInstantiation n <;> grind

omit h in
@[grind ←]
theorem isSound_splitInstantiation_fst {n : Node} (hn : IsSound n) :
    IsSound (splitInstantiation n).1 :=
  (isSound_splitInstantiation hn).1

omit h in
@[grind ←]
theorem isSound_splitInstantiation_snd {n : Node} (hn : IsSound n) :
    IsSound (splitInstantiation n).2 :=
  (isSound_splitInstantiation hn).2

/-- A new object has a class, type arguments and arguments. -/
@[grind ←]
theorem newExpression_yields : (newExpression parse).Yields := by
  unfold newExpression
  repeat' with_reducible first | refine .bind ?_ fun _ _ => ?_ | split
  all_goals grind

@[grind ←]
theorem classExpression_yields : (classExpression parse).Yields := by
  unfold classExpression
  grind

/-- An operand that starts with a word. -/
@[grind ←]
theorem wordOperand_yields (w : Word) : (wordOperand parse w).Yields := by
  unfold wordOperand
  grind

/-- An operand that starts with a mark or a literal. -/
@[grind ←]
theorem plainPrimary_yields : (plainPrimary parse).Yields := by
  unfold plainPrimary
  grind

/-- Every operand without anything before or after it. -/
@[grind ←]
theorem primary_yields : (primary parse).Yields := by
  unfold primary
  grind

/-! ### Members and calls -/

@[grind ←]
theorem argumentsInExpression_yields : (argumentsInExpression parse).Yields := by
  unfold argumentsInExpression
  repeat' with_reducible first | refine .bind ?_ fun _ _ => ?_ | split
  all_goals grind

omit h in
/-- A member after a dot goes by its name. -/
@[grind ←]
theorem memberAfterDot_yields (start : Nat) {n : Node} (hn : IsSound n) (isOptional : Bool) :
    (memberAfterDot start n isOptional).Yields := by
  unfold memberAfterDot
  grind

/-- A member in brackets goes by an expression. -/
@[grind ←]
theorem indexMember_yields (start : Nat) {n : Node} (hn : IsSound n) (isOptional : Bool) :
    (indexMember parse start n isOptional).Yields := by
  unfold indexMember
  grind

/-- One more member or template after an operand. -/
@[grind ←]
theorem memberStep_yields (allowsChain : Bool) (start : Nat) {o : Operand} (ho : IsSound o) :
    (memberStep parse allowsChain start o).Yields := by
  unfold memberStep
  repeat' with_reducible first | refine .bind ?_ fun _ _ => ?_ | split
  all_goals grind

/-- One more call, or member, after an operand. -/
@[grind ←]
theorem callStep_yields (start : Nat) {o : Operand} (ho : IsSound o) :
    (callStep parse start o).Yields := by
  unfold callStep
  repeat' with_reducible refine .bind ?_ fun _ _ => ?_
  all_goals grind

omit h in
/-- A chain of optional members is put under one node. -/
@[grind ←]
theorem isSound_closeChain {n : Node} (hn : IsSound n) : IsSound (closeChain n) := by
  fun_cases closeChain n <;> grind

/-- What may stand on the left of an assignment. -/
@[grind ←]
theorem leftHandSide_yields : (leftHandSide parse).Yields := by
  unfold leftHandSide
  repeat' with_reducible first | refine .bind ?_ fun _ _ => ?_ | split
  all_goals grind

/-- The class of a new object has no calls. -/
@[grind ←]
theorem instanceCallee_yields : (instanceCallee parse).Yields := by
  unfold instanceCallee
  grind

/-! ### Operators before and after an operand -/

@[grind ←]
theorem awaitExpression_yields : (awaitExpression parse).Yields := by
  unfold awaitExpression
  grind

@[grind ←]
theorem typeAssertion_yields : (typeAssertion parse).Yields := by
  unfold typeAssertion
  grind

/-- An operand may be followed by an increment or a decrement. -/
@[grind ←]
theorem suffixed_yields : (suffixed parse).Yields := by
  unfold suffixed
  grind

/-- An operator before an operand. -/
@[grind ←]
theorem unaryOperand_yields (t : Token) : (unaryOperand parse t).Yields := by
  unfold unaryOperand
  grind

@[grind ←]
theorem unary_yields : (unary parse).Yields := by
  unfold unary
  grind

/-! ### Operators between operands -/

omit h in
/-- An operator between two operands. -/
@[grind ←]
theorem combine_yields (start : Nat) (operator : BinaryOperator) {left : Node}
    (hleft : IsSound left) {right : Node} (hright : IsSound right) :
    (combine start operator left right).Yields := by
  unfold combine
  grind

/-- One more operator of a precedence that binds tightly enough. -/
@[grind ←]
theorem binaryStep_yields (above : Precedence) (start : Nat) {left : Node} (hleft : IsSound left) :
    (binaryStep parse above start left).Yields := by
  unfold binaryStep
  repeat' with_reducible first | refine .bind ?_ fun _ _ => ?_ | split | dsimp only
  all_goals grind

/-- Operators of a precedence and above it, from the left to the right. -/
@[grind ←]
theorem binary_yields (above : Precedence) : (binary parse above).Yields := by
  unfold binary
  repeat' with_reducible refine .bind ?_ fun _ _ => ?_
  all_goals grind

/-! ### Assignments -/

@[grind ←]
theorem yieldExpression_yields : (yieldExpression parse).Yields := by
  unfold yieldExpression
  repeat' with_reducible refine .bind ?_ fun _ _ => ?_
  all_goals grind

/-- A condition with its two results. -/
@[grind ←]
theorem conditionalRest_yields (start : Nat) {test : Node} (htest : IsSound test)
    (arrowResult : Bool) : (conditionalRest parse start test arrowResult).Yields := by
  unfold conditionalRest
  grind

/-- An assignment, or what stands alone on its left. -/
@[grind ←]
theorem plainAssignment_yields (arrowResult : Bool) :
    (plainAssignment parse arrowResult).Yields := by
  unfold plainAssignment
  repeat' with_reducible refine .bind ?_ fun _ _ => ?_
  all_goals grind

/-- An assignment or a function with an arrow. -/
@[grind ←]
theorem assignment_yields (arrowResult : Bool) : (assignment parse arrowResult).Yields := by
  unfold assignment
  grind

/-- Assignments in a row are a sequence. -/
@[grind ←]
theorem expression_yields : (expression parse).Yields := by
  unfold expression
  repeat' with_reducible refine .bind ?_ fun _ _ => ?_
  all_goals grind

end SourceEdit.Script.Parser
