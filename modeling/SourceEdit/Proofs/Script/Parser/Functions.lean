import SourceEdit.Proofs.Script.Parser.Types
import SourceEdit.Script.Parser.Classes
import SourceEdit.Script.Parser.Functions

/-!
# Functions and classes are well-formed

The marks in front of a function change its shape only, and the members of a class are functions and
fields with words before them.
-/

namespace SourceEdit.Script

/-! ### Marks -/

namespace Node

/-- A mark about effects leaves a function its parts. -/
@[grind ←]
theorem isSound_markNoEffects {n : Node} (hn : IsSound n) : IsSound n.markNoEffects := by
  fun_induction markNoEffects n <;> grind

/-- A mark about effects leaves a call its parts. -/
@[grind ←]
theorem isSound_markPure {n : Node} (hn : IsSound n) : IsSound n.markPure := by
  fun_induction markPure n <;> grind

/-- A mark about parentheses leaves a node its parts. -/
@[grind ←]
theorem isSound_markEnclosed {n : Node} (hn : IsSound n) : IsSound n.markEnclosed := by
  fun_cases markEnclosed n <;> grind

end Node

namespace Parser

variable {parse : Goal → Parser Node} (h : ∀ goal, (parse goal).Yields)

include h

/-! ### Lists of statements -/

omit h in
/-- A directive is a text. -/
@[grind ←]
theorem isSound_directive? (raw : Option (List Char)) (n : Node) : IsSound (directive? raw n) := by
  fun_cases directive? raw n <;> grind

omit h in
/-- The directives at the start of a list and the statements after them. -/
@[grind ←]
theorem isSound_splitDirectives {items : List (Option (List Char) × Node)}
    (hitems : IsSound items) : IsSound (splitDirectives items) := by
  fun_induction splitDirectives items with
  | case1 => grind
  | case2 raw n rest d hd ds ss hrest ih =>
    have hd' := hd ▸ isSound_directive? raw n
    grind
  | case3 raw n rest hd => grind

/-- Statements up to a token that ends them. -/
@[grind ←]
theorem statementsUntil_yields (isEnd : Token → Bool) : (statementsUntil parse isEnd).Yields := by
  unfold statementsUntil
  repeat' with_reducible refine .bind ?_ fun _ _ => ?_
  all_goals grind

/-- Statements in braces. -/
@[grind ←]
theorem bracedStatements_yields : (bracedStatements parse).Yields := by
  unfold bracedStatements
  grind

/-! ### Functions with a body -/

/-- A body has directives and statements. -/
@[grind ←]
theorem functionBody_yields : (functionBody parse).Yields := by
  unfold functionBody
  grind

/-- A function from its type parameters on. -/
@[grind ←]
theorem functionRest_yields (owner : ParameterOwner) (head : FunctionHead) (start : Nat)
    {name : Node} (hname : IsSound name) (needsBody : Bool) :
    (functionRest parse owner head start name needsBody).Yields := by
  unfold functionRest
  repeat' with_reducible first | refine .bind ?_ fun _ _ => ?_ | refine .within ?_ | split
  all_goals grind

omit h in
/-- The name of a function may be missing where it is not required. -/
@[grind ←]
theorem functionName_yields (inner : Context → Context) (isRequired : Bool) :
    (functionName inner isRequired).Yields := by
  unfold functionName
  grind

/-- A function with its name. -/
@[grind ←]
theorem functionNode_yields (role : FunctionRole) (isRequired isDeclare : Bool) (start : Nat) :
    (functionNode parse role isRequired isDeclare start).Yields := by
  unfold functionNode
  grind

/-! ### Arrow functions -/

/-- The body of an arrow is an expression or statements in braces. -/
@[grind ←]
theorem arrowBody_yields (isAsync arrowResult : Bool) :
    (arrowBody parse isAsync arrowResult).Yields := by
  unfold arrowBody
  grind

/-- Type parameters, parameters and a result before the arrow. -/
@[grind ←]
theorem arrowHead_yields : (arrowHead parse).Yields := by
  unfold arrowHead
  repeat' with_reducible refine .bind ?_ fun _ _ => ?_
  all_goals grind

@[grind ←]
theorem arrowFunction_yields (arrowResult : Bool) : (arrowFunction parse arrowResult).Yields := by
  unfold arrowFunction
  grind

/-- What looks like the head of an arrow may turn out not to be one. -/
@[grind ←]
theorem arrowFunction?_yields (arrowResult : Bool) : (arrowFunction? parse arrowResult).Yields := by
  unfold arrowFunction?
  grind

/-- An arrow with a single parameter without parentheses. -/
@[grind ←]
theorem arrowAfterName_yields (isAsync arrowResult : Bool) (start : Nat) {name : Node}
    (hname : IsSound name) : (arrowAfterName parse isAsync arrowResult start name).Yields := by
  unfold arrowAfterName
  grind

/-- An arrow whose name may be that of a call. -/
@[grind ←]
theorem asyncArrow?_yields (arrowResult : Bool) : (asyncArrow? parse arrowResult).Yields := by
  unfold asyncArrow?
  grind

/-! ### Members of classes -/

/-- The function of a method has no name of its own. -/
@[grind ←]
theorem methodFunction_yields (owner : ParameterOwner) (kind : MethodKind)
    (isAsync isGenerator needsBody : Bool) :
    (methodFunction parse owner kind isAsync isGenerator needsBody).Yields := by
  unfold methodFunction
  grind

/-- A field may have a type and a value. -/
@[grind ←]
theorem field_yields (start : Nat) {marks : List Node} (hmarks : IsSound marks)
    (words : MemberWords) {key : Node} (hkey : IsSound key) :
    (field parse start marks words key).Yields := by
  unfold field
  repeat' with_reducible refine .bind ?_ fun _ _ => ?_
  all_goals grind

/-- A method or a field, by what follows its key. -/
@[grind ←]
theorem namedMember_yields (start : Nat) {marks : List Node} (hmarks : IsSound marks)
    (words : MemberWords) : (namedMember parse start marks words).Yields := by
  unfold namedMember
  repeat' with_reducible first | refine .bind ?_ fun _ _ => ?_ | split
  all_goals grind

/-- Every member of a class. -/
@[grind ←]
theorem classMember_yields : (classMember parse).Yields := by
  unfold classMember
  repeat' with_reducible refine .bind ?_ fun _ _ => ?_
  all_goals grind

@[grind ←]
theorem classBody_yields : (classBody parse).Yields := by
  unfold classBody
  repeat' with_reducible refine .bind ?_ fun _ _ => ?_
  all_goals grind

/-! ### Heritage -/

/-- A class may extend an expression with type arguments. -/
@[grind ←]
theorem baseClass_yields : (baseClass parse).Yields := by
  unfold baseClass
  repeat' with_reducible first | refine .bind ?_ fun _ _ => ?_ | split
  all_goals grind

/-- A class may implement types. -/
@[grind ←]
theorem implemented_yields : (implemented parse).Yields := by
  unfold implemented
  grind

/-- A class with its decorators, its name, what it extends and its members. -/
@[grind ←]
theorem classNode_yields (head : ClassHead) (start : Nat) {marks : List Node}
    (hmarks : IsSound marks) : (classNode parse head start marks).Yields := by
  unfold classNode
  repeat' with_reducible refine .bind ?_ fun _ _ => ?_
  all_goals grind

end Parser

end SourceEdit.Script
