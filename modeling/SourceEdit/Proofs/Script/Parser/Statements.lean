import SourceEdit.Proofs.Script.Parser.Expressions
import SourceEdit.Proofs.Script.Parser.Modules
import SourceEdit.Script.Parser.Program
import SourceEdit.Script.Parser.Statements

/-!
# Statements and programs are well-formed

The knot is tied by induction on the depth: every construct is sound when the constructs nested in it
are (`Parser.run_yields`).  What `Program.parse?` and `Program.expression?` read is therefore
well-formed.
-/

namespace SourceEdit.Script

/-- A mark about effects leaves a statement its parts. -/
@[grind ←]
theorem Node.isSound_markStatementNoEffects {n : Node} (hn : IsSound n) :
    IsSound n.markStatementNoEffects := by
  fun_induction markStatementNoEffects n
  case case1 isDeclare a b isDefinite c d bound type value others =>
    obtain ⟨-, hvariables⟩ := isSound_node.mp hn
    obtain ⟨hfirst, hothers⟩ := List.forall_mem_cons.mp hvariables
    have hparts : IsSound [bound, type, value] := legible_declarator.mp hfirst
    have hmarked : IsSound [bound, type, Node.markNoEffects value] := by grind
    refine isSound_node.mpr ⟨List.cons_ne_nil _ _, List.forall_mem_cons.mpr ⟨?_, hothers⟩⟩
    exact legible_declarator.mpr hmarked
  all_goals grind

namespace Parser

variable {parse : Goal → Parser Node} (h : ∀ goal, (parse goal).Yields)

include h

@[grind ←]
theorem inner_yields : (inner parse).Yields := h _

@[grind ←]
theorem expressionWithIn_yields : (expressionWithIn parse).Yields := by
  unfold expressionWithIn
  grind

@[grind ←]
theorem condition_yields : (condition parse).Yields := by
  unfold condition
  grind

/-! ### Expressions and labels -/

/-- A name before a colon is a label, and an expression otherwise. -/
@[grind ←]
theorem expressionOrLabel_yields : (expressionOrLabel parse).Yields := by
  unfold expressionOrLabel
  repeat' with_reducible refine .bind ?_ fun _ _ => ?_
  all_goals grind

/-! ### Declarations -/

/-- A declaration of variables is a statement, up to its semicolon. -/
@[grind ←]
theorem variableStatement_yields (place : StatementPlace) :
    (variableStatement parse place).Yields := by
  unfold variableStatement
  refine .bind (.of_isPlain _) fun start _ => .bind (.of_isPlain _) fun isVar _ => ?_
  refine .bind (variableList_yields h _ _ _) fun n hn => ?_
  refine .bind (.of_isPlain _) fun _ _ => .bind (.of_isPlain _) fun _ _ => ?_
  exact .bind (.of_isPlain _) fun stop _ => .pure (isSound_ofShape_shape hn start stop)

/-- The word `let` may be the name of a variable. -/
@[grind ←]
theorem letStatement_yields (place : StatementPlace) : (letStatement parse place).Yields := by
  unfold letStatement
  grind

@[grind ←]
theorem functionStatement_yields (place : StatementPlace) :
    (functionStatement parse place).Yields := by
  unfold functionStatement
  grind

@[grind ←]
theorem classStatement_yields (place : StatementPlace) : (classStatement parse place).Yields := by
  unfold classStatement
  grind

/-- Decorators stand before a class. -/
@[grind ←]
theorem decoratedStatement_yields (place : StatementPlace) :
    (decoratedStatement parse place).Yields := by
  unfold decoratedStatement
  grind

/-! ### Loops -/

/-- A loop over conditions, or over the parts of a value. -/
@[grind ←]
theorem forRest_yields (start : Nat) (awaits : Bool) {first : Node} (hfirst : IsSound first) :
    (forRest parse start awaits first).Yields := by
  unfold forRest
  repeat' with_reducible first | refine .bind ?_ fun _ _ => ?_ | split
  all_goals grind

/-- A loop over the parts of a value. -/
@[grind ←]
theorem forEachRest_yields (start : Nat) (awaits : Bool) {left : Node} (hleft : IsSound left) :
    (forEachRest parse start awaits left).Yields := by
  unfold forEachRest
  grind

/-- Every loop that starts with `for`. -/
@[grind ←]
theorem forStatement_yields : (forStatement parse).Yields := by
  unfold forStatement
  repeat' with_reducible first | refine .bind ?_ fun _ _ => ?_ | split
  all_goals grind

/-! ### Branches -/

@[grind ←]
theorem ifStatement_yields : (ifStatement parse).Yields := by
  unfold ifStatement
  grind

/-- A case has a test, or none, and its statements. -/
@[grind ←]
theorem switchCase_yields : (switchCase parse).Yields := by
  unfold switchCase
  repeat' with_reducible first | refine .bind ?_ fun _ _ => ?_ | split
  all_goals grind

@[grind ←]
theorem switchStatement_yields : (switchStatement parse).Yields := by
  unfold switchStatement
  repeat' with_reducible refine .bind ?_ fun _ _ => ?_
  all_goals grind

@[grind ←]
theorem block_yields : (block parse).Yields := by
  unfold block
  grind

/-- A handler may name what it handles. -/
@[grind ←]
theorem catchClause_yields : (catchClause parse).Yields := by
  unfold catchClause
  repeat' with_reducible refine .bind ?_ fun _ _ => ?_
  all_goals grind

/-- A block with a handler, with an ending, or with both. -/
@[grind ←]
theorem tryStatement_yields : (tryStatement parse).Yields := by
  unfold tryStatement
  repeat' with_reducible refine .bind ?_ fun _ _ => ?_
  all_goals grind

/-! ### Jumps -/

omit h in
/-- A jump may name the label that it goes to. -/
@[grind ←]
theorem jump_yields (word : Word) {shape : Option Name → Shape}
    (hshape : ∀ label, (shape label).Takes []) : (jump word shape).Yields := by
  unfold jump
  repeat' with_reducible first | refine .bind ?_ fun _ _ => ?_ | split
  all_goals grind

@[grind ←]
theorem returnStatement_yields : (returnStatement parse).Yields := by
  unfold returnStatement
  repeat' with_reducible refine .bind ?_ fun _ _ => ?_
  all_goals grind

@[grind ←]
theorem throwStatement_yields : (throwStatement parse).Yields := by
  unfold throwStatement
  grind

/-! ### Statements -/

/-- A statement that starts with a word of its own. -/
@[grind ←]
theorem wordStatement?_yields (place : StatementPlace) (w : Word) :
    (wordStatement? parse place w).Yields := by
  unfold wordStatement?
  repeat' with_reducible first | refine .bind ?_ fun _ _ => ?_ | split
  all_goals grind

/-- Every statement that is not part of a module. -/
@[grind ←]
theorem plainStatement_yields (place : StatementPlace) : (plainStatement parse place).Yields := by
  unfold plainStatement
  grind

/-- Every statement, empty ones included. -/
@[grind ←]
theorem statement_yields (place : StatementPlace) : (statement parse place).Yields := by
  unfold statement
  grind

end Parser

/-! ### Programs -/

/-- The parser of every construct yields sound results, at every depth. -/
theorem Parser.run_yields (n : Nat) (goal : Goal) : (run n goal).Yields := by
  induction n generalizing goal with
  | zero => exact .failure
  | succ n ih =>
    cases goal with
    | expression => exact expression_yields ih
    | assignment arrowResult => exact assignment_yields ih arrowResult
    | binary above => exact binary_yields ih above
    | unary => exact unary_yields ih
    | leftHandSide => exact leftHandSide_yields ih
    | instanceCallee => exact instanceCallee_yields ih
    | type => exact type_yields ih
    | typeOperand => exact typeOperand_yields ih
    | pattern => exact pattern_yields ih
    | patternElement => exact patternElement_yields ih
    | statement place => exact statement_yields ih place
    | element inContent => exact element_yields ih inContent

namespace Program

/-- A program that is read is a node with its directives and its statements. -/
theorem parse?_eq_some {dialect : Dialect} {text : List Char} {p : Program}
    (h : parse? dialect text = some p) :
    ∃ interpreter stop directives statements,
      p.root = .ofShape (.program interpreter) 0 stop [.group directives, .statements statements] ∧
        IsSound directives ∧ IsSound statements := by
  unfold parse? at h
  generalize interpreterLine text = line at h
  obtain ⟨interpreter, place⟩ := line
  obtain ⟨⟨⟨directives, statements⟩, state⟩, hread, h⟩ := Option.bind_eq_some_iff.mp h
  have hsound : IsSound (directives, statements) :=
    Parser.statementsUntil_yields (Parser.run_yields _) _ _ _ _ _ hread
  dsimp only at h
  split at h
  · cases h
  · obtain rfl := Option.some.inj h
    exact ⟨interpreter, _, directives, statements, rfl, isSound_prod.mp hsound⟩

/-- Every program that is read is sound. -/
theorem isSound_parse? {dialect : Dialect} {text : List Char} {p : Program}
    (h : parse? dialect text = some p) : IsSound p.root := by
  obtain ⟨interpreter, stop, directives, statements, hroot, hsound⟩ := parse?_eq_some h
  rw [hroot]
  simpa [Shape.Takes] using hsound

/-- Every expression that is read is sound. -/
theorem isSound_expression? {dialect : Dialect} {text : List Char} {e : Node}
    (h : expression? dialect text = some e) : IsSound e := by
  obtain ⟨⟨n, state⟩, hread, h⟩ := Option.bind_eq_some_iff.mp h
  have hsound : IsSound n := Parser.run_yields _ _ _ _ _ _ hread
  dsimp only at h
  split at h
  · cases h
  · exact Option.some.inj h ▸ hsound

end Program

end SourceEdit.Script
