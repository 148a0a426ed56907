import SourceEdit.Script.Parser.Statements

/-!
# Programs

The grammar as a whole.  `Parser.run` ties its constructs together, with a bound on how deeply they
nest; `Program.parse?` reads a script and `Program.expression?` an expression at the head of a text.
-/

namespace SourceEdit.Script

namespace Parser

/-- The parser of each construct, to a given depth. -/
def run : Nat → Goal → Parser Node
  | 0, _ => failure
  | n + 1, goal =>
    match goal with
    | .expression => expression (run n)
    | .assignment arrowResult => assignment (run n) arrowResult
    | .binary above => binary (run n) above
    | .unary => unary (run n)
    | .leftHandSide => leftHandSide (run n)
    | .instanceCallee => instanceCallee (run n)
    | .type => type (run n)
    | .typeOperand => typeOperand (run n)
    | .pattern => pattern (run n)
    | .patternElement => patternElement (run n)
    | .statement place => statement (run n) place
    | .element inContent => element (run n) inContent

/-- The surroundings of a whole script. -/
def surroundings (dialect : Dialect) (bound : Nat) : Surroundings :=
  let context : Context :=
    { inAsync := dialect.loading == .module, inFunction := dialect.loading == .wrapped,
      isAmbient := dialect.declarationsOnly }
  { dialect, context, bound }

/-- The state before the first token. -/
def beginning (dialect : Dialect) (bound : Nat) (place : Lexer.Place) : ReadState :=
  let (token, trivia) := Lexer.next .plain (dialect.loading == .script) bound place {}
  { token, trivia, previousStop := place.offset }

/-- Runs a parser of a goal at a place. -/
def start {α : Type} (dialect : Dialect) (place : Lexer.Place)
    (p : (Goal → Parser Node) → Parser α) : Option (α × ReadState) :=
  let bound := place.rest.length + 1
  p (run (16 * bound + 64)) (surroundings dialect bound) (beginning dialect bound place)

end Parser

/-- A script that has been read. -/
structure Program where
  root : Node
  /-- The comments of the text that it was read from. -/
  comments : List Comment
  /-- The dialect, its loading settled. -/
  dialect : Dialect
deriving Inhabited

namespace Program

/-- Whether a tree holds a part that only a pattern may hold. -/
def holdsPatternPart (n : Node) : Bool := n.anyShape (· == .propertyWithDefault)

/-- The interpreter that the first line of a text names, and the place after it. -/
def interpreterLine (text : List Char) : Option (List Char) × Lexer.Place :=
  match text with
  | '#' :: '!' :: rest =>
    let line := rest.takeWhile fun c => !Lexer.isLineEnd c
    (some line, ⟨rest.drop line.length, 2 + Lexer.byteLength line⟩)
  | _ => (none, ⟨text, 0⟩)

/-- The loading that a text settles. -/
def settle (dialect : Dialect) (isModule : Bool) : Dialect :=
  match dialect.loading with
  | .undecided => { dialect with loading := if isModule then .module else .script }
  | _ => dialect

/-- Reads a script. -/
def parse? (dialect : Dialect) (text : List Char) : Option Program := do
  let (interpreter, place) := interpreterLine text
  let ((directives, statements), state) ←
    Parser.start dialect place fun parse =>
      Parser.statementsUntil parse (·.kind == .endOfText)
  let dialect := settle dialect state.isModule
  let root := Node.ofShape (.program interpreter) 0 state.token.stop
    [.group directives, .statements statements]
  let refused := state.failed || (state.failedAsScript && dialect.loading == .script)
    || holdsPatternPart root
  if refused then none else some { root, comments := state.trivia.comments, dialect }

/-- Reads the expression at the head of a text. What follows it only has to start with a token. -/
def expression? (dialect : Dialect) (text : List Char) : Option Node := do
  let (e, state) ← Parser.start dialect ⟨text, 0⟩ fun parse => parse .expression
  let refused := state.failed || state.failedAsScript || state.token.kind == .invalid
    || holdsPatternPart e
  if refused then none else some e

end Program

end SourceEdit.Script
