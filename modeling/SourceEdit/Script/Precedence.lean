import SourceEdit.Script.Node
import SourceEdit.Script.Token

/-!
# Operators and how tightly they bind

The binding strengths of operators, which the reader uses to group operands and the printer to
decide where parentheses are needed.
-/

namespace SourceEdit.Script

/-- How tightly an operator binds, from loosest to tightest. -/
inductive Precedence where
  | lowest
  | comma
  | spread
  | yield
  | assign
  | conditional
  | coalesce
  | or
  | and
  | bitOr
  | bitXor
  | bitAnd
  | equals
  | compare
  | shift
  | add
  | multiply
  | power
  | prefixed
  | postfixed
  | new
  | call
  | member
deriving DecidableEq, Repr, Inhabited

namespace Precedence

/-- The place of a strength in the order. -/
def rank (p : Precedence) : Nat := p.ctorIdx

/-- Whether `p` binds at least as tightly as `q`. -/
def atLeast (p q : Precedence) : Bool := q.rank ≤ p.rank

/-- The next looser strength among those of binary operators. -/
def looser : Precedence → Precedence
  | .lowest | .comma => .lowest
  | .spread => .comma
  | .yield => .spread
  | .assign => .yield
  | .conditional => .assign
  | .coalesce => .conditional
  | .or => .coalesce
  | .and => .or
  | .bitOr => .and
  | .bitXor => .bitOr
  | .bitAnd => .bitXor
  | .equals => .bitAnd
  | .compare => .equals
  | .shift => .compare
  | .add => .shift
  | .multiply => .add
  | .power => .multiply
  | .prefixed => .power
  | .postfixed => .prefixed
  | .new => .postfixed
  | .call => .new
  | .member => .call

end Precedence

namespace BinaryOperator

/-- How tightly an operator binds. -/
def precedence : BinaryOperator → Precedence
  | .coalesce => .coalesce
  | .or => .or
  | .and => .and
  | .bitOr => .bitOr
  | .bitXor => .bitXor
  | .bitAnd => .bitAnd
  | .equal | .notEqual | .strictEqual | .strictNotEqual => .equals
  | .less | .lessEqual | .greater | .greaterEqual | .in_ | .instanceof_ => .compare
  | .shiftLeft | .shiftRight | .shiftRightZero => .shift
  | .add | .subtract => .add
  | .multiply | .divide | .remainder => .multiply
  | .power => .power

/-- Whether operators of the same strength group from the right. -/
def groupsRight (o : BinaryOperator) : Bool := o == .power

/-- The text of an operator. -/
def text : BinaryOperator → List Char
  | .coalesce => ['?', '?']
  | .or => ['|', '|']
  | .and => ['&', '&']
  | .bitOr => ['|']
  | .bitXor => ['^']
  | .bitAnd => ['&']
  | .equal => ['=', '=']
  | .notEqual => ['!', '=']
  | .strictEqual => ['=', '=', '=']
  | .strictNotEqual => ['!', '=', '=']
  | .less => ['<']
  | .lessEqual => ['<', '=']
  | .greater => ['>']
  | .greaterEqual => ['>', '=']
  | .in_ => ['i', 'n']
  | .instanceof_ => ['i', 'n', 's', 't', 'a', 'n', 'c', 'e', 'o', 'f']
  | .shiftLeft => ['<', '<']
  | .shiftRight => ['>', '>']
  | .shiftRightZero => ['>', '>', '>']
  | .add => ['+']
  | .subtract => ['-']
  | .multiply => ['*']
  | .divide => ['/']
  | .remainder => ['%']
  | .power => ['*', '*']

/-- The operator that a token stands for. -/
def ofToken? : Token.Kind → Option BinaryOperator
  | .punct .coalesce => some .coalesce
  | .punct .barBar => some .or
  | .punct .ampAmp => some .and
  | .punct .bar => some .bitOr
  | .punct .caret => some .bitXor
  | .punct .amp => some .bitAnd
  | .punct .eqEq => some .equal
  | .punct .notEq => some .notEqual
  | .punct .eqEqEq => some .strictEqual
  | .punct .notEqEq => some .strictNotEqual
  | .punct .less => some .less
  | .punct .lessEq => some .lessEqual
  | .punct .greater => some .greater
  | .punct .greaterEq => some .greaterEqual
  | .word .in_ => some .in_
  | .word .instanceof_ => some .instanceof_
  | .punct .shiftLeft => some .shiftLeft
  | .punct .shiftRight => some .shiftRight
  | .punct .shiftRightZero => some .shiftRightZero
  | .punct .plus => some .add
  | .punct .minus => some .subtract
  | .punct .star => some .multiply
  | .punct .slash => some .divide
  | .punct .percent => some .remainder
  | .punct .starStar => some .power
  | _ => none

/-- The operator that an assignment token combines with, itself absent for a plain assignment. -/
def ofAssignment? : Token.Kind → Option (Option BinaryOperator)
  | .punct .eq => some none
  | .punct .plusEq => some (some .add)
  | .punct .minusEq => some (some .subtract)
  | .punct .starEq => some (some .multiply)
  | .punct .slashEq => some (some .divide)
  | .punct .percentEq => some (some .remainder)
  | .punct .starStarEq => some (some .power)
  | .punct .shiftLeftEq => some (some .shiftLeft)
  | .punct .shiftRightEq => some (some .shiftRight)
  | .punct .shiftRightZeroEq => some (some .shiftRightZero)
  | .punct .ampEq => some (some .bitAnd)
  | .punct .barEq => some (some .bitOr)
  | .punct .caretEq => some (some .bitXor)
  | .punct .ampAmpEq => some (some .and)
  | .punct .barBarEq => some (some .or)
  | .punct .coalesceEq => some (some .coalesce)
  | _ => none

end BinaryOperator

namespace UnaryOperator

/-- The operator that a token stands for. -/
def ofToken? : Token.Kind → Option UnaryOperator
  | .punct .plus => some .plus
  | .punct .minus => some .minus
  | .punct .bang => some .not
  | .punct .tilde => some .complement
  | .word .typeof_ => some .typeof_
  | .word .void_ => some .void_
  | .word .delete_ => some .delete_
  | _ => none

/-- The text of an operator. -/
def text : UnaryOperator → List Char
  | .plus => ['+']
  | .minus => ['-']
  | .not => ['!']
  | .complement => ['~']
  | .typeof_ => ['t', 'y', 'p', 'e', 'o', 'f']
  | .void_ => ['v', 'o', 'i', 'd']
  | .delete_ => ['d', 'e', 'l', 'e', 't', 'e']

/-- Whether an operator is a word. -/
def isWord (o : UnaryOperator) : Bool := o == .typeof_ || o == .void_ || o == .delete_

end UnaryOperator

end SourceEdit.Script
