import Spreadsheet.Formula.Parser

/-!
# Spelling expressions

The tokens of an expression, with a pair of brackets around a subexpression where the usual
precedence asks for one (`Expr.tokens`), and with any number of further pairs around any
subexpressions (`Expr.spelled`). A product binds tighter than a sum, operators of one level are
grouped from the left, and a sign takes no operator as its operand.
-/

namespace Spreadsheet

/-- The level of an operator: products bind tighter than sums. -/
def BinaryOp.level : BinaryOp → Nat
  | .add | .subtract => 1
  | .multiply | .divide => 2

/-- The token of an operator. -/
def BinaryOp.token : BinaryOp → Token
  | .add => .plus
  | .subtract => .minus
  | .multiply => .asterisk
  | .divide => .slash

/-- The token of a sign. -/
def UnaryOp.token : UnaryOp → Token
  | .negate => .minus
  | .plus => .plus

namespace Expr

/-! ## Proper expressions -/

mutual

/-- The expression holds no error, and every call has as many arguments as its function takes. -/
def Proper : Expr → Prop
  | .number _ | .text _ | .reference _ => True
  | .unary _ operand => Proper operand
  | .binary _ left right => Proper left ∧ Proper right
  | .call function args => args.length = function.arity ∧ ProperArgs args
  | .error _ => False

/-- All arguments of a call are proper. -/
def ProperArgs : List Expr → Prop
  | [] => True
  | arg :: args => Proper arg ∧ ProperArgs args

end

mutual

/-- The depth of an expression; a leaf has depth one. -/
def depth : Expr → Nat
  | .number _ | .text _ | .reference _ | .error _ => 1
  | .unary _ operand => depth operand + 1
  | .binary _ left right => max (depth left) (depth right) + 1
  | .call _ args => depthArgs args + 1

/-- The greatest depth of the arguments of a call. -/
def depthArgs : List Expr → Nat
  | [] => 0
  | arg :: args => max (depth arg) (depthArgs args)

end

/-! ## Brackets -/

/-- Whether an expression needs brackets as the left operand of an operator. -/
def needsLeft (op : BinaryOp) : Expr → Bool
  | .binary inner _ _ => decide (inner.level < op.level)
  | _ => false

/-- Whether an expression needs brackets as the right operand of an operator. -/
def needsRight (op : BinaryOp) : Expr → Bool
  | .binary inner _ _ => decide (inner.level ≤ op.level)
  | _ => false

/-- Whether an expression needs brackets behind a sign. -/
def needsSigned : Expr → Bool
  | .binary _ _ _ | .unary _ _ => true
  | _ => false

/-- Tokens inside some pairs of brackets. -/
def enclose : Nat → List Token → List Token
  | 0, ts => ts
  | n + 1, ts => .leftBracket :: (enclose n ts ++ [.rightBracket])

/-! ## Tokens -/

/-- What is asked for inside one of the operands of an expression. -/
def inside (extra : List Nat → Nat) (i : Nat) : List Nat → Nat := fun path => extra (i :: path)

mutual

/-- The tokens of an expression without brackets around it. A path leads to a subexpression by the
place of an operand at each level; the subexpression there gets `extra` pairs that it does not
need. -/
def bare (extra : List Nat → Nat) : Expr → List Token
  | .number x => [.number x]
  | .text s => [.text s]
  | .reference a => [.reference a]
  | .unary op operand =>
    op.token :: enclose (extra [0] + (needsSigned operand).toNat) (bare (inside extra 0) operand)
  | .binary op left right =>
    enclose (extra [0] + (needsLeft op left).toNat) (bare (inside extra 0) left) ++
      op.token :: enclose (extra [1] + (needsRight op right).toNat) (bare (inside extra 1) right)
  | .call function args =>
    .name function.name :: .leftBracket :: (bareArgs extra 0 args ++ [.rightBracket])
  | .error _ => []

/-- The tokens of the arguments from place `i` on, with a comma in front of all but the first. -/
def bareArgs (extra : List Nat → Nat) (i : Nat) : List Expr → List Token
  | [] => []
  | arg :: args =>
    (if i = 0 then [] else [.comma]) ++ enclose (extra [i]) (bare (inside extra i) arg) ++
      bareArgs extra (i + 1) args

end

/-- The tokens of an expression with `extra` redundant pairs of brackets around each
subexpression. -/
def spelled (extra : List Nat → Nat) (e : Expr) : List Token :=
  enclose (extra []) (bare extra e)

/-- The tokens of an expression without redundant brackets. -/
def tokens (e : Expr) : List Token := e.spelled fun _ => 0

end Expr

end Spreadsheet
