import Spreadsheet.Proofs.Formula.Spelling

/-!
# Formulas as they are written

A formula is a row of operands with operators between them. An operand is a number, a text, a
reference, a formula in brackets, or a name with arguments in brackets, and it may have signs in
front. So `Formula.tokens` tells which lists of tokens are formulas at all, whatever the names and
however many arguments stand behind them.

The usual precedence makes an expression of a formula (`Formula.tree`): each sign belongs to what
follows it, products are grouped before sums, and both from the left (`Grouped`).
-/

namespace Spreadsheet

mutual

/-- An operand of a formula. -/
inductive Operand where
  | number (x : Float)
  | text (s : String)
  | reference (a : Address)
  | signed (op : UnaryOp) (operand : Operand)
  | bracketed (formula : Formula)
  | call (name : String) (args : List Formula)

/-- A formula: operands with operators between them. -/
inductive Formula where
  | operand (x : Operand)
  | binary (left : Formula) (op : BinaryOp) (right : Operand)

end

/-! ## Tokens -/

mutual

/-- The tokens of an operand. -/
def Operand.tokens : Operand → List Token
  | .number x => [.number x]
  | .text s => [.text s]
  | .reference a => [.reference a]
  | .signed op x => op.token :: x.tokens
  | .bracketed e => .leftBracket :: (e.tokens ++ [.rightBracket])
  | .call name args => .name name :: .leftBracket :: (Formula.argTokens args ++ [.rightBracket])

/-- The tokens of a formula. -/
def Formula.tokens : Formula → List Token
  | .operand x => x.tokens
  | .binary left op right => left.tokens ++ op.token :: right.tokens

/-- The tokens of the arguments of a call, with commas between them. -/
def Formula.argTokens : List Formula → List Token
  | [] => []
  | e :: es => e.tokens ++ Formula.moreTokens es

/-- The tokens of further arguments, with a comma in front of each. -/
def Formula.moreTokens : List Formula → List Token
  | [] => []
  | e :: es => .comma :: (e.tokens ++ Formula.moreTokens es)

end

/-! ## Groups -/

/-- A row of operands in two parts: the product at its end, and the sum in front of it, if there is
one, with the operator between the two. -/
structure Grouped (α : Type) where
  sum : Option (α × BinaryOp)
  product : α

namespace Grouped

variable {α : Type} (join : BinaryOp → α → α → α)

/-- Both parts joined. -/
def whole (g : Grouped α) : α :=
  match g.sum with
  | none => g.product
  | some (left, op) => join op left g.product

/-- One more operand: it ends the sum in front of it, or it goes into the last product. -/
def push (g : Grouped α) (op : BinaryOp) (x : α) : Grouped α :=
  if op.level = 1 then ⟨some (g.whole join, op), x⟩
  else { g with product := join op g.product x }

end Grouped

/-! ## Expressions -/

mutual

/-- The expression of an operand. A name that is none of a function has an error in place of it. -/
def Operand.tree : Operand → Expr
  | .number x => .number x
  | .text s => .text s
  | .reference a => .reference a
  | .signed op x => .unary op x.tree
  | .bracketed e => e.grouped.whole .binary
  | .call name args =>
    match Builtin.ofName? name with
    | some function => .call function (Formula.trees args)
    | none => .error (FormulaError.unknownSymbol name).message

/-- The operands of a formula, grouped. -/
def Formula.grouped : Formula → Grouped Expr
  | .operand x => ⟨none, x.tree⟩
  | .binary left op right => left.grouped.push .binary op right.tree

/-- The expressions of some formulas. -/
def Formula.trees : List Formula → List Expr
  | [] => []
  | e :: es => e.grouped.whole .binary :: Formula.trees es

end

/-- The expression of a formula. -/
def Formula.tree (e : Formula) : Expr := e.grouped.whole .binary

end Spreadsheet
