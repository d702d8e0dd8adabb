import Spreadsheet.Formula.Expr
import Spreadsheet.Formula.Lexer
import Spreadsheet.Formula.Postfix

/-!
# From texts to expressions

A formula in postfix order is built into a tree on a stack of finished subtrees: an operator or a
function takes its operands from the top. The depth of each subtree is kept beside it, and no
subtree may be deeper than `depthLimit`. A text that is no formula becomes an error tree, so every
text has an expression.
-/

namespace Spreadsheet

namespace Expr

/-- The greatest depth of an expression; a leaf has depth one. -/
def depthLimit : Nat := 512

/-- A finished subtree and its depth. -/
structure Built where
  expr : Expr
  depth : Nat

/-- The greatest depth in a list of subtrees. -/
def maxDepth (nodes : List Built) : Nat :=
  nodes.foldl (fun d node => max d node.depth) 0

/-- The subtree of an item on the finished subtrees, the last first, and those that it leaves. -/
def combine (nodes : List Built) : Item → Except FormulaError (Built × List Built)
  | .number x => .ok (⟨.number x, 1⟩, nodes)
  | .text s => .ok (⟨.text s, 1⟩, nodes)
  | .reference a => .ok (⟨.reference a, 1⟩, nodes)
  | .unary op =>
    match nodes with
    | operand :: rest => .ok (⟨.unary op operand.expr, operand.depth + 1⟩, rest)
    | _ => .error .unexpectedEndOfInput
  | .binary op =>
    match nodes with
    | right :: left :: rest =>
      .ok (⟨.binary op left.expr right.expr, max left.depth right.depth + 1⟩, rest)
    | _ => .error .unexpectedEndOfInput
  | .call name =>
    match Builtin.ofName? name with
    | none => .error (.unknownSymbol name)
    | some function =>
      let args := nodes.take function.arity
      if args.length < function.arity then .error .unexpectedEndOfInput
      else
        .ok (⟨.call function (args.reverse.map Built.expr), maxDepth args + 1⟩,
          nodes.drop function.arity)

/-- The finished subtrees after one more item. -/
def build (nodes : List Built) (item : Item) : Except FormulaError (List Built) :=
  match combine nodes item with
  | .error e => .error e
  | .ok (node, rest) =>
    if depthLimit < node.depth then .error (.tooDeeplyNested depthLimit) else .ok (node :: rest)

/-- The expression of a formula in postfix order. No items at all stand for an empty text. -/
def ofItems (items : List Item) : Except FormulaError Expr :=
  match items.foldlM build [] with
  | .error e => .error e
  | .ok [] => .ok (.text "")
  | .ok [node] => .ok node.expr
  | .ok _ => .error .multipleExpressions

/-- The expression of a list of tokens. -/
def ofTokens (tokens : List Token) : Except FormulaError Expr :=
  match Postfix.ofTokens tokens with
  | .error e => .error e
  | .ok items => ofItems items

/-- The expression of a cell's text, or the error that it has none. -/
def ofText? (s : String) : Except FormulaError Expr :=
  match tokenize s with
  | .error e => .error e
  | .ok tokens => ofTokens tokens

/-- The expression of a cell's text; a text that is no formula has its error's message as one. -/
def ofText (s : String) : Expr :=
  match ofText? s with
  | .ok e => e
  | .error e => .error e.message

end Expr

end Spreadsheet
