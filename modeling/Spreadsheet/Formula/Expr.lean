import Spreadsheet.Address.Name
import Spreadsheet.Formula.Operator

/-!
# Expressions

The tree of a formula and its value under a look-up of addresses. A text that is no formula is kept
as an `error` tree that evaluates to its message.
-/

namespace Spreadsheet

/-- A formula. -/
inductive Expr where
  | number (x : Float)
  | text (s : String)
  | reference (a : Address)
  | unary (op : UnaryOp) (operand : Expr)
  | binary (op : BinaryOp) (left right : Expr)
  | call (function : Builtin) (args : List Expr)
  | error (message : String)

namespace Expr

mutual

/-- The value of an expression whose references have the values that `lookup` gives. -/
def eval (lookup : Address → Value) : Expr → Value
  | .number x => .number x
  | .text s => .text s
  | .reference a => lookup a
  | .unary op operand => op.apply (eval lookup operand)
  | .binary op left right => op.apply (eval lookup left) (eval lookup right)
  | .call function args => function.apply (evalArgs lookup args)
  | .error message => .error message

/-- The values of the arguments of a call. -/
def evalArgs (lookup : Address → Value) : List Expr → List Value
  | [] => []
  | arg :: args => eval lookup arg :: evalArgs lookup args

end

mutual

/-- The addresses that an expression reads, from left to right. -/
def reads : Expr → List Address
  | .reference a => [a]
  | .unary _ operand => reads operand
  | .binary _ left right => reads left ++ reads right
  | .call _ args => readsArgs args
  | .number _ | .text _ | .error _ => []

/-- The addresses that the arguments of a call read. -/
def readsArgs : List Expr → List Address
  | [] => []
  | arg :: args => reads arg ++ readsArgs args

end

/-- The set of addresses that an expression reads. -/
def references (e : Expr) : AddressSet :=
  Std.ExtTreeSet.ofList e.reads

/-- The value of a reference where there is no sheet. -/
def detached (a : Address) : Value :=
  .error ("Incorrect reference " ++ a.name)

/-- The value of an expression outside of any sheet. -/
def evalDetached (e : Expr) : Value :=
  e.eval detached

theorem evalArgs_eq_map (lookup : Address → Value) (args : List Expr) :
    evalArgs lookup args = args.map (eval lookup) := by
  induction args with
  | nil => rw [evalArgs, List.map_nil]
  | cons arg args ih => rw [evalArgs, List.map_cons, ih]

theorem mem_references {e : Expr} {a : Address} : a ∈ e.references ↔ a ∈ e.reads := by
  rw [references, Std.ExtTreeSet.mem_ofList, List.contains_iff_mem]

end Expr

end Spreadsheet
