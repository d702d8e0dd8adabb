import Spreadsheet.Formula.Value

/-!
# Operators and functions

The signs, the four arithmetic operators and the five functions of formulas, applied to values.
Each takes its operands in order and answers the error of the first one of the wrong kind, so an
error operand always gives an error.
-/

namespace Spreadsheet

/-- A sign in front of an operand. -/
inductive UnaryOp where
  | negate
  | plus
  deriving DecidableEq, Repr

/-- An operator between two operands. -/
inductive BinaryOp where
  | add
  | subtract
  | multiply
  | divide
  deriving DecidableEq, Repr

/-- A function of formulas. -/
inductive Builtin where
  | sin
  | max
  | substr
  | pi
  | pow
  deriving DecidableEq, Repr

namespace Value

/-- A function of one number, applied to a value. -/
def mapNumber (f : Float → Float) (x : Value) : Value :=
  match x.expectNumber with
  | .ok a => .number (f a)
  | .error e => e

/-- A function of two numbers, applied to two values; the left one is looked at first. -/
def mapNumbers (f : Float → Float → Float) (x y : Value) : Value :=
  match x.expectNumber with
  | .error e => e
  | .ok a =>
    match y.expectNumber with
    | .error e => e
    | .ok b => .number (f a b)

end Value

namespace UnaryOp

/-- The value of a signed operand. -/
def apply : UnaryOp → Value → Value
  | .negate => Value.mapNumber fun a => -a
  | .plus => Value.mapNumber fun a => a

end UnaryOp

namespace BinaryOp

/-- The value of an operation on two operands. Division by zero follows the floating-point rules. -/
def apply : BinaryOp → Value → Value → Value
  | .add => Value.mapNumbers fun a b => a + b
  | .subtract => Value.mapNumbers fun a b => a - b
  | .multiply => Value.mapNumbers fun a b => a * b
  | .divide => Value.mapNumbers fun a b => a / b

end BinaryOp

namespace Builtin

/-- The functions in the order of their look-up. -/
def all : List Builtin := [.sin, .max, .substr, .pi, .pow]

/-- The name of a function. -/
def name : Builtin → String
  | .sin => "sin"
  | .max => "max"
  | .substr => "substr"
  | .pi => "pi"
  | .pow => "pow"

/-- The function of a name. Upper and lower case differ. -/
def ofName? (s : String) : Option Builtin :=
  all.find? fun f => f.name == s

theorem ofName?_name (f : Builtin) : ofName? f.name = some f := by
  cases f <;> decide

/-- The number of arguments of a function. -/
def arity : Builtin → Nat
  | .pi => 0
  | .sin => 1
  | .max | .pow => 2
  | .substr => 3

/-- The larger of two numbers. An undefined one is passed over, and of equal ones the first
counts. -/
def larger (a b : Float) : Float :=
  if a.isNaN then b else if b.isNaN then a else if a < b then b else a

/-- The ratio of the circumference of a circle to its diameter, to the nearest double-precision
number. -/
def piNumber : Float := Float.ofBits 0x400921FB54442D18

/-- The whole number that `x` is, if its size lets it serve as a place in a text. -/
def whole? (x : Float) : Option Int :=
  match Decimal.parts x with
  | .finite negative mantissa exponent =>
    let (n, d) := Decimal.scale 2 mantissa 1 (-exponent)
    let i : Int := if negative then -(n / d) else n / d
    if n % d = 0 ∧ -0x80000000 ≤ i ∧ i ≤ 0x7FFFFFFF then some i else none
  | _ => none

/-- The whole number that a value is, or the error that it is none. -/
def expectWhole (v : Value) : Except Value Int :=
  match v.number?.bind whole? with
  | some i => .ok i
  | none => .error (Value.unexpected "whole number" v)

/-- The characters from place `first` up to and without place `last`, both counted from zero. -/
def slice (s : String) (first last : Int) : Value :=
  let length := s.toList.length
  if first < 0 ∨ (length : Int) < last ∨ last < first then
    .error ("begin " ++ toString first ++ ", end " ++ toString last ++
      ", length " ++ toString length)
  else .text (String.ofList ((s.toList.drop first.toNat).take (last - first).toNat))

/-- The part of a text between two places, each argument checked in order. -/
def substring (v first last : Value) : Value :=
  match v with
  | .text s =>
    match expectWhole first with
    | .error e => e
    | .ok first =>
      match expectWhole last with
      | .error e => e
      | .ok last => slice s first last
  | _ => Value.unexpected "a string" v

/-- The error for a wrong number of arguments. -/
def wrongCount (f : Builtin) (count : Nat) : Value :=
  .error (f.name ++ " expects " ++ toString f.arity ++ " arguments, got " ++ toString count)

/-- The value of a function at its arguments. -/
def apply : Builtin → List Value → Value
  | .sin, [x] => Value.mapNumber Float.sin x
  | .max, [x, y] => Value.mapNumbers larger x y
  | .substr, [s, first, last] => substring s first last
  | .pi, [] => .number piNumber
  | .pow, [x, y] => Value.mapNumbers Float.pow x y
  | f, args => wrongCount f args.length

end Builtin

end Spreadsheet
