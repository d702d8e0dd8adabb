import Spreadsheet.Formula.Error
import Spreadsheet.Formula.Operator
import Spreadsheet.Formula.Token

/-!
# Postfix order

A formula is put into postfix order by holding operators back on a stack until their operands have
been written. An operator first releases the held operators that bind at least as tightly as it
does; a bracket stays until its partner comes; the name of a function waits under the bracket of its
arguments and is released with it. `step` treats one token and `ofTokens` a whole formula.
-/

namespace Spreadsheet

/-- An entry of a formula in postfix order. -/
inductive Item where
  | number (x : Float)
  | text (s : String)
  | reference (a : Address)
  | unary (op : UnaryOp)
  | binary (op : BinaryOp)
  | call (name : String)

/-- What is held back while a formula is put into postfix order. -/
inductive Pending where
  | unary (op : UnaryOp)
  | binary (op : BinaryOp)
  | call (name : String)
  | leftBracket
  deriving DecidableEq

namespace Pending

/-- How tightly an operator binds. A bracket binds nothing. -/
def precedence : Pending → Nat
  | .call _ => 10
  | .unary _ => 8
  | .binary .multiply | .binary .divide => 6
  | .binary .add | .binary .subtract => 4
  | .leftBracket => 0

/-- What is written when an entry is released; a bracket leaves nothing behind. -/
def item? : Pending → Option Item
  | .unary op => some (.unary op)
  | .binary op => some (.binary op)
  | .call name => some (.call name)
  | .leftBracket => none

/-- Whether an entry is an open bracket. -/
def isBracket (p : Pending) : Bool := p == .leftBracket

/-- Whether an entry is released by an operator that comes in. -/
def yieldsTo (incoming p : Pending) : Bool :=
  !p.isBracket && decide (incoming.precedence ≤ p.precedence)

end Pending

namespace Postfix

/-- A formula put into postfix order in part: what is held back, the last first, what has been
written, the last first, and whether an operand ends here. -/
structure State where
  pending : List Pending
  output : List Item
  afterOperand : Bool

namespace State

/-- The state in front of a formula. -/
def start : State := ⟨[], [], false⟩

/-- Writes an item. -/
def emit (s : State) (item : Item) : State :=
  { s with output := item :: s.output }

/-- Holds an entry back. -/
def hold (s : State) (p : Pending) : State :=
  { s with pending := p :: s.pending }

/-- Releases held entries, the last first, as long as they have a property. -/
def releaseWhile (s : State) (p : Pending → Bool) : State :=
  { s with
    pending := s.pending.dropWhile p
    output := ((s.pending.takeWhile p).filterMap Pending.item?).reverse ++ s.output }

/-- Releases all entries down to an open bracket. -/
def releaseToBracket (s : State) : State :=
  s.releaseWhile fun p => !p.isBracket

/-- Lets an operator in. -/
def operator (s : State) (incoming : Pending) : State :=
  (s.releaseWhile incoming.yieldsTo).hold incoming

/-- Closes a bracket, and with it the call whose arguments it holds. -/
def close (s : State) : Except FormulaError State :=
  let s := s.releaseToBracket
  match s.pending with
  | [] => .error (.unmatchedBracket .right)
  | _ :: .call name :: rest => .ok { s with pending := rest, output := .call name :: s.output }
  | _ :: rest => .ok { s with pending := rest }

/-- Treats a token, the place behind an operand aside. -/
def treat (s : State) : Token → Except FormulaError State
  | .number x => .ok (s.emit (.number x))
  | .text t => .ok (s.emit (.text t))
  | .reference a => .ok (s.emit (.reference a))
  | .name f => .ok (s.hold (.call f))
  | .leftBracket => .ok (s.hold .leftBracket)
  | .rightBracket => s.close
  | .comma => .ok s.releaseToBracket
  | .plus => .ok (s.operator (if s.afterOperand then .binary .add else .unary .plus))
  | .minus => .ok (s.operator (if s.afterOperand then .binary .subtract else .unary .negate))
  | .asterisk => .ok (s.operator (.binary .multiply))
  | .slash => .ok (s.operator (.binary .divide))

/-- Treats a token. -/
def step (s : State) (t : Token) : Except FormulaError State :=
  (s.treat t).map fun s => { s with afterOperand := t.endsOperand }

/-- The formula in postfix order, once all tokens have been treated. -/
def finish (s : State) : Except FormulaError (List Item) :=
  if s.pending.any Pending.isBracket then .error (.unmatchedBracket .left)
  else .ok (s.output.reverse ++ s.pending.filterMap Pending.item?)

end State

/-- A formula in postfix order. -/
def ofTokens (tokens : List Token) : Except FormulaError (List Item) :=
  match tokens.foldlM State.step State.start with
  | .error e => .error e
  | .ok s => s.finish

end Postfix

end Spreadsheet
