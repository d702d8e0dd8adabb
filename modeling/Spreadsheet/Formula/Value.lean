import Spreadsheet.Decimal.Notation
import Spreadsheet.Text.Quoted

/-!
# Values

A cell shows a number, a text or an error. Errors are ordinary values: an operation that gets a
value of the wrong kind answers an error that names what it expected, and hides the message of an
error it was given. `Value.display` is the text that a grid shows.
-/

namespace Spreadsheet

/-- What a formula evaluates to. -/
inductive Value where
  | number (x : Float)
  | text (s : String)
  | error (message : String)

namespace Value

/-- The value of a blank cell. -/
def empty : Value := .text ""

/-- The number, if the value is one. -/
def number? : Value → Option Float
  | .number x => some x
  | _ => none

/-- The text, if the value is one. -/
def text? : Value → Option String
  | .text s => some s
  | _ => none

/-- The message, if the value is an error. -/
def message? : Value → Option String
  | .error message => some message
  | _ => none

/-- Whether the value is an error. -/
def isError (v : Value) : Bool := v.message?.isSome

/-- A value as error messages show it: its kind and, unless it is an error, what it holds. -/
def shown : Value → String
  | .number x => "Number(" ++ Decimal.literal x ++ ")"
  | .text s => "Str(" ++ Text.quoted s ++ ")"
  | .error _ => "Error"

/-- The error for a value that is not of the expected kind. -/
def unexpected (expected : String) (actual : Value) : Value :=
  .error ("Expected " ++ expected ++ ", but got " ++ actual.shown)

/-- The number of a value, or the error that it is none. -/
def expectNumber (v : Value) : Except Value Float :=
  match v with
  | .number x => .ok x
  | _ => .error (unexpected "number" v)

/-! ## Display -/

/-- The decimal places of a displayed number. -/
def displayPlaces : Nat := 8

/-- A written decimal without zeros behind its last other place, and without a point at its end. -/
def trimPlaces (cs : List Char) : List Char :=
  ((cs.reverse.dropWhile (· == '0')).dropWhile (· == '.')).reverse

/-- A number as a grid shows it: rounded to eight places, without zeros at its end, and never as a
negative zero. -/
def displayNumber (x : Float) : String :=
  match Decimal.parts x with
  | .nan => "NaN"
  | .infinite negative => if negative then "-Infinity" else "Infinity"
  | .finite negative mantissa exponent =>
    let text := trimPlaces (Decimal.fixed displayPlaces negative mantissa exponent)
    if text = ['-', '0'] then "0" else String.ofList text

/-- A value as a grid shows it. -/
def display : Value → String
  | .number x => displayNumber x
  | .text s => s
  | .error message => message

@[simp] theorem isError_number (x : Float) : (number x).isError = false := rfl

@[simp] theorem isError_text (s : String) : (text s).isError = false := rfl

@[simp] theorem isError_error (message : String) : (error message).isError = true := rfl

theorem isError_iff {v : Value} : v.isError = true ↔ ∃ message, v = .error message := by
  cases v <;> simp

end Value

end Spreadsheet
