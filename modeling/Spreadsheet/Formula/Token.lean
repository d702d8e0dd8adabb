import Spreadsheet.Address.Name
import Spreadsheet.Decimal.Notation

/-!
# Tokens

The words of a formula. A `+` or `-` behind a token that can end an operand stands between two
operands, and elsewhere it is a sign.
-/

namespace Spreadsheet

/-- A word of a formula. -/
inductive Token where
  | number (x : Float)
  | text (s : String)
  | reference (a : Address)
  | name (s : String)
  | plus
  | minus
  | asterisk
  | slash
  | leftBracket
  | rightBracket
  | comma

namespace Token

/-- Whether a token can be the last one of an operand. -/
def endsOperand : Token → Bool
  | .number _ | .text _ | .reference _ | .rightBracket => true
  | _ => false

/-- A token as it is shown. The quotes in a text are not escaped. -/
def display : Token → String
  | .number x => Decimal.plain x
  | .text s => "\"" ++ s ++ "\""
  | .reference a => a.name
  | .name s => s
  | .plus => "+"
  | .minus => "-"
  | .asterisk => "*"
  | .slash => "/"
  | .leftBracket => "("
  | .rightBracket => ")"
  | .comma => ","

/-- The token that a character is on its own. -/
def ofSymbol? : Char → Option Token
  | '+' => some .plus
  | '-' => some .minus
  | '*' => some .asterisk
  | '/' => some .slash
  | '(' => some .leftBracket
  | ')' => some .rightBracket
  | ',' => some .comma
  | _ => none

end Token

end Spreadsheet
