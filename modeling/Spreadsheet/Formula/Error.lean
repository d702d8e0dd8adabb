/-!
# Formula errors

What can be wrong with the text of a formula, and the message for it. Positions count the
characters behind the leading `=`.
-/

namespace Spreadsheet

/-- One of the two brackets of a pair. -/
inductive Bracket where
  | left
  | right
  deriving DecidableEq, Repr

/-- The reasons why a text is no formula. -/
inductive FormulaError where
  | invalidSymbol (symbol : Char) (position : Nat)
  | nonTerminatedString (position : Nat)
  | invalidCellReference (reason : String)
  | numberFormat (digits : String)
  | unmatchedBracket (side : Bracket)
  | unknownSymbol (name : String)
  | multipleExpressions
  | unexpectedEndOfInput
  | tooDeeplyNested (limit : Nat)
  deriving DecidableEq, Repr

/-- The word for a bracket. -/
def Bracket.word : Bracket → String
  | .left => "left"
  | .right => "right"

/-- The message for an error. -/
def FormulaError.message : FormulaError → String
  | .invalidSymbol symbol position =>
    "Invalid symbol " ++ symbol.toString ++ " at position " ++ toString position
  | .nonTerminatedString position =>
    "Non-terminated string found starting from position " ++ toString position
  | .invalidCellReference reason => "Invalid cell reference: " ++ reason
  | .numberFormat digits => "Unable to parse " ++ digits ++ " as number"
  | .unmatchedBracket side => "Unmatched " ++ side.word ++ " bracket"
  | .unknownSymbol name => "Unknown symbol " ++ name
  | .multipleExpressions => "Multiple expressions found"
  | .unexpectedEndOfInput => "Unexpected end of input"
  | .tooDeeplyNested limit => "Formula nested deeper than " ++ toString limit ++ " levels"

end Spreadsheet
