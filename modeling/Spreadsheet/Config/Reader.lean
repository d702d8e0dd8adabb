import Spreadsheet.Config.Basic
import Spreadsheet.Text.Digits
import Spreadsheet.Text.Split

/-!
# Reading settings

A line of the settings is blank or gives a number to a key, and may end in a comment. A key may be
quoted. A number may be written in base 2, 8, 10 or 16 with single underscores between its digits; in
base 10 it may have a sign, but no zero in front. Each key may come once, and there are no others.
-/

namespace Spreadsheet.Config

/-! ## Lines -/

/-- The blanks inside a line. -/
def isGap (c : Char) : Bool := c == ' ' || c == '\t'

/-- Whether a character may stand in a comment or, unless it has a meaning there, between quotes:
a tab, or any character that is not a control character of ASCII. -/
def isPlain (c : Char) : Bool := c == '\t' || (0x20 ≤ c.toNat && c.toNat != 0x7F)

/-- Whether only blanks and a comment are left of a line. -/
def isRest (cs : List Char) : Bool :=
  match cs.dropWhile isGap with
  | [] => true
  | '#' :: comment => comment.all isPlain
  | _ => false

/-- A line without the carriage return in front of its line feed. -/
def withoutReturn (line : List Char) : List Char :=
  if line.getLast? = some '\r' then line.dropLast else line

/-- The lines of a text. The last one ends with the text and not with a line feed. -/
def lines (cs : List Char) : List (List Char) :=
  let parts := Text.splitOn '\n' cs
  parts.dropLast.map withoutReturn ++ parts.getLast?.toList

/-! ## Keys -/

/-- Whether a character may stand in a key without quotes. -/
def isBare (c : Char) : Bool := c.isAlphanum || c == '_' || c == '-'

/-- The character that a backslash and a letter stand for. -/
def escaped? : Char → Option Char
  | '"' => some '"'
  | '\\' => some '\\'
  | 'b' => some '\x08'
  | 'f' => some '\x0c'
  | 'n' => some '\n'
  | 'r' => some '\r'
  | 't' => some '\t'
  | _ => none

/-- The character with a code in hexadecimal. -/
def charOfHex? (digits : List Char) : Option Char :=
  match Text.natOfBase? 16 digits with
  | some code => if code.isValidChar then some (Char.ofNat code) else none
  | none => none

/-- What is written between double quotes, and what is behind them. -/
def readQuoted : List Char → Option (List Char × List Char)
  | [] => none
  | '"' :: cs => some ([], cs)
  | '\\' :: 'u' :: a :: b :: c :: d :: cs =>
    match charOfHex? [a, b, c, d], readQuoted cs with
    | some x, some (text, rest) => some (x :: text, rest)
    | _, _ => none
  | '\\' :: 'U' :: a :: b :: c :: d :: e :: f :: g :: h :: cs =>
    match charOfHex? [a, b, c, d, e, f, g, h], readQuoted cs with
    | some x, some (text, rest) => some (x :: text, rest)
    | _, _ => none
  | '\\' :: c :: cs =>
    match escaped? c, readQuoted cs with
    | some x, some (text, rest) => some (x :: text, rest)
    | _, _ => none
  | c :: cs =>
    if isPlain c && c != '\\' then (readQuoted cs).map fun (text, rest) => (c :: text, rest)
    else none

/-- The key at the start of a line, and what is behind it. -/
def readKey : List Char → Option (List Char × List Char)
  | '"' :: cs => readQuoted cs
  | '\'' :: cs =>
    match Text.cut? '\'' cs with
    | some (text, rest) => if text.all isPlain then some (text, rest) else none
    | none => none
  | cs => some (cs.takeWhile isBare, cs.dropWhile isBare)

/-! ## Numbers -/

/-- One past the greatest number. -/
def limit : Nat := Nat.pow 2 63

/-- Some digits without the single underscores between them. -/
def joined? : List Char → Option (List Char)
  | [] => none
  | [c] => if c = '_' then none else some [c]
  | c :: '_' :: cs => if c = '_' then none else (joined? cs).map (c :: ·)
  | c :: cs => if c = '_' then none else (joined? cs).map (c :: ·)

/-- The number with these digits of a base. -/
def digits? (base : Nat) (cs : List Char) : Option Nat :=
  match (joined? cs).bind (Text.natOfBase? base) with
  | some n => if n < limit then some n else none
  | none => none

/-- The number with these decimal digits. -/
def decimal? (cs : List Char) : Option Nat :=
  if cs.length ≠ 1 ∧ cs.head? = some '0' then none else digits? 10 cs

/-- The number that a word stands for. The only one below zero that is accepted is zero. -/
def number? : List Char → Option Nat
  | '0' :: 'x' :: cs => digits? 16 cs
  | '0' :: 'o' :: cs => digits? 8 cs
  | '0' :: 'b' :: cs => digits? 2 cs
  | '+' :: cs => decimal? cs
  | '-' :: cs => if decimal? cs = some 0 then some 0 else none
  | cs => decimal? cs

/-! ## Settings -/

/-- The settings that were read so far. -/
structure Partial where
  rows : Option Nat := none
  columns : Option Nat := none

namespace Partial

/-- Gives a number to a key that has none. -/
def give (p : Partial) (key : List Char) (n : Nat) : Option Partial :=
  if String.ofList key = "rows" ∧ p.rows = none then some { p with rows := some n }
  else if String.ofList key = "columns" ∧ p.columns = none then some { p with columns := some n }
  else none

/-- Reads a line. -/
def readLine (p : Partial) (line : List Char) : Option Partial :=
  if isRest line then some p
  else
    match readKey (line.dropWhile isGap) with
    | none => none
    | some (key, rest) =>
      match rest.dropWhile isGap with
      | '=' :: rest =>
        let value := rest.dropWhile isGap
        let isWord := fun c => !isGap c && c != '#'
        match number? (value.takeWhile isWord) with
        | some n => if isRest (value.dropWhile isWord) then p.give key n else none
        | none => none
      | _ => none

/-- The settings, with the usual numbers where none was given. -/
def complete (p : Partial) : Config :=
  let usual : Config := {}
  ⟨p.rows.getD usual.rows, p.columns.getD usual.columns⟩

end Partial

/-- The text without the mark that some editors put in front. -/
def withoutMark : List Char → List Char
  | '\ufeff' :: cs => cs
  | cs => cs

/-- The settings in a text. -/
def ofText? (s : String) : Option Config :=
  ((lines (withoutMark s.toList)).foldlM Partial.readLine {}).map Partial.complete

end Spreadsheet.Config
