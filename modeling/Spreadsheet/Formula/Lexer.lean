import Spreadsheet.Decimal.Numeral
import Spreadsheet.Formula.Error
import Spreadsheet.Formula.Token
import Spreadsheet.Text.Alphabetic
import Spreadsheet.Text.Blank
import Spreadsheet.Text.Numeric

/-!
# The words of a text

A text that starts with `=` is a formula and is read word by word: at each place the longest word
that its first character allows. Any other text is one word, a number if all of it is a numeral and
a text otherwise. `next` reads one word and `words` all of them; a position is the number of
characters in front of it, so it is found from what is left of the text. Main statement:
`length_next`, the rest behind a word is no longer than the text behind its first character.
-/

namespace Spreadsheet.Lexer

/-- The blanks between the words of a formula. -/
def isGap (c : Char) : Bool :=
  c == ' ' || c == '\t' || c == '\n'

/-- The most letters of a reference's column. -/
def columnLettersLimit : Nat := 6

/-- The most digits of a reference's row. -/
def rowDigitsLimit : Nat := 8

/-! ## Runs -/

/-- The longest run of characters with a property at the start of a text, at most `limit` of them,
and what is behind it. -/
def run (p : Char → Bool) (limit : Nat) (cs : List Char) : List Char × List Char :=
  let taken := (cs.take limit).takeWhile p
  (taken, cs.drop taken.length)

theorem length_run (p : Char → Bool) (limit : Nat) (cs : List Char) :
    (run p limit cs).2.length ≤ cs.length := by
  simp [run]

theorem length_span (p : Char → Bool) (cs : List Char) :
    (cs.dropWhile p).length ≤ cs.length :=
  List.IsSuffix.length_le (List.dropWhile_suffix p)

/-! ## Words -/

/-- The text up to the closing quote and what is behind it. A backslash in front of a quote makes it
part of the text; any other backslash is a character like the rest. -/
def readText : List Char → Option (List Char × List Char)
  | [] => none
  | '"' :: cs => some ([], cs)
  | '\\' :: '"' :: cs => (readText cs).map fun (text, rest) => ('"' :: text, rest)
  | c :: cs => (readText cs).map fun (text, rest) => (c :: text, rest)

theorem length_readText {cs text rest : List Char} (h : readText cs = some (text, rest)) :
    rest.length ≤ cs.length := by
  fun_induction readText cs generalizing text with
  | case1 => simp at h
  | case2 => simp_all
  | case3 cs ih | case4 c cs _ _ ih =>
    obtain ⟨⟨text', rest'⟩, found, eq⟩ := Option.map_eq_some_iff.1 h
    obtain ⟨rfl, rfl⟩ := Prod.mk.inj eq
    have := ih found
    simp only [List.length_cons]
    omega

/-- The digits of a number, with a point and further digits if a point follows. -/
def readDigits (cs : List Char) : List Char × List Char :=
  let whole := cs.takeWhile Char.isDigit
  match cs.dropWhile Char.isDigit with
  | '.' :: rest => (whole ++ '.' :: rest.takeWhile Char.isDigit, rest.dropWhile Char.isDigit)
  | rest => (whole, rest)

/-- The position of what is left of a formula of `size` characters. -/
def position (size : Nat) (left : List Char) : Nat :=
  size - left.length

/-- A number and what is behind it. -/
def readNumber (cs : List Char) : Except FormulaError (Token × List Char) :=
  let word := readDigits cs
  match Decimal.float? word.1 with
  | some x => .ok (.number x, word.2)
  | none => .error (.numberFormat (String.ofList word.1))

/-- A reference and what is behind it: column letters and a row number of at least one, with no
further letter or digit behind them. `size` is the number of characters of the whole formula. -/
def readReference (size : Nat) (cs : List Char) : Except FormulaError (Token × List Char) :=
  let column := run Char.isUpper columnLettersLimit cs
  let row := run Char.isDigit rowDigitsLimit column.2
  match row.2.head?.filter fun c => Text.isAlphabetic c || Text.isNumeric c with
  | some c =>
    .error (.invalidCellReference
      ("unexpected symbol " ++ c.toString ++ " at position " ++ toString (position size row.2)))
  | none =>
    match Text.wordOfDigits? row.1 with
    | some (r + 1) =>
      match Column.number? column.1 with
      | some (c + 1) => .ok (.reference ⟨r, c⟩, row.2)
      | _ => .error (.invalidCellReference (String.ofList column.1))
    | _ =>
      .error (.invalidCellReference
        ("no row number of at least 1 in " ++ String.ofList column.1 ++ String.ofList row.1 ++
          " at position " ++ toString (position size cs)))

/-- The first word of a non-empty rest of a formula and what is behind it; no word for a blank. -/
def next (size : Nat) (c : Char) (cs : List Char) :
    Except FormulaError (Option Token × List Char) :=
  if isGap c then .ok (none, cs)
  else match Token.ofSymbol? c with
    | some token => .ok (some token, cs)
    | none =>
      if c = '"' then
        match readText cs with
        | some (text, rest) => .ok (some (.text (String.ofList text)), rest)
        | none => .error (.nonTerminatedString (position size (c :: cs)))
      else if c.isDigit then
        (readNumber (c :: cs)).map fun (token, rest) => (some token, rest)
      else if c.isUpper then
        (readReference size (c :: cs)).map fun (token, rest) => (some token, rest)
      else if Text.isAlphabetic c then
        .ok (some (.name (String.ofList (c :: cs.takeWhile Text.isAlphabetic))),
          cs.dropWhile Text.isAlphabetic)
      else .error (.invalidSymbol c (position size (c :: cs)))

/-! ## Progress -/

theorem length_dropWhile_cons {p : Char → Bool} {c : Char} (h : p c = true) (cs : List Char) :
    ((c :: cs).dropWhile p).length ≤ cs.length := by
  rw [List.dropWhile_cons_of_pos h]
  exact length_span p cs

theorem length_run_cons {p : Char → Bool} {c : Char} (h : p c = true) (limit : Nat)
    (cs : List Char) : (run p (limit + 1) (c :: cs)).2.length ≤ cs.length := by
  simp [run, h]

theorem length_readNumber {c : Char} {cs rest : List Char} {token : Token} (h : c.isDigit = true)
    (found : readNumber (c :: cs) = .ok (token, rest)) : rest.length ≤ cs.length := by
  have digits : (readDigits (c :: cs)).2.length ≤ cs.length := by
    have whole := length_dropWhile_cons h cs
    unfold readDigits
    split
    · rename_i rest eq
      rw [eq, List.length_cons] at whole
      have := length_span Char.isDigit rest
      simp only
      omega
    · exact whole
  simp only [readNumber] at found
  split at found
  · injection found with eq
    injection eq with _ eq
    rwa [← eq]
  · injection found

theorem length_readReference {size : Nat} {c : Char} {cs rest : List Char} {token : Token}
    (h : c.isUpper = true) (found : readReference size (c :: cs) = .ok (token, rest)) :
    rest.length ≤ cs.length := by
  have column : (run Char.isUpper columnLettersLimit (c :: cs)).2.length ≤ cs.length :=
    length_run_cons h 5 cs
  have row := length_run Char.isDigit rowDigitsLimit (run Char.isUpper columnLettersLimit (c :: cs)).2
  simp only [readReference] at found
  split at found
  · injection found
  · split at found
    · split at found
      · injection found with eq
        injection eq with _ eq
        rw [← eq]
        omega
      · injection found
    · injection found

/-- A word takes at least one character. -/
theorem length_next {size : Nat} {c : Char} {cs rest : List Char} {token : Option Token}
    (found : next size c cs = .ok (token, rest)) : rest.length ≤ cs.length := by
  simp only [next] at found
  split at found
  · injection found with eq
    injection eq with _ eq
    exact Nat.le_of_eq (congrArg List.length eq.symm)
  split at found
  · injection found with eq
    injection eq with _ eq
    exact Nat.le_of_eq (congrArg List.length eq.symm)
  split at found
  · split at found
    · rename_i eq
      injection found with eq'
      injection eq' with _ eq'
      rw [← eq']
      exact length_readText eq
    · injection found
  split at found
  · rename_i digit
    cases read : readNumber (c :: cs) with
    | error e => simp [read, Except.map] at found
    | ok r =>
      obtain ⟨token', rest'⟩ := r
      simp only [read, Except.map, Except.ok.injEq, Prod.mk.injEq] at found
      rw [← found.2]
      exact length_readNumber digit read
  split at found
  · rename_i upper
    cases read : readReference size (c :: cs) with
    | error e => simp [read, Except.map] at found
    | ok r =>
      obtain ⟨token', rest'⟩ := r
      simp only [read, Except.map, Except.ok.injEq, Prod.mk.injEq] at found
      rw [← found.2]
      exact length_readReference upper read
  split at found
  · injection found with eq
    injection eq with _ eq
    rw [← eq]
    exact length_span _ _
  · injection found

/-! ## Texts -/

/-- The words of what is left of a formula of `size` characters. -/
def words (size : Nat) : List Char → Except FormulaError (List Token)
  | [] => .ok []
  | c :: cs =>
    match _found : next size c cs with
    | .error e => .error e
    | .ok (token, rest) =>
      match words size rest with
      | .error e => .error e
      | .ok tokens => .ok (token.toList ++ tokens)
termination_by cs => cs.length
decreasing_by
  have := length_next _found
  simp only [List.length_cons]
  omega

/-- Whether a text without its signs starts like a number that a cell may hold as such: with a digit
or a point, or as one of the two words for special numbers. -/
def startsNumber (cs : List Char) : Bool :=
  cs == ['I', 'n', 'f', 'i', 'n', 'i', 't', 'y'] || cs == ['N', 'a', 'N'] ||
    cs.head?.any fun c => c.isDigit || c == '.'

/-- The number that a text without `=` is, blanks around it aside. -/
def plainNumber? (cs : List Char) : Option Float :=
  let trimmed := Text.trim cs
  if startsNumber (trimmed.dropWhile fun c => c == '+' || c == '-') then Decimal.float? trimmed
  else none

/-- The word that a text without `=` is. -/
def literal (s : String) : Token :=
  match plainNumber? s.toList with
  | some x => .number x
  | none => .text s

end Spreadsheet.Lexer

namespace Spreadsheet

/-- The words of a cell's text. -/
def tokenize (s : String) : Except FormulaError (List Token) :=
  match s.toList with
  | '=' :: cs => Lexer.words cs.length cs
  | _ => .ok [Lexer.literal s]

end Spreadsheet
