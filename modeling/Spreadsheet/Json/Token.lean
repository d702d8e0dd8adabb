import Spreadsheet.Json.NumberLiteral
import Spreadsheet.Json.StringLiteral

/-!
# JSON tokens

A JSON text is cut into brackets, separators, the three words, numbers and strings. Only space, tab,
line feed and carriage return may stand between them.
-/

namespace Spreadsheet

/-- A token of a JSON text. -/
inductive JsonToken where
  | leftBrace
  | rightBrace
  | leftBracket
  | rightBracket
  | colon
  | comma
  | null
  | bool (b : Bool)
  | number (text : List Char)
  | string (text : Option String)

namespace JsonToken

/-- The blanks between tokens. -/
def isGap (c : Char) : Bool :=
  c == ' ' || c == '\t' || c == '\n' || c == '\r'

/-- The token that a character is on its own. -/
def ofSymbol? : Char → Option JsonToken
  | '{' => some .leftBrace
  | '}' => some .rightBrace
  | '[' => some .leftBracket
  | ']' => some .rightBracket
  | ':' => some .colon
  | ',' => some .comma
  | _ => none

/-! ## Reading -/

/-- What is behind a word, if a text starts with it. -/
def behind? : List Char → List Char → Option (List Char)
  | [], cs => some cs
  | w :: word, c :: cs => if w = c then behind? word cs else none
  | _ :: _, [] => none

/-- One of the three words, and what is behind it. -/
def readWord (cs : List Char) : Option (JsonToken × List Char) :=
  match behind? ['n', 'u', 'l', 'l'] cs with
  | some rest => some (.null, rest)
  | none =>
    match behind? ['t', 'r', 'u', 'e'] cs with
    | some rest => some (.bool true, rest)
    | none => (behind? ['f', 'a', 'l', 's', 'e'] cs).map fun rest => (.bool false, rest)

/-- The first token of a text and what is behind it; no token for a blank. -/
def next (c : Char) (cs : List Char) : Option (Option JsonToken × List Char) :=
  if isGap c then some (none, cs)
  else match ofSymbol? c with
    | some token => some (some token, cs)
    | none =>
      if c = '"' then (JsonString.read? cs).map fun (text, rest) => (some (.string text), rest)
      else if c = '-' ∨ c.isDigit then
        (JsonNumber.read? (c :: cs)).map fun (text, rest) => (some (.number text), rest)
      else (readWord (c :: cs)).map fun (token, rest) => (some token, rest)

/-! ## Progress -/

theorem length_behind {word cs rest : List Char} (h : behind? word cs = some rest) :
    rest.length + word.length = cs.length := by
  fun_induction behind? word cs with
  | case1 => simp_all
  | case2 word c cs ih => simp [← ih h, Nat.add_assoc]
  | case3 => simp at h
  | case4 => simp at h

theorem length_readWord {cs rest : List Char} {token : JsonToken}
    (h : readWord cs = some (token, rest)) : rest.length < cs.length := by
  unfold readWord at h
  split at h
  · rename_i found
    have := length_behind found
    simp_all only [Option.some.injEq, Prod.mk.injEq, List.length_cons]
    omega
  · split at h
    · rename_i found
      have := length_behind found
      simp_all only [Option.some.injEq, Prod.mk.injEq, List.length_cons]
      omega
    · obtain ⟨rest', found, eq⟩ := Option.map_eq_some_iff.1 h
      have := length_behind found
      simp only [Prod.mk.injEq] at eq
      simp_all only [List.length_cons]
      omega

/-- A token takes at least one character. -/
theorem length_next {c : Char} {cs : List Char} {r : Option JsonToken × List Char}
    (h : next c cs = some r) : r.2.length ≤ cs.length := by
  unfold next at h
  split at h
  · simp only [Option.some.injEq] at h
    simp [← h]
  split at h
  · simp only [Option.some.injEq] at h
    simp [← h]
  split at h
  · obtain ⟨found, eq, rfl⟩ := Option.map_eq_some_iff.1 h
    exact JsonString.length_read? eq
  split at h
  · obtain ⟨found, eq, rfl⟩ := Option.map_eq_some_iff.1 h
    exact Nat.le_of_lt_succ (JsonNumber.length_read? eq)
  · obtain ⟨found, eq, rfl⟩ := Option.map_eq_some_iff.1 h
    exact Nat.le_of_lt_succ (length_readWord eq)

/-- The tokens of a text. -/
def ofChars? : List Char → Option (List JsonToken)
  | [] => some []
  | c :: cs =>
    match _found : next c cs with
    | none => none
    | some (token, rest) => (ofChars? rest).map (token.toList ++ ·)
termination_by cs => cs.length
decreasing_by
  exact Nat.lt_succ_of_le (length_next _found)

/-- Whether a blank or a token can start with a character. -/
def canStart (c : Char) : Bool :=
  isGap c || (ofSymbol? c).isSome || c == '"' || c == '-' || c.isDigit || c == 'n' || c == 't' ||
    c == 'f'

theorem canStart_of_next {c : Char} {cs : List Char} {r : Option JsonToken × List Char}
    (h : next c cs = some r) : canStart c = true := by
  unfold next at h
  split at h
  · simp_all [canStart]
  split at h
  · simp_all [canStart]
  split at h
  · simp_all [canStart]
  split at h
  · rename_i start
    rcases start with start | start <;> simp [canStart, start]
  · obtain ⟨⟨token, rest⟩, found, -⟩ := Option.map_eq_some_iff.1 h
    cases other : canStart c with
    | true => rfl
    | false =>
      simp only [canStart, Bool.or_eq_false_iff, beq_eq_false_iff_ne] at other
      simp [readWord, behind?, Ne.symm other.1.1.2, Ne.symm other.1.2, Ne.symm other.2] at found

/-- The tokens of a text. A text with a first character that starts no token is not taken apart. -/
def ofText? (s : String) : Option (List JsonToken) :=
  if s.front?.all canStart then ofChars? s.toList else none

/-- The look at the first character changes no answer. -/
theorem ofText?_eq (s : String) : ofText? s = ofChars? s.toList := by
  unfold ofText?
  split
  · rfl
  · rename_i refused
    rw [String.front?_eq] at refused
    cases chars : s.toList with
    | nil => simp [chars] at refused
    | cons c cs =>
      unfold ofChars?
      split
      · rfl
      · rename_i found
        simp [chars, canStart_of_next found] at refused

end JsonToken

end Spreadsheet
