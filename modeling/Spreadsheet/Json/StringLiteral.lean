import Spreadsheet.Text.Digits

/-!
# JSON strings

The text between two double quotes. A writer escapes the quote, the backslash and the control
characters; a reader also takes the other escapes, among them the code points in hexadecimal. Two of
these may be the halves of a surrogate pair: a half that stands alone is read, but then the string
has no text.
-/

namespace Spreadsheet.JsonString

/-! ## Writing -/

/-- The way a character is written between the quotes. -/
def escape (c : Char) : List Char :=
  if c = '"' then ['\\', '"']
  else if c = '\\' then ['\\', '\\']
  else if c = '\x08' then ['\\', 'b']
  else if c = '\x0c' then ['\\', 'f']
  else if c = '\n' then ['\\', 'n']
  else if c = '\r' then ['\\', 'r']
  else if c = '\t' then ['\\', 't']
  else if c.toNat < 0x20 then
    ['\\', 'u', '0', '0', Nat.digitChar (c.toNat / 16), Nat.digitChar (c.toNat % 16)]
  else [c]

/-- A text between its quotes. -/
def write (s : String) : List Char :=
  '"' :: (s.toList.flatMap escape ++ ['"'])

/-! ## Reading -/

/-- What a string is made of: characters, and halves of surrogate pairs by their code. -/
inductive Piece where
  | char (c : Char)
  | high (code : Nat)
  | low (code : Nat)

/-- The piece with a code of four hexadecimal digits. -/
def pieceOfHex? (a b c d : Char) : Option Piece :=
  (Text.natOfBase? 16 [a, b, c, d]).map fun code =>
    if 0xD800 ≤ code ∧ code < 0xDC00 then .high code
    else if 0xDC00 ≤ code ∧ code < 0xE000 then .low code
    else .char (Char.ofNat code)

/-- The character that a backslash and a letter stand for. -/
def escaped? : Char → Option Char
  | '"' => some '"'
  | '\\' => some '\\'
  | '/' => some '/'
  | 'b' => some '\x08'
  | 'f' => some '\x0c'
  | 'n' => some '\n'
  | 'r' => some '\r'
  | 't' => some '\t'
  | _ => none

/-- The pieces of a string up to its closing quote, and what is behind it. -/
def readPieces : List Char → Option (List Piece × List Char)
  | [] => none
  | '"' :: cs => some ([], cs)
  | '\\' :: 'u' :: a :: b :: c :: d :: cs =>
    match pieceOfHex? a b c d, readPieces cs with
    | some piece, some (pieces, rest) => some (piece :: pieces, rest)
    | _, _ => none
  | '\\' :: c :: cs =>
    match escaped? c, readPieces cs with
    | some c, some (pieces, rest) => some (.char c :: pieces, rest)
    | _, _ => none
  | c :: cs =>
    if c.toNat < 0x20 ∨ c = '\\' then none
    else match readPieces cs with
      | some (pieces, rest) => some (.char c :: pieces, rest)
      | none => none

/-- The text of some pieces, if every half of a surrogate pair has its partner. -/
def textOfPieces? : List Piece → Option (List Char)
  | [] => some []
  | .char c :: pieces => (textOfPieces? pieces).map (c :: ·)
  | .high h :: .low l :: pieces =>
    (textOfPieces? pieces).map
      (Char.ofNat (0x10000 + (h - 0xD800) * 0x400 + (l - 0xDC00)) :: ·)
  | _ => none

/-- The text of a string, if it has one, and what is behind the string. The opening quote has been
read. -/
def read? (cs : List Char) : Option (Option String × List Char) :=
  (readPieces cs).map fun (pieces, rest) => ((textOfPieces? pieces).map String.ofList, rest)

/-! ## Progress -/

theorem length_readPieces {cs rest : List Char} {pieces : List Piece}
    (h : readPieces cs = some (pieces, rest)) : rest.length ≤ cs.length := by
  fun_induction readPieces cs generalizing pieces rest with
  | case1 => simp at h
  | case2 cs => simp_all
  | case3 a b c d cs piece pieces' rest' found _ ih =>
    simp only [Option.some.injEq, Prod.mk.injEq] at h
    have := ih found
    rw [← h.2]
    simp only [List.length_cons]
    omega
  | case4 => simp at h
  | case5 c cs _ c' pieces' rest' found _ ih =>
    simp only [Option.some.injEq, Prod.mk.injEq] at h
    have := ih found
    rw [← h.2]
    simp only [List.length_cons]
    omega
  | case6 => simp at h
  | case7 => simp at h
  | case8 c cs _ _ _ _ pieces' rest' found ih =>
    simp only [Option.some.injEq, Prod.mk.injEq] at h
    have := ih found
    rw [← h.2]
    simp only [List.length_cons]
    omega
  | case9 => simp at h

theorem length_read? {cs : List Char} {r : Option String × List Char} (h : read? cs = some r) :
    r.2.length ≤ cs.length := by
  obtain ⟨⟨pieces, rest⟩, found, rfl⟩ := Option.map_eq_some_iff.1 h
  exact length_readPieces found

end Spreadsheet.JsonString
