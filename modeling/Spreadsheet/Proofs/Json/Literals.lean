import Mathlib.Data.List.TakeWhile
import Mathlib.Tactic.ByContra
import Spreadsheet.Json.Layout

/-!
# Numbers and strings are read back

A number literal is read whole, whatever comes behind it, unless that goes on the number
(`JsonNumber.read?_append`); the digits of a natural number are a literal
(`JsonNumber.isLiteral_toDigits`). A string is read back as it was written, every escape included,
whatever comes behind it (`JsonString.read?_write`).
-/

namespace Spreadsheet

/-! ## Numbers -/

namespace JsonNumber

/-- The reader takes the whole text as a number. -/
def IsLiteral (text : List Char) : Prop := read? text = some (text, [])

/-- A text that does not go on a number in front of it. -/
def Stops (rest : List Char) : Prop :=
  ∀ c ∈ rest.head?, c.isDigit = false ∧ c ≠ '.' ∧ c ≠ 'e' ∧ c ≠ 'E'

variable {cs rest mark : List Char} {r : List Char × List Char}

theorem stops_nil : Stops [] := by
  intro c hc
  cases hc

theorem stops_cons {c : Char} (h : c.isDigit = false ∧ c ≠ '.' ∧ c ≠ 'e' ∧ c ≠ 'E') :
    Stops (c :: cs) := by
  intro c' hc'
  obtain rfl : c = c' := by simpa using hc'
  exact h

theorem Stops.append (h : Stops cs) (stops : Stops rest) : Stops (cs ++ rest) := by
  cases cs with
  | nil => exact stops
  | cons c cs => exact stops_cons (h c rfl)

theorem takeWhile_append_of_stops (stops : Stops rest) :
    (cs ++ rest).takeWhile Char.isDigit = cs.takeWhile Char.isDigit := by
  induction cs with
  | nil =>
    cases rest with
    | nil => rfl
    | cons c rest => simp [(stops c rfl).1]
  | cons c cs ih =>
    cases digit : c.isDigit with
    | true => simp [digit, ih]
    | false => simp [digit]

theorem dropWhile_append_of_stops (stops : Stops rest) :
    (cs ++ rest).dropWhile Char.isDigit = cs.dropWhile Char.isDigit ++ rest := by
  induction cs with
  | nil =>
    cases rest with
    | nil => rfl
    | cons c rest => simp [(stops c rfl).1]
  | cons c cs ih =>
    cases digit : c.isDigit with
    | true => simp [digit, ih]
    | false => simp [digit]

theorem readTail_append (h : readTail mark cs = some r) (stops : Stops rest) :
    readTail mark (cs ++ rest) = some (r.1, r.2 ++ rest) := by
  simp only [readTail] at h ⊢
  rw [takeWhile_append_of_stops stops, dropWhile_append_of_stops stops]
  split at h
  · cases h
  · rename_i some_digit
    rw [if_neg some_digit, ← Option.some.inj h]

theorem readWhole_append (h : readWhole cs = some r) (stops : Stops rest) :
    readWhole (cs ++ rest) = some (r.1, r.2 ++ rest) := by
  cases cs with
  | nil => simp [readWhole] at h
  | cons c cs =>
    by_cases zero : c = '0'
    · subst zero
      simp only [readWhole, List.cons_append, Option.some.injEq] at h ⊢
      rw [← h]
    · have tail : ∀ cs', readWhole (c :: cs') = readTail [] (c :: cs') := by
        intro cs'
        simp [readWhole, readTail, zero]
      rw [tail] at h
      rw [List.cons_append, tail, ← List.cons_append]
      exact readTail_append h stops

theorem readFraction_of_no_point (h : ∀ c ∈ cs.head?, c ≠ '.') :
    readFraction cs = some ([], cs) := by
  cases cs with
  | nil => rfl
  | cons c cs =>
    have ne : c ≠ '.' := h c rfl
    simp [readFraction, ne]

theorem readFraction_append (h : readFraction cs = some r) (stops : Stops rest) :
    readFraction (cs ++ rest) = some (r.1, r.2 ++ rest) := by
  cases cs with
  | nil =>
    obtain rfl : ([], []) = r := Option.some.inj h
    exact readFraction_of_no_point fun c hc => (stops c hc).2.1
  | cons c cs =>
    by_cases point : c = '.'
    · subst point
      exact readTail_append h stops
    · rw [readFraction_of_no_point (by simpa using point)] at h
      rw [readFraction_of_no_point (by simpa using point), ← Option.some.inj h]

theorem readExponent_of_no_mark (h : ∀ c ∈ cs.head?, ¬(c = 'e' ∨ c = 'E')) :
    readExponent cs = some ([], cs) := by
  cases cs with
  | nil => rfl
  | cons c cs =>
    have ne : ¬(c = 'e' ∨ c = 'E') := h c rfl
    simp [readExponent, ne]

theorem readExponent_append (h : readExponent cs = some r) (stops : Stops rest) :
    readExponent (cs ++ rest) = some (r.1, r.2 ++ rest) := by
  cases cs with
  | nil =>
    obtain rfl : ([], []) = r := Option.some.inj h
    exact readExponent_of_no_mark fun c hc => not_or.2 (stops c hc).2.2
  | cons c cs =>
    by_cases marked : c = 'e' ∨ c = 'E'
    · simp only [readExponent, List.cons_append, if_pos marked] at h ⊢
      cases cs with
      | nil =>
        -- behind the mark there has to be a digit, so the rest is never asked for a sign
        simp [readTail] at h
      | cons d cs =>
        by_cases plus : d = '+'
        · subst plus
          exact readTail_append h stops
        · by_cases minus : d = '-'
          · subst minus
            exact readTail_append h stops
          · have unsigned : readTail [c] (d :: cs) = some r := by simpa [plus, minus] using h
            have tail := readTail_append unsigned stops
            simpa [plus, minus] using tail
    · rw [readExponent_of_no_mark (by simpa using marked)] at h
      rw [readExponent_of_no_mark (by simpa using marked), ← Option.some.inj h]

theorem readSign_append (h : cs ≠ []) :
    readSign (cs ++ rest) = ((readSign cs).1, (readSign cs).2 ++ rest) := by
  cases cs with
  | nil => exact absurd rfl h
  | cons c cs =>
    by_cases minus : c = '-'
    · subst minus
      rfl
    · simp [readSign, minus]

/-- **A number is read as it is**, whatever comes behind it, unless that goes on the number. -/
theorem read?_append (h : read? cs = some r) (stops : Stops rest) :
    read? (cs ++ rest) = some (r.1, r.2 ++ rest) := by
  have not_empty : cs ≠ [] := by
    rintro rfl
    simp [read?, readSign, readWhole] at h
  simp only [read?] at h ⊢
  rw [readSign_append not_empty]
  split at h
  · cases h
  · rename_i whole whole_eq
    split at h
    · cases h
    · rename_i fraction fraction_eq
      split at h
      · cases h
      · rename_i exponent exponent_eq
        simp only [readWhole_append whole_eq stops, readFraction_append fraction_eq stops,
          readExponent_append exponent_eq stops, ← Option.some.inj h]

/-- A number starts with a sign or a digit. -/
theorem start_of_read? {c : Char} (h : read? (c :: cs) = some r) : c = '-' ∨ c.isDigit = true := by
  by_cases minus : c = '-'
  · exact Or.inl minus
  · by_contra start
    have not_digit : c.isDigit = false := by simpa [minus] using start
    have not_zero : c ≠ '0' := by
      rintro rfl
      cases not_digit
    simp [read?, readSign, minus, readWhole, not_zero, not_digit] at h

/-! ## Natural numbers -/

/-- The digits of a positive number do not start with zero. -/
theorem head_toDigits {n : Nat} (h : 0 < n) : ∃ c cs, Nat.toDigits 10 n = c :: cs ∧ c ≠ '0' := by
  induction n using Nat.strongRecOn with
  | ind n ih =>
    by_cases small : n < 10
    · refine ⟨n.digitChar, [], Nat.toDigits_of_lt_base small, ?_⟩
      have digits : ∀ d < 10, 0 < d → Nat.digitChar d ≠ '0' := by decide
      exact digits n small h
    · obtain ⟨c, cs, found, ne⟩ := ih (n / 10) (by omega) (by omega)
      rw [Nat.toDigits_of_base_le (by omega) (by omega), found]
      exact ⟨c, _, rfl, ne⟩

theorem isDigit_of_mem_toDigits {n : Nat} {c : Char} (h : c ∈ Nat.toDigits 10 n) :
    c.isDigit = true :=
  Nat.isDigit_of_mem_toDigits (by omega) (by omega) h

/-- The digits of a natural number are a number literal. -/
theorem isLiteral_toDigits (n : Nat) : IsLiteral (Nat.toDigits 10 n) := by
  rcases Nat.eq_zero_or_pos n with rfl | positive
  · rfl
  · obtain ⟨c, cs, found, not_zero⟩ := head_toDigits positive
    have digits : ∀ d ∈ c :: cs, d.isDigit = true := fun d hd =>
      isDigit_of_mem_toDigits (found ▸ hd)
    have no_sign : c ≠ '-' := by
      rintro rfl
      exact absurd (digits '-' List.mem_cons_self) (by decide)
    have taken : (c :: cs).takeWhile Char.isDigit = c :: cs :=
      List.takeWhile_eq_self_iff.2 digits
    have left : (c :: cs).dropWhile Char.isDigit = [] := List.dropWhile_eq_nil_iff.2 digits
    have whole : readWhole (c :: cs) = some (c :: cs, []) := by
      simp [readWhole, not_zero, taken, left]
    rw [IsLiteral, found]
    simp [read?, readSign, no_sign, whole, readFraction, readExponent]

end JsonNumber

/-! ## Strings -/

namespace JsonString

variable {cs rest : List Char}

/-- The code of a control character is read back from its four hexadecimal digits. -/
theorem natOfBase?_control {n : Nat} (h : n < 0x20) :
    Text.natOfBase? 16 ['0', '0', Nat.digitChar (n / 16), Nat.digitChar (n % 16)] = some n := by
  have all : ∀ n < 0x20, Text.natOfBase? 16
      ['0', '0', Nat.digitChar (n / 16), Nat.digitChar (n % 16)] = some n := by decide
  exact all n h

theorem pieceOfHex?_control {c : Char} (h : c.toNat < 0x20) :
    pieceOfHex? '0' '0' (Nat.digitChar (c.toNat / 16)) (Nat.digitChar (c.toNat % 16)) =
      some (.char c) := by
  rw [pieceOfHex?, natOfBase?_control h, Option.map_some, if_neg (by omega), if_neg (by omega),
    Char.ofNat_toNat]

/-- What is read when a piece comes first. -/
def prepend (piece : Piece) : List Piece × List Char → List Piece × List Char :=
  fun (pieces, rest) => (piece :: pieces, rest)

theorem readPieces_letter {e c : Char} (h : escaped? e = some c) :
    readPieces ('\\' :: e :: cs) = (readPieces cs).map (prepend (.char c)) := by
  have not_code : e ≠ 'u' := by
    rintro rfl
    cases h
  rw [readPieces]
  · rw [h]
    cases readPieces cs <;> rfl
  · rintro a b c d cs' rfl
    exact absurd rfl not_code

theorem readPieces_control {c : Char} (h : c.toNat < 0x20) :
    readPieces ('\\' :: 'u' :: '0' :: '0' :: Nat.digitChar (c.toNat / 16) ::
      Nat.digitChar (c.toNat % 16) :: cs) = (readPieces cs).map (prepend (.char c)) := by
  rw [readPieces, pieceOfHex?_control h]
  cases readPieces cs <;> rfl

theorem readPieces_plain {c : Char} (quote : c ≠ '"') (backslash : c ≠ '\\')
    (printed : ¬c.toNat < 0x20) :
    readPieces (c :: cs) = (readPieces cs).map (prepend (.char c)) := by
  rw [readPieces, if_neg (not_or.2 ⟨printed, backslash⟩)]
  · cases readPieces cs <;> rfl
  · exact quote
  · intro a b c d cs' eq
    exact absurd eq backslash
  · intro c cs' eq
    exact absurd eq backslash

/-- **One character** is read back from its written form. -/
theorem readPieces_escape (c : Char) (cs : List Char) :
    readPieces (escape c ++ cs) = (readPieces cs).map (prepend (.char c)) := by
  have letter : ∀ e d, escaped? e = some d → c = d →
      readPieces (['\\', e] ++ cs) = (readPieces cs).map (prepend (.char c)) := by
    rintro e d found rfl
    exact readPieces_letter found
  unfold escape
  split
  · exact letter _ _ rfl ‹_›
  rename_i quote
  split
  · exact letter _ _ rfl ‹_›
  rename_i backslash
  iterate 5
    split
    · exact letter _ _ rfl ‹_›
  split
  · exact readPieces_control ‹_›
  · exact readPieces_plain quote backslash ‹_›

theorem readPieces_write (s : List Char) :
    readPieces (s.flatMap escape ++ '"' :: rest) = some (s.map .char, rest) := by
  induction s with
  | nil =>
    rw [List.flatMap_nil, List.nil_append, readPieces]
    rfl
  | cons c s ih =>
    rw [List.flatMap_cons, List.append_assoc, readPieces_escape, ih]
    rfl

theorem textOfPieces?_chars (s : List Char) : textOfPieces? (s.map .char) = some s := by
  induction s with
  | nil => rfl
  | cons c s ih => rw [List.map_cons, textOfPieces?, ih, Option.map_some]

/-- **A written string is read back**, whatever comes behind it. -/
theorem read?_write (s : String) :
    read? (s.toList.flatMap escape ++ '"' :: rest) = some (some s, rest) := by
  rw [read?, readPieces_write, Option.map_some]
  simp only [textOfPieces?_chars, Option.map_some, String.ofList_toList]

/-- A string with half a surrogate pair in it is read back as one without a text. -/
theorem read?_half : read? ('\\' :: 'u' :: 'd' :: '8' :: '0' :: '0' :: '"' :: rest) =
    some (none, rest) := by
  have code : pieceOfHex? 'd' '8' '0' '0' = some (.high 0xD800) := by rfl
  rw [read?, readPieces, code, readPieces]
  rfl

end JsonString

end Spreadsheet
