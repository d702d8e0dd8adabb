/-!
# JSON numbers

A number is a run of characters: a sign, digits that do not start with a zero unless they are one, a
fraction and an exponent, of which only the digits have to be there. It is kept as it was written,
since a number with a fraction or an exponent is never a count.
-/

namespace Spreadsheet.JsonNumber

/-- The whole part of a number: zero, or digits that do not start with zero. -/
def readWhole : List Char → Option (List Char × List Char)
  | '0' :: cs => some (['0'], cs)
  | cs =>
    let digits := cs.takeWhile Char.isDigit
    if digits.isEmpty then none else some (digits, cs.dropWhile Char.isDigit)

/-- At least one digit behind a mark. -/
def readTail (mark cs : List Char) : Option (List Char × List Char) :=
  let digits := cs.takeWhile Char.isDigit
  if digits.isEmpty then none else some (mark ++ digits, cs.dropWhile Char.isDigit)

/-- The fraction of a number, if it has one. -/
def readFraction : List Char → Option (List Char × List Char)
  | '.' :: cs => readTail ['.'] cs
  | cs => some ([], cs)

/-- The exponent of a number, if it has one. -/
def readExponent : List Char → Option (List Char × List Char)
  | [] => some ([], [])
  | c :: cs =>
    if c = 'e' ∨ c = 'E' then
      match cs with
      | '+' :: cs => readTail [c, '+'] cs
      | '-' :: cs => readTail [c, '-'] cs
      | cs => readTail [c] cs
    else some ([], c :: cs)

/-- The sign of a number, if it has one. -/
def readSign : List Char → List Char × List Char
  | '-' :: cs => (['-'], cs)
  | cs => ([], cs)

/-- A number and what is behind it. -/
def read? (cs : List Char) : Option (List Char × List Char) :=
  let sign := readSign cs
  match readWhole sign.2 with
  | none => none
  | some whole =>
    match readFraction whole.2 with
    | none => none
    | some fraction =>
      match readExponent fraction.2 with
      | none => none
      | some exponent => some (sign.1 ++ whole.1 ++ fraction.1 ++ exponent.1, exponent.2)

/-! ## Progress -/

theorem length_dropWhile (p : Char → Bool) (cs : List Char) :
    (cs.dropWhile p).length ≤ cs.length :=
  List.IsSuffix.length_le (List.dropWhile_suffix p)

theorem length_readTail {mark cs : List Char} {r : List Char × List Char}
    (h : readTail mark cs = some r) : r.2.length < cs.length := by
  simp only [readTail] at h
  split at h
  · cases h
  · rename_i some_digit
    cases cs with
    | nil => simp at some_digit
    | cons c cs =>
      have digit : c.isDigit = true := by
        by_cases digit : c.isDigit = true
        · exact digit
        · simp [digit] at some_digit
      simp only [Option.some.injEq] at h
      rw [← h, List.dropWhile_cons_of_pos digit]
      have := length_dropWhile Char.isDigit cs
      simp only [List.length_cons]
      omega

theorem length_readWhole {cs : List Char} {r : List Char × List Char}
    (h : readWhole cs = some r) : r.2.length < cs.length := by
  unfold readWhole at h
  split at h
  · simp only [Option.some.injEq] at h
    simp [← h]
  · have : readTail [] cs = some r := by
      simpa [readTail] using h
    exact length_readTail this

theorem length_readFraction {cs : List Char} {r : List Char × List Char}
    (h : readFraction cs = some r) : r.2.length ≤ cs.length := by
  unfold readFraction at h
  split at h
  · have := length_readTail h
    simp only [List.length_cons]
    omega
  · simp only [Option.some.injEq] at h
    simp [← h]

theorem length_readExponent {cs : List Char} {r : List Char × List Char}
    (h : readExponent cs = some r) : r.2.length ≤ cs.length := by
  unfold readExponent at h
  split at h
  · simp only [Option.some.injEq] at h
    simp [← h]
  · split at h
    · split at h <;>
      · have := length_readTail h
        simp only [List.length_cons]
        omega
    · simp only [Option.some.injEq] at h
      simp [← h]

theorem length_readSign (cs : List Char) : (readSign cs).2.length ≤ cs.length := by
  unfold readSign
  split <;> simp

theorem length_read? {cs : List Char} {r : List Char × List Char} (h : read? cs = some r) :
    r.2.length < cs.length := by
  have sign := length_readSign cs
  simp only [read?] at h
  split at h
  · cases h
  · rename_i whole_eq
    split at h
    · cases h
    · rename_i fraction_eq
      split at h
      · cases h
      · rename_i exponent_eq
        simp only [Option.some.injEq] at h
        have whole := length_readWhole whole_eq
        have fraction := length_readFraction fraction_eq
        have exponent := length_readExponent exponent_eq
        rw [← h]
        simp only
        omega

end Spreadsheet.JsonNumber
