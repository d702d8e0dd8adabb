import Mathlib
import Spreadsheet.Formula.Lexer
import Spreadsheet.Proofs.Address.Naming

/-!
# Readers of words

What each reader of the lexer takes off a text, one by one: a run of characters with a property
(`Lexer.IsRun.run_append`), a text between quotes (`Lexer.readText_append`, `Lexer.of_readText`), the
digits of a number (`Lexer.readDigits_append`), which always denote one
(`Lexer.exists_float?_of_isNumeral`), and a reference (`Lexer.readReference_append`). A reader stops
in front of a text that does not go on what it reads.
-/

namespace Spreadsheet

/-! ## Classes of characters -/

namespace Text

variable {c : Char}

theorem le_of_inRanges {n low high : Nat} {rest : List (Nat × Nat)}
    (h : inRanges n ((low, high) :: rest) = true) : low ≤ n := by
  by_contra below
  rw [inRanges, if_pos (by omega)] at h
  cases h

/-- Nothing in front of the upper-case ASCII letters is alphabetic. -/
theorem le_of_isAlphabetic (h : isAlphabetic c = true) : 65 ≤ c.toNat := le_of_inRanges h

/-- Nothing in front of the ASCII digits is numeric. -/
theorem le_of_isNumeric (h : isNumeric c = true) : 48 ≤ c.toNat := le_of_inRanges h

theorem le_of_isDigit (h : c.isDigit = true) : 48 ≤ c.toNat := (Char.isDigit_iff_toNat.1 h).1

theorem le_of_isUpper (h : c.isUpper = true) : 65 ≤ c.toNat := (Column.isUpper_iff_toNat.1 h).1

theorem not_isUpper_of_isDigit (h : c.isDigit = true) : c.isUpper = false := by
  have high : c.toNat ≤ 57 := (Char.isDigit_iff_toNat.1 h).2
  by_contra upper
  have low := le_of_isUpper (Bool.eq_true_of_not_eq_false upper)
  omega

theorem not_isDigit_of_le (h : 65 ≤ c.toNat) : c.isDigit = false := by
  by_contra digit
  have high : c.toNat ≤ 57 := (Char.isDigit_iff_toNat.1 (Bool.eq_true_of_not_eq_false digit)).2
  omega

/-- A run of digits is smaller than the power of ten of its length. -/
theorem natOfDigits_lt {ds : List Char} (digits : ∀ c ∈ ds, c.isDigit = true) :
    natOfDigits ds < 10 ^ ds.length := by
  induction ds using List.reverseRecOn with
  | nil => simp
  | append_singleton ds c ih =>
    have front := ih fun c hc => digits c (by simp [hc])
    have last := digitValue_lt (digits c (by simp))
    rw [natOfDigits_concat, List.length_append, List.length_singleton, pow_succ]
    omega

end Text

/-! ## Runs -/

namespace Lexer

variable {p : Char → Bool} {limit size : Nat} {c : Char} {cs w rest : List Char}

/-- A run of characters with a property ends where the text behind it does not go on it. -/
theorem span_append (inside : ∀ c ∈ w, p c = true) (ends : ∀ c ∈ rest.head?, p c = false) :
    (w ++ rest).takeWhile p = w ∧ (w ++ rest).dropWhile p = rest := by
  rw [List.takeWhile_append_of_pos inside, List.dropWhile_append_of_pos inside]
  cases rest with
  | nil => simp
  | cons c rest => simp [ends c rfl]

/-- A text is the run at its start and a text that does not go on it. -/
theorem head_dropWhile (p : Char → Bool) (cs : List Char) :
    ∀ c ∈ (cs.dropWhile p).head?, p c = false := by
  intro c hc
  have stops := List.head?_dropWhile_not p cs
  rw [Option.mem_def.1 hc] at stops
  exact stops

/-- The characters of `w` have a property, and the text behind them does not go on them, unless `w`
has as many characters as it may. -/
structure IsRun (p : Char → Bool) (limit : Nat) (w rest : List Char) : Prop where
  inside : ∀ c ∈ w, p c = true
  short : w.length ≤ limit
  ends : w.length < limit → ∀ c ∈ rest.head?, p c = false

theorem IsRun.run_append (h : IsRun p limit w rest) : run p limit (w ++ rest) = (w, rest) := by
  have stops : ∀ c ∈ (rest.take (limit - w.length)).head?, p c = false := by
    intro c hc
    rcases Nat.lt_or_ge w.length limit with shorter | full
    · refine h.ends shorter c ?_
      rwa [List.head?_take, if_neg (by omega)] at hc
    · rw [Nat.sub_eq_zero_of_le full] at hc
      cases hc
  have taken : ((w ++ rest).take limit).takeWhile p = w := by
    rw [List.take_append, List.take_of_length_le h.short]
    exact (span_append h.inside stops).1
  simp [run, taken]

/-- A run in front of which a character may stand is not empty. -/
theorem IsRun.ne_nil (h : IsRun p limit w rest) (pos : 0 < limit) (first : p c = true)
    (eq : c :: cs = w ++ rest) : w ≠ [] := by
  rintro rfl
  rw [List.nil_append] at eq
  have stops := h.ends pos c (by rw [← eq]; rfl)
  rw [first] at stops
  cases stops

/-- Every text starts with a run, which may have no characters. -/
theorem exists_isRun (p : Char → Bool) (limit : Nat) (cs : List Char) :
    ∃ w rest, cs = w ++ rest ∧ IsRun p limit w rest := by
  induction cs generalizing limit with
  | nil => exact ⟨[], [], rfl, by simp, by simp, by simp⟩
  | cons c cs ih =>
    by_cases first : 0 < limit ∧ p c = true
    · obtain ⟨w, rest, rfl, found⟩ := ih (limit - 1)
      refine ⟨c :: w, rest, rfl, ?_, ?_, ?_⟩
      · simpa [first.2] using found.inside
      · have short := found.short
        rw [List.length_cons]
        omega
      · intro shorter
        rw [List.length_cons] at shorter
        exact found.ends (by omega)
    · refine ⟨[], c :: cs, rfl, by simp, by simp, fun some d hd => ?_⟩
      obtain rfl : c = d := by simpa using hd
      simpa [show 0 < limit from some] using first

/-! ## Texts -/

/-- A character inside quotes. Only the quote itself is escaped. -/
def escape (c : Char) : List Char :=
  if c = '"' then ['\\', '"'] else [c]

/-- **A text is read back** from between its quotes if it does not end in a backslash. -/
theorem readText_append {s : List Char} (h : s.getLast? ≠ some '\\') :
    readText (s.flatMap escape ++ '"' :: rest) = some (s, rest) := by
  induction s with
  | nil => rfl
  | cons c s ih =>
    have tail : s.getLast? ≠ some '\\' := by
      intro last
      rw [List.getLast?_cons, last] at h
      exact h rfl
    rw [List.flatMap_cons, List.append_assoc]
    by_cases quote : c = '"'
    · subst quote
      change readText ('\\' :: '"' :: (s.flatMap escape ++ '"' :: rest)) = _
      rw [readText, ih tail]
      rfl
    · have single : escape c = [c] := if_neg quote
      rw [single, List.singleton_append, readText.eq_4, ih tail]
      · rfl
      · exact quote
      · -- a backslash is not the last character, and a quote behind it is escaped itself
        rintro more rfl next
        cases s with
        | nil => exact h rfl
        | cons d s =>
          rw [List.flatMap_cons, escape] at next
          split at next
          · cases next
          · rename_i not_quote
            exact not_quote (List.cons.inj next).1

/-- What is read as a text stands between quotes and does not end in a backslash. -/
theorem of_readText {s : List Char} (h : readText cs = some (s, rest)) :
    s.getLast? ≠ some '\\' ∧ cs = s.flatMap escape ++ '"' :: rest := by
  fun_induction readText cs generalizing s with
  | case1 => cases h
  | case2 cs =>
    cases h
    exact ⟨by simp, rfl⟩
  | case3 cs ih =>
    obtain ⟨⟨s', rest'⟩, found, eq⟩ := Option.map_eq_some_iff.1 h
    cases eq
    obtain ⟨last, rfl⟩ := ih found
    refine ⟨?_, rfl⟩
    rw [List.getLast?_cons]
    cases ends : s'.getLast? with
    | none => decide
    | some d => simpa [ends] using last
  | case4 c cs not_quote not_escape ih =>
    obtain ⟨⟨s', rest'⟩, found, eq⟩ := Option.map_eq_some_iff.1 h
    cases eq
    obtain ⟨last, rfl⟩ := ih found
    refine ⟨?_, by rw [List.flatMap_cons, escape, if_neg not_quote]; rfl⟩
    cases s' with
    | nil =>
      -- the text ends with `c`, and the closing quote behind it is not escaped
      intro backslash
      exact not_escape rest (Option.some.inj backslash) rfl
    | cons d s' => rwa [List.getLast?_cons_cons]

/-- If a text is not closed, every quote in it stands behind a backslash. -/
theorem of_readText_eq_none (h : readText cs = none) {i : Nat} (quote : cs[i]? = some '"') :
    ∃ j, i = j + 1 ∧ cs[j]? = some '\\' := by
  fun_induction readText cs generalizing i with
  | case1 => cases quote
  | case2 => cases h
  | case3 cs ih =>
    rcases i with _ | _ | i
    · cases quote
    · exact ⟨0, rfl, rfl⟩
    · obtain ⟨j, rfl, found⟩ := ih (Option.map_eq_none_iff.1 h) quote
      exact ⟨j + 2, rfl, found⟩
  | case4 c cs not_quote not_escape ih =>
    cases i with
    | zero => exact absurd (Option.some.inj quote) not_quote
    | succ i =>
      obtain ⟨j, rfl, found⟩ := ih (Option.map_eq_none_iff.1 h) quote
      exact ⟨j + 1, rfl, found⟩

/-! ## Numbers -/

/-- Digits, with a point and any number of further digits behind them if there is one. -/
inductive IsNumeral : List Char → Prop
  | whole {ds : List Char} (ne : ds ≠ []) (digits : ∀ c ∈ ds, c.isDigit = true) : IsNumeral ds
  | fraction {ds es : List Char} (ne : ds ≠ []) (digits : ∀ c ∈ ds, c.isDigit = true)
      (more : ∀ c ∈ es, c.isDigit = true) : IsNumeral (ds ++ '.' :: es)

theorem IsNumeral.exists_digit (h : IsNumeral w) : ∃ c cs, w = c :: cs ∧ c.isDigit = true := by
  cases h with
  | whole ne digits =>
    obtain ⟨c, cs, rfl⟩ := List.exists_cons_of_ne_nil ne
    exact ⟨c, cs, rfl, digits c List.mem_cons_self⟩
  | fraction ne digits more =>
    rename_i ds es
    obtain ⟨c, cs, rfl⟩ := List.exists_cons_of_ne_nil ne
    exact ⟨c, _, rfl, digits c List.mem_cons_self⟩

/-- Whether a character goes on a numeral. -/
def goesOnNumeral (w : List Char) (c : Char) : Bool :=
  c.isDigit || (c == '.' && !w.contains '.')

theorem not_mem_of_digits {ds : List Char} (digits : ∀ c ∈ ds, c.isDigit = true) : '.' ∉ ds :=
  fun point => absurd (digits '.' point) (by decide)

theorem readDigits_append (numeral : IsNumeral w)
    (ends : ∀ c ∈ rest.head?, goesOnNumeral w c = false) : readDigits (w ++ rest) = (w, rest) := by
  have no_digit : ∀ c ∈ rest.head?, c.isDigit = false := by
    intro c hc
    exact (Bool.or_eq_false_iff.1 (ends c hc)).1
  cases numeral with
  | whole ne digits =>
    obtain ⟨taken, left⟩ := span_append digits no_digit
    simp only [readDigits, taken, left]
    split
    · -- a point would go on digits without a point
      rename_i rest
      have goes_on := ends '.' rfl
      simp [goesOnNumeral, not_mem_of_digits digits] at goes_on
    · rfl
  | fraction ne digits more =>
    rename_i ds es
    have point : ∀ c ∈ ('.' :: (es ++ rest)).head?, c.isDigit = false := by
      intro c hc
      obtain rfl : '.' = c := by simpa using hc
      rfl
    obtain ⟨taken, left⟩ := span_append digits point
    obtain ⟨taken', left'⟩ := span_append more no_digit
    rw [List.append_assoc, List.cons_append]
    simp only [readDigits, taken, left, taken', left']

/-- What is read as a number is a numeral, and what is behind it does not go on it. -/
theorem isNumeral_readDigits (digit : c.isDigit = true) (cs : List Char) : ∃ w rest,
    c :: cs = w ++ rest ∧ IsNumeral w ∧ ∀ d ∈ rest.head?, goesOnNumeral w d = false := by
  have parts := (c :: cs).takeWhile_append_dropWhile (p := Char.isDigit)
  have ne : (c :: cs).takeWhile Char.isDigit ≠ [] := by simp [digit]
  have digits : ∀ d ∈ (c :: cs).takeWhile Char.isDigit, d.isDigit = true :=
    fun d hd => List.mem_takeWhile_imp hd
  have ends := head_dropWhile Char.isDigit (c :: cs)
  generalize (c :: cs).takeWhile Char.isDigit = ds at parts ne digits
  cases left : (c :: cs).dropWhile Char.isDigit with
  | nil =>
    rw [left] at parts
    exact ⟨ds, [], parts.symm, .whole ne digits, by simp⟩
  | cons d rest =>
    rw [left] at parts ends
    by_cases point : d = '.'
    · subst point
      refine ⟨ds ++ '.' :: rest.takeWhile Char.isDigit, rest.dropWhile Char.isDigit, ?_,
        .fraction ne digits fun _ => List.mem_takeWhile_imp, fun d hd => ?_⟩
      · rw [← parts, List.append_assoc, List.cons_append, List.takeWhile_append_dropWhile]
      · simp [goesOnNumeral, head_dropWhile Char.isDigit rest d hd]
    · refine ⟨ds, d :: rest, parts.symm, .whole ne digits, fun d' hd => ?_⟩
      obtain rfl : d = d' := by simpa using hd
      simp [goesOnNumeral, ends d rfl, point]

/-- **Every numeral denotes a number.** -/
theorem exists_float?_of_isNumeral (numeral : IsNumeral w) : ∃ x, Decimal.float? w = some x := by
  have parsed : ∃ n, Decimal.Numeral.ofChars? w = some n := by
    cases numeral with
    | whole ne digits =>
      have taken : w.takeWhile Char.isDigit = w := List.takeWhile_eq_self_iff.2 digits
      have left : w.dropWhile Char.isDigit = [] := List.dropWhile_eq_nil_iff.2 digits
      simp [Decimal.Numeral.ofChars?, taken, left, Decimal.Numeral.splitFraction, ne]
    | fraction ne digits more =>
      rename_i ds es
      have point : ∀ c ∈ ('.' :: es).head?, c.isDigit = false := by
        intro c hc
        obtain rfl : '.' = c := by simpa using hc
        rfl
      obtain ⟨taken, left⟩ := span_append digits point
      have taken' : es.takeWhile Char.isDigit = es := List.takeWhile_eq_self_iff.2 more
      have left' : es.dropWhile Char.isDigit = [] := List.dropWhile_eq_nil_iff.2 more
      simp [Decimal.Numeral.ofChars?, taken, left, Decimal.Numeral.splitFraction, taken', left', ne]
  obtain ⟨n, parsed⟩ := parsed
  obtain ⟨c, cs, rfl, digit⟩ := numeral.exists_digit
  -- a text that starts with a digit has no sign and is none of the words for special numbers
  have unsigned : Decimal.float? (c :: cs) = Decimal.unsigned? false (c :: cs) := by
    have minus : c ≠ '-' := by
      rintro rfl
      cases digit
    have plus : c ≠ '+' := by
      rintro rfl
      cases digit
    simp [Decimal.float?, minus, plus]
  have lower : c.toLower = c :=
    Char.toLower_eq_of_not_isUpper (by simp [Text.not_isUpper_of_isDigit digit])
  have no_word : ∀ d ds, d.isDigit = false →
      String.ofList ((c :: cs).map Char.toLower) ≠ String.ofList (d :: ds) := by
    intro d ds letter eq
    rw [List.map_cons, lower] at eq
    obtain rfl := (List.cons.inj (String.ofList_injective eq)).1
    rw [digit] at letter
    cases letter
  refine ⟨n.toFloat false, ?_⟩
  rw [unsigned, Decimal.unsigned?, if_neg, if_neg, parsed, Option.map_some]
  · exact no_word 'n' ['a', 'n'] rfl
  · exact not_or.2 ⟨no_word 'i' ['n', 'f'] rfl, no_word 'i' ['n', 'f', 'i', 'n', 'i', 't', 'y'] rfl⟩

/-! ## References -/

/-- Whether a character goes on a reference. -/
def goesOnReference (c : Char) : Bool := Text.isAlphabetic c || Text.isNumeric c

/-- The greatest column number that a reference may have is the one of `ZZZZZZ`. -/
theorem value_le_of_short {letters : List Char} (upper : ∀ c ∈ letters, c.isUpper = true)
    (short : letters.length ≤ columnLettersLimit) : Column.value letters ≤ 321272406 := by
  have greatest : Column.greatest columnLettersLimit = 321272406 := rfl
  rwa [← greatest, ← Column.length_letters_le_iff, Column.letters_value upper]

theorem number?_of_short {letters : List Char} (ne : letters ≠ [])
    (upper : ∀ c ∈ letters, c.isUpper = true) (short : letters.length ≤ columnLettersLimit) :
    Column.number? letters = some (Column.value letters - 1 + 1) := by
  have pos := Column.value_pos ne upper
  have bound := value_le_of_short upper short
  have limit : 321272406 < Text.wordLimit := by decide
  exact Column.number?_eq_some_iff.2 ⟨ne, upper, by omega, by omega⟩

theorem natOfDigits_lt_of_short {digits : List Char} (all : ∀ c ∈ digits, c.isDigit = true)
    (short : digits.length ≤ rowDigitsLimit) : Text.natOfDigits digits < 10 ^ 8 :=
  Nat.lt_of_lt_of_le (Text.natOfDigits_lt all) (Nat.pow_le_pow_right (by omega) short)

/-- **A reference is read** from its letters and digits: it has to end there, and its row number has
to be at least one. -/
theorem readReference_append {letters digits : List Char} (ne : letters ≠ [])
    (column : IsRun Char.isUpper columnLettersLimit letters (digits ++ rest))
    (row : IsRun Char.isDigit rowDigitsLimit digits rest) :
    readReference size (letters ++ (digits ++ rest)) =
      match rest.head?.filter goesOnReference with
      | some c => .error (.invalidCellReference
          ("unexpected symbol " ++ c.toString ++ " at position " ++ toString (position size rest)))
      | none =>
        if Text.natOfDigits digits = 0 then .error (.invalidCellReference
          ("no row number of at least 1 in " ++ String.ofList letters ++ String.ofList digits ++
            " at position " ++ toString (position size (letters ++ (digits ++ rest)))))
        else .ok (.reference ⟨Text.natOfDigits digits - 1, Column.value letters - 1⟩, rest) := by
  have small := natOfDigits_lt_of_short row.inside row.short
  have limit : 10 ^ 8 < Text.wordLimit := by decide
  simp only [readReference, column.run_append, row.run_append]
  change (match rest.head?.filter goesOnReference with | some c => _ | none => _) = _
  cases rest.head?.filter goesOnReference with
  | some c => rfl
  | none =>
    dsimp only
    by_cases zero : Text.natOfDigits digits = 0
    · rw [if_pos zero]
      split
      · -- a row number of zero is not the successor of a number
        rename_i r found
        have eq := (Text.wordOfDigits?_eq_some_iff.1 found).2.2.1
        omega
      · rfl
    · have some_digit : digits ≠ [] := by
        rintro rfl
        exact zero rfl
      have found : Text.wordOfDigits? digits = some (Text.natOfDigits digits - 1 + 1) :=
        Text.wordOfDigits?_eq_some_iff.2 ⟨some_digit, row.inside, by omega, by omega⟩
      rw [if_neg zero, found, number?_of_short ne column.inside column.short]

end Lexer

end Spreadsheet
