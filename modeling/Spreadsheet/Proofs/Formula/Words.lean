import Mathlib
import Spreadsheet.Proofs.Formula.Readers

/-!
# Words of a formula

What a word of a formula is and where it ends, apart from how it is read. `Lexer.Word` relates a
token to the texts that spell it, `Lexer.Ends` says that the text behind a word does not go on it,
and `Lexer.Fault` that no word can be read. At each place of a formula there is a blank, a word that
ends there or a fault, and `next` finds it (`Lexer.next_cases`); in front of a text that does not go
on it, every word is read (`Lexer.next_word`).

`Lexer.Reads` puts words and blanks one behind the other, up to some place of a text. What is read
up to there stays the same if the text is cut off behind it (`Lexer.Reads.cut`), and `words` reads
just that and goes on (`Lexer.words_append`). A text is read to its end or up to the first fault
(`Lexer.words_cases`).
-/

namespace Spreadsheet.Lexer

variable {size : Nat} {c : Char} {cs w rest : List Char}

/-! ## Words -/

/-- A token is spelled by a text. -/
inductive Word : Token → List Char → Prop
  | symbol {t : Token} {c : Char} (is : Token.ofSymbol? c = some t) : Word t [c]
  | text {s : List Char} (closed : s.getLast? ≠ some '\\') :
      Word (.text (String.ofList s)) ('"' :: (s.flatMap escape ++ ['"']))
  | number {x : Float} {w : List Char} (numeral : IsNumeral w) (value : Decimal.float? w = some x) :
      Word (.number x) w
  | reference {letters digits : List Char} (ne : letters ≠ [])
      (upper : ∀ c ∈ letters, c.isUpper = true) (column : letters.length ≤ columnLettersLimit)
      (all : ∀ c ∈ digits, c.isDigit = true) (row : digits.length ≤ rowDigitsLimit)
      (pos : Text.natOfDigits digits ≠ 0) :
      Word (.reference ⟨Text.natOfDigits digits - 1, Column.value letters - 1⟩) (letters ++ digits)
  | name {w : List Char} (ne : w ≠ []) (alphabetic : ∀ c ∈ w, Text.isAlphabetic c = true)
      (first : ∀ c ∈ w.head?, c.isUpper = false) : Word (.name (String.ofList w)) w

/-- Whether a character goes on a word. -/
def goesOn : Token → List Char → Char → Bool
  | .number _, w, c => goesOnNumeral w c
  | .reference _, _, c => goesOnReference c
  | .name _, _, c => Text.isAlphabetic c
  | _, _, _ => false

/-- The text behind a word does not go on it. -/
def Ends (t : Token) (w rest : List Char) : Prop := ∀ c ∈ rest.head?, goesOn t w c = false

/-- Whether a word or a blank can start with a character. -/
def starts (c : Char) : Bool :=
  isGap c || (Token.ofSymbol? c).isSome || c == '"' || c.isDigit || Text.isAlphabetic c

/-- Letters and digits that are no reference, and the reason that is given. The first is a character
that goes on the reference, where the digits end or are as many as there may be; else there is no
row number of at least one. -/
inductive BadReference (p : Nat) : List Char → String → Prop
  | goesOn {letters digits rest : List Char} {c : Char} (ne : letters ≠ [])
      (column : IsRun Char.isUpper columnLettersLimit letters (digits ++ c :: rest))
      (row : IsRun Char.isDigit rowDigitsLimit digits (c :: rest))
      (more : goesOnReference c = true) :
      BadReference p (letters ++ (digits ++ c :: rest)) ("unexpected symbol " ++ c.toString ++
        " at position " ++ toString (p + letters.length + digits.length))
  | noRow {letters digits rest : List Char} (ne : letters ≠ [])
      (column : IsRun Char.isUpper columnLettersLimit letters (digits ++ rest))
      (row : IsRun Char.isDigit rowDigitsLimit digits rest)
      (ends : ∀ c ∈ rest.head?, goesOnReference c = false) (zero : Text.natOfDigits digits = 0) :
      BadReference p (letters ++ (digits ++ rest)) ("no row number of at least 1 in " ++
        String.ofList letters ++ String.ofList digits ++ " at position " ++ toString p)

/-- No word can be read at position `p`, and the error for it. -/
inductive Fault (p : Nat) : List Char → FormulaError → Prop
  | symbol {c : Char} {cs : List Char} (foreign : starts c = false) :
      Fault p (c :: cs) (.invalidSymbol c p)
  | text {cs : List Char}
      (unclosed : ∀ i, cs[i]? = some '"' → ∃ j, i = j + 1 ∧ cs[j]? = some '\\') :
      Fault p ('"' :: cs) (.nonTerminatedString p)
  | reference {cs : List Char} {reason : String} (bad : BadReference p cs reason) :
      Fault p cs (.invalidCellReference reason)

variable {t : Token}

theorem Word.ne_nil (h : Word t w) : w ≠ [] := by
  cases h with
  | symbol => simp
  | text => simp
  | number numeral =>
    obtain ⟨c, cs, rfl, -⟩ := numeral.exists_digit
    simp
  | reference ne => simp [ne]
  | name ne => exact ne

/-! ## The first character of a word -/

theorem mem_symbols (h : Token.ofSymbol? c = some t) : c ∈ ['+', '-', '*', '/', '(', ')', ','] := by
  unfold Token.ofSymbol? at h
  split at h <;> simp_all

theorem mem_gaps (h : isGap c = true) : c ∈ [' ', '\t', '\n'] := by
  simpa [isGap, or_assoc] using h

theorem not_isGap_of_symbol (h : Token.ofSymbol? c = some t) : isGap c = false := by
  have all : ∀ d ∈ ['+', '-', '*', '/', '(', ')', ','], isGap d = false := by simp [isGap]
  exact all c (mem_symbols h)

theorem goesOn_of_symbol {d : Char} (h : Token.ofSymbol? c = some t) : goesOn t w d = false := by
  unfold Token.ofSymbol? at h
  split at h <;> cases h <;> rfl

/-- Blanks, symbols and the quote stand in front of the digits and the letters. -/
theorem plain_of_le (h : 48 ≤ c.toNat) :
    isGap c = false ∧ Token.ofSymbol? c = none ∧ c ≠ '"' := by
  refine ⟨?_, ?_, ?_⟩
  · by_contra gap
    have all : ∀ d ∈ [' ', '\t', '\n'], d.toNat < 48 := by simp
    exact Nat.not_lt.2 h (all c (mem_gaps (Bool.eq_true_of_not_eq_false gap)))
  · by_contra symbol
    obtain ⟨t, symbol⟩ := Option.ne_none_iff_exists'.1 symbol
    have all : ∀ d ∈ ['+', '-', '*', '/', '(', ')', ','], d.toNat < 48 := by simp
    exact Nat.not_lt.2 h (all c (mem_symbols symbol))
  · rintro rfl
    exact absurd h (by decide)

/-- Blanks, symbols and the quote go on no word. -/
theorem goesOn_of_not_plain (h : isGap c = true ∨ Token.ofSymbol? c ≠ none ∨ c = '"') :
    goesOn t w c = false := by
  have front : c.toNat < 48 := by
    by_contra behind
    obtain ⟨gap, symbol, quote⟩ := plain_of_le (Nat.not_lt.1 behind)
    simp [gap, symbol, quote] at h
  have not_point : c ≠ '.' := by
    rintro rfl
    revert h
    decide
  have absent : ∀ q : Char → Bool, (q c = true → 48 ≤ c.toNat) → q c = false := by
    intro q low
    by_contra holds
    exact Nat.not_le.2 front (low (Bool.eq_true_of_not_eq_false holds))
  have not_digit := absent Char.isDigit Text.le_of_isDigit
  have not_numeric := absent Text.isNumeric Text.le_of_isNumeric
  have not_alphabetic := absent Text.isAlphabetic fun alphabetic => by
    have low := Text.le_of_isAlphabetic alphabetic
    omega
  cases t <;>
    simp [goesOn, goesOnNumeral, goesOnReference, not_point, not_digit, not_alphabetic, not_numeric]

theorem next_gap (gap : isGap c = true) : next size c cs = .ok (none, cs) := by
  rw [next, if_pos gap]

theorem next_symbol (symbol : Token.ofSymbol? c = some t) : next size c cs = .ok (some t, cs) := by
  rw [next, if_neg (by simp [not_isGap_of_symbol symbol]), symbol]

theorem next_quote : next size '"' cs = match readText cs with
    | some (s, rest) => .ok (some (.text (String.ofList s)), rest)
    | none => .error (.nonTerminatedString (position size ('"' :: cs))) := rfl

theorem next_digit (digit : c.isDigit = true) : next size c cs =
    (readNumber (c :: cs)).map fun (token, rest) => (some token, rest) := by
  obtain ⟨gap, symbol, quote⟩ := plain_of_le (Text.le_of_isDigit digit)
  rw [next, if_neg (by simp [gap]), symbol]
  dsimp only
  rw [if_neg quote, if_pos digit]

theorem next_upper (upper : c.isUpper = true) : next size c cs =
    (readReference size (c :: cs)).map fun (token, rest) => (some token, rest) := by
  have low := Text.le_of_isUpper upper
  obtain ⟨gap, symbol, quote⟩ := plain_of_le (by omega : 48 ≤ c.toNat)
  rw [next, if_neg (by simp [gap]), symbol]
  dsimp only
  rw [if_neg quote, if_neg (by simp [Text.not_isDigit_of_le low]), if_pos upper]

theorem next_alphabetic (alphabetic : Text.isAlphabetic c = true) (lower : c.isUpper = false) :
    next size c cs = .ok (some (.name (String.ofList ((c :: cs).takeWhile Text.isAlphabetic))),
      (c :: cs).dropWhile Text.isAlphabetic) := by
  have low := Text.le_of_isAlphabetic alphabetic
  obtain ⟨gap, symbol, quote⟩ := plain_of_le (by omega : 48 ≤ c.toNat)
  rw [next, if_neg (by simp [gap]), symbol]
  dsimp only
  rw [if_neg quote, if_neg (by simp [Text.not_isDigit_of_le low]), if_neg (by simp [lower]),
    if_pos alphabetic, List.takeWhile_cons_of_pos alphabetic, List.dropWhile_cons_of_pos alphabetic]

theorem next_foreign (foreign : starts c = false) :
    next size c cs = .error (.invalidSymbol c (position size (c :: cs))) := by
  simp only [starts, Bool.or_eq_false_iff, Option.isSome_eq_false_iff, Option.isNone_iff_eq_none,
    beq_eq_false_iff_ne] at foreign
  obtain ⟨⟨⟨⟨gap, symbol⟩, quote⟩, digit⟩, alphabetic⟩ := foreign
  have upper : ¬c.isUpper = true := by
    intro upper
    rw [Text.isAlphabetic_of_isUpper upper] at alphabetic
    cases alphabetic
  rw [next, if_neg (by simp [gap]), symbol]
  dsimp only
  rw [if_neg quote, if_neg (by simp [digit]), if_neg upper, if_neg (by simp [alphabetic])]

/-! ## Reading a word -/

/-- **A word is read** in front of a text that does not go on it. -/
theorem next_word (word : Word t w) (ends : Ends t w rest) (eq : w ++ rest = c :: cs) :
    next size c cs = .ok (some t, rest) := by
  cases word with
  | symbol symbol =>
    obtain ⟨rfl, rfl⟩ := List.cons.inj eq
    exact next_symbol symbol
  | text closed =>
    rename_i s
    rw [List.cons_append, List.append_assoc, List.singleton_append] at eq
    obtain ⟨rfl, rfl⟩ := List.cons.inj eq
    rw [next_quote, readText_append closed]
  | number numeral value =>
    obtain ⟨d, ds, rfl, digit⟩ := numeral.exists_digit
    rw [List.cons_append] at eq
    obtain ⟨rfl, rfl⟩ := List.cons.inj eq
    rw [next_digit digit, ← List.cons_append, readNumber, readDigits_append numeral ends]
    simp only [value]
    rfl
  | reference ne upper column all row pos =>
    rename_i letters digits
    have some_digit : digits ≠ [] := by
      rintro rfl
      exact pos rfl
    obtain ⟨d, ds, rfl⟩ := List.exists_cons_of_ne_nil ne
    obtain ⟨e, es, rfl⟩ := List.exists_cons_of_ne_nil some_digit
    have column : IsRun Char.isUpper columnLettersLimit (d :: ds) (e :: es ++ rest) := by
      refine ⟨upper, column, fun _ c hc => ?_⟩
      obtain rfl : e = c := by simpa using hc
      exact Text.not_isUpper_of_isDigit (all e List.mem_cons_self)
    have row : IsRun Char.isDigit rowDigitsLimit (e :: es) rest := by
      refine ⟨all, row, fun _ c hc => ?_⟩
      by_contra digit
      have more := Text.isNumeric_of_isDigit (Bool.eq_true_of_not_eq_false digit)
      have ended : goesOnReference c = false := ends c hc
      simp [goesOnReference, more] at ended
    have stops : rest.head?.filter goesOnReference = none := by
      refine Option.filter_eq_none_iff.2 fun c hc => ?_
      have ended : goesOnReference c = false := ends c hc
      simp [ended]
    rw [List.append_assoc, List.cons_append] at eq
    obtain ⟨rfl, rfl⟩ := List.cons.inj eq
    rw [next_upper (upper d List.mem_cons_self), ← List.cons_append, readReference_append ne column row,
      stops]
    dsimp only
    rw [if_neg pos]
    rfl
  | name ne alphabetic first =>
    obtain ⟨taken, left⟩ := span_append alphabetic ends
    obtain ⟨d, ds, rfl⟩ := List.exists_cons_of_ne_nil ne
    rw [List.cons_append] at eq
    obtain ⟨rfl, rfl⟩ := List.cons.inj eq
    rw [next_alphabetic (alphabetic d List.mem_cons_self) (first d rfl), ← List.cons_append, taken,
      left]

/-- A quote in front of a text that is closed is a word, and else a fault. -/
theorem next_quote_cases (size : Nat) (cs : List Char) :
    (∃ t w rest, Word t w ∧ Ends t w rest ∧ '"' :: cs = w ++ rest ∧
      next size '"' cs = .ok (some t, rest)) ∨
    ∃ e, Fault (position size ('"' :: cs)) ('"' :: cs) e ∧ next size '"' cs = .error e := by
  cases read : readText cs with
  | none =>
    refine Or.inr ⟨_, .text fun i => of_readText_eq_none read, ?_⟩
    rw [next_quote, read]
  | some found =>
    obtain ⟨s, rest⟩ := found
    obtain ⟨closed, rfl⟩ := of_readText read
    refine Or.inl ⟨_, _, rest, .text closed, fun _ _ => rfl, by simp, ?_⟩
    rw [next_quote, read]

/-- Letters are a reference with the digits behind them, or a fault. -/
theorem next_upper_cases (upper : c.isUpper = true) (fits : (c :: cs).length ≤ size) :
    (∃ t w rest, Word t w ∧ Ends t w rest ∧ c :: cs = w ++ rest ∧
      next size c cs = .ok (some t, rest)) ∨
    ∃ e, Fault (position size (c :: cs)) (c :: cs) e ∧ next size c cs = .error e := by
  obtain ⟨letters, behind, eq, column⟩ := exists_isRun Char.isUpper columnLettersLimit (c :: cs)
  obtain ⟨digits, rest, rfl, row⟩ := exists_isRun Char.isDigit rowDigitsLimit behind
  have ne : letters ≠ [] := column.ne_nil (by decide) upper eq
  rw [next_upper upper, eq, readReference_append ne column row]
  rw [eq, List.length_append, List.length_append] at fits
  cases stops : rest.head?.filter goesOnReference with
  | some d =>
    obtain ⟨head, more⟩ := Option.filter_eq_some_iff.1 stops
    obtain ⟨rest, rfl⟩ : ∃ rest', rest = d :: rest' := by
      cases rest with
      | nil => cases head
      | cons e rest => exact ⟨rest, by rw [Option.some.inj head]⟩
    refine Or.inr ⟨_, .reference (.goesOn ne column row more), ?_⟩
    have place : position size (d :: rest) =
        position size (letters ++ (digits ++ d :: rest)) + letters.length + digits.length := by
      simp only [position, List.length_append]
      omega
    rw [place]
    rfl
  | none =>
    have ends : ∀ d ∈ rest.head?, goesOnReference d = false := by
      intro d hd
      simpa using Option.filter_eq_none_iff.1 stops d hd
    by_cases zero : Text.natOfDigits digits = 0
    · refine Or.inr ⟨_, .reference (.noRow ne column row ends zero), ?_⟩
      dsimp only
      rw [if_pos zero]
      rfl
    · refine Or.inl ⟨_, letters ++ digits, rest,
        .reference ne column.inside column.short row.inside row.short zero, ends, by simp, ?_⟩
      dsimp only
      rw [if_neg zero]
      rfl

/-- **At each place of a formula** there is a blank, a word that ends where the next one is read, or
a fault. -/
theorem next_cases (fits : (c :: cs).length ≤ size) :
    (isGap c = true ∧ next size c cs = .ok (none, cs)) ∨
    (∃ t w rest, Word t w ∧ Ends t w rest ∧ c :: cs = w ++ rest ∧
      next size c cs = .ok (some t, rest)) ∨
    ∃ e, Fault (position size (c :: cs)) (c :: cs) e ∧ next size c cs = .error e := by
  by_cases gap : isGap c = true
  · exact Or.inl ⟨gap, next_gap gap⟩
  refine Or.inr ?_
  cases symbol : Token.ofSymbol? c with
  | some t =>
    exact Or.inl ⟨t, [c], cs, .symbol symbol, fun d _ => goesOn_of_symbol symbol, rfl,
      next_symbol symbol⟩
  | none =>
    by_cases quote : c = '"'
    · rw [quote]
      exact next_quote_cases size cs
    by_cases digit : c.isDigit = true
    · obtain ⟨w, rest, eq, numeral, ends⟩ := isNumeral_readDigits digit cs
      obtain ⟨x, value⟩ := exists_float?_of_isNumeral numeral
      have word : Word (.number x) w := .number numeral value
      exact Or.inl ⟨_, w, rest, word, ends, eq, next_word word ends eq.symm⟩
    by_cases upper : c.isUpper = true
    · exact next_upper_cases upper fits
    by_cases alphabetic : Text.isAlphabetic c = true
    · have first : ∀ d ∈ ((c :: cs).takeWhile Text.isAlphabetic).head?, d.isUpper = false := by
        intro d hd
        rw [List.takeWhile_cons_of_pos alphabetic] at hd
        obtain rfl : c = d := by simpa using hd
        simpa using upper
      have word : Word (.name (String.ofList ((c :: cs).takeWhile Text.isAlphabetic)))
          ((c :: cs).takeWhile Text.isAlphabetic) :=
        .name (by simp [alphabetic]) (fun _ => List.mem_takeWhile_imp) first
      exact Or.inl ⟨_, _, (c :: cs).dropWhile Text.isAlphabetic, word,
        head_dropWhile Text.isAlphabetic (c :: cs), List.takeWhile_append_dropWhile.symm,
        next_alphabetic alphabetic (by simpa using upper)⟩
    · have foreign : starts c = false := by
        simp [starts, gap, symbol, quote, digit, alphabetic]
      exact Or.inr ⟨_, .symbol foreign, next_foreign foreign⟩

/-! ## Reading a text -/

theorem words_of_ok {token : Option Token} (h : next size c cs = .ok (token, rest)) :
    words size (c :: cs) = (words size rest).map (token.toList ++ ·) := by
  rw [words]
  split
  · rename_i found
    cases h.symm.trans found
  · rename_i found
    cases h.symm.trans found
    split <;> rename_i read <;> rw [read] <;> rfl

theorem words_of_error {e : FormulaError} (h : next size c cs = .error e) :
    words size (c :: cs) = .error e := by
  rw [words]
  split
  · rename_i found
    cases h.symm.trans found
    rfl
  · rename_i found
    cases h.symm.trans found

/-- A text consists of words, each of which ends where the next one or a blank starts, and of
blanks. The words in front of `rest` are `ts`. -/
inductive Reads : List Char → List Token → List Char → Prop
  | nil {rest : List Char} : Reads [] [] rest
  | gap {c : Char} {cs rest : List Char} {ts : List Token} (gap : isGap c = true)
      (more : Reads cs ts rest) : Reads (c :: cs) ts rest
  | word {t : Token} {w cs rest : List Char} {ts : List Token} (word : Word t w)
      (ends : Ends t w (cs ++ rest)) (more : Reads cs ts rest) : Reads (w ++ cs) (t :: ts) rest

variable {ts : List Token}

/-- **The words in front of a place** are the same if the text is cut off there. -/
theorem Reads.cut (h : Reads cs ts rest) : Reads cs ts [] := by
  induction h with
  | nil => exact .nil
  | gap gap _ ih => exact .gap gap ih
  | @word t w cs rest ts word ends more ih =>
    refine .word word (fun c hc => ends c ?_) ih
    rw [List.append_nil] at hc
    cases cs with
    | nil => cases hc
    | cons d cs => exact hc

/-- Every token that is read is spelled by some text. -/
theorem Reads.exists_word (h : Reads cs ts rest) : ∀ t ∈ ts, ∃ w, Word t w := by
  induction h with
  | nil => simp
  | gap _ _ ih => exact ih
  | word word _ _ ih =>
    intro t ht
    rcases List.mem_cons.1 ht with rfl | ht
    · exact ⟨_, word⟩
    · exact ih t ht

/-- **All words in front of a place are read**, and the reading goes on there. -/
theorem words_append (h : Reads cs ts rest) :
    words size (cs ++ rest) = (words size rest).map (ts ++ ·) := by
  induction h with
  | @nil rest =>
    rw [List.nil_append]
    cases words size rest <;> rfl
  | @gap c cs rest ts gap _ ih =>
    rw [List.cons_append, words_of_ok (next_gap gap), ih]
    cases words size rest <;> rfl
  | @word t w cs rest ts word ends _ ih =>
    obtain ⟨c, w, rfl⟩ := List.exists_cons_of_ne_nil word.ne_nil
    have eq : c :: w ++ (cs ++ rest) = c :: (w ++ (cs ++ rest)) := List.cons_append
    rw [List.append_assoc, eq, words_of_ok (next_word word ends eq), ih]
    cases words size rest <;> rfl

theorem words_of_reads (h : Reads cs ts []) : words size cs = .ok ts := by
  have all : words size (cs ++ []) = _ := words_append h
  rw [List.append_nil] at all
  rw [all, words]
  simp [Except.map]

/-- **A text is read to its end** or up to the first fault. -/
theorem words_cases (fits : cs.length ≤ size) :
    (∃ ts, Reads cs ts [] ∧ words size cs = .ok ts) ∨
    ∃ front ts rest e, cs = front ++ rest ∧ Reads front ts rest ∧ Fault (position size rest) rest e ∧
      words size cs = .error e := by
  induction hn : cs.length using Nat.strongRecOn generalizing cs with
  | ind n ih =>
    subst hn
    cases cs with
    | nil => exact Or.inl ⟨[], .nil, by rw [words]⟩
    | cons c cs =>
      rcases next_cases fits with ⟨gap, read⟩ | ⟨t, w, rest, word, ends, eq, read⟩ |
        ⟨e, fault, read⟩
      · have shorter : cs.length < (c :: cs).length := Nat.lt_succ_self _
        rcases ih cs.length shorter (by omega) rfl with ⟨ts, reads, all⟩ |
          ⟨front, ts, rest, e, rfl, reads, fault, failed⟩
        · refine Or.inl ⟨ts, .gap gap reads, ?_⟩
          rw [words_of_ok read, all]
          rfl
        · refine Or.inr ⟨c :: front, ts, rest, e, rfl, .gap gap reads, fault, ?_⟩
          rw [words_of_ok read, failed]
          rfl
      · have some_char : w.length ≠ 0 := fun none => word.ne_nil (List.length_eq_zero_iff.1 none)
        have parts : (c :: cs).length = w.length + rest.length := by rw [eq, List.length_append]
        rcases ih rest.length (by omega) (by omega) rfl with ⟨ts, reads, all⟩ |
          ⟨front, ts, rest', e, rfl, reads, fault, failed⟩
        · refine Or.inl ⟨t :: ts, ?_, ?_⟩
          · rw [eq]
            exact .word word (by rwa [List.append_nil]) reads
          · rw [words_of_ok read, all]
            rfl
        · refine Or.inr ⟨w ++ front, t :: ts, rest', e, ?_, .word word ends reads, fault, ?_⟩
          · rw [eq, List.append_assoc]
          · rw [words_of_ok read, failed]
            rfl
      · exact Or.inr ⟨[], [], c :: cs, e, rfl, .nil, fault, words_of_error read⟩

end Spreadsheet.Lexer
