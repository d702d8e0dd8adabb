import Mathlib
import Spreadsheet.Proofs.Formula.Faults
import Spreadsheet.Sheet.Bounds

/-!
# References and names of addresses

A reference of a formula is written as the name of an address, and a name is also read on its own,
in either case of letters and with any number of them. The two readers agree: a formula that is one
reference is a name of the same address (`ofName?_of_reference`), and the name of an address with at
most six letters and eight digits is a reference to it (`tokenize_name`). No other address is ever
referred to, and every cell of a sheet is one of them. Main statement: `references_named`.
-/

namespace Spreadsheet

open Lexer

/-! ## Blanks around a word -/

namespace Text

variable {front w behind : List Char}

theorem trimEnd_append (blank : ∀ c ∈ behind, isBlank c = true) (w : List Char) :
    trimEnd (w ++ behind) = trimEnd w := by
  have reversed : ∀ c ∈ behind.reverse, isBlank c = true :=
    fun c hc => blank c (List.mem_reverse.1 hc)
  rw [trimEnd, List.reverse_append, List.dropWhile_append_of_pos reversed, trimEnd]

/-- A word is what is left of it with blanks around it. -/
theorem trim_append (before : ∀ c ∈ front, isBlank c = true)
    (after : ∀ c ∈ behind, isBlank c = true) (ne : w ≠ []) (solid : ∀ c ∈ w, isBlank c = false) :
    trim (front ++ (w ++ behind)) = w := by
  obtain ⟨c, w, rfl⟩ := List.exists_cons_of_ne_nil ne
  have first : isBlank c = false := solid c List.mem_cons_self
  have stays : (c :: w ++ behind).dropWhile isBlank = c :: w ++ behind := by
    rw [List.cons_append, List.dropWhile_cons_of_neg (by simp [first])]
  have alone : trim (c :: w) = trimEnd (c :: w) := by
    rw [trim, List.dropWhile_cons_of_neg (by simp [first])]
  rw [trim, List.dropWhile_append_of_pos before, stays, trimEnd_append after, ← alone,
    trim_of_not_blank solid]

end Text

namespace Lexer

variable {c : Char} {cs w rest : List Char} {t : Token}

theorem isBlank_of_isGap (h : isGap c = true) : Text.isBlank c = true := by
  have all : ∀ d ∈ [' ', '\t', '\n'], Text.isBlank d = true := by simp [Text.isBlank]
  exact all c (mem_gaps h)

/-- Where no word is read there are only blanks. -/
theorem Reads.isGap_of_nil (h : Reads cs [] rest) : ∀ c ∈ cs, isGap c = true := by
  generalize none_read : ([] : List Token) = ts at h
  induction h with
  | nil => simp
  | gap gap _ ih => simpa [gap] using ih none_read
  | word => cases none_read

/-- Where one word is read there is that word with blanks around it. -/
theorem Reads.exists_word_of_singleton (h : Reads cs [t] rest) : ∃ front w behind,
    cs = front ++ (w ++ behind) ∧ Word t w ∧
      (∀ c ∈ front, isGap c = true) ∧ ∀ c ∈ behind, isGap c = true := by
  generalize one_read : [t] = ts at h
  induction h with
  | nil => cases one_read
  | @gap c cs rest ts gap _ ih =>
    obtain ⟨front, w, behind, rfl, word, before, after⟩ := ih one_read
    exact ⟨c :: front, w, behind, rfl, word, by simpa [gap] using before, after⟩
  | @word t' w cs rest ts word _ more =>
    cases one_read
    exact ⟨[], w, cs, rfl, word, by simp, more.isGap_of_nil⟩

/-! ## References -/

theorem ofSymbol?_ne_reference {a : Address} : Token.ofSymbol? c ≠ some (.reference a) := by
  intro is
  unfold Token.ofSymbol? at is
  split at is <;> cases is

/-- The letters and digits that spell a reference are a name, blanks around them aside. -/
theorem Word.exists_isName {a : Address} {s : String} (word : Word (.reference a) w)
    (text : Text.trim s.toList = w) : ∃ letters digits, Address.IsName s letters digits ∧
      a = ⟨Text.natOfDigits digits - 1, Column.worth (letters.map Char.toUpper) - 1⟩ := by
  cases word with
  | symbol is => exact absurd is ofSymbol?_ne_reference
  | @reference letters digits ne upper column all row pos =>
    have same : letters.map Char.toUpper = letters := by
      rw [← Column.letters_value upper, Address.map_toUpper_letters]
    have some_digit : digits ≠ [] := by
      rintro rfl
      exact pos rfl
    have low := Column.value_pos ne upper
    have high := value_le_of_short upper column
    have row_high := natOfDigits_lt_of_short all row
    refine ⟨letters, digits, ⟨text, ne, some_digit, ?_, all, ?_, ?_, by omega, by omega⟩, ?_⟩
    · intro c hc
      rw [Char.isAlpha, upper c hc, Bool.true_or]
    · rwa [same, ← Column.value_eq_worth]
    · rw [same, ← Column.value_eq_worth]
      omega
    · rw [same, ← Column.value_eq_worth]

/-- No character of a reference is a blank. -/
theorem Word.solid {a : Address} (word : Word (.reference a) w) :
    ∀ c ∈ w, Text.isBlank c = false := by
  cases word with
  | symbol is => exact absurd is ofSymbol?_ne_reference
  | reference ne upper column all row pos =>
    intro c hc
    rcases List.mem_append.1 hc with letter | digit
    · exact Text.not_isBlank_of_isUpper (upper c letter)
    · exact Text.not_isBlank_of_isDigit (all c digit)

/-- **The column of a reference is always found**: letters of which at most six are read are the
name of a column, whatever is behind them. -/
theorem exists_number?_run (upper : c.isUpper = true) (cs : List Char) :
    ∃ k, Column.number? (run Char.isUpper columnLettersLimit (c :: cs)).1 = some (k + 1) := by
  obtain ⟨letters, behind, eq, column⟩ := exists_isRun Char.isUpper columnLettersLimit (c :: cs)
  have ne : letters ≠ [] := column.ne_nil (by decide) upper eq
  rw [eq, column.run_append]
  exact ⟨_, number?_of_short ne column.inside column.short⟩

/-- The reasons that are given for a reference that is none are no letters of a column. -/
theorem BadReference.not_letters {p : Nat} {reason : String} (bad : BadReference p cs reason) :
    ¬ ∀ c ∈ reason.toList, c.isUpper = true := by
  intro upper
  have first : ∃ c ∈ reason.toList, c.isUpper = false := by
    cases bad with
    | goesOn => exact ⟨'u', by simp, rfl⟩
    | noRow => exact ⟨'n', by simp, rfl⟩
  obtain ⟨c, hc, lower⟩ := first
  rw [upper c hc] at lower
  cases lower

end Lexer

variable {a : Address}

theorem tokenize_cons (t : String) : tokenize ("=" ++ t) = words t.toList.length t.toList := by
  rw [← tokenize_formula]
  congr 1
  apply String.toList_injective
  simp

/-- **A formula that is one reference** is a name of the address. -/
theorem ofName?_of_reference {t : String} (h : tokenize ("=" ++ t) = .ok [.reference a]) :
    Address.ofName? t = some a := by
  rw [tokenize_cons] at h
  rcases words_cases (Nat.le_refl t.toList.length) with ⟨ts, reads, all⟩ |
    ⟨front, ts, rest, e, eq, reads, fault, failed⟩
  · obtain rfl := Except.ok.inj (all.symm.trans h)
    obtain ⟨front, w, behind, eq, word, before, after⟩ := reads.exists_word_of_singleton
    have trimmed : Text.trim t.toList = w := by
      rw [eq]
      exact Text.trim_append (fun c hc => isBlank_of_isGap (before c hc))
        (fun c hc => isBlank_of_isGap (after c hc)) word.ne_nil word.solid
    obtain ⟨letters, digits, isName, rfl⟩ := word.exists_isName trimmed
    exact isName.ofName?_eq
  · cases failed.symm.trans h

/-- **The name of an address** with at most six letters and eight digits is a reference. -/
theorem tokenize_name (row : a.row ≤ 99999998) (col : a.col ≤ 321272405) :
    tokenize ("=" ++ a.name) = .ok [.reference a] := by
  have layout : Layout [.reference a] (a.name.toList ++ []) :=
    .token (.reference row col) (by simp) .nil
  rw [List.append_nil] at layout
  rw [tokenize_cons, words_of_reads layout.reads]

/-- Only addresses with such names are referred to. -/
theorem reference_le {s : String} {ts : List Token} (h : tokenize s = .ok ts)
    (listed : .reference a ∈ ts) : a.row ≤ 99999998 ∧ a.col ≤ 321272405 := by
  unfold tokenize at h
  split at h
  · rw [← tokenize_formula] at h
    obtain ⟨w, printed⟩ := printable_of_tokenize h _ listed
    cases printed with
    | reference row col => exact ⟨row, col⟩
    | symbol is => exact absurd is ofSymbol?_ne_reference
  · obtain rfl := Except.ok.inj h
    have single := List.mem_singleton.1 listed
    unfold literal at single
    split at single <;> cases single

/-- **References and names of addresses.** A formula that is one reference, with any blanks around
it, is read as the same address on its own. A text that is read as an address with a row number up
to 99999999 and a column number up to the one of `ZZZZZZ` has a name that is a reference to it. No
formula refers to any other address, so the numbers of a reference that is shown fit a word; where
letters and a row number are read, the letters are always the name of a column, and no error is ever
about the letters alone. Every cell of a sheet is referred to by its name. -/
theorem references_named :
    (∀ t a, tokenize ("=" ++ t) = .ok [.reference a] → Address.ofName? t = some a) ∧
    (∀ t a, Address.ofName? t = some a → a.row ≤ 99999998 → a.col ≤ 321272405 →
      tokenize ("=" ++ a.name) = .ok [.reference a]) ∧
    (∀ s ts a, tokenize s = .ok ts → .reference a ∈ ts →
      (a.row ≤ 99999998 ∧ a.col ≤ 321272405) ∧
        a.row + 1 < Text.wordLimit ∧ a.col + 1 < Text.wordLimit) ∧
    (∀ c cs r, c.isUpper = true →
      let column := run Char.isUpper columnLettersLimit (c :: cs)
      Text.wordOfDigits? (run Char.isDigit rowDigitsLimit column.2).1 = some (r + 1) →
        ∃ k, Column.number? column.1 = some (k + 1)) ∧
    (∀ s letters, (∀ c ∈ letters, c.isUpper = true) →
      tokenize s ≠ .error (.invalidCellReference (String.ofList letters))) ∧
    ∀ (b : Bounds) a, b.contains a = true → tokenize ("=" ++ a.name) = .ok [.reference a] := by
  refine ⟨fun t a => ofName?_of_reference, fun t a _ => tokenize_name, fun s ts a read listed => ?_,
    fun c cs r upper _ => exists_number?_run upper cs, fun s letters upper failed => ?_,
    fun b a inside => ?_⟩
  · have limits := reference_le read listed
    have word : Text.wordLimit = 2 ^ 64 := rfl
    exact ⟨limits, by omega, by omega⟩
  · unfold tokenize at failed
    split at failed
    · rw [← tokenize_formula] at failed
      obtain ⟨front, left, rfl, fault, -⟩ := exists_fault failed
      cases fault with
      | reference bad => exact bad.not_letters (by rwa [String.toList_ofList])
    · cases failed
  · simp only [Bounds.contains, Bool.and_eq_true, decide_eq_true_eq] at inside
    have rows := b.rows_range.2
    have columns := b.columns_range.2
    have most : greatestDimension = 10000 := rfl
    exact tokenize_name (by omega) (by omega)

/-- The last reference with blanks around it, one with zeros, and the name in lower-case letters of a
cell in the last row and column that a sheet may have. -/
theorem references_named_last :
    let last : Address := ⟨99999998, 321272405⟩
    let corner : Address := ⟨9999, 9999⟩
    let greatest := Bounds.clamp 10000 10000
    (tokenize ("=" ++ "\tZZZZZZ99999999 \n") = .ok [.reference last] ∧
      Address.ofName? "\tZZZZZZ99999999 \n" = some last ∧
      tokenize ("=" ++ last.name) = .ok [.reference last]) ∧
    (tokenize "=-B07" = .ok [.minus, .reference ⟨6, 1⟩] ∧
      Token.reference ⟨6, 1⟩ ∈ [.minus, .reference ⟨6, 1⟩] ∧ (6 ≤ 99999998 ∧ 1 ≤ 321272405) ∧
        6 + 1 < Text.wordLimit ∧ 1 + 1 < Text.wordLimit) ∧
    ('B'.isUpper = true ∧
      (let column := run Char.isUpper columnLettersLimit ['B', '0', '7']
      Text.wordOfDigits? (run Char.isDigit rowDigitsLimit column.2).1 = some (6 + 1) ∧
        ∃ k, Column.number? column.1 = some (k + 1))) ∧
    ((∀ c ∈ ['B'], c.isUpper = true) ∧
      tokenize "=B0" ≠ .error (.invalidCellReference (String.ofList ['B']))) ∧
    Address.ofName? " ntp10000 " = some corner ∧ greatest.contains corner = true ∧
      tokenize ("=" ++ corner.name) = .ok [.reference corner] := by
  intro last corner greatest
  obtain ⟨named, read, limits, column, letters, cells⟩ := references_named
  have single : tokenize ("=" ++ "\tZZZZZZ99999999 \n") = .ok [.reference last] := by cbv
  have found := named _ _ single
  have signed : tokenize "=-B07" = .ok [.minus, .reference ⟨6, 1⟩] := by cbv
  have listed : Token.reference ⟨6, 1⟩ ∈ [.minus, .reference ⟨6, 1⟩] := by simp
  have upper : ∀ c ∈ ['B'], c.isUpper = true := List.all_eq_true.1 rfl
  have row : Text.wordOfDigits? (run Char.isDigit rowDigitsLimit
      (run Char.isUpper columnLettersLimit ['B', '0', '7']).2).1 = some (6 + 1) := by decide
  exact ⟨⟨single, found, read _ _ found (Nat.le_refl _) (Nat.le_refl _)⟩,
    ⟨signed, listed, limits _ _ _ signed listed⟩, ⟨rfl, row, column 'B' _ _ rfl row⟩,
    ⟨upper, letters _ _ upper⟩, rfl, rfl, cells greatest corner rfl⟩

end Spreadsheet
