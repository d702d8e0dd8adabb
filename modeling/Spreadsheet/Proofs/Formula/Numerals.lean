import Mathlib
import Spreadsheet.Proofs.Formula.Readers

/-!
# Numbers in plain texts

A text without `=` in front is a number exactly if it has the syntax of one, blanks around it aside
(`Lexer.exists_plainNumber?_iff`): an optional sign, and then a word for a special number or a decimal
with an optional exponent. The reader first looks behind any number of signs whether a number may
start there, and then gives the text to a reader that allows one sign and knows more words; together
they read that syntax. Main statement: `tokenize_plain`.
-/

namespace Spreadsheet.Decimal

open Lexer

variable {cs ds es w rest : List Char} {c : Char} {negative : Bool}

/-! ## Syntax -/

/-- An optional sign. -/
inductive IsSign : List Char → Prop
  | absent : IsSign []
  | plus : IsSign ['+']
  | minus : IsSign ['-']

/-- A decimal: digits, with a point and any number of further digits behind them if there is one, or
a point and at least one digit. -/
inductive IsDecimal : List Char → Prop
  | numeral {w : List Char} (numeral : IsNumeral w) : IsDecimal w
  | point {ds : List Char} (ne : ds ≠ []) (digits : ∀ c ∈ ds, c.isDigit = true) :
      IsDecimal ('.' :: ds)

/-- An optional exponent: its mark, an optional sign and at least one digit. -/
inductive IsExponent : List Char → Prop
  | absent : IsExponent []
  | present {mark : Char} {sign ds : List Char} (isMark : mark = 'e' ∨ mark = 'E')
      (isSign : IsSign sign) (ne : ds ≠ []) (digits : ∀ c ∈ ds, c.isDigit = true) :
      IsExponent (mark :: (sign ++ ds))

/-- A number without sign: a word for a special number, or a decimal with an optional exponent. -/
inductive IsUnsigned : List Char → Prop
  | infinity : IsUnsigned ['I', 'n', 'f', 'i', 'n', 'i', 't', 'y']
  | nan : IsUnsigned ['N', 'a', 'N']
  | decimal {w e : List Char} (isDecimal : IsDecimal w) (isExponent : IsExponent e) :
      IsUnsigned (w ++ e)

/-- A number with an optional sign. -/
inductive IsNumber : List Char → Prop
  | signed {sign w : List Char} (isSign : IsSign sign) (unsigned : IsUnsigned w) :
      IsNumber (sign ++ w)

theorem IsDecimal.head (h : IsDecimal w) : ∃ c cs, w = c :: cs ∧ (c.isDigit = true ∨ c = '.') := by
  cases h with
  | numeral numeral =>
    obtain ⟨c, cs, rfl, digit⟩ := numeral.exists_digit
    exact ⟨c, cs, rfl, Or.inl digit⟩
  | point ne digits => exact ⟨_, _, rfl, Or.inr rfl⟩

/-- Behind a decimal stands the mark of an exponent or nothing. -/
theorem IsExponent.head (h : IsExponent cs) : ∀ c ∈ cs.head?, c = 'e' ∨ c = 'E' := by
  intro c hc
  cases h with
  | absent => cases hc
  | present isMark =>
    obtain rfl := Option.some.inj hc
    exact isMark

/-! ## Exponents -/

/-- An exponent is read from an optional sign and at least one digit, and from nothing else. -/
theorem exists_exponent?_iff : (∃ x, exponent? cs = some x) ↔
    ∃ sign ds, cs = sign ++ ds ∧ IsSign sign ∧ ds ≠ [] ∧ ∀ c ∈ ds, c.isDigit = true := by
  have all_digits : ∀ ds : List Char, (!ds.isEmpty && ds.all Char.isDigit) = true →
      ds ≠ [] ∧ ∀ c ∈ ds, c.isDigit = true := by
    intro ds read
    simpa using read
  constructor
  · rintro ⟨x, found⟩
    unfold exponent? at found
    split at found <;> split at found
    · exact ⟨['-'], _, rfl, .minus, all_digits _ ‹_›⟩
    · cases found
    · exact ⟨['+'], _, rfl, .plus, all_digits _ ‹_›⟩
    · cases found
    · exact ⟨[], _, rfl, .absent, all_digits _ ‹_›⟩
    · cases found
  · rintro ⟨sign, ds, rfl, isSign, ne, digits⟩
    have all : (!ds.isEmpty && ds.all Char.isDigit) = true := by
      simpa [ne] using digits
    cases isSign with
    | plus => exact ⟨_, if_pos all⟩
    | minus => exact ⟨_, if_pos all⟩
    | absent =>
      obtain ⟨c, ds, rfl⟩ := List.exists_cons_of_ne_nil ne
      have first := digits c List.mem_cons_self
      refine ⟨exponentSize (c :: ds), ?_⟩
      rw [List.nil_append, exponent?.eq_3 _ ?_ ?_, if_pos all]
      · rintro _ ⟨⟩
        cases first
      · rintro _ ⟨⟩
        cases first

/-! ## Decimals -/

theorem splitFraction_of_ne (h : cs.head? ≠ some '.') : Numeral.splitFraction cs = ([], cs) := by
  unfold Numeral.splitFraction
  split
  · exact absurd rfl h
  · rfl

/-- A decimal is split into its digits in front of a text that starts with no digit and no point. -/
theorem IsDecimal.split (h : IsDecimal w) (ends : ∀ c ∈ rest.head?, c.isDigit = false ∧ c ≠ '.') :
    ∃ whole fraction, (w ++ rest).takeWhile Char.isDigit = whole ∧
      Numeral.splitFraction ((w ++ rest).dropWhile Char.isDigit) = (fraction, rest) ∧
        (whole.isEmpty && fraction.isEmpty) = false := by
  have no_digit : ∀ c ∈ rest.head?, c.isDigit = false := fun c hc => (ends c hc).1
  have no_point : rest.head? ≠ some '.' := fun point => (ends _ point).2 rfl
  have fraction_append : ∀ es : List Char, (∀ c ∈ es, c.isDigit = true) →
      Numeral.splitFraction ('.' :: (es ++ rest)) = (es, rest) := by
    intro es digits
    obtain ⟨taken, left⟩ := span_append digits no_digit
    rw [Numeral.splitFraction, taken, left]
  have at_point : ∀ es : List Char, ∀ c ∈ ('.' :: es).head?, c.isDigit = false := by
    intro es c hc
    obtain rfl : '.' = c := by simpa using hc
    rfl
  cases h with
  | numeral numeral =>
    cases numeral with
    | whole ne digits =>
      obtain ⟨taken, left⟩ := span_append digits no_digit
      exact ⟨w, [], taken, by rw [left, splitFraction_of_ne no_point], by simp [ne]⟩
    | @fraction ds es ne digits more =>
      rw [List.append_assoc, List.cons_append]
      obtain ⟨taken, left⟩ := span_append digits (at_point (es ++ rest))
      exact ⟨ds, es, taken, by rw [left, fraction_append es more], by simp [ne]⟩
  | @point ds ne digits =>
    obtain ⟨taken, left⟩ := span_append (w := []) (by simp) (at_point (ds ++ rest))
    exact ⟨[], ds, taken, by rw [← fraction_append ds digits, ← left]; rfl, by simp [ne]⟩

/-- Digits that are split off, not all of them missing, are those of a decimal. -/
theorem exists_isDecimal_of_split {fraction : List Char}
    (split : Numeral.splitFraction (cs.dropWhile Char.isDigit) = (fraction, rest))
    (some_digit : ((cs.takeWhile Char.isDigit).isEmpty && fraction.isEmpty) = false) :
    ∃ w, cs = w ++ rest ∧ IsDecimal w := by
  have parts := cs.takeWhile_append_dropWhile (p := Char.isDigit)
  have digits : ∀ c ∈ cs.takeWhile Char.isDigit, c.isDigit = true :=
    fun c hc => List.mem_takeWhile_imp hc
  generalize cs.takeWhile Char.isDigit = ds at parts digits some_digit
  generalize cs.dropWhile Char.isDigit = left at parts split
  subst parts
  unfold Numeral.splitFraction at split
  split at split
  · rename_i es
    obtain ⟨rfl, rfl⟩ := Prod.mk.inj split
    have more : ∀ c ∈ es.takeWhile Char.isDigit, c.isDigit = true :=
      fun c hc => List.mem_takeWhile_imp hc
    refine ⟨ds ++ '.' :: es.takeWhile Char.isDigit, ?_, ?_⟩
    · rw [List.append_assoc, List.cons_append, List.takeWhile_append_dropWhile]
    · by_cases none_whole : ds = []
      · subst none_whole
        exact .point (by simpa using some_digit) more
      · exact .numeral (.fraction none_whole digits more)
  · obtain ⟨rfl, rfl⟩ := Prod.mk.inj split
    exact ⟨ds, rfl, .numeral (.whole (by simpa using some_digit) digits)⟩

/-- **Numerals without sign** are the decimals with an optional exponent. -/
theorem exists_ofChars?_iff : (∃ n, Numeral.ofChars? cs = some n) ↔
    ∃ w e, cs = w ++ e ∧ IsDecimal w ∧ IsExponent e := by
  constructor
  · rintro ⟨n, found⟩
    simp only [Numeral.ofChars?] at found
    generalize split : Numeral.splitFraction (cs.dropWhile Char.isDigit) = parts at found
    obtain ⟨fraction, rest⟩ := parts
    split at found
    · cases found
    · rename_i some_digit
      obtain ⟨w, rfl, isDecimal⟩ :=
        exists_isDecimal_of_split split (Bool.eq_false_of_not_eq_true some_digit)
      refine ⟨w, rest, rfl, isDecimal, ?_⟩
      cases rest with
      | nil => exact .absent
      | cons mark rest =>
        dsimp only at found
        split at found
        · rename_i isMark
          obtain ⟨x, found, -⟩ := Option.map_eq_some_iff.1 found
          obtain ⟨sign, ds, rfl, isSign, ne, digits⟩ := exists_exponent?_iff.1 ⟨x, found⟩
          exact .present isMark isSign ne digits
        · cases found
  · rintro ⟨w, e, rfl, isDecimal, isExponent⟩
    have ends : ∀ c ∈ e.head?, c.isDigit = false ∧ c ≠ '.' := by
      intro c hc
      rcases isExponent.head c hc with rfl | rfl <;> exact ⟨rfl, by decide⟩
    obtain ⟨whole, fraction, taken, split, some_digit⟩ := isDecimal.split ends
    simp only [Numeral.ofChars?, taken, split, some_digit, Bool.false_eq_true, if_false]
    cases isExponent with
    | absent => exact ⟨_, rfl⟩
    | @present mark sign ds isMark isSign ne digits =>
      obtain ⟨x, found⟩ := exists_exponent?_iff.2 ⟨sign, ds, rfl, isSign, ne, digits⟩
      refine ⟨⟨whole, fraction, x⟩, ?_⟩
      dsimp only
      rw [if_pos isMark, found, Option.map_some]

/-! ## Numbers without sign -/

/-- What does not start with a letter is none of the words for special numbers. -/
theorem unsigned?_cons (h : c.isAlpha = false) : unsigned? negative (c :: cs) =
    (Numeral.ofChars? (c :: cs)).map (Numeral.toFloat negative) := by
  simp only [Char.isAlpha, Bool.or_eq_false_iff] at h
  have lower : c.toLower = c := Char.toLower_eq_of_not_isUpper (by simp [h.1])
  have no_word : ∀ d ds, d.isLower = true →
      String.ofList ((c :: cs).map Char.toLower) ≠ String.ofList (d :: ds) := by
    intro d ds letter eq
    rw [List.map_cons, lower] at eq
    obtain rfl := (List.cons.inj (String.ofList_injective eq)).1
    rw [h.2] at letter
    cases letter
  rw [unsigned?, if_neg, if_neg]
  · exact no_word 'n' ['a', 'n'] rfl
  · exact not_or.2 ⟨no_word 'i' ['n', 'f'] rfl, no_word 'i' ['n', 'f', 'i', 'n', 'i', 't', 'y'] rfl⟩

theorem not_isAlpha_of_head (h : c.isDigit = true ∨ c = '.') : c.isAlpha = false := by
  rcases h with digit | rfl
  · have high := (Char.isDigit_iff_toNat.1 digit).2
    have nine : '9'.toNat = 57 := rfl
    have code : c.toNat = c.val.toNat := rfl
    simp [Char.isAlpha, Char.isUpper, Char.isLower, UInt32.le_iff_toNat_le]
    omega
  · rfl

theorem IsUnsigned.head (h : IsUnsigned w) :
    ∃ c cs, w = c :: cs ∧ (c.isDigit = true ∨ c ∈ ['.', 'I', 'N']) := by
  cases h with
  | infinity => exact ⟨_, _, rfl, by simp⟩
  | nan => exact ⟨_, _, rfl, by simp⟩
  | decimal isDecimal =>
    obtain ⟨c, cs, rfl, first⟩ := isDecimal.head
    exact ⟨c, _, rfl, first.imp_right (by simp +contextual)⟩

theorem IsUnsigned.startsNumber (h : IsUnsigned w) : startsNumber w = true := by
  cases h with
  | infinity => rfl
  | nan => rfl
  | decimal isDecimal =>
    obtain ⟨c, cs, rfl, first⟩ := isDecimal.head
    simpa [Lexer.startsNumber] using Or.inr first

/-- **Of the texts that start like a number** those are read that have the syntax of one. -/
theorem exists_unsigned?_iff (starts : startsNumber w = true) :
    (∃ x, unsigned? negative w = some x) ↔ IsUnsigned w := by
  have words : ∀ s : String, String.ofList (w.map Char.toLower) = s → s = "infinity" ∨ s = "nan" →
      ∃ x, unsigned? negative w = some x := by
    rintro s eq (rfl | rfl)
    · exact ⟨_, if_pos (Or.inr eq)⟩
    · refine ⟨Float.ofBits 0x7FF8000000000000, ?_⟩
      rw [unsigned?, eq, if_neg (by decide), if_pos rfl]
  simp only [Lexer.startsNumber, Bool.or_eq_true, beq_iff_eq] at starts
  rcases starts with (rfl | rfl) | first
  · exact ⟨fun _ => .infinity, fun _ => words _ rfl (Or.inl rfl)⟩
  · exact ⟨fun _ => .nan, fun _ => words _ rfl (Or.inr rfl)⟩
  · obtain ⟨c, cs, rfl⟩ : ∃ c cs, w = c :: cs := by
      cases w with
      | nil => cases first
      | cons c cs => exact ⟨c, cs, rfl⟩
    have first : c.isDigit = true ∨ c = '.' := by simpa using first
    rw [unsigned?_cons (not_isAlpha_of_head first)]
    constructor
    · rintro ⟨x, found⟩
      obtain ⟨n, found, -⟩ := Option.map_eq_some_iff.1 found
      obtain ⟨w, e, eq, isDecimal, isExponent⟩ := exists_ofChars?_iff.1 ⟨n, found⟩
      rw [eq]
      exact .decimal isDecimal isExponent
    · intro isUnsigned
      generalize eq : c :: cs = v at isUnsigned
      cases isUnsigned with
      | infinity =>
        cases eq
        simp at first
      | nan =>
        cases eq
        simp at first
      | decimal isDecimal isExponent =>
        obtain ⟨n, found⟩ := exists_ofChars?_iff.2 ⟨_, _, rfl, isDecimal, isExponent⟩
        exact ⟨_, by rw [found, Option.map_some]⟩

end Spreadsheet.Decimal

/-! ## Plain texts -/

namespace Spreadsheet.Lexer

open Decimal

variable {cs w : List Char} {negative : Bool} {x : Float}

/-- No further sign stands in front of a number that is read without one. -/
theorem dropWhile_sign_of_unsigned? (h : unsigned? negative w = some x) :
    w.dropWhile (fun c => c == '+' || c == '-') = w := by
  cases w with
  | nil => rfl
  | cons c cs =>
    refine List.dropWhile_cons_of_neg fun sign => ?_
    have not_alpha : c.isAlpha = false := by
      rcases (by simpa using sign : c = '+' ∨ c = '-') with rfl | rfl <;> rfl
    rw [unsigned?_cons not_alpha] at h
    obtain ⟨n, found, -⟩ := Option.map_eq_some_iff.1 h
    obtain ⟨w, e, eq, isDecimal, -⟩ := exists_ofChars?_iff.1 ⟨n, found⟩
    obtain ⟨d, ds, rfl, first⟩ := isDecimal.head
    obtain ⟨rfl, -⟩ := List.cons.inj eq
    rcases (by simpa using sign : c = '+' ∨ c = '-') with rfl | rfl <;> simp at first

/-- The sign is all that is left out in front of a number. -/
theorem dropWhile_sign_append {sign : List Char} (isSign : IsSign sign)
    (stays : w.dropWhile (fun c => c == '+' || c == '-') = w) :
    (sign ++ w).dropWhile (fun c => c == '+' || c == '-') = w := by
  cases isSign with
  | absent => exact stays
  | plus => exact stays
  | minus => exact stays

/-- What is read as a number, if a number may start behind its signs, is a sign and a number. -/
theorem isNumber_of_unsigned? {sign : List Char} (isSign : IsSign sign)
    (found : unsigned? negative w = some x)
    (starts : startsNumber ((sign ++ w).dropWhile fun c => c == '+' || c == '-') = true) :
    IsNumber (sign ++ w) := by
  rw [dropWhile_sign_append isSign (dropWhile_sign_of_unsigned? found)] at starts
  exact .signed isSign ((exists_unsigned?_iff starts).1 ⟨x, found⟩)

theorem float?_of_head (h : ∀ c ∈ w.head?, c ≠ '+' ∧ c ≠ '-') : float? w = unsigned? false w := by
  unfold float?
  split
  · exact absurd rfl (h '-' rfl).2
  · exact absurd rfl (h '+' rfl).1
  · rfl

/-- **A plain text is a number** exactly if it has the syntax of one, blanks around it aside. -/
theorem exists_plainNumber?_iff :
    (∃ x, plainNumber? cs = some x) ↔ IsNumber (Text.trim cs) := by
  simp only [plainNumber?]
  generalize Text.trim cs = w
  constructor
  · rintro ⟨x, found⟩
    split at found
    · rename_i starts
      unfold float? at found
      split at found
      · exact isNumber_of_unsigned? .minus found starts
      · exact isNumber_of_unsigned? .plus found starts
      · exact isNumber_of_unsigned? .absent found starts
    · cases found
  · rintro (@⟨sign, w, isSign, isUnsigned⟩)
    have starts := isUnsigned.startsNumber
    obtain ⟨x, found⟩ : ∃ x, unsigned? false w = some x :=
      (exists_unsigned?_iff starts).2 isUnsigned
    obtain ⟨y, found_negative⟩ : ∃ y, unsigned? true w = some y :=
      (exists_unsigned?_iff starts).2 isUnsigned
    rw [dropWhile_sign_append isSign (dropWhile_sign_of_unsigned? found), if_pos starts]
    cases isSign with
    | absent =>
      refine ⟨x, ?_⟩
      rw [List.nil_append, float?_of_head, found]
      obtain ⟨c, cs, rfl, first⟩ := isUnsigned.head
      rintro _ ⟨⟩
      constructor <;> rintro rfl <;> simp at first
    | plus => exact ⟨x, found⟩
    | minus => exact ⟨y, found_negative⟩

end Spreadsheet.Lexer

namespace Spreadsheet

variable {s : String}

theorem tokenize_of_plain (plain : s.toList.head? ≠ some '=') :
    tokenize s = .ok [Lexer.literal s] := by
  unfold tokenize
  split
  · rename_i cs eq
    rw [eq] at plain
    exact absurd rfl plain
  · rfl

theorem float?_of_plainNumber? {cs : List Char} {x : Float} (h : Lexer.plainNumber? cs = some x) :
    Decimal.float? (Text.trim cs) = some x := by
  simp only [Lexer.plainNumber?] at h
  split at h
  · exact h
  · cases h

theorem tokenize_eq_number_iff {x : Float} (plain : s.toList.head? ≠ some '=') :
    tokenize s = .ok [.number x] ↔ Lexer.plainNumber? s.toList = some x := by
  rw [tokenize_of_plain plain, Lexer.literal]
  cases Lexer.plainNumber? s.toList <;> simp

/-- **Texts without `=`** are one word each: a number exactly if the text has the syntax of one, with
any blanks around it, and then the one that the text without these blanks denotes; otherwise the text
as it is. -/
theorem tokenize_plain (s : String) (plain : s.toList.head? ≠ some '=') :
    ((∃ x, tokenize s = .ok [.number x]) ↔ Decimal.IsNumber (Text.trim s.toList)) ∧
    (∀ x, tokenize s = .ok [.number x] → Decimal.float? (Text.trim s.toList) = some x) ∧
    (¬ Decimal.IsNumber (Text.trim s.toList) → tokenize s = .ok [.text s]) := by
  simp only [tokenize_eq_number_iff plain]
  refine ⟨Lexer.exists_plainNumber?_iff, fun x => float?_of_plainNumber?, fun no_number => ?_⟩
  rw [tokenize_of_plain plain, Lexer.literal]
  cases number : Lexer.plainNumber? s.toList with
  | none => rfl
  | some x => exact absurd (Lexer.exists_plainNumber?_iff.1 ⟨x, number⟩) no_number

/-- A number with every optional part, in front of it a no-break space and behind it a line feed, and
a text with one sign too many. -/
theorem tokenize_plain_signs :
    let number := "\u00a0-.5E+03\n"
    let text := " +-5"
    (number.toList.head? ≠ some '=' ∧ Decimal.IsNumber (Text.trim number.toList) ∧
      ∃ x, tokenize number = .ok [.number x] ∧
        Decimal.float? (Text.trim number.toList) = some x) ∧
    (text.toList.head? ≠ some '=' ∧ ¬ Decimal.IsNumber (Text.trim text.toList) ∧
      tokenize text = .ok [.text text]) := by
  intro number text
  have plain : number.toList.head? ≠ some '=' := by decide
  have trimmed : Text.trim number.toList = ['-'] ++ (['.', '5'] ++ 'E' :: (['+'] ++ ['0', '3'])) := by
    decide
  have isNumber : Decimal.IsNumber (Text.trim number.toList) := by
    rw [trimmed]
    exact .signed .minus (.decimal (.point (by simp) (by simp))
      (.present (Or.inr rfl) .plus (by simp) (by simp)))
  obtain ⟨x, read⟩ := (tokenize_plain number plain).1.2 isNumber
  have plain' : text.toList.head? ≠ some '=' := by decide
  have no_number : ¬ Decimal.IsNumber (Text.trim text.toList) := by
    rw [← (tokenize_plain text plain').1]
    rintro ⟨x, read⟩
    have found : tokenize text = .ok [.text text] := by cbv
    cases found.symm.trans read
  exact ⟨⟨plain, isNumber, x, read, (tokenize_plain number plain).2.1 x read⟩,
    plain', no_number, (tokenize_plain text plain').2.2 no_number⟩

end Spreadsheet
