import Mathlib
import Spreadsheet.Proofs.Formula.Words

/-!
# Printed words

Tokens that are printed one behind the other, with any blanks around them, are read back
(`Lexer.Layout.reads`). A blank is needed only between two of which neither is a symbol or a text.
Nothing else is read: the tokens of a formula are those that can be printed
(`printable_of_tokenize`). Main statement: `tokenize_printed`.
-/

namespace Spreadsheet

open Lexer

/-! ## Tokens as they are printed -/

namespace Token

/-- A token is printed as a text. A number may be printed as any numeral of it, with no sign and no
exponent; the quotes in a text are escaped. -/
inductive Printed : Token → List Char → Prop
  | number {x : Float} {w : List Char} (numeral : IsNumeral w) (value : Decimal.float? w = some x) :
      Printed (.number x) w
  | text {s : String} (closed : s.toList.getLast? ≠ some '\\') :
      Printed (.text s) ('"' :: (s.toList.flatMap escape ++ ['"']))
  | reference {a : Address} (row : a.row ≤ 99999998) (col : a.col ≤ 321272405) :
      Printed (.reference a) a.name.toList
  | name {s : String} (ne : s ≠ "") (alphabetic : ∀ c ∈ s.toList, Text.isAlphabetic c = true)
      (first : ∀ c ∈ s.toList.head?, c.isUpper = false) : Printed (.name s) s.toList
  | symbol {t : Token} {c : Char} (is : ofSymbol? c = some t) : Printed t [c]

/-- Some text prints a token. -/
def Printable (t : Token) : Prop := ∃ w, Printed t w

/-- Whether a token may run into the one behind it: all but the symbols and the texts. -/
def clings : Token → Bool
  | .number _ | .reference _ | .name _ => true
  | _ => false

variable {t : Token} {w : List Char} {c : Char}

theorem Printed.word (h : Printed t w) : Word t w := by
  cases h with
  | number numeral value => exact .number numeral value
  | @text s closed =>
    have word := Word.text closed
    rwa [String.ofList_toList] at word
  | @reference a row col =>
    have column : (Column.letters (a.col + 1)).length ≤ columnLettersLimit := by
      have greatest : Column.greatest columnLettersLimit = 321272406 := rfl
      rw [Column.length_letters_le_iff]
      omega
    have digits : (Nat.toDigits 10 (a.row + 1)).length ≤ rowDigitsLimit :=
      Nat.toDigits_length 10 (a.row + 1) 8 (by omega) (by omega)
    have word := Word.reference (Column.letters_ne_nil (Nat.succ_pos a.col))
      (fun _ => Column.isUpper_of_mem_letters) column
      (fun _ => Nat.isDigit_of_mem_toDigits (by omega) (by omega)) digits
      (by rw [Text.natOfDigits_toDigits]; exact Nat.succ_ne_zero _)
    rw [Text.natOfDigits_toDigits, Column.value_letters] at word
    have limit : 10 ^ 8 < Text.wordLimit := by decide
    rwa [Address.toList_name_of_lt (by omega)]
  | @name s ne alphabetic first =>
    have word := Word.name (by simpa using ne) alphabetic first
    rwa [String.ofList_toList] at word
  | symbol is => exact .symbol is

/-- **Every token that is read** can be printed. -/
theorem printable_of_word (h : Word t w) : t.Printable := by
  cases h with
  | symbol is => exact ⟨_, .symbol is⟩
  | text closed => exact ⟨_, .text (by rwa [String.toList_ofList])⟩
  | number numeral value => exact ⟨_, .number numeral value⟩
  | @reference letters digits ne upper column all row pos =>
    have row_bound := natOfDigits_lt_of_short all row
    have column_bound := value_le_of_short upper column
    exact ⟨_, .reference (by dsimp only; omega) (by dsimp only; omega)⟩
  | name ne alphabetic first =>
    refine ⟨_, .name ?_ ?_ ?_⟩
    · simpa using ne
    · rwa [String.toList_ofList]
    · rwa [String.toList_ofList]

theorem goesOn_of_not_clings (h : t.clings = false) : goesOn t w c = false := by
  cases t with
  | number | reference | name => cases h
  | _ => rfl

theorem Printed.closed {s : String} (h : Printed (.text s) w) : s.toList.getLast? ≠ some '\\' := by
  cases h with
  | text closed => exact closed
  | symbol is =>
    unfold ofSymbol? at is
    split at is <;> cases is

end Token

/-! ## Texts that are read back -/

namespace Lexer

variable {ts : List Token} {cs : List Char}

/-- A text is the tokens of a list as they are printed, with blanks around them. There is a blank
between two tokens that cling to each other. -/
inductive Layout : List Token → List Char → Prop
  | nil : Layout [] []
  | blank {c : Char} {cs : List Char} {ts : List Token} (gap : isGap c = true)
      (more : Layout ts cs) : Layout ts (c :: cs)
  | token {t : Token} {w cs : List Char} {ts : List Token} (printed : t.Printed w)
      (apart : t.clings = true → ∀ t' ∈ ts.head?, t'.clings = true →
        ∃ c ∈ cs.head?, isGap c = true)
      (more : Layout ts cs) : Layout (t :: ts) (w ++ cs)

/-- In front of a token that does not cling there is a blank, a symbol or a quote. -/
theorem Layout.not_plain (h : Layout ts cs) (loose : ∀ t ∈ ts.head?, t.clings = false) :
    ∀ c ∈ cs.head?, isGap c = true ∨ Token.ofSymbol? c ≠ none ∨ c = '"' := by
  intro c hc
  cases h with
  | nil => cases hc
  | blank gap =>
    obtain rfl := Option.some.inj hc
    exact Or.inl gap
  | token printed =>
    cases printed with
    | symbol is =>
      obtain rfl := Option.some.inj hc
      exact Or.inr (Or.inl (by simp [is]))
    | text => exact Or.inr (Or.inr (Option.some.inj hc).symm)
    | number | reference | name => cases loose _ rfl

/-- **What is printed is read back.** -/
theorem Layout.reads (h : Layout ts cs) : Reads cs ts [] := by
  induction h with
  | nil => exact .nil
  | blank gap _ ih => exact .gap gap ih
  | @token t w cs ts printed apart more ih =>
    refine .word printed.word (fun c hc => ?_) ih
    rw [List.append_nil] at hc
    by_cases clings : t.clings = true
    · by_cases loose : ∀ t' ∈ ts.head?, t'.clings = false
      · exact goesOn_of_not_plain (more.not_plain loose c hc)
      · push Not at loose
        obtain ⟨t', first, clings'⟩ := loose
        obtain ⟨d, hd, gap⟩ := apart clings t' first (by simpa using clings')
        obtain rfl : d = c := Option.some.inj (hd.symm.trans hc)
        exact goesOn_of_not_plain (Or.inl gap)
    · exact Token.goesOn_of_not_clings (by simpa using clings)

/-- Printable tokens can be printed one behind the other. -/
theorem exists_layout (h : ∀ t ∈ ts, t.Printable) : ∃ cs, Layout ts (' ' :: cs) := by
  induction ts with
  | nil => exact ⟨[], .blank rfl .nil⟩
  | cons t ts ih =>
    obtain ⟨w, printed⟩ := h t List.mem_cons_self
    obtain ⟨cs, more⟩ := ih fun t ht => h t (List.mem_cons_of_mem _ ht)
    exact ⟨w ++ ' ' :: cs, .blank rfl (.token printed (fun _ _ _ _ => ⟨' ', rfl, rfl⟩) more)⟩

end Lexer

theorem tokenize_formula (cs : List Char) :
    tokenize (String.ofList ('=' :: cs)) = words cs.length cs := by
  simp [tokenize]

/-- The words of a formula are printable. -/
theorem printable_of_tokenize {ts : List Token} {cs : List Char}
    (h : tokenize (String.ofList ('=' :: cs)) = .ok ts) : ∀ t ∈ ts, t.Printable := by
  rw [tokenize_formula] at h
  rcases words_cases (Nat.le_refl cs.length) with ⟨ts', reads, all⟩ |
    ⟨front, ts', rest, e, eq, reads, fault, failed⟩
  · obtain rfl := Except.ok.inj (all.symm.trans h)
    intro t listed
    obtain ⟨w, word⟩ := reads.exists_word t listed
    exact Token.printable_of_word word
  · cases failed.symm.trans h

/-- **The words of a formula and the tokens that can be printed.** Tokens that are printed behind
the `=`, with blanks around them, are the words of the formula. The words of any formula can be
printed; none of them is a text that ends in a backslash. And every list of tokens that can be
printed is the words of some formula. -/
theorem tokenize_printed (ts : List Token) :
    (∀ cs, Layout ts cs → tokenize (String.ofList ('=' :: cs)) = .ok ts) ∧
    (∀ cs, tokenize (String.ofList ('=' :: cs)) = .ok ts → (∀ t ∈ ts, t.Printable) ∧
      ∀ s, .text s ∈ ts → s.toList.getLast? ≠ some '\\') ∧
    ((∀ t ∈ ts, t.Printable) → ∃ cs, Layout ts cs) := by
  refine ⟨fun cs layout => ?_, fun cs read => ?_, fun printable => ?_⟩
  · rw [tokenize_formula, words_of_reads layout.reads]
  · have printable := printable_of_tokenize read
    refine ⟨printable, fun s listed => ?_⟩
    obtain ⟨w, printed⟩ := printable _ listed
    exact printed.closed
  · obtain ⟨cs, layout⟩ := exists_layout printable
    exact ⟨_, layout⟩

/-- A text with a quote and a backslash in it, the last reference, and a number behind it. -/
theorem tokenize_printed_dense :
    ∃ x, Decimal.float? ['7', '.'] = some x ∧
      let tokens : List Token := [.name "sin", .leftBracket, .text "\"\\n", .comma,
        .reference ⟨99999998, 321272405⟩, .number x, .rightBracket]
      let cs := "sin(\"\\\"\\n\" ,ZZZZZZ99999999\t7.)".toList
      Layout tokens cs ∧ tokenize (String.ofList ('=' :: cs)) = .ok tokens ∧
        (∀ t ∈ tokens, t.Printable) ∧ "\"\\n".toList.getLast? ≠ some '\\' := by
  have numeral : IsNumeral (['7'] ++ '.' :: []) := .fraction (by simp) (by simp) (by simp)
  obtain ⟨x, value⟩ := exists_float?_of_isNumeral numeral
  refine ⟨x, value, ?_⟩
  intro tokens cs
  have upper : ∀ c ∈ "ZZZZZZ".toList, c.isUpper = true := List.all_eq_true.1 rfl
  have column : Column.letters 321272406 = "ZZZZZZ".toList := Column.letters_value upper
  have name : (Address.mk 99999998 321272405).name.toList = "ZZZZZZ99999999".toList := by
    rw [Address.toList_name_of_lt (by decide), column]
    rfl
  have layout : Layout tokens cs := by
    have printed : Token.Printed (.reference ⟨99999998, 321272405⟩) "ZZZZZZ99999999".toList := by
      rw [← name]
      exact .reference (Nat.le_refl _) (Nat.le_refl _)
    have bracket := Layout.token (.symbol (c := ')') rfl) (by simp [Token.clings]) .nil
    have number := Layout.blank (c := '\t') rfl
      (.token (.number numeral value) (by simp [Token.clings]) bracket)
    have reference := Layout.token printed (fun _ _ _ _ => ⟨'\t', rfl, rfl⟩) number
    have comma := Layout.blank (c := ' ') rfl
      (.token (.symbol (c := ',') rfl) (by simp [Token.clings]) reference)
    have text := Layout.token (.text (s := "\"\\n") (by decide)) (by simp [Token.clings]) comma
    have opened := Layout.token (.symbol (c := '(') rfl) (by simp [Token.clings]) text
    have alphabetic : ∀ c ∈ "sin".toList, Text.isAlphabetic c = true := by
      have all : "sin".toList.all Text.isAlphabetic = true := by cbv
      exact List.all_eq_true.1 all
    exact .token (.name (by decide) alphabetic (by simp)) (by simp [Token.clings]) opened
  obtain ⟨read, printable, -⟩ := tokenize_printed tokens
  have found := read cs layout
  obtain ⟨all, closed⟩ := printable cs found
  exact ⟨layout, found, all, closed _ (by simp [tokens])⟩

end Spreadsheet
