import Mathlib
import Spreadsheet.Proofs.Formula.Printing

/-!
# Faults of a formula

If a formula has an error, then what stands in front of the fault is a formula without one, and the
error names the place of the fault and what is wrong there (`exists_fault`). Main statement:
`tokenize_fault`.
-/

namespace Spreadsheet

open Lexer

namespace Lexer

variable {p : Nat} {w left : List Char} {t : Token} {reason : String}

/-- Every word starts with a character that a word can start with. -/
theorem Word.starts_head (h : Word t w) : ∀ c ∈ w.head?, starts c = true := by
  intro c hc
  cases h with
  | symbol is =>
    obtain rfl := Option.some.inj hc
    simp [starts, is]
  | text =>
    obtain rfl := Option.some.inj hc
    rfl
  | number numeral =>
    obtain ⟨d, ds, rfl, digit⟩ := numeral.exists_digit
    obtain rfl := Option.some.inj hc
    simp [starts, digit]
  | @reference letters digits ne upper =>
    obtain ⟨d, ds, rfl⟩ := List.exists_cons_of_ne_nil ne
    obtain rfl := Option.some.inj hc
    simp [starts, Text.isAlphabetic_of_isUpper (upper d List.mem_cons_self)]
  | name ne alphabetic =>
    simp [starts, alphabetic c (List.mem_of_mem_head? hc)]

/-- A reference that is none starts with an upper-case letter. -/
theorem BadReference.exists_upper (h : BadReference p left reason) :
    ∃ c cs, left = c :: cs ∧ c.isUpper = true := by
  cases h with
  | goesOn ne column | noRow ne column =>
    obtain ⟨c, cs, rfl⟩ := List.exists_cons_of_ne_nil ne
    exact ⟨c, _, rfl, column.inside c List.mem_cons_self⟩

end Lexer

/-- **An error is the one of the first fault**, and what stands in front of the fault has none. -/
theorem exists_fault {xs : List Char} {e : FormulaError}
    (h : tokenize (String.ofList ('=' :: xs)) = .error e) :
    ∃ front left, xs = front ++ left ∧ Fault front.length left e ∧
      ∃ ts, tokenize (String.ofList ('=' :: front)) = .ok ts := by
  rw [tokenize_formula] at h
  rcases words_cases (Nat.le_refl xs.length) with ⟨ts, -, all⟩ |
    ⟨front, ts, left, e', rfl, reads, fault, failed⟩
  · cases all.symm.trans h
  · obtain rfl := Except.error.inj (failed.symm.trans h)
    have place : position (front ++ left).length left = front.length := by
      rw [position, List.length_append, Nat.add_sub_cancel]
    rw [place] at fault
    refine ⟨front, left, rfl, fault, ts, ?_⟩
    rw [tokenize_formula, words_of_reads reads.cut]

/-- **The errors of a text.** An invalid symbol stands at the position that is given, where no blank
and no word can start. A text that is not closed starts at the position that is given, and every
quote behind that stands behind a backslash. A reference that is none is the one that stands at some
position, and starts with an upper-case letter. What stands in front of each of these has no error.
A text never has an error in the format of a number. -/
theorem tokenize_fault (xs : List Char) :
    (∀ c p, tokenize (String.ofList ('=' :: xs)) = .error (.invalidSymbol c p) →
      p < xs.length ∧ xs[p]? = some c ∧ isGap c = false ∧ (∀ t w, Word t w → w.head? ≠ some c) ∧
        ∃ ts, tokenize (String.ofList ('=' :: xs.take p)) = .ok ts) ∧
    (∀ p, tokenize (String.ofList ('=' :: xs)) = .error (.nonTerminatedString p) →
      xs[p]? = some '"' ∧ (∀ i, p < i → xs[i]? = some '"' → xs[i - 1]? = some '\\') ∧
        ∃ ts, tokenize (String.ofList ('=' :: xs.take p)) = .ok ts) ∧
    (∀ reason, tokenize (String.ofList ('=' :: xs)) = .error (.invalidCellReference reason) →
      ∃ p c, xs[p]? = some c ∧ c.isUpper = true ∧ BadReference p (xs.drop p) reason ∧
        ∃ ts, tokenize (String.ofList ('=' :: xs.take p)) = .ok ts) ∧
    ∀ s digits, tokenize s ≠ .error (.numberFormat digits) := by
  refine ⟨fun c p h => ?_, fun p h => ?_, fun reason h => ?_, fun s digits h => ?_⟩
  · obtain ⟨front, left, rfl, fault, formula⟩ := exists_fault h
    cases fault with
    | symbol foreign =>
      refine ⟨by simp, by simp, ?_, fun t w word head => ?_, by rwa [List.take_left]⟩
      · simp only [starts, Bool.or_eq_false_iff] at foreign
        exact foreign.1.1.1.1
      · cases foreign.symm.trans (word.starts_head c head)
  · obtain ⟨front, left, rfl, fault, formula⟩ := exists_fault h
    cases fault with
    | text unclosed =>
      rename_i cs
      have behind : ∀ k, (front ++ '"' :: cs)[front.length + k + 1]? = cs[k]? := by
        intro k
        rw [List.getElem?_append_right (by omega), Nat.add_assoc, Nat.add_sub_cancel_left,
          List.getElem?_cons_succ]
      refine ⟨by simp, fun i later quote => ?_, by rwa [List.take_left]⟩
      obtain ⟨k, rfl⟩ := Nat.exists_eq_add_of_lt later
      rw [behind] at quote
      obtain ⟨j, rfl, backslash⟩ := unclosed k quote
      rw [Nat.add_sub_cancel, ← Nat.add_assoc, behind, backslash]
  · obtain ⟨front, left, rfl, fault, formula⟩ := exists_fault h
    cases fault with
    | reference bad =>
      obtain ⟨c, cs, rfl, upper⟩ := bad.exists_upper
      exact ⟨front.length, c, by simp, upper, by rwa [List.drop_left], by rwa [List.take_left]⟩
  · unfold tokenize at h
    split at h
    · rw [← tokenize_formula] at h
      obtain ⟨front, left, rfl, fault, -⟩ := exists_fault h
      cases fault
    · cases h

/-- A text with each of the errors: a symbol that is none, a quote that closes no text, and letters
behind the row number of a reference. -/
theorem tokenize_fault_each :
    (tokenize (String.ofList ('=' :: "10% from 10".toList)) = .error (.invalidSymbol '%' 2) ∧
      "10% from 10".toList[2]? = some '%' ∧ (∀ t w, Word t w → w.head? ≠ some '%') ∧
        ∃ ts, tokenize (String.ofList ('=' :: "10% from 10".toList.take 2)) = .ok ts) ∧
    (tokenize (String.ofList ('=' :: "\"hel\"lo\"".toList)) = .error (.nonTerminatedString 7) ∧
      (∀ i, 7 < i → "\"hel\"lo\"".toList[i]? = some '"' →
        "\"hel\"lo\"".toList[i - 1]? = some '\\') ∧
        ∃ ts, tokenize (String.ofList ('=' :: "\"hel\"lo\"".toList.take 7)) = .ok ts) ∧
    (tokenize (String.ofList ('=' :: "-A3sin".toList)) =
        .error (.invalidCellReference "unexpected symbol s at position 3") ∧
      ∃ p c, "-A3sin".toList[p]? = some c ∧ c.isUpper = true ∧
        BadReference p ("-A3sin".toList.drop p) "unexpected symbol s at position 3" ∧
          ∃ ts, tokenize (String.ofList ('=' :: "-A3sin".toList.take p)) = .ok ts) := by
  have reference : tokenize (String.ofList ('=' :: "-A3sin".toList)) =
      .error (.invalidCellReference "unexpected symbol s at position 3") := by cbv
  have symbol : tokenize (String.ofList ('=' :: "10% from 10".toList)) =
      .error (.invalidSymbol '%' 2) := by cbv
  have text : tokenize (String.ofList ('=' :: "\"hel\"lo\"".toList)) =
      .error (.nonTerminatedString 7) := by cbv
  obtain ⟨-, found, -, no_word, formula⟩ := (tokenize_fault _).1 '%' 2 symbol
  obtain ⟨-, escaped, formula'⟩ := (tokenize_fault _).2.1 7 text
  exact ⟨⟨symbol, found, no_word, formula⟩, ⟨text, escaped, formula'⟩, reference,
    (tokenize_fault _).2.2.1 _ reference⟩

end Spreadsheet
