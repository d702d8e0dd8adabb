import Spreadsheet.Text.Digits

/-!
# Column names

A column is named by upper-case letters in bijective base 26: `A` is 1, `Z` is 26 and `AA` is 27.
There is no letter for zero, so every number has one name and every name one number. A name is read
letter by letter, and each step checks that its number fits a word. Main statement: the letters of a
number have that number as their value.
-/

namespace Spreadsheet.Column

/-- The letter for `n < 26`, counted from zero. -/
def letter (n : Nat) : Char :=
  Char.ofNat ('A'.toNat + n)

/-- The name of column number `n`, counted from one; zero has the empty name. -/
def letters (n : Nat) : List Char :=
  if n = 0 then [] else letters ((n - 1) / 26) ++ [letter ((n - 1) % 26)]

/-- The number that a run of upper-case letters names. -/
def value (cs : List Char) : Nat :=
  cs.foldl (fun n c => 26 * n + (c.toNat - 'A'.toNat + 1)) 0

/-- The number with one more letter behind its own, unless the letter is no upper-case one or the
product or the sum leaves a word. -/
def addLetter? (n : Nat) (c : Char) : Option Nat :=
  if c.isUpper then
    (Text.word? (n * 26)).bind fun n => Text.word? (n + (c.toNat - 'A'.toNat + 1))
  else none

/-- The column number of a name, which has at least one letter. -/
def number? (cs : List Char) : Option Nat :=
  if cs.isEmpty then none else cs.foldlM addLetter? 0

theorem addLetter?_eq_some_iff {n m : Nat} {c : Char} : addLetter? n c = some m ↔
    c.isUpper = true ∧ 26 * n + (c.toNat - 'A'.toNat + 1) = m ∧ m < Text.wordLimit := by
  unfold addLetter?
  split
  · rename_i upper
    simp only [upper, true_and, Option.bind_eq_some_iff, Text.word?_eq_some_iff]
    constructor
    · rintro ⟨_, ⟨rfl, -⟩, rfl, fits⟩
      exact ⟨by omega, fits⟩
    · rintro ⟨rfl, fits⟩
      exact ⟨n * 26, ⟨rfl, by omega⟩, by omega, by omega⟩
  · rename_i other
    simp [other]

@[simp] theorem value_nil : value [] = 0 := rfl

theorem value_concat (cs : List Char) (c : Char) :
    value (cs ++ [c]) = 26 * value cs + (c.toNat - 'A'.toNat + 1) := by
  simp [value]

theorem toNat_letter {n : Nat} (h : n < 26) : (letter n).toNat = 'A'.toNat + n := by
  have all : ∀ m : Fin 26, (letter m).toNat = 'A'.toNat + m := by decide
  exact all ⟨n, h⟩

theorem value_letters (n : Nat) : value (letters n) = n := by
  induction n using Nat.strongRecOn with
  | ind n ih =>
    rw [letters]
    split
    · simp_all
    · have smaller : (n - 1) / 26 < n := by omega
      rw [value_concat, ih _ smaller, toNat_letter (Nat.mod_lt _ (by omega))]
      omega

end Spreadsheet.Column
