/-!
# Digit runs

The natural numbers that runs of digits denote, decimal ones or those of another base up to sixteen,
and those of them that fit a machine word, the range of every row, column and count. Main statements:
a run denotes ten times what it denotes without its last digit, and that digit; a number that fits a
machine word is read back from its decimal digits.
-/

namespace Spreadsheet.Text

/-- The value of a digit. -/
def digitValue (c : Char) : Nat :=
  c.toNat - '0'.toNat

/-- The number that a run of digits denotes; the empty run denotes zero. -/
def natOfDigits (cs : List Char) : Nat :=
  cs.foldl (fun n c => 10 * n + digitValue c) 0

@[simp] theorem natOfDigits_nil : natOfDigits [] = 0 := rfl

theorem natOfDigits_concat (cs : List Char) (c : Char) :
    natOfDigits (cs ++ [c]) = 10 * natOfDigits cs + digitValue c := by
  simp [natOfDigits]

/-- One past the largest number that a row, a column or a count may have, which is two to the power
of 64. -/
def wordLimit : Nat := 18446744073709551616

/-- A sum or a product of words, unless it leaves a word. -/
def word? (n : Nat) : Option Nat :=
  if n < wordLimit then some n else none

theorem word?_eq_some_iff {n m : Nat} : word? n = some m ↔ n = m ∧ n < wordLimit := by
  unfold word?
  split <;> simp [*]

/-- The number below `wordLimit` that a non-empty run of digits denotes. -/
def wordOfDigits? (cs : List Char) : Option Nat :=
  if !cs.isEmpty && cs.all Char.isDigit && natOfDigits cs < wordLimit then some (natOfDigits cs)
  else none

theorem wordOfDigits?_eq_some_iff {cs : List Char} {n : Nat} :
    wordOfDigits? cs = some n ↔
      cs ≠ [] ∧ (∀ c ∈ cs, c.isDigit = true) ∧ natOfDigits cs = n ∧ n < wordLimit := by
  unfold wordOfDigits?
  split <;> rename_i h <;> simp only [Bool.and_eq_true, Bool.not_eq_true', List.isEmpty_eq_false_iff,
    List.all_eq_true, decide_eq_true_eq, Option.some.injEq] at h ⊢
  · constructor
    · rintro rfl
      exact ⟨h.1.1, h.1.2, rfl, h.2⟩
    · exact fun r => r.2.2.1
  · constructor
    · intro none_eq
      cases none_eq
    · rintro ⟨ne, digits, rfl, bound⟩
      exact absurd ⟨⟨ne, digits⟩, bound⟩ h

/-! ## Written numbers -/

theorem digitValue_digitChar {d : Nat} (h : d < 10) : digitValue (Nat.digitChar d) = d := by
  have digits : ∀ d < 10, digitValue (Nat.digitChar d) = d := by decide
  exact digits d h

/-- The decimal digits of a number denote it. -/
theorem natOfDigits_toDigits (n : Nat) : natOfDigits (Nat.toDigits 10 n) = n := by
  induction n using Nat.strongRecOn with
  | ind n ih =>
    by_cases small : n < 10
    · rw [Nat.toDigits_of_lt_base small]
      simp [natOfDigits, digitValue_digitChar small]
    · have last : n % 10 < 10 := by omega
      rw [Nat.toDigits_of_base_le (by omega) (by omega), natOfDigits_concat, ih (n / 10) (by omega),
        digitValue_digitChar last]
      omega

/-- A number is read back from its decimal digits if it fits a machine word. -/
theorem wordOfDigits?_toDigits (n : Nat) :
    wordOfDigits? (Nat.toDigits 10 n) = if n < wordLimit then some n else none := by
  have digits : (Nat.toDigits 10 n).all Char.isDigit = true := by
    rw [List.all_eq_true]
    exact fun c hc => Nat.isDigit_of_mem_toDigits (by omega) (by omega) hc
  have not_empty : (Nat.toDigits 10 n).isEmpty = false := by
    simp [Nat.toDigits_ne_nil]
  simp [wordOfDigits?, natOfDigits_toDigits, digits, not_empty]

/-! ## Other bases -/

/-- The value of a hexadecimal digit. -/
def hexValue? (c : Char) : Option Nat :=
  if c.isDigit then some (digitValue c)
  else if 'a' ≤ c ∧ c ≤ 'f' then some (c.toNat - 'a'.toNat + 10)
  else if 'A' ≤ c ∧ c ≤ 'F' then some (c.toNat - 'A'.toNat + 10)
  else none

/-- The number that a run of digits of a base denotes, if they all are digits of that base. -/
def natOfBase? (base : Nat) (cs : List Char) : Option Nat :=
  cs.foldlM (fun n c => do
    let digit ← hexValue? c
    if digit < base then some (base * n + digit) else none) 0

end Spreadsheet.Text
