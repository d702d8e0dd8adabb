import Mathlib
import Spreadsheet.Address.Name

/-!
# Names and addresses are in bijection

Every run of upper-case letters is the name of one column number, its number in bijective base 26,
and every number has one such name (`Column.value_letters`, `Column.letters_value`); numbers are
refused exactly if they do not fit a word. Every address whose numbers fit a word is read back from
its name, and what is read as an address is a name of it in either case of letters, with zeros in
front of the row number and blanks around it (`Address.naming_exact`).
-/

namespace Spreadsheet

/-! ## Columns -/

namespace Column

variable {cs : List Char} {c : Char} {n : Nat}

theorem isUpper_iff_toNat : c.isUpper = true ↔ 65 ≤ c.toNat ∧ c.toNat ≤ 90 := by
  simp [Char.isUpper, UInt32.le_iff_toNat_le, ← Char.toNat_val]

/-- The place of a letter in the alphabet, counted from one. -/
def rank (c : Char) : Nat := c.toNat - 'A'.toNat + 1

/-- The number that a run of letters denotes in bijective base 26. -/
def worth : List Char → Nat
  | [] => 0
  | c :: cs => rank c * 26 ^ cs.length + worth cs

theorem value_eq_worth (cs : List Char) : value cs = worth cs := by
  have onward : ∀ n, cs.foldl (fun n c => 26 * n + (c.toNat - 'A'.toNat + 1)) n =
      n * 26 ^ cs.length + worth cs := by
    induction cs with
    | nil => simp [worth]
    | cons c cs ih =>
      intro n
      rw [List.foldl_cons, ih, List.length_cons, worth, rank]
      ring
  simpa [value] using onward 0

theorem exists_letter (h : c.isUpper = true) : ∃ r < 26, letter r = c := by
  obtain ⟨low, high⟩ := isUpper_iff_toNat.1 h
  refine ⟨c.toNat - 65, by omega, ?_⟩
  have code : 'A'.toNat + (c.toNat - 65) = c.toNat := by
    have first : 'A'.toNat = 65 := rfl
    omega
  rw [letter, code, Char.ofNat_toNat]

theorem letters_concat (n : Nat) {r : Nat} (h : r < 26) :
    letters (26 * n + (r + 1)) = letters n ++ [letter r] := by
  have quotient : (26 * n + (r + 1) - 1) / 26 = n := by omega
  have remainder : (26 * n + (r + 1) - 1) % 26 = r := by omega
  rw [letters, if_neg (by omega), quotient, remainder]

/-- **Every run of upper-case letters** is the name of its number. -/
theorem letters_value (upper : ∀ c ∈ cs, c.isUpper = true) : letters (value cs) = cs := by
  induction cs using List.reverseRecOn with
  | nil => rw [value_nil, letters, if_pos rfl]
  | append_singleton cs c ih =>
    obtain ⟨r, small, rfl⟩ := exists_letter (upper c (by simp))
    have front : letters (value cs) = cs := ih fun c hc => upper c (by simp [hc])
    rw [value_concat, toNat_letter small, Nat.add_sub_cancel_left, letters_concat _ small, front]

theorem isUpper_of_mem_letters (h : c ∈ letters n) : c.isUpper = true := by
  induction n using Nat.strongRecOn with
  | ind n ih =>
    rw [letters] at h
    split at h
    · cases h
    · rcases List.mem_append.1 h with front | last
      · exact ih _ (by omega) front
      · have all : ∀ r : Fin 26, (letter r).isUpper = true := by decide
        rw [List.mem_singleton.1 last]
        exact all ⟨(n - 1) % 26, Nat.mod_lt _ (by omega)⟩

theorem letters_ne_nil (h : 0 < n) : letters n ≠ [] := by
  rw [letters, if_neg (by omega)]
  simp

/-- **Checks at every letter are one check at the end**: the number only grows from letter to
letter, so no step leaves a word if the last one does not. -/
theorem foldlM_addLetter?_eq_some_iff : cs.foldlM addLetter? 0 = some n ↔
    (∀ c ∈ cs, c.isUpper = true) ∧ value cs = n ∧ n < Text.wordLimit := by
  induction cs using List.reverseRecOn generalizing n with
  | nil =>
    have some : 0 < Text.wordLimit := by decide
    simp only [List.foldlM_nil, Option.pure_def, Option.some.injEq, List.not_mem_nil, false_imp_iff,
      implies_true, value_nil, true_and]
    exact ⟨fun zero => ⟨zero, zero ▸ some⟩, And.left⟩
  | append_singleton cs c ih =>
    rw [List.foldlM_append, Option.bind_eq_bind, Option.bind_eq_some_iff, value_concat]
    simp only [ih, List.foldlM_cons, List.foldlM_nil, bind_pure, addLetter?_eq_some_iff,
      List.forall_mem_append, List.forall_mem_singleton]
    constructor
    · rintro ⟨_, ⟨front, rfl, -⟩, last, sum, fits⟩
      exact ⟨⟨front, last⟩, sum, fits⟩
    · rintro ⟨⟨front, last⟩, sum, fits⟩
      exact ⟨value cs, ⟨front, rfl, by omega⟩, last, sum, fits⟩

theorem number?_eq_some_iff : number? cs = some n ↔
    cs ≠ [] ∧ (∀ c ∈ cs, c.isUpper = true) ∧ value cs = n ∧ n < Text.wordLimit := by
  unfold number?
  split
  · rename_i empty
    simp [List.isEmpty_iff.1 empty]
  · rename_i some
    rw [foldlM_addLetter?_eq_some_iff, List.isEmpty_iff] at *
    exact (and_iff_right some).symm

/-- A number that fits a word is read back from its letters. -/
theorem number?_letters (pos : 0 < n) (bound : n < Text.wordLimit) :
    number? (letters n) = some n :=
  number?_eq_some_iff.2
    ⟨letters_ne_nil pos, fun _ => isUpper_of_mem_letters, value_letters n, bound⟩

/-- The greatest number with a name of some length. -/
def greatest : Nat → Nat
  | 0 => 0
  | k + 1 => 26 * greatest k + 26

/-- **The length of a name** is the least one that its number allows. -/
theorem length_letters_le_iff {k : Nat} : (letters n).length ≤ k ↔ n ≤ greatest k := by
  induction k generalizing n with
  | zero =>
    rcases Nat.eq_zero_or_pos n with rfl | pos
    · rw [letters, if_pos rfl]
      simp [greatest]
    · have some : 0 < (letters n).length := List.length_pos_iff.2 (letters_ne_nil pos)
      simp only [greatest]
      omega
  | succ k ih =>
    rcases Nat.eq_zero_or_pos n with rfl | pos
    · rw [letters, if_pos rfl]
      simp
    · rw [letters, if_neg (by omega), List.length_append, List.length_singleton,
        Nat.add_le_add_iff_right, ih, greatest]
      omega

theorem value_pos (ne : cs ≠ []) (upper : ∀ c ∈ cs, c.isUpper = true) : 0 < value cs := by
  refine Nat.pos_of_ne_zero fun zero => ne ?_
  rw [← letters_value upper, zero, letters, if_pos rfl]

end Column

/-! ## Rows -/

namespace Text

variable {ds : List Char} {c : Char}

theorem digitValue_lt (h : c.isDigit = true) : digitValue c < 10 := by
  have bounds := Char.isDigit_iff_toNat.1 h
  have zero : '0'.toNat = 48 := rfl
  have nine : '9'.toNat = 57 := rfl
  unfold digitValue
  omega

theorem digitChar_digitValue (h : c.isDigit = true) : Nat.digitChar (digitValue c) = c := by
  have bounds := Char.isDigit_iff_toNat.1 h
  have zero : '0'.toNat = 48 := rfl
  apply Char.toNat_inj.1
  rw [Nat.toNat_digitChar_of_lt_ten (digitValue_lt h)]
  unfold digitValue
  omega

/-- **Without the zeros in front** a run of digits is the decimal of its number. -/
theorem dropWhile_zero (digits : ∀ c ∈ ds, c.isDigit = true) :
    ds.dropWhile (· == '0') =
      if natOfDigits ds = 0 then [] else Nat.toDigits 10 (natOfDigits ds) := by
  induction ds using List.reverseRecOn with
  | nil => rfl
  | append_singleton ds c ih =>
    have digit : c.isDigit = true := digits c (by simp)
    have small := digitValue_lt digit
    rw [List.dropWhile_append, ih fun c hc => digits c (by simp [hc]), natOfDigits_concat]
    by_cases zeros : natOfDigits ds = 0
    · rw [if_pos zeros, zeros, List.isEmpty_nil, if_pos rfl, Nat.mul_zero, Nat.zero_add]
      by_cases zero : digitValue c = 0
      · have eq : c = '0' := by
          rw [← digitChar_digitValue digit, zero]
          rfl
        rw [if_pos zero, eq]
        rfl
      · have ne : c ≠ '0' := by
          rintro rfl
          exact zero rfl
        rw [if_neg zero, Nat.toDigits_of_lt_base small, digitChar_digitValue digit]
        simp [ne]
    · have some : (Nat.toDigits 10 (natOfDigits ds)).isEmpty = false := by
        simp [Nat.toDigits_ne_nil]
      have last : Nat.toDigits 10 (natOfDigits ds) ++ [c] =
          Nat.toDigits 10 (10 * natOfDigits ds + digitValue c) := by
        rw [← Nat.toDigits_append_toDigits (by omega) (by omega) small,
          Nat.toDigits_of_lt_base small, digitChar_digitValue digit]
      rw [if_neg zeros, some, if_neg (by simp), if_neg (by omega), last]

/-! ## Blanks -/

/-- A text without blanks has none at its ends. -/
theorem trim_of_not_blank {cs : List Char} (h : ∀ c ∈ cs, isBlank c = false) : trim cs = cs := by
  have no_front : ∀ {ds : List Char}, (∀ c ∈ ds, isBlank c = false) → ds.dropWhile isBlank = ds := by
    intro ds h
    cases ds with
    | nil => rfl
    | cons c ds => rw [List.dropWhile_cons_of_neg (by simp [h c List.mem_cons_self])]
  rw [trim, trimEnd, no_front h, no_front fun c hc => h c (List.mem_reverse.1 hc),
    List.reverse_reverse]

theorem not_isBlank_of_isUpper (h : c.isUpper = true) : isBlank c = false := by
  obtain ⟨low, high⟩ := Column.isUpper_iff_toNat.1 h
  simp [isBlank]
  omega

theorem not_isBlank_of_isDigit (h : c.isDigit = true) : isBlank c = false := by
  have bounds := Char.isDigit_iff_toNat.1 h
  have zero : '0'.toNat = 48 := rfl
  have nine : '9'.toNat = 57 := rfl
  simp [isBlank]
  omega

end Text

/-! ## Names -/

namespace Address

variable {s : String} {a : Address} {letters digits : List Char}

theorem toList_name (a : Address) :
    a.name.toList = Column.letters (a.col + 1) ++ Nat.toDigits 10 a.rowNumber := by
  rw [name, String.toList_append, String.toList_ofList, Nat.toString_eq_repr, Nat.toList_repr]

theorem toList_name_of_lt (h : a.row + 1 < Text.wordLimit) :
    a.name.toList = Column.letters (a.col + 1) ++ Nat.toDigits 10 (a.row + 1) := by
  rw [toList_name, rowNumber_of_lt h]

theorem ofParts?_eq_some_iff : ofParts? letters digits = some a ↔
    Column.number? (letters.map Char.toUpper) = some (a.col + 1) ∧
      Text.wordOfDigits? digits = some (a.row + 1) := by
  unfold ofParts?
  constructor
  · intro h
    split at h
    · rename_i column row
      cases h
      exact ⟨column, row⟩
    · cases h
  · rintro ⟨column, row⟩
    rw [column, row]

/-- A text is a name, blanks around it aside: letters for a column number and digits for a row
number, each at least one and below the limit of a word. -/
structure IsName (s : String) (letters digits : List Char) : Prop where
  text : Text.trim s.toList = letters ++ digits
  letters_ne_nil : letters ≠ []
  digits_ne_nil : digits ≠ []
  isAlpha : ∀ c ∈ letters, c.isAlpha = true
  isDigit : ∀ c ∈ digits, c.isDigit = true
  column_pos : 0 < Column.worth (letters.map Char.toUpper)
  column_lt : Column.worth (letters.map Char.toUpper) < 2 ^ 64
  row_pos : 0 < Text.natOfDigits digits
  row_lt : Text.natOfDigits digits < 2 ^ 64

namespace IsName

theorem takeWhile_eq (h : IsName s letters digits) :
    (Text.trim s.toList).takeWhile Char.isAlpha = letters := by
  rw [h.text, List.takeWhile_append_of_pos h.isAlpha]
  cases digits with
  | nil => simp
  | cons d ds =>
    have digit := h.isDigit d List.mem_cons_self
    have not_alpha : d.isAlpha = false := by
      have bounds := Char.isDigit_iff_toNat.1 digit
      have nine : '9'.toNat = 57 := rfl
      have code : d.toNat = d.val.toNat := rfl
      simp [Char.isAlpha, Char.isUpper, Char.isLower, UInt32.le_iff_toNat_le]
      omega
    rw [List.takeWhile_cons_of_neg (by simp [not_alpha]), List.append_nil]

theorem dropWhile_eq (h : IsName s letters digits) :
    (Text.trim s.toList).dropWhile Char.isAlpha = digits := by
  have parts := (Text.trim s.toList).takeWhile_append_dropWhile (p := Char.isAlpha)
  rw [h.takeWhile_eq] at parts
  exact List.append_cancel_left (parts.trans h.text)

/-- A name is read as the address with its two numbers. -/
theorem ofName?_eq (h : IsName s letters digits) : ofName? s = some
    ⟨Text.natOfDigits digits - 1, Column.worth (letters.map Char.toUpper) - 1⟩ := by
  rw [ofName?, h.takeWhile_eq, h.dropWhile_eq, ofParts?_eq_some_iff, Column.number?_eq_some_iff,
    Text.wordOfDigits?_eq_some_iff, Column.value_eq_worth]
  dsimp only
  have column : Column.worth (letters.map Char.toUpper) - 1 + 1 =
      Column.worth (letters.map Char.toUpper) := Nat.sub_add_cancel h.column_pos
  have row : Text.natOfDigits digits - 1 + 1 = Text.natOfDigits digits :=
    Nat.sub_add_cancel h.row_pos
  rw [column, row]
  refine ⟨⟨?_, ?_, rfl, h.column_lt⟩, h.digits_ne_nil, h.isDigit, rfl, h.row_lt⟩
  · simpa using h.letters_ne_nil
  · intro c listed
    obtain ⟨d, hd, rfl⟩ := List.mem_map.1 listed
    rw [Char.isUpper_toUpper_eq_isAlpha]
    exact h.isAlpha d hd

/-- The name of the address that is read is the text itself, with upper-case letters and without
zeros in front of the row number. -/
theorem toList_name (h : IsName s letters digits) (found : ofName? s = some a) :
    a.name.toList = letters.map Char.toUpper ++ digits.dropWhile (· == '0') := by
  obtain rfl : Address.mk _ _ = a := Option.some.inj (h.ofName?_eq.symm.trans found)
  have upper : ∀ c ∈ letters.map Char.toUpper, c.isUpper = true := by
    intro c listed
    obtain ⟨d, hd, rfl⟩ := List.mem_map.1 listed
    rw [Char.isUpper_toUpper_eq_isAlpha]
    exact h.isAlpha d hd
  have row : Text.natOfDigits digits - 1 + 1 = Text.natOfDigits digits :=
    Nat.sub_add_cancel h.row_pos
  rw [toList_name_of_lt (row ▸ h.row_lt)]
  dsimp only
  rw [Nat.sub_add_cancel h.column_pos, row, ← Column.value_eq_worth, Column.letters_value upper,
    Text.dropWhile_zero h.isDigit, if_neg (Nat.ne_of_gt h.row_pos)]

end IsName

/-- What is read as an address is a name. -/
theorem exists_isName (h : ofName? s = some a) : ∃ letters digits, IsName s letters digits := by
  rw [ofName?, ofParts?_eq_some_iff, Column.number?_eq_some_iff, Text.wordOfDigits?_eq_some_iff,
    Column.value_eq_worth] at h
  obtain ⟨⟨letters_ne, -, column, column_lt⟩, digits_ne, digits, row, row_lt⟩ := h
  exact ⟨_, _, {
    text := (List.takeWhile_append_dropWhile).symm
    letters_ne_nil := by simpa using letters_ne
    digits_ne_nil := digits_ne
    isAlpha := fun c hc => List.mem_takeWhile_imp hc
    isDigit := digits
    column_pos := by omega
    column_lt := by rwa [column]
    row_pos := by omega
    row_lt := by rwa [row] }⟩

theorem map_toUpper_letters (n : Nat) :
    (Column.letters n).map Char.toUpper = Column.letters n := by
  refine (List.map_congr_left fun c hc => ?_).trans (List.map_id _)
  exact Char.toUpper_eq_of_not_isLower
    (Char.not_isLower_of_isUpper (Column.isUpper_of_mem_letters hc))

/-- The name of an address whose numbers fit a word is one. -/
theorem isName_name (row : a.row ≤ 2 ^ 64 - 2) (col : a.col ≤ 2 ^ 64 - 2) :
    IsName a.name (Column.letters (a.col + 1)) (Nat.toDigits 10 (a.row + 1)) where
  text := by
    have fits : a.row + 1 < Text.wordLimit := Nat.lt_of_le_of_lt (Nat.succ_le_succ row) (by decide)
    rw [toList_name_of_lt fits]
    refine Text.trim_of_not_blank fun c hc => ?_
    rcases List.mem_append.1 hc with letter | digit
    · exact Text.not_isBlank_of_isUpper (Column.isUpper_of_mem_letters letter)
    · exact Text.not_isBlank_of_isDigit (Nat.isDigit_of_mem_toDigits (by omega) (by omega) digit)
  letters_ne_nil := Column.letters_ne_nil (Nat.succ_pos _)
  digits_ne_nil := Nat.toDigits_ne_nil
  isAlpha c hc := by rw [Char.isAlpha, Column.isUpper_of_mem_letters hc, Bool.true_or]
  isDigit c hc := Nat.isDigit_of_mem_toDigits (by omega) (by omega) hc
  column_pos := by
    rw [map_toUpper_letters, ← Column.value_eq_worth, Column.value_letters]
    exact Nat.succ_pos _
  column_lt := by
    rw [map_toUpper_letters, ← Column.value_eq_worth, Column.value_letters]
    omega
  row_pos := by
    rw [Text.natOfDigits_toDigits]
    exact Nat.succ_pos _
  row_lt := by
    rw [Text.natOfDigits_toDigits]
    omega

/-- **An address is read back from its name** if its numbers fit a word. -/
theorem ofName?_name (row : a.row ≤ 2 ^ 64 - 2) (col : a.col ≤ 2 ^ 64 - 2) :
    ofName? a.name = some a := by
  rw [(isName_name row col).ofName?_eq, map_toUpper_letters, ← Column.value_eq_worth,
    Column.value_letters, Text.natOfDigits_toDigits]
  rfl

/-- **Names and addresses.** Columns from 1 up to the limit of a word are read back from their
letters, and a run of upper-case letters is read exactly if its number in bijective base 26 is below
that limit, as the column of which it is the name. Addresses whose numbers fit a word are read back
from their names. What is read as an address are the texts that are names, blanks around them aside,
and the name of what is read is the text with upper-case letters and without zeros in front of the
row number. -/
theorem naming_exact :
    (∀ n, 0 < n → n < 2 ^ 64 → Column.number? (Column.letters n) = some n) ∧
    (∀ cs : List Char, cs ≠ [] → (∀ c ∈ cs, c.isUpper = true) → ∀ n,
      (Column.number? cs = some n ↔ Column.worth cs = n ∧ n < 2 ^ 64) ∧
        (Column.number? cs = some n → Column.letters n = cs)) ∧
    (∀ a : Address, a.row ≤ 2 ^ 64 - 2 → a.col ≤ 2 ^ 64 - 2 → ofName? a.name = some a) ∧
    (∀ s a, ofName? s = some a → ∃ letters digits, IsName s letters digits ∧
      a.name.toList = letters.map Char.toUpper ++ digits.dropWhile (· == '0')) ∧
    ∀ s, (∃ a, ofName? s = some a) ↔ ∃ letters digits, IsName s letters digits := by
  refine ⟨fun n => Column.number?_letters, fun cs ne upper n => ⟨?_, fun found => ?_⟩,
    fun a => ofName?_name, fun s a found => ?_, fun s => ⟨?_, ?_⟩⟩
  · rw [Column.number?_eq_some_iff, ← Column.value_eq_worth]
    exact ⟨fun h => h.2.2, fun h => ⟨ne, upper, h⟩⟩
  · obtain ⟨-, -, rfl, -⟩ := Column.number?_eq_some_iff.1 found
    exact Column.letters_value upper
  · obtain ⟨letters, digits, isName⟩ := exists_isName found
    exact ⟨letters, digits, isName, isName.toList_name found⟩
  · rintro ⟨a, found⟩
    exact exists_isName found
  · rintro ⟨letters, digits, isName⟩
    exact ⟨_, isName.ofName?_eq⟩

/-- The last column and the last address whose numbers fit a word, and a name with blanks, lower-case
letters and zeros. -/
theorem naming_last :
    let last := ['G', 'K', 'G', 'W', 'B', 'Y', 'L', 'W', 'R', 'X', 'T', 'L', 'P', 'O']
    let corner : Address := ⟨2 ^ 64 - 2, 2 ^ 64 - 2⟩
    Column.number? (Column.letters (2 ^ 64 - 1)) = some (2 ^ 64 - 1) ∧
      (last ≠ [] ∧ (∀ c ∈ last, c.isUpper = true) ∧ Column.number? last = some (2 ^ 64 - 1) ∧
        Column.letters (2 ^ 64 - 1) = last) ∧
      ofName? corner.name = some corner ∧
      ofName? " ab007\n" = some ⟨6, 27⟩ ∧ ∃ letters digits, IsName " ab007\n" letters digits ∧
        (Address.mk 6 27).name.toList = letters.map Char.toUpper ++ digits.dropWhile (· == '0') := by
  intro last corner
  obtain ⟨columns, names, addresses, read, -⟩ := naming_exact
  have ne : last ≠ [] := by decide
  have upper : ∀ c ∈ last, c.isUpper = true := List.all_eq_true.1 rfl
  have worth : Column.worth last = 2 ^ 64 - 1 := rfl
  have number : Column.number? last = some (2 ^ 64 - 1) :=
    (names last ne upper _).1.2 ⟨worth, by omega⟩
  have found : ofName? " ab007\n" = some ⟨6, 27⟩ := rfl
  exact ⟨columns _ (by omega) (by omega), ⟨ne, upper, number, (names last ne upper _).2 number⟩,
    addresses corner (Nat.le_refl _) (Nat.le_refl _), found, read _ _ found⟩

end Address

end Spreadsheet
