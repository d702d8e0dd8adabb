import Mathlib
import Spreadsheet.Formula.Value
import Spreadsheet.Proofs.Formula.Numerals

/-!
# Displayed numbers

A number is shown as the decimal of eight places nearest to it, without the zeros at its end. What is
shown denotes the same rational number as all eight places do (`Decimal.denoted_trimPlaces`), and
these are at most half a unit of the last one away from the number
(`Decimal.abs_denoted_fixed_sub_le`). Zero has one form (`Decimal.IsDisplayed.eq_zero`). What is shown
has the syntax of a number, so it is read as one when it is typed in; the special numbers are read
back as themselves. Main statement: `Value.displayNumber_canonical`.
-/

namespace Spreadsheet

/-! ## Digits -/

namespace Text

variable {c : Char}

theorem natOfDigits_append (cs ds : List Char) :
    natOfDigits (cs ++ ds) = natOfDigits cs * 10 ^ ds.length + natOfDigits ds := by
  induction ds using List.reverseRecOn with
  | nil => simp
  | append_singleton ds c ih =>
    rw [← List.append_assoc, natOfDigits_concat, ih, natOfDigits_concat, List.length_append,
      List.length_singleton, pow_succ]
    ring

theorem natOfDigits_zeros (k : Nat) : natOfDigits (List.replicate k '0') = 0 := by
  induction k with
  | zero => rfl
  | succ k ih =>
    rw [List.replicate_succ', natOfDigits_concat, ih]
    rfl

theorem natOfDigits_append_zeros (cs : List Char) (k : Nat) :
    natOfDigits (cs ++ List.replicate k '0') = natOfDigits cs * 10 ^ k := by
  rw [natOfDigits_append, natOfDigits_zeros, List.length_replicate, Nat.add_zero]

/-- Digits that denote zero are zeros. -/
theorem eq_zero_of_natOfDigits {ds : List Char} (digits : ∀ c ∈ ds, c.isDigit = true)
    (zero : natOfDigits ds = 0) : ∀ c ∈ ds, c = '0' := by
  have dropped := dropWhile_zero digits
  rw [if_pos zero] at dropped
  intro c hc
  simpa using List.dropWhile_eq_nil_iff.1 dropped c hc

/-- A text is one that does not end in a zero, and zeros behind it. -/
theorem exists_append_zeros (cs : List Char) :
    ∃ front k, cs = front ++ List.replicate k '0' ∧ front.getLast? ≠ some '0' := by
  induction cs using List.reverseRecOn with
  | nil => exact ⟨[], 0, rfl, by simp⟩
  | append_singleton cs c ih =>
    by_cases zero : c = '0'
    · obtain ⟨front, k, rfl, last⟩ := ih
      exact ⟨front, k + 1, by rw [zero, List.append_assoc, ← List.replicate_succ'], last⟩
    · exact ⟨cs ++ [c], 0, by simp, by simp [zero]⟩

end Text

namespace Decimal

variable {negative : Bool} {cs ds es text : List Char} {places : Nat} {x : Float}

/-! ## Shown decimals -/

/-- The minus sign of a negative number. -/
def minus (negative : Bool) : List Char := if negative then ['-'] else []

/-- A point with places behind it; without places there is no point either. -/
def behindPoint (es : List Char) : List Char := if es = [] then [] else '.' :: es

/-- A zero alone, or digits that do not start with one. -/
structure IsWhole (ds : List Char) : Prop where
  ne_nil : ds ≠ []
  isDigit : ∀ c ∈ ds, c.isDigit = true
  head : ds.head? = some '0' → ds = ['0']

/-- The form of shown decimals: an optional minus sign, a whole number, and at most eight places, the
last of which is no zero. -/
inductive IsDisplayed : List Char → Prop
  | intro {negative : Bool} {ds es : List Char} (isWhole : IsWhole ds)
      (digits : ∀ c ∈ es, c.isDigit = true) (short : es.length ≤ Value.displayPlaces)
      (last : es.getLast? ≠ some '0') : IsDisplayed (minus negative ++ (ds ++ behindPoint es))

theorem isWhole_toDigits (n : Nat) : IsWhole (Nat.toDigits 10 n) where
  ne_nil := Nat.toDigits_ne_nil
  isDigit c hc := Nat.isDigit_of_mem_toDigits (by omega) (by omega) hc
  head zero := by
    have digits : ∀ c ∈ Nat.toDigits 10 n, c.isDigit = true :=
      fun c hc => Nat.isDigit_of_mem_toDigits (by omega) (by omega) hc
    have kept := Text.dropWhile_zero digits
    rw [Text.natOfDigits_toDigits] at kept
    by_cases none : n = 0
    · rw [none]
      rfl
    · -- a zero in front would be dropped
      obtain ⟨ds, eq⟩ := List.head?_eq_some_iff.1 zero
      rw [if_neg none, eq, List.dropWhile_cons_of_pos rfl] at kept
      have shorter := Lexer.length_span (· == '0') ds
      rw [kept, List.length_cons] at shorter
      omega

/-! ## What decimals denote -/

/-- The number that a decimal without sign denotes. -/
def magnitude (cs : List Char) : ℚ :=
  let behind := (cs.dropWhile Char.isDigit).drop 1
  Text.natOfDigits (cs.takeWhile Char.isDigit ++ behind) / 10 ^ behind.length

/-- The number that a decimal with an optional minus sign denotes. -/
def denoted : List Char → ℚ
  | '-' :: cs => -magnitude cs
  | cs => magnitude cs

/-- A number with its sign given apart. -/
def withSign (negative : Bool) (q : ℚ) : ℚ := if negative then -q else q

theorem withSign_eq_zero_iff {q : ℚ} : withSign negative q = 0 ↔ q = 0 := by
  cases negative <;> simp [withSign]

theorem magnitude_append (digits : ∀ c ∈ ds, c.isDigit = true) (es : List Char) :
    magnitude (ds ++ behindPoint es) = Text.natOfDigits (ds ++ es) / 10 ^ es.length := by
  have stops : ∀ c ∈ (behindPoint es).head?, c.isDigit = false := by
    intro c hc
    unfold behindPoint at hc
    split at hc <;> cases hc
    rfl
  obtain ⟨taken, left⟩ := Lexer.span_append digits stops
  have behind : (behindPoint es).drop 1 = es := by
    unfold behindPoint
    split
    · simp [*]
    · rfl
  simp only [magnitude, taken, left, behind]

/-- A whole number and places denote the number of all their digits, scaled by the places. -/
theorem denoted_append (h : IsWhole ds) (es : List Char) :
    denoted (minus negative ++ (ds ++ behindPoint es)) =
      withSign negative (Text.natOfDigits (ds ++ es) / 10 ^ es.length) := by
  rw [← magnitude_append h.isDigit]
  cases negative with
  | true => rfl
  | false =>
    obtain ⟨c, ds, rfl⟩ := List.exists_cons_of_ne_nil h.ne_nil
    have no_sign : c ≠ '-' := by
      rintro rfl
      exact absurd (h.isDigit '-' List.mem_cons_self) (by decide)
    simp [minus, denoted, withSign, no_sign]

theorem denoted_zero (negative : Bool) : denoted (minus negative ++ ['0']) = 0 := by
  have digits : Text.natOfDigits (['0'] ++ []) = 0 := rfl
  have isWhole : IsWhole ['0'] := isWhole_toDigits 0
  have whole : denoted (minus negative ++ (['0'] ++ behindPoint [])) = _ :=
    denoted_append isWhole []
  rw [digits, Nat.cast_zero, zero_div] at whole
  exact whole.trans (withSign_eq_zero_iff.2 rfl)

/-- **Zero has one form**, its sign aside. -/
theorem IsDisplayed.eq_zero (h : IsDisplayed text) (zero : denoted text = 0) :
    text = ['0'] ∨ text = ['-', '0'] := by
  obtain @⟨negative, ds, es, isWhole, digits, -, last⟩ := h
  rw [denoted_append isWhole, withSign_eq_zero_iff, div_eq_zero_iff] at zero
  have none : Text.natOfDigits (ds ++ es) = 0 := by
    exact_mod_cast zero.resolve_right (by positivity)
  have all : ∀ c ∈ ds ++ es, c.isDigit = true := by
    intro c hc
    exact (List.mem_append.1 hc).elim (isWhole.isDigit c) (digits c)
  have zeros := Text.eq_zero_of_natOfDigits all none
  have no_places : es = [] := by
    by_contra some_place
    obtain ⟨d, eq⟩ := Option.ne_none_iff_exists'.1 (mt List.getLast?_eq_none_iff.1 some_place)
    have listed := List.mem_append_right ds (List.mem_of_getLast? eq)
    exact last (by rw [eq, zeros d listed])
  obtain ⟨c, ds', eq⟩ := List.exists_cons_of_ne_nil isWhole.ne_nil
  have first : c = '0' := zeros c (by simp [eq])
  have single := isWhole.head (by rw [eq, first]; rfl)
  rw [no_places, single]
  cases negative
  · exact Or.inl rfl
  · exact Or.inr rfl

/-! ## All places -/

/-- All places of a number behind its whole part. -/
theorem exists_withPlaces (pos : 0 < places) (n : Nat) : ∃ es,
    withPlaces places n = Nat.toDigits 10 (n / 10 ^ places) ++ '.' :: es ∧
      (∀ c ∈ es, c.isDigit = true) ∧ es.length = places ∧
        Text.natOfDigits (Nat.toDigits 10 (n / 10 ^ places) ++ es) = n := by
  have below : n % 10 ^ places < 10 ^ places := Nat.mod_lt _ (by positivity)
  have short := Nat.toDigits_length 10 (n % 10 ^ places) places pos below
  let es := List.replicate (places - (Nat.toDigits 10 (n % 10 ^ places)).length) '0' ++
    Nat.toDigits 10 (n % 10 ^ places)
  have length : es.length = places := by
    rw [List.length_append, List.length_replicate]
    omega
  refine ⟨es, rfl, fun c hc => ?_, length, ?_⟩
  · rcases List.mem_append.1 hc with zero | digit
    · rw [List.eq_of_mem_replicate zero]
      rfl
    · exact Nat.isDigit_of_mem_toDigits (by omega) (by omega) digit
  · rw [Text.natOfDigits_append, length, Text.natOfDigits_append, Text.natOfDigits_zeros,
      Nat.zero_mul, Nat.zero_add, Text.natOfDigits_toDigits, Text.natOfDigits_toDigits]
    exact Nat.div_add_mod' n (10 ^ places)

theorem behindPoint_of_ne (h : es ≠ []) : behindPoint es = '.' :: es := if_neg h

/-- All places of a number denote its units. -/
theorem denoted_fixed (pos : 0 < places) (negative : Bool) (m : Nat) (e : Int) :
    denoted (fixed places negative m e) =
      withSign negative (unitsOf places m e / 10 ^ places) := by
  obtain ⟨es, eq, -, length, units⟩ := exists_withPlaces pos (unitsOf places m e)
  have some_place : es ≠ [] := by
    rintro rfl
    simp at length
    omega
  have rendering : fixed places negative m e =
      minus negative ++ (Nat.toDigits 10 (unitsOf places m e / 10 ^ places) ++ behindPoint es) := by
    rw [behindPoint_of_ne some_place, ← eq]
    rfl
  rw [rendering, denoted_append (isWhole_toDigits _), units, length]

/-- The number that is made of these parts. -/
def ofParts (negative : Bool) (mantissa : Nat) (exponent : Int) : ℚ :=
  withSign negative (mantissa * 2 ^ exponent)

/-- A rounded quotient is at most a half away from the quotient. -/
theorem abs_roundDiv_sub_le (n : Nat) {d : Nat} (pos : 0 < d) :
    |(roundDiv n d : ℚ) - n / d| ≤ 1 / 2 := by
  have pos' : (0 : ℚ) < d := by exact_mod_cast pos
  have quotient : (n : ℚ) / d = (n / d : Nat) + (n % d : Nat) / d := by
    rw [div_eq_iff pos'.ne', add_mul, div_mul_cancel₀ _ pos'.ne', mul_comm]
    exact_mod_cast (Nat.div_add_mod n d).symm
  have below : (n % d : Nat) / (d : ℚ) < 1 := by
    rw [div_lt_one pos']
    exact_mod_cast Nat.mod_lt n pos
  have nonneg : 0 ≤ (n % d : Nat) / (d : ℚ) := by positivity
  rw [quotient, roundDiv]
  split
  · rename_i up
    have half : 1 / 2 ≤ (n % d : Nat) / (d : ℚ) := by
      have twice : d ≤ 2 * (n % d) := by
        simp only [Bool.or_eq_true, decide_eq_true_eq, Bool.and_eq_true, beq_iff_eq] at up
        omega
      rw [div_le_div_iff₀ (by norm_num) pos', one_mul, mul_comm]
      exact_mod_cast twice
    rw [abs_le]
    push_cast
    constructor <;> linarith
  · rename_i down
    have half : (n % d : Nat) / (d : ℚ) ≤ 1 / 2 := by
      have twice : 2 * (n % d) ≤ d := by
        simp only [Bool.or_eq_true, decide_eq_true_eq, not_or] at down
        omega
      rw [div_le_div_iff₀ pos' (by norm_num), one_mul, mul_comm]
      exact_mod_cast twice
    rw [abs_le]
    constructor <;> linarith

theorem scale_pos {base num den : Nat} (base_pos : 0 < base) (den_pos : 0 < den) (e : Int) :
    0 < (scale base num den e).2 := by
  unfold scale
  split
  · exact Nat.mul_pos den_pos (Nat.pow_pos base_pos)
  · exact den_pos

/-- A scaled fraction is the fraction divided by the power. -/
theorem scale_eq {base num den : Nat} (base_pos : 0 < base) (e : Int) :
    ((scale base num den e).1 : ℚ) / (scale base num den e).2 = num / den / (base : ℚ) ^ e := by
  have ne : (base : ℚ) ≠ 0 := by exact_mod_cast base_pos.ne'
  unfold scale
  split
  · rename_i nonneg
    obtain ⟨k, rfl⟩ := Int.eq_ofNat_of_zero_le nonneg
    simp only [Int.toNat_natCast, zpow_natCast, Nat.cast_mul]
    rw [div_div]
    norm_cast
  · rename_i negative
    obtain ⟨k, rfl⟩ : ∃ k : Nat, e = -k := ⟨(-e).toNat, by omega⟩
    simp only [neg_neg, Int.toNat_natCast, zpow_neg, zpow_natCast, div_inv_eq_mul, Nat.cast_mul]
    rw [div_mul_eq_mul_div]
    norm_cast

/-- **All places of a number** are at most half a unit of the last one away from it. -/
theorem abs_denoted_fixed_sub_le (pos : 0 < places) (negative : Bool) (m : Nat) (e : Int) :
    |denoted (fixed places negative m e) - ofParts negative m e| ≤ 1 / 2 / 10 ^ places := by
  have power : (0 : ℚ) < 10 ^ places := by positivity
  have scaled : 0 < (scale 2 (m * Nat.pow 10 places) 1 (-e)).2 := scale_pos two_pos one_pos _
  have near := abs_roundDiv_sub_le (scale 2 (m * Nat.pow 10 places) 1 (-e)).1 scaled
  rw [scale_eq (by omega), zpow_neg, div_inv_eq_mul] at near
  have units : |(unitsOf places m e : ℚ) / 10 ^ places - m * 2 ^ e| ≤ 1 / 2 / 10 ^ places := by
    have common : (unitsOf places m e : ℚ) / 10 ^ places - m * 2 ^ e =
        (unitsOf places m e - m * 10 ^ places * 2 ^ e) / 10 ^ places := by
      field_simp
    rw [common, abs_div, abs_of_pos power]
    gcongr
    simpa [unitsOf] using near
  rw [denoted_fixed pos, ofParts]
  cases negative with
  | false => exact units
  | true =>
    simp only [withSign, if_true]
    rwa [neg_sub_neg, abs_sub_comm]

/-! ## Fewer places -/

/-- The zeros at the end go, and the point if no place is left. -/
theorem trimPlaces_append (front : ds.getLast? ≠ some '.') (digits : ∀ c ∈ es, c.isDigit = true)
    (last : es.getLast? ≠ some '0') (k : Nat) :
    Value.trimPlaces (ds ++ '.' :: (es ++ List.replicate k '0')) = ds ++ behindPoint es := by
  have zeros : ∀ c ∈ List.replicate k '0', (c == '0') = true := by
    intro c hc
    rw [List.eq_of_mem_replicate hc]
    rfl
  have reversed : (ds ++ '.' :: (es ++ List.replicate k '0')).reverse =
      List.replicate k '0' ++ (es.reverse ++ '.' :: ds.reverse) := by
    simp
  rw [Value.trimPlaces, reversed, List.dropWhile_append_of_pos zeros]
  rcases List.eq_nil_or_concat es with rfl | ⟨es, d, rfl⟩
  · have stays : ds.reverse.dropWhile (· == '.') = ds.reverse := by
      cases eq : ds.reverse with
      | nil => rfl
      | cons c cs =>
        refine List.dropWhile_cons_of_neg fun point => front ?_
        rw [← List.head?_reverse, eq, List.head?_cons, beq_iff_eq.1 point]
    rw [List.reverse_nil, List.nil_append, List.dropWhile_cons_of_neg (by simp),
      List.dropWhile_cons_of_pos (by simp), stays, List.reverse_reverse]
    simp [behindPoint]
  · have digit : d.isDigit = true := digits d (by simp)
    have not_point : d ≠ '.' := by
      rintro rfl
      cases digit
    have not_zero : d ≠ '0' := by simpa using last
    rw [List.concat_eq_append, List.reverse_append, List.reverse_singleton, List.singleton_append,
      List.cons_append, List.dropWhile_cons_of_neg (by simpa using not_zero),
      List.dropWhile_cons_of_neg (by simpa using not_point)]
    simp [behindPoint]

/-- **Without the zeros at its end** a rendering has the form of a shown decimal, and denotes what it
denoted with them. -/
theorem isDisplayed_trimPlaces (negative : Bool) (m : Nat) (e : Int) :
    let rendering := fixed Value.displayPlaces negative m e
    IsDisplayed (Value.trimPlaces rendering) ∧
      denoted (Value.trimPlaces rendering) = denoted rendering := by
  intro rendering
  have pos : 0 < Value.displayPlaces := by decide
  obtain ⟨es, eq, digits, length, units⟩ := exists_withPlaces pos (unitsOf Value.displayPlaces m e)
  have isWhole := isWhole_toDigits (unitsOf Value.displayPlaces m e / 10 ^ Value.displayPlaces)
  generalize Nat.toDigits 10 (unitsOf Value.displayPlaces m e / 10 ^ Value.displayPlaces) = ds
    at eq units isWhole
  obtain ⟨es, k, rfl, last⟩ := Text.exists_append_zeros es
  have front : (minus negative ++ ds).getLast? ≠ some '.' := by
    rw [List.getLast?_append_of_ne_nil _ isWhole.ne_nil]
    intro point
    exact absurd (isWhole.isDigit '.' (List.mem_of_getLast? point)) (by decide)
  have trimmed : Value.trimPlaces rendering = minus negative ++ (ds ++ behindPoint es) := by
    have parts : rendering = minus negative ++ ds ++ '.' :: (es ++ List.replicate k '0') := by
      rw [List.append_assoc, ← eq]
      rfl
    rw [parts, trimPlaces_append front (fun c hc => digits c (by simp [hc])) last, List.append_assoc]
  rw [List.length_append, List.length_replicate] at length
  rw [trimmed, denoted_fixed pos, denoted_append isWhole]
  refine ⟨.intro isWhole (fun c hc => digits c (by simp [hc])) (by omega) last, ?_⟩
  congr 1
  rw [← units, ← List.append_assoc, Text.natOfDigits_append_zeros, ← length, pow_add]
  push_cast
  field_simp

/-! ## Reading what is shown -/

theorem IsDisplayed.isNumber (h : IsDisplayed text) : IsNumber text := by
  obtain @⟨negative, ds, es, isWhole, digits, -, -⟩ := h
  have isSign : IsSign (minus negative) := by
    cases negative
    · exact .absent
    · exact .minus
  have numeral : Lexer.IsNumeral (ds ++ behindPoint es) := by
    unfold behindPoint
    split
    · rw [List.append_nil]
      exact .whole isWhole.ne_nil isWhole.isDigit
    · exact .fraction isWhole.ne_nil isWhole.isDigit digits
  rw [← List.append_nil (ds ++ behindPoint es)]
  exact .signed isSign (.decimal (.numeral numeral) .absent)

theorem IsDisplayed.of_mem (h : IsDisplayed text) {c : Char} (listed : c ∈ text) :
    c.isDigit = true ∨ c = '-' ∨ c = '.' := by
  obtain @⟨negative, ds, es, isWhole, digits, -, -⟩ := h
  rcases List.mem_append.1 listed with sign | behind
  · cases negative
    · cases sign
    · exact Or.inr (Or.inl (List.mem_singleton.1 sign))
  rcases List.mem_append.1 behind with whole | places
  · exact Or.inl (isWhole.isDigit c whole)
  · unfold behindPoint at places
    split at places
    · cases places
    · rcases List.mem_cons.1 places with point | digit
      · exact Or.inr (Or.inr point)
      · exact Or.inl (digits c digit)

/-- There are no blanks around what is shown, and it is no formula. -/
theorem IsDisplayed.plain (h : IsDisplayed text) :
    Text.trim text = text ∧ text.head? ≠ some '=' := by
  constructor
  · refine Text.trim_of_not_blank fun c hc => ?_
    rcases h.of_mem hc with digit | rfl | rfl
    · exact Text.not_isBlank_of_isDigit digit
    · rfl
    · rfl
  · intro formula
    rcases h.of_mem (List.mem_of_mem_head? formula) with digit | sign | point
    · cases digit
    · cases sign
    · cases point

/-! ## Special numbers -/

theorem toBits_of_infinite (h : parts x = .infinite negative) :
    x.toBits.toNat = (if negative then 2 ^ 63 else 0) + infinityBits := by
  have bound := x.toBits.toNat_lt
  simp only [parts] at h
  generalize x.toBits.toNat = bits at h bound
  split at h
  · split at h
    · rename_i field fraction
      cases h
      simp only [infinityBits, Nat.pow_eq] at field fraction ⊢
      split <;> rename_i sign <;> simp at sign <;> omega
    · cases h
  · split at h <;> cases h

/-- An infinite number is the one nearest to a fraction that is too large. -/
theorem nearest_of_infinite (h : parts x = .infinite negative) :
    nearest negative (Nat.pow 2 1024) 1 = x := by
  apply Float.toBits_inj.1
  apply UInt64.toNat_inj.1
  rw [toBits_of_infinite h]
  cases negative <;> decide +kernel

/-- There is one undefined number. -/
theorem ofBits_of_nan (h : parts x = .nan) : Float.ofBits 0x7FF8000000000000 = x := by
  have packed : (Float.ofBits 0x7FF8000000000000).toBits.toBitVec =
      Float.Model.UnpackedFloat.packedNaN .binary64 := by decide +kernel
  apply Float.toBits_inj.1
  apply UInt64.toBitVec_inj.1
  rw [packed]
  simp only [parts] at h
  split at h
  · split at h
    · cases h
    · rename_i field fraction
      refine (x.toModel.valid.eq_packedNaN ?_ fun zero => fraction ?_).symm
      · apply BitVec.eq_of_toNat_eq
        change (x.toBits.toNat >>> 52) % 2 ^ 11 = 2047
        rw [Nat.shiftRight_eq_div_pow]
        exact field
      · have low : (x.toBits.toNat >>> 0) % 2 ^ 52 = 0 := congrArg BitVec.toNat zero
        exact low
  · split at h <;> cases h

end Decimal

namespace Value

open Decimal

variable {x : Float} {negative : Bool} {m : Nat} {e : Int}

/-- The undefined number is shown as its name and read back as itself. -/
theorem displayNumber_of_nan (h : parts x = .nan) :
    displayNumber x = "NaN" ∧ tokenize (displayNumber x) = .ok [.number x] := by
  have shown : displayNumber x = "NaN" := by simp only [displayNumber, h]
  refine ⟨shown, ?_⟩
  rw [shown, tokenize_eq_number_iff (by decide), ← ofBits_of_nan h]
  rfl

/-- An infinite number is shown as its name and read back as itself. -/
theorem displayNumber_of_infinite (h : parts x = .infinite negative) :
    displayNumber x = (if negative then "-Infinity" else "Infinity") ∧
      tokenize (displayNumber x) = .ok [.number x] := by
  have shown : displayNumber x = if negative then "-Infinity" else "Infinity" := by
    simp only [displayNumber, h]
  refine ⟨shown, ?_⟩
  rw [shown, ← nearest_of_infinite h]
  cases negative
  · exact (tokenize_eq_number_iff (by decide)).2 rfl
  · exact (tokenize_eq_number_iff (by decide)).2 rfl

/-- A shown finite number has the form of one, is no negative zero, and denotes what all its places
denote. -/
theorem displayNumber_of_finite (h : parts x = .finite negative m e) :
    IsDisplayed (displayNumber x).toList ∧ displayNumber x ≠ "-0" ∧
      denoted (displayNumber x).toList = denoted (fixed displayPlaces negative m e) := by
  obtain ⟨displayed, same⟩ := isDisplayed_trimPlaces negative m e
  simp only [displayNumber, h]
  split
  · rename_i zero
    rw [zero] at same
    rw [← same]
    have shown : IsDisplayed (minus false ++ (Nat.toDigits 10 0 ++ behindPoint [])) :=
      .intro (isWhole_toDigits 0) (by simp) (by simp) (by simp)
    exact ⟨shown, by decide, (denoted_zero false).trans (denoted_zero true).symm⟩
  · rename_i not_zero
    rw [String.toList_ofList]
    refine ⟨displayed, fun eq => not_zero ?_, same⟩
    rw [← String.toList_ofList (l := trimPlaces _), eq]
    rfl

/-- A finite number is shown as a zero exactly if all its places are zeros. -/
theorem displayNumber_eq_zero_iff (h : parts x = .finite negative m e) :
    displayNumber x = "0" ↔ denoted (fixed displayPlaces negative m e) = 0 := by
  obtain ⟨displayed, no_negative_zero, same⟩ := displayNumber_of_finite h
  rw [← same]
  constructor
  · intro zero
    rw [zero]
    exact denoted_zero false
  · intro zero
    rcases displayed.eq_zero zero with eq | eq
    · exact String.toList_injective eq
    · exact absurd (String.toList_injective eq) no_negative_zero

/-- A shown finite number is read as a number when it is typed in. -/
theorem exists_tokenize_displayNumber (h : parts x = .finite negative m e) :
    ∃ y, tokenize (displayNumber x) = .ok [.number y] := by
  obtain ⟨displayed, -⟩ := displayNumber_of_finite h
  obtain ⟨trimmed, plain⟩ := displayed.plain
  obtain ⟨y, found⟩ := Lexer.exists_plainNumber?_iff.2 (trimmed ▸ displayed.isNumber)
  exact ⟨y, (tokenize_eq_number_iff plain).2 found⟩

/-- **Shown numbers.** A special number is shown as its name and read back as itself. A finite number
is shown as a decimal with an optional minus sign, a whole number without zeros in front and at most
eight places, the last of which is no zero, and never as a negative zero. What is shown denotes what
all eight places denote, which is at most half a unit of the last place away from the number; it is
zero exactly if all eight places are. When it is typed in, it is read as a number. -/
theorem displayNumber_canonical (x : Float) :
    match parts x with
    | .nan => displayNumber x = "NaN" ∧ tokenize (displayNumber x) = .ok [.number x]
    | .infinite negative =>
      displayNumber x = (if negative then "-Infinity" else "Infinity") ∧
        tokenize (displayNumber x) = .ok [.number x]
    | .finite negative m e =>
      let shown := (displayNumber x).toList
      let rendering := fixed displayPlaces negative m e
      (IsDisplayed shown ∧ displayNumber x ≠ "-0") ∧
        (denoted shown = denoted rendering ∧
          |denoted rendering - ofParts negative m e| ≤ 1 / 2 / 10 ^ displayPlaces) ∧
        (displayNumber x = "0" ↔ denoted rendering = 0) ∧
        ∃ y, tokenize (displayNumber x) = .ok [.number y] := by
  split
  · rename_i nan
    exact displayNumber_of_nan nan
  · rename_i negative infinite
    exact displayNumber_of_infinite infinite
  · rename_i negative m e finite
    obtain ⟨displayed, no_negative_zero, same⟩ := displayNumber_of_finite finite
    have near := abs_denoted_fixed_sub_le (by decide : 0 < displayPlaces) negative m e
    exact ⟨⟨displayed, no_negative_zero⟩, ⟨same, near⟩, displayNumber_eq_zero_iff finite,
      exists_tokenize_displayNumber finite⟩

end Value

end Spreadsheet
