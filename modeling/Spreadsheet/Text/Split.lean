/-!
# Splitting texts

A text is split at every occurrence of a character, or cut in two at the first. Main statements:
parts that each end in the character are found again, and a text is cut if and only if the character
occurs in it.
-/

namespace Spreadsheet.Text

/-- The parts of a text between the occurrences of `c`. -/
def splitOn (c : Char) : List Char → List (List Char)
  | [] => [[]]
  | x :: cs =>
    if x = c then [] :: splitOn c cs
    else
      match splitOn c cs with
      | [] => [[x]]
      | part :: parts => (x :: part) :: parts

/-- What is before and what is behind the first occurrence of `c`. -/
def cut? (c : Char) : List Char → Option (List Char × List Char)
  | [] => none
  | x :: cs => if x = c then some ([], cs) else (cut? c cs).map fun (a, b) => (x :: a, b)

/-- A part ends at the first separator behind it. -/
theorem splitOn_append {c : Char} {part : List Char} (h : c ∉ part) (rest : List Char) :
    splitOn c (part ++ c :: rest) = part :: splitOn c rest := by
  induction part with
  | nil => rw [List.nil_append, splitOn, if_pos rfl]
  | cons x part ih =>
    rw [List.mem_cons, not_or] at h
    rw [List.cons_append, splitOn, if_neg (Ne.symm h.1), ih h.2]

/-- Parts that each end in a separator are split into these parts and an empty one. -/
theorem splitOn_flatMap {c : Char} {parts : List (List Char)} (h : ∀ part ∈ parts, c ∉ part) :
    splitOn c (parts.flatMap (· ++ [c])) = parts ++ [[]] := by
  induction parts with
  | nil => rfl
  | cons part parts ih =>
    rw [List.forall_mem_cons] at h
    rw [List.flatMap_cons, List.append_assoc, List.singleton_append, splitOn_append h.1, ih h.2,
      List.cons_append]

theorem cut?_eq_some_iff {c : Char} {cs before behind : List Char} :
    cut? c cs = some (before, behind) ↔ c ∉ before ∧ cs = before ++ c :: behind := by
  induction cs generalizing before with
  | nil => simp [cut?]
  | cons x cs ih =>
    simp only [cut?]
    split
    · rename_i eq
      subst eq
      cases before with
      | nil => simp
      | cons y before => simp +contextual [eq_comm]
    · rename_i ne
      cases before with
      | nil => simp [ne]
      | cons y before =>
        simp only [Option.map_eq_some_iff, Prod.mk.injEq, List.cons.injEq, Prod.exists]
        constructor
        · rintro ⟨a, b, found, ⟨rfl, rfl⟩, rfl⟩
          have := ih.1 found
          simp [this.1, this.2, Ne.symm ne]
        · rintro ⟨absent, rfl, rfl⟩
          simp only [List.mem_cons, not_or] at absent
          exact ⟨before, behind, ih.2 ⟨absent.2, rfl⟩, ⟨rfl, rfl⟩, rfl⟩

end Spreadsheet.Text
