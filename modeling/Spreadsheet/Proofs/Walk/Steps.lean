import Mathlib.Logic.Relation
import Spreadsheet.Sheet.Evaluation

/-!
# The steps of a walk

What a step does depends on the cell in hand alone: the walk passes over it if it is known, computes
it if it was entered, and enters it otherwise (`Walk.step_walking_cases`). A walk and the one that it
moves to have the same run (`Walk.run_of_moves`).
-/

namespace Spreadsheet.Walk

open Relation

variable {s : Store} {w w' : Walk} {a : Address} {rest : List Address}

/-- The value of a cell is known to the walk. -/
def Knows (s : Store) (w : Walk) (a : Address) : Prop := (w.known? s a).isSome = true

theorem knows_iff : w.Knows s a ↔ a ∈ w.computed ∨ (s.cell a).cached ≠ none := by
  rw [Knows, known?, Std.ExtTreeMap.mem_iff_isSome_getElem?]
  cases w.computed[a]? <;> simp [Option.isSome_iff_ne_none]

theorem isOpen_iff : w.isOpen a = true ↔ a ∈ w.entered ∧ a ∉ w.computed := by
  rw [isOpen, Bool.and_eq_true, Std.ExtTreeSet.contains_iff_mem, Bool.not_eq_true',
    ← Bool.not_eq_true, Std.ExtTreeMap.contains_iff_mem]

/-! ## One step -/

theorem step_of_nil (stack : w.stack = []) : w.step s = .ended (.finished w) := by
  rw [step, stack]

/-- The walk passes over a known cell. -/
theorem step_of_known (stack : w.stack = a :: rest) (known : w.Knows s a) :
    w.step s = .walking { w with stack := rest } := by
  rw [step, stack]
  exact if_pos known

/-- The walk computes an entered cell. -/
theorem step_of_entered (stack : w.stack = a :: rest) (unknown : ¬w.Knows s a)
    (entered : a ∈ w.entered) :
    w.step s = .walking { w.compute s a with stack := rest } := by
  rw [step, stack]
  exact (if_neg unknown).trans (if_pos (Std.ExtTreeSet.contains_iff_mem.2 entered))

/-- The walk enters any other cell. -/
theorem step_of_new (stack : w.stack = a :: rest) (unknown : ¬w.Knows s a)
    (new : a ∉ w.entered) : w.step s = w.enter s a := by
  rw [step, stack]
  exact (if_neg unknown).trans (if_neg (mt Std.ExtTreeSet.contains_iff_mem.1 new))

/-- Entering a cell with an open reference meets a cycle at the first one. -/
theorem enter_of_some {target : Address} (found : (s.cell a).references.toList.find?
      ({ w with entered := w.entered.insert a } : Walk).isOpen = some target) :
    w.enter s a = .ended (.cycle target { w with entered := w.entered.insert a }) := by
  simp only [enter, found]

/-- Entering a cell without an open reference puts its references inside the bounds above it. -/
theorem enter_of_none (none_open : (s.cell a).references.toList.find?
      ({ w with entered := w.entered.insert a } : Walk).isOpen = none) :
    w.enter s a = .walking { w with
      entered := w.entered.insert a
      stack := ((s.cell a).references.toList.filter s.bounds.contains).reverse ++ w.stack } := by
  simp only [enter, none_open]

theorem eq_of_enter (h : w.enter s a = .walking w') : w' = { w with
    entered := w.entered.insert a
    stack := ((s.cell a).references.toList.filter s.bounds.contains).reverse ++ w.stack } := by
  cases found : (s.cell a).references.toList.find?
      ({ w with entered := w.entered.insert a } : Walk).isOpen with
  | some target => cases h.symm.trans (enter_of_some found)
  | none => exact Step.walking.inj (h.symm.trans (enter_of_none found))

/-- **All that a step can do** that does not end the walk. -/
theorem step_walking_cases (h : w.step s = .walking w') : ∃ a rest, w.stack = a :: rest ∧
    (w.Knows s a ∧ w' = { w with stack := rest } ∨
      ¬w.Knows s a ∧ a ∈ w.entered ∧ w' = { w.compute s a with stack := rest } ∨
      ¬w.Knows s a ∧ a ∉ w.entered ∧ w.enter s a = .walking w') := by
  match top : w.stack with
  | [] => cases h.symm.trans (step_of_nil top)
  | a :: rest =>
    refine ⟨a, rest, rfl, ?_⟩
    by_cases known : w.Knows s a
    · exact Or.inl ⟨known, Step.walking.inj (h.symm.trans (step_of_known top known))⟩
    by_cases entered : a ∈ w.entered
    · have computed := h.symm.trans (step_of_entered top known entered)
      exact Or.inr (Or.inl ⟨known, entered, Step.walking.inj computed⟩)
    · exact Or.inr (Or.inr ⟨known, entered, (step_of_new top known entered).symm.trans h⟩)

/-! ## Whole runs -/

theorem run_of_ended {r : Result} (h : w.step s = .ended r) : w.run s = r := by
  rw [run]
  split
  · rename_i r' found
    exact Step.ended.inj (found.symm.trans h)
  · rename_i w' found
    cases found.symm.trans h

theorem run_of_walking {w' : Walk} (h : w.step s = .walking w') : w.run s = w'.run s := by
  rw [run]
  split
  · rename_i r found
    cases found.symm.trans h
  · rename_i w'' found
    rw [Step.walking.inj (found.symm.trans h)]

/-- A step leads from one walk to the other. -/
def Moves (s : Store) (w w' : Walk) : Prop := w.step s = .walking w'

/-- A step enters a stored cell or shortens the stack, so no walk goes on for ever. -/
theorem wellFounded_moves (s : Store) : WellFounded (Function.swap (Moves s)) := by
  have measured := (Prod.lex Nat.lt_wfRel Nat.lt_wfRel).wf
  refine Subrelation.wf (fun move => ?_)
    (InvImage.wf (fun w : Walk => (s.unseen w.entered, w.stack.length)) measured)
  rcases step_progress move with smaller | ⟨same, shorter⟩
  · exact Prod.Lex.left _ _ smaller
  · rw [InvImage, same]
    exact Prod.Lex.right _ shorter

/-- Any steps lead to the same end. -/
theorem run_of_moves {w' : Walk} (moves : ReflTransGen (Moves s) w w') : w.run s = w'.run s := by
  induction moves with
  | refl => rfl
  | tail _ move ih => exact ih.trans (run_of_walking move)

end Spreadsheet.Walk
