import Spreadsheet.Proofs.Walk.Locality
import Spreadsheet.Proofs.Walk.Query

/-!
# Nothing is read before it is known

A walk computes a cell when it comes to it for the second time. By then each of its references
inside the bounds has a value (`Framed.knows_of_computes`), whatever the references of the store are
and whatever values it holds; and a walk that ends without a cycle knows the asked cell. So the
value that a walk would take for a reference that is not known is never taken: any other one in its
place leads to the same values (`Computes.eval_lookupOr`).
-/

namespace Spreadsheet

open Relation

namespace Walk

variable {s : Store} {P : Address → Value → Prop} {root a c : Address} {w w' : Walk}
  {next : Option Address} {fs : List Frame} {fallback : Address → Value}

/-- The walk is about to compute a cell: the cell in hand has been entered and has no value. -/
structure Computes (s : Store) (w : Walk) (c : Address) : Prop where
  top : w.stack.head? = some c
  unknown : ¬w.Knows s c
  entered : c ∈ w.entered

/-- The value of a reference, with another value in place of one that is not known. -/
def lookupOr (fallback : Address → Value) (s : Store) (w : Walk) (a : Address) : Value :=
  if s.bounds.contains a then (w.known? s a).getD (fallback a) else invalidAddress a

theorem lookup_eq_lookupOr (s : Store) (w : Walk) : w.lookup s = w.lookupOr unresolved s := rfl

/-- A known value is taken as it is, and so is the error of an address outside the bounds. -/
theorem lookupOr_eq_lookup (known : s.bounds.contains a = true → w.Knows s a) :
    w.lookupOr fallback s a = w.lookup s a := by
  rw [lookup_eq_lookupOr, lookupOr, lookupOr]
  split
  · rename_i inside
    obtain ⟨v, found⟩ := Option.isSome_iff_exists.1 (known inside)
    rw [found, Option.getD_some, Option.getD_some]
  · rfl

/-! ## Every walk on the way -/

/-- The invariant of a walk holds after any steps from its start. -/
theorem framed_of_moves (law : s.ValueLaw P) (inside : s.bounds.contains root = true)
    (moves : ReflTransGen (Moves s) (start root) w) : ∃ next fs, Framed s P root w next fs := by
  induction moves with
  | refl => exact ⟨_, _, framed_start root⟩
  | tail _ move ih =>
    obtain ⟨next, fs, framed⟩ := ih
    rcases framed.step_cases law inside with ⟨ended, -⟩ | ⟨_, _, _, _, ended, -⟩ | ⟨w', _, _, eq, h⟩
    · cases move.symm.trans ended
    · cases move.symm.trans ended
    · obtain rfl := Step.walking.inj (move.symm.trans eq)
      exact ⟨_, _, h⟩

/-- **What a step computes** is the value of the cell in hand, taken from what the walk knows. -/
theorem Moves.computed_cases (move : Moves s w w') : w'.computed = w.computed ∨
    ∃ c, w.Computes s c ∧
      w'.computed = w.computed.insert c ((s.cell c).expr.eval (w.lookup s)) := by
  obtain ⟨c, rest, top, cases⟩ := step_walking_cases move
  rcases cases with ⟨-, rfl⟩ | ⟨unknown, entered, rfl⟩ | ⟨-, -, enters⟩
  · exact Or.inl rfl
  · exact Or.inr ⟨c, ⟨by rw [top, List.head?_cons], unknown, entered⟩, rfl⟩
  · rw [eq_of_enter enters]
    exact Or.inl rfl

namespace Framed

/-- The next cell is not one to compute: it has a value or has not been entered. -/
theorem not_computes (h : Framed s P root w (some a) fs) (computes : w.Computes s c) : False := by
  have top := computes.top
  rw [h.stack] at top
  obtain rfl : a = c := Option.some.inj top
  exact h.not_mem_entered computes.unknown computes.entered

/-- **What a cell reads is known when the cell is computed**, if it lies inside the bounds. -/
theorem knows_of_computes (h : Framed s P root w next fs) (computes : w.Computes s c)
    {r : Address} (follows : s.Follows c r) : w.Knows s r := by
  match next, fs, h with
  | some a, fs, h => exact (h.not_computes computes).elim
  | none, ⟨a, b :: waiting⟩ :: fs, h => exact (h.take.not_computes computes).elim
  | none, ⟨a, []⟩ :: fs, h =>
    have top := computes.top
    rw [h.stack] at top
    obtain rfl : a = c := Option.some.inj top
    exact h.knows_references follows
  | none, [], h =>
    have top := computes.top
    rw [h.stack] at top
    cases top

end Framed

/-- **A walk reads nothing before it is known**: on the way from the asked cell, each reference
inside the bounds of a cell that is computed has a value. -/
theorem Computes.knows (computes : w.Computes s c) (inside : s.bounds.contains root = true)
    (moves : ReflTransGen (Moves s) (start root) w) {r : Address} (follows : s.Follows c r) :
    w.Knows s r := by
  obtain ⟨next, fs, framed⟩ := framed_of_moves Store.valueLaw_true inside moves
  exact framed.knows_of_computes computes follows

/-- So a computed value does not depend on what is taken for an unknown reference. -/
theorem Computes.eval_lookupOr (computes : w.Computes s c)
    (inside : s.bounds.contains root = true)
    (moves : ReflTransGen (Moves s) (start root) w) (linked : s.Linked)
    (fallback : Address → Value) :
    (s.cell c).expr.eval (w.lookupOr fallback s) = (s.cell c).expr.eval (w.lookup s) := by
  refine Expr.eval_congr fun r hr => lookupOr_eq_lookup fun contained => ?_
  rw [(linked.parsed c).expr, ← linked.references] at hr
  exact computes.knows inside moves ⟨hr, contained⟩

/-- A walk that ends without a cycle knows the asked cell. -/
theorem knows_of_finished (inside : s.bounds.contains root = true)
    (finished : (start root).run s = .finished w) : w.Knows s root := by
  have ends := run_ends (Store.valueLaw_true (s := s)) inside
  rw [finished] at ends
  cases ends with
  | finished known => exact known

end Walk

namespace Store

open Walk

/-- The walk for a cell with a value passes over it and has nothing left to do. -/
theorem run_of_cached {v : Value} (cached : (s.cell a).cached = some v) :
    (start a).run s = .finished { start a with stack := [] } ∧
      (start a).known? s a = some v := by
  have known : (start a).known? s a = some v := by
    rw [known?, start, Std.ExtTreeMap.getElem?_empty, cached]
  have skips : (start a).step s = .walking { start a with stack := [] } := by
    simp only [step, start] at known ⊢
    simp [known]
  exact ⟨by rw [run_of_walking skips, run_of_ended (r := .finished _) rfl], known⟩

/-- **What a walk knows of the asked cell is the answer** of the query, also where the value was
cached and the query needs no walk. -/
theorem value_of_walk (inside : s.bounds.contains a = true)
    (finished : (start a).run s = .finished w) :
    s.value a = (w.lookup s a, s.cacheAll w.computed) := by
  cases cached : (s.cell a).cached with
  | none => exact value_of_finished inside cached finished
  | some v =>
    obtain ⟨passed, known⟩ := run_of_cached cached
    obtain rfl := Result.finished.inj (finished.symm.trans passed)
    have answer : (start a).lookup s a = v := by
      rw [lookup, if_pos inside, known, Option.getD_some]
    rw [value_of_cached inside cached]
    exact Prod.ext answer.symm rfl

/-- A walk that meets a cycle starts at a cell without a value. -/
theorem uncached_of_cycle {target : Address} (found : (start a).run s = .cycle target w) :
    (s.cell a).cached = none := by
  cases cached : (s.cell a).cached with
  | none => rfl
  | some v => cases found.symm.trans (run_of_cached cached).1

end Store

end Spreadsheet
