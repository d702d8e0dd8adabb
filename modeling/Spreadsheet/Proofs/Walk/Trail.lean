import Mathlib
import Spreadsheet.Proofs.Walk.Resolution

/-!
# The length of a walk

The trail of a walk lists the walks that its steps lead through, up to the one whose step ends it.
Every walk has a trail (`exists_trail`). On a trail no cell is entered twice (`Trail.entries_once`)
and none is computed twice (`Trail.computations_once`). A step that enters a cell puts no more on
the stack than the cell reads, and every other step takes one address from it
(`Moves.stack_cases`); so the references of the entered cells bound what is put on the stack
(`Trail.pushes_le`) and the number of steps (`Trail.length_le`).
-/

namespace Spreadsheet.Walk

open Relation

variable {s : Store} {w w' : Walk} {root b c : Address} {trail : List Walk} {r : Result}

/-! ## What the next step does -/

/-- The cell that the next step enters, if it enters one. -/
def entering? (s : Store) (w : Walk) : Option Address :=
  w.stack.head?.filter fun a => !(w.known? s a).isSome && !w.entered.contains a

/-- The cell that the next step computes, if it computes one. -/
def computing? (s : Store) (w : Walk) : Option Address :=
  w.stack.head?.filter fun a => !(w.known? s a).isSome && w.entered.contains a

/-- The number of addresses that the next step puts on the stack. -/
def pushed (s : Store) (w : Walk) : Nat :=
  match w.step s with
  | .walking w' => w'.stack.length - w.stack.length
  | .ended _ => 0

/-- The walk at its end. -/
def Result.walk : Result → Walk
  | .finished w => w
  | .cycle _ w => w

theorem entering?_eq_some : w.entering? s = some c ↔
    w.stack.head? = some c ∧ ¬w.Knows s c ∧ c ∉ w.entered := by
  rw [entering?, Option.filter_eq_some_iff, Bool.and_eq_true, Bool.not_eq_true', Bool.not_eq_true',
    ← Bool.not_eq_true, ← Bool.not_eq_true, Std.ExtTreeSet.contains_iff_mem]
  rfl

theorem computing?_eq_some : w.computing? s = some c ↔ w.Computes s c := by
  rw [computing?, Option.filter_eq_some_iff, Bool.and_eq_true, Bool.not_eq_true',
    ← Bool.not_eq_true, Std.ExtTreeSet.contains_iff_mem]
  exact ⟨fun ⟨top, unknown, entered⟩ => ⟨top, unknown, entered⟩,
    fun ⟨top, unknown, entered⟩ => ⟨top, unknown, entered⟩⟩

/-- A step that enters a cell computes none. -/
theorem computing?_of_entering? (h : w.entering? s = some c) : w.computing? s = none := by
  obtain ⟨top, -, new⟩ := entering?_eq_some.1 h
  refine Option.eq_none_iff_forall_ne_some.2 fun b hb => ?_
  have computes := computing?_eq_some.1 hb
  exact new (Option.some.inj (top.symm.trans computes.top) ▸ computes.entered)

theorem pushed_of_moves (move : Moves s w w') :
    w.pushed s = w'.stack.length - w.stack.length := by
  rw [pushed, show w.step s = .walking w' from move]

/-- **All that a step can do** to the stack, the entered cells and the computed ones: it enters a
cell and puts addresses that the cell reads above it, or it takes one address away, and may compute
that cell. -/
theorem Moves.stack_cases (move : Moves s w w') :
    (∃ c, w.entering? s = some c ∧ w'.entered = w.entered.insert c ∧ w'.computed = w.computed ∧
      w.pushed s ≤ (s.cell c).references.size ∧
      w'.stack.length = w.stack.length + w.pushed s) ∨
    w.entering? s = none ∧ w'.entered = w.entered ∧ w.pushed s = 0 ∧
      w'.stack.length + 1 = w.stack.length ∧
      ∀ b, b ∈ w'.computed ↔ b ∈ w.computed ∨ w.computing? s = some b := by
  have grows := pushed_of_moves move
  obtain ⟨a, rest, top, cases⟩ := step_walking_cases move
  have hand : w.stack.head? = some a := by rw [top, List.head?_cons]
  have only : ∀ b, w.stack.head? = some b → b = a := fun b hb =>
    Option.some.inj (hb.symm.trans hand)
  rcases cases with ⟨known, rfl⟩ | ⟨unknown, entered, rfl⟩ | ⟨unknown, new, enters⟩
  · right
    have none_entered : w.entering? s = none := Option.eq_none_iff_forall_ne_some.2 fun b hb =>
      (entering?_eq_some.1 hb).2.1 (only b (entering?_eq_some.1 hb).1 ▸ known)
    have none_computed : ∀ b, w.computing? s ≠ some b := fun b hb =>
      (computing?_eq_some.1 hb).unknown (only b (computing?_eq_some.1 hb).top ▸ known)
    refine ⟨none_entered, rfl, by simp [grows, top], by simp [top], fun b => ?_⟩
    exact (or_iff_left (none_computed b)).symm
  · right
    have none_entered : w.entering? s = none := Option.eq_none_iff_forall_ne_some.2 fun b hb =>
      (entering?_eq_some.1 hb).2.2 (only b (entering?_eq_some.1 hb).1 ▸ entered)
    have computed : w.computing? s = some a := computing?_eq_some.2 ⟨hand, unknown, entered⟩
    refine ⟨none_entered, rfl, by simp [grows, top], by simp [top], fun b => ?_⟩
    rw [computed, Option.some.injEq]
    exact Framed.mem_computed_compute.trans or_comm
  · left
    have height : w'.stack.length =
        ((s.cell a).references.toList.filter s.bounds.contains).length + w.stack.length := by
      rw [eq_of_enter enters, List.length_append, List.length_reverse]
    have fewer : ((s.cell a).references.toList.filter s.bounds.contains).length ≤
        (s.cell a).references.size := by
      rw [← Std.ExtTreeSet.length_toList]
      exact List.length_filter_le _ _
    refine ⟨a, entering?_eq_some.2 ⟨hand, unknown, new⟩, ?_, ?_, by omega, by omega⟩
    · rw [eq_of_enter enters]
    · rw [eq_of_enter enters]

/-- **How a step can end** a walk: nothing is left in hand, or the cell that it enters reads an open
one. -/
theorem ended_cases (h : w.step s = .ended r) :
    (w.stack = [] ∧ r = .finished w) ∨ ∃ c target, w.entering? s = some c ∧
      r = .cycle target { w with entered := w.entered.insert c } := by
  by_cases empty : w.stack = []
  · exact Or.inl ⟨empty, Step.ended.inj (h.symm.trans (step_of_nil empty))⟩
  right
  obtain ⟨a, rest, top⟩ := List.exists_cons_of_ne_nil empty
  by_cases known : w.Knows s a
  · cases h.symm.trans (step_of_known top known)
  by_cases entered : a ∈ w.entered
  · cases h.symm.trans (step_of_entered top known entered)
  rw [step_of_new top known entered] at h
  simp only [enter] at h
  split at h
  · rename_i target found
    have hand : w.stack.head? = some a := by rw [top, List.head?_cons]
    exact ⟨a, target, entering?_eq_some.2 ⟨hand, known, entered⟩, (Step.ended.inj h).symm⟩
  · cases h

/-! ## Trails -/

/-- The walks that the steps from a walk lead through, up to the one that is ended. -/
inductive Trail (s : Store) : Walk → List Walk → Result → Prop
  | last {w : Walk} {r : Result} (h : w.step s = .ended r) : Trail s w [w] r
  | move {w w' : Walk} {trail : List Walk} {r : Result} (move : Moves s w w')
    (rest : Trail s w' trail r) : Trail s w (w :: trail) r

/-- **Every walk ends**, and its trail leads to what a run of it answers. -/
theorem exists_trail (s : Store) (w : Walk) : ∃ trail, Trail s w trail (w.run s) := by
  fun_induction run s w with
  | case1 w r found => exact ⟨[w], .last found⟩
  | case2 w w' found ih =>
    obtain ⟨trail, rest⟩ := ih
    exact ⟨w :: trail, .move found rest⟩

/-- The cells that the steps of a trail enter, in order. -/
def entries (s : Store) (trail : List Walk) : List Address := trail.filterMap (entering? s)

/-- The cells that the steps of a trail compute, in order. -/
def computations (s : Store) (trail : List Walk) : List Address := trail.filterMap (computing? s)

/-- The number of addresses that come on the stack on a trail, the asked one included. -/
def pushes (s : Store) (trail : List Walk) : Nat := 1 + (trail.map (pushed s)).sum

namespace Trail

/-- **What a step does to a new cell only, a trail does once to each cell**: what it did to some
cells is kept by all steps, so it is done to no such cell again. -/
theorem once (does? : Walk → Option Address) (done : Walk → Address → Prop)
    (new : ∀ {w b}, does? w = some b → ¬done w b)
    (moves : ∀ {w w'}, Moves s w w' → ∀ b, done w' b ↔ done w b ∨ does? w = some b)
    (ends : ∀ {w r}, w.step s = .ended r → ∀ b, done r.walk b ↔ done w b ∨ does? w = some b)
    (h : Trail s w trail r) : (trail.filterMap does?).Nodup ∧
      (∀ b ∈ trail.filterMap does?, ¬done w b) ∧
      ∀ b, done r.walk b ↔ done w b ∨ b ∈ trail.filterMap does? := by
  induction h with
  | @last w r h =>
    refine ⟨?_, fun b hb => new ?_, fun b => (ends h b).trans ?_⟩
    · cases found : does? w <;> simp [found]
    · simpa using hb
    · simp
  | @move w w' trail r move rest ih =>
    obtain ⟨nodup, fresh, marked⟩ := ih
    have before : ∀ b ∈ trail.filterMap does?, ¬done w b ∧ does? w ≠ some b := fun b hb =>
      not_or.1 (mt (moves move b).2 (fresh b hb))
    cases found : does? w with
    | none =>
      rw [List.filterMap_cons_none found]
      refine ⟨nodup, fun b hb => (before b hb).1, fun b => ?_⟩
      simp [marked, moves move, found]
    | some c =>
      rw [List.filterMap_cons_some found]
      refine ⟨List.nodup_cons.2 ⟨fun again => (before c again).2 found, nodup⟩, ?_, fun b => ?_⟩
      · exact List.forall_mem_cons.2 ⟨new found, fun b hb => (before b hb).1⟩
      · simp [marked, moves move, found, or_assoc, eq_comm]

/-- **No cell is entered twice**, and the cells that were entered are those of the trail. -/
theorem entries_once (h : Trail s w trail r) : (entries s trail).Nodup ∧
    (∀ b ∈ entries s trail, b ∉ w.entered) ∧
    ∀ b, b ∈ r.walk.entered ↔ b ∈ w.entered ∨ b ∈ entries s trail := by
  refine h.once (entering? s) (fun w b => b ∈ w.entered)
    (fun entering => (entering?_eq_some.1 entering).2.2) (fun move b => ?_) fun h b => ?_
  · rcases move.stack_cases with ⟨c, entering, entered, -⟩ | ⟨entering, entered, -⟩
    · rw [entered, entering, AddressSet.mem_insert_iff, Option.some.injEq, or_comm]
    · simp [entered, entering]
  · rcases ended_cases h with ⟨empty, rfl⟩ | ⟨c, target, entering, rfl⟩
    · simp [Result.walk, entering?, empty]
    · rw [Result.walk, entering, AddressSet.mem_insert_iff, Option.some.injEq, or_comm]

/-- **No cell is computed twice**, and the cells that were computed are those of the trail. -/
theorem computations_once (h : Trail s w trail r) : (computations s trail).Nodup ∧
    (∀ b ∈ computations s trail, b ∉ w.computed) ∧
    ∀ b, b ∈ r.walk.computed ↔ b ∈ w.computed ∨ b ∈ computations s trail := by
  refine h.once (computing? s) (fun w b => b ∈ w.computed) (fun computing computed => ?_)
    (fun move b => ?_) fun h b => ?_
  · exact (computing?_eq_some.1 computing).unknown (knows_iff.2 (Or.inl computed))
  · rcases move.stack_cases with ⟨c, entering, -, computed, -⟩ | ⟨-, -, -, -, computed⟩
    · simp [computed, computing?_of_entering? entering]
    · exact computed b
  · rcases ended_cases h with ⟨empty, rfl⟩ | ⟨c, target, entering, rfl⟩
    · simp [Result.walk, computing?, empty]
    · simp [Result.walk, computing?_of_entering? entering]

/-- **Only cells that are reached are entered**, if the cells in hand are reached. -/
theorem reached (h : Trail s w trail r) (stack : ∀ b ∈ w.stack, ReflTransGen s.Reads root b) :
    ∀ b ∈ entries s trail, ReflTransGen s.Reads root b := by
  have hand : ∀ {w : Walk} {b}, (∀ b ∈ w.stack, ReflTransGen s.Reads root b) →
      w.entering? s = some b → ReflTransGen s.Reads root b := fun stack entering =>
    stack _ (List.mem_of_head? (entering?_eq_some.1 entering).1)
  induction h with
  | last h =>
    intro b hb
    exact hand stack (by simpa [entries] using hb)
  | @move w w' trail r move rest ih =>
    intro b hb
    rw [entries, List.mem_filterMap] at hb
    obtain ⟨w₁, mem, entering⟩ := hb
    rcases List.mem_cons.1 mem with rfl | mem
    · exact hand stack entering
    · refine ih (fun c hc => ?_) b (List.mem_filterMap.2 ⟨w₁, mem, entering⟩)
      rcases mem_stack_step move hc with hc | ⟨d, hd, follows⟩
      · exact stack c hc
      · exact (stack d hd).tail follows.1

/-- **The references of the entered cells bound what is put on the stack.** -/
theorem pushes_le (h : Trail s w trail r) : pushes s trail ≤
    1 + ((entries s trail).map fun c => (s.cell c).references.size).sum := by
  rw [pushes, Nat.add_le_add_iff_left]
  induction h with
  | last h =>
    simp [pushed, h]
  | @move w w' trail r move rest ih =>
    rcases move.stack_cases with ⟨c, entering, -, -, few, -⟩ | ⟨entering, -, none_pushed, -⟩
    · rw [entries, List.filterMap_cons_some entering]
      simp only [List.map_cons, List.sum_cons]
      exact Nat.add_le_add few ih
    · rw [entries, List.filterMap_cons_none entering, List.map_cons, List.sum_cons, none_pushed,
        Nat.zero_add]
      exact ih

/-- **The references of the entered cells bound the length of the walk**: each step takes something
from the stack, or enters a cell and puts something on it. -/
theorem length_le (h : Trail s w trail r) : trail.length ≤
    1 + w.stack.length + ((entries s trail).map fun c => (s.cell c).references.size + 1).sum := by
  induction h with
  | last h =>
    simp only [List.length_singleton]
    omega
  | @move w w' trail r move rest ih =>
    rcases move.stack_cases with ⟨c, entering, -, -, few, higher⟩ | ⟨entering, -, -, lower, -⟩
    · rw [entries, List.filterMap_cons_some entering]
      simp only [List.length_cons, List.map_cons, List.sum_cons]
      rw [entries] at ih
      omega
    · rw [entries, List.filterMap_cons_none entering]
      simp only [List.length_cons]
      rw [entries] at ih
      omega

end Trail

end Spreadsheet.Walk
