import Spreadsheet.Sheet.Unseen

/-!
# Evaluation

A value is computed on demand by a walk with an explicit stack. A cell is entered when it first
comes to the top, and its references inside the bounds are put above it; when it comes to the top
again they have their values, and it is computed. A cell with a known value is passed over. A cell
that reads an entered cell which is not yet computed closes a cycle: the walk ends, and the asked
cell and each cell of the cycle get the cycle error.

The walk only reads the store. What it has computed is kept beside it and written back at the end,
also after a cycle. `Walk.step` is one step; every step enters a stored cell or pops the stack, so
`Walk.run` ends.
-/

namespace Spreadsheet

/-- The value of a reference outside the bounds. -/
def invalidAddress (a : Address) : Value :=
  .error ("Invalid address " ++ a.name)

/-- The value of a reference that is read before it is known. -/
def unresolved (a : Address) : Value :=
  .error ("Unresolved reference " ++ a.name)

/-- The value of a cell caught in a cycle of references. -/
def cycleError : Value :=
  .error "Part of reference cycle"

/-- A walk that computes values: the cells in hand, the next one first, the cells entered so far,
and the values computed so far. -/
structure Walk where
  stack : List Address
  entered : AddressSet
  computed : AddressMap Value

namespace Walk

/-- The walk from one address. -/
def start (a : Address) : Walk := ⟨[a], ∅, ∅⟩

/-- The value of a cell, if it has been computed in this walk or before it. -/
def known? (s : Store) (w : Walk) (a : Address) : Option Value :=
  match w.computed[a]? with
  | some v => some v
  | none => (s.cell a).cached

/-- The value of a reference. -/
def lookup (s : Store) (w : Walk) (a : Address) : Value :=
  if s.bounds.contains a then (w.known? s a).getD (unresolved a) else invalidAddress a

/-- Whether a cell has been entered and waits for its references. -/
def isOpen (w : Walk) (a : Address) : Bool :=
  w.entered.contains a && !w.computed.contains a

/-- How a walk ends. -/
inductive Result where
  | finished (w : Walk)
  | cycle (target : Address) (w : Walk)

/-- What a step of a walk leads to. -/
inductive Step where
  | walking (w : Walk)
  | ended (r : Result)

/-- Enters a cell: it stays in hand, and its references inside the bounds are put above it, unless
one of them is open. -/
def enter (s : Store) (w : Walk) (a : Address) : Step :=
  let w := { w with entered := w.entered.insert a }
  let references := (s.cell a).references.toList
  match references.find? w.isOpen with
  | some target => .ended (.cycle target w)
  | none =>
    .walking { w with stack := (references.filter s.bounds.contains).reverse ++ w.stack }

/-- Computes an entered cell from its references. -/
def compute (s : Store) (w : Walk) (a : Address) : Walk :=
  { w with computed := w.computed.insert a ((s.cell a).expr.eval (w.lookup s)) }

/-- Treats the cell in hand. -/
def step (s : Store) (w : Walk) : Step :=
  match w.stack with
  | [] => .ended (.finished w)
  | a :: rest =>
    if (w.known? s a).isSome then .walking { w with stack := rest }
    else if w.entered.contains a then .walking { w.compute s a with stack := rest }
    else w.enter s a

theorem step_progress {s : Store} {w w' : Walk} (h : w.step s = .walking w') :
    s.unseen w'.entered < s.unseen w.entered ∨
      w'.entered = w.entered ∧ w'.stack.length < w.stack.length := by
  unfold step at h
  split at h
  · cases h
  · rename_i a rest stack_eq
    split at h
    · injection h with h
      subst h
      right
      simp [stack_eq]
    · rename_i unknown
      split at h
      · injection h with h
        subst h
        right
        simp [stack_eq, compute]
      · rename_i new
        left
        have uncached : (s.cell a).cached = none := by
          unfold known? at unknown
          split at unknown
          · simp at unknown
          · simpa using unknown
        have stored := Store.mem_of_cached_eq_none uncached
        simp only [enter] at h
        split at h
        · cases h
        · injection h with h
          subst h
          exact Store.unseen_insert_lt stored (by simpa using new)

/-- Runs a walk to its end. -/
def run (s : Store) (w : Walk) : Result :=
  match _found : w.step s with
  | .ended r => r
  | .walking w' => run s w'
termination_by (s.unseen w.entered, w.stack.length)
decreasing_by
  rcases step_progress _found with smaller | ⟨same, shorter⟩
  · exact Prod.Lex.left _ _ smaller
  · rw [same]
    exact Prod.Lex.right _ shorter

/-- The part of a stack from its top down to an address. -/
def downTo (target : Address) : List Address → List Address
  | [] => []
  | a :: rest => if a = target then [a] else a :: downTo target rest

/-- The cells of a cycle: those in hand above its target that are open, and the target. -/
def cycleCells (target : Address) (w : Walk) : List Address :=
  (downTo target w.stack).filter w.isOpen

end Walk

namespace Store

/-- Keeps the values of a walk. -/
def cacheAll (s : Store) (values : AddressMap Value) : Store :=
  values.toList.foldl (fun s (a, v) => s.cache a v) s

/-- Keeps the cycle error for some cells. -/
def cacheCycle (s : Store) (cells : AddressSet) : Store :=
  cells.toList.foldl (fun s a => s.cache a cycleError) s

/-- The value of the cell at an address, and the store that remembers what was computed for it. -/
def value (s : Store) (a : Address) : Value × Store :=
  if !s.bounds.contains a then (invalidAddress a, s)
  else match (s.cell a).cached with
    | some v => (v, s)
    | none =>
      match (Walk.start a).run s with
      | .finished w => (w.lookup s a, s.cacheAll w.computed)
      | .cycle target w =>
        (cycleError,
          (s.cacheAll w.computed).cacheCycle (.ofList (a :: Walk.cycleCells target w)))

end Store

end Spreadsheet
