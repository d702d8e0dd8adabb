import Spreadsheet.Sheet.Evaluation
import Spreadsheet.Sheet.Invalidation

/-!
# Sheets

A sheet is a store whose dependants are kept in step with its formulas: setting a text moves the
links from the addresses that the old formula read to those that the new one reads. Every change
answers the addresses whose values it made out of date; a sheet that shows values has to show those
again and no others.
-/

namespace Spreadsheet

/-- Why a sheet refuses a change or a document. -/
inductive SheetError where
  | outOfBounds (a : Address) (bounds : Bounds)
  | document
  deriving DecidableEq

/-- The message for an error. -/
def SheetError.message : SheetError → String
  | .outOfBounds a bounds =>
    "Address " ++ a.name ++ " is outside the " ++ toString bounds.rows ++ "x" ++
      toString bounds.columns ++ " sheet"
  | .document => "JSON error"

/-- A sheet of cells. -/
structure Sheet where
  store : Store

namespace Sheet

/-- The sheet without cells; the numbers of rows and columns are clamped. -/
def empty (rows columns : Nat) : Sheet := ⟨.empty (.clamp rows columns)⟩

/-- The bounds of a sheet. -/
def bounds (s : Sheet) : Bounds := s.store.bounds

/-- Whether an address lies inside the bounds. -/
def contains (s : Sheet) (a : Address) : Bool := s.bounds.contains a

/-- The text at an address, empty if none was set. -/
def formula (s : Sheet) (a : Address) : String := (s.store.cell a).formula

/-- The addresses that were set, with their texts, row by row. -/
def cells (s : Sheet) : List (Address × String) :=
  s.store.cells.map fun (a, c) => (a, c.formula)

/-! ## Queries -/

/-- The value at an address, and the sheet that remembers what was computed for it. -/
def value (s : Sheet) (a : Address) : Value × Sheet :=
  let (v, store) := s.store.value a
  (v, ⟨store⟩)

/-- The text that a grid shows at an address. -/
def display (s : Sheet) (a : Address) : String × Sheet :=
  let (v, s) := s.value a
  (v.display, s)

/-- Whether the value at an address is an error. -/
def isError (s : Sheet) (a : Address) : Bool × Sheet :=
  let (v, s) := s.value a
  (v.isError, s)

/-- What a query answers for each member of a list, asked in order. -/
def queryAll {α β : Type} (query : Sheet → β → α × Sheet) (s : Sheet) : List β → List α × Sheet
  | [] => ([], s)
  | b :: rest =>
    let (x, s) := query s b
    let (xs, s) := queryAll query s rest
    (x :: xs, s)

theorem length_queryAll {α β : Type} (query : Sheet → β → α × Sheet) (s : Sheet) (l : List β) :
    (queryAll query s l).1.length = l.length := by
  induction l generalizing s with
  | nil => rfl
  | cons b l ih => exact congrArg Nat.succ (ih _)

/-- What every answer has is had by all answers. -/
theorem forall_mem_queryAll {α β : Type} {query : Sheet → β → α × Sheet} (p : α → Prop)
    (h : ∀ s b, p (query s b).1) (s : Sheet) (l : List β) : ∀ x ∈ (queryAll query s l).1, p x := by
  induction l generalizing s with
  | nil => simp [queryAll]
  | cons b l ih => exact List.forall_mem_cons.2 ⟨h s b, ih _⟩

theorem queryAll_append {α β : Type} (query : Sheet → β → α × Sheet) (s : Sheet) (l l' : List β) :
    queryAll query s (l ++ l') =
      ((queryAll query s l).1 ++ (queryAll query (queryAll query s l).2 l').1,
        (queryAll query (queryAll query s l).2 l').2) := by
  induction l generalizing s with
  | nil => rfl
  | cons b l ih => simp [queryAll, ih]

/-- Queries for several lists, one after the other, are the queries for the lists joined. -/
theorem queryAll_flatMap {α β γ : Type} (query : Sheet → β → α × Sheet) (f : γ → List β) (s : Sheet)
    (l : List γ) :
    queryAll query s (l.flatMap f) =
      ((queryAll (fun s c => queryAll query s (f c)) s l).1.flatten,
        (queryAll (fun s c => queryAll query s (f c)) s l).2) := by
  induction l generalizing s with
  | nil => rfl
  | cons c l ih =>
    rw [List.flatMap_cons, queryAll_append, ih]
    rfl

/-- The addresses of row `row` inside the bounds. -/
def rowAddresses (s : Sheet) (row : Nat) : List Address :=
  (List.range s.bounds.columns).map fun col => ⟨row, col⟩

/-- All addresses inside the bounds, row by row. -/
def addresses (s : Sheet) : List Address :=
  (List.range s.bounds.rows).flatMap s.rowAddresses

/-! ## Changes -/

/-- Moves the links of the formula at `a` from the addresses it read to those it reads now. -/
def relink (s : Store) (a : Address) (old new : AddressSet) : Store :=
  let s := (old \ new).toList.foldl (fun s r => s.removeDependant a r) s
  (new \ old).toList.foldl (fun s r => s.addDependant a r) s

/-- Sets the text at an address. Setting the same text again changes nothing. -/
def set (s : Sheet) (a : Address) (text : String) : Except SheetError (AddressSet × Sheet) :=
  if !s.contains a then .error (.outOfBounds a s.bounds)
  else
    let old := s.store.cell a
    if old.formula = text then .ok (∅, s)
    else
      let new := Cell.ofText text
      let store := (relink s.store a old.references new.references).replace a new
      let (stale, store) := store.invalidateFrom [a]
      .ok (stale, ⟨store⟩)

/-- Adds rows and columns. The cells that read the new ones are out of date. -/
def extend (s : Sheet) (rows columns : Nat) : AddressSet × Sheet :=
  let new := s.bounds.extend rows columns
  let (stale, store) := s.store.invalidateFrom (s.store.cellsReading (s.bounds.inBand new))
  (stale, ⟨store.resize new⟩)

/-- Removes rows and columns with the cells in them. The remaining cells that read the removed ones
are out of date. -/
def shrink (s : Sheet) (rows columns : Nat) : AddressSet × Sheet :=
  let new := s.bounds.shrink rows columns
  let seeds := (s.store.cellsReading (new.inBand s.bounds)).filter new.contains
  let (stale, store) := (s.store.resize new).invalidateFrom seeds
  (stale.filter new.contains, ⟨store.dropOutside.2⟩)

end Sheet

end Spreadsheet
