import Spreadsheet.Sheet.Bounds
import Spreadsheet.Sheet.Cell

/-!
# The store of cells

A sparse map from addresses to cells, each with the set of its dependants: the addresses whose
formulas read it. Addresses without an entry read as blank cells. An entry that is blank and has no
dependants is unused, and the operations that can leave one behind remove it. Each operation has a
lemma that says what it does to the entry at an address.
-/

namespace Spreadsheet

/-- A stored cell and the addresses whose formulas read it. -/
structure Entry where
  cell : Cell
  dependants : AddressSet

namespace Entry

/-- A blank cell that nothing reads. -/
def blank : Entry := ⟨Cell.blank, ∅⟩

/-- Whether an entry holds nothing that an absent one would not. -/
def isUnused (e : Entry) : Bool :=
  e.cell.isBlank && e.dependants.isEmpty

/-- The entry, unless it is unused. -/
def used? (e : Entry) : Option Entry :=
  if e.isUnused then none else some e

end Entry

/-- Cells by address, and the bounds of the sheet. -/
structure Store where
  bounds : Bounds
  entries : AddressMap Entry

namespace Store

/-- The store without cells. -/
def empty (bounds : Bounds) : Store := ⟨bounds, ∅⟩

/-- The cell at an address. -/
def cell (s : Store) (a : Address) : Cell :=
  match s.entries[a]? with
  | some e => e.cell
  | none => Cell.blank

/-- The addresses whose formulas read an address. -/
def dependants (s : Store) (a : Address) : AddressSet :=
  match s.entries[a]? with
  | some e => e.dependants
  | none => ∅

/-- The number of entries, blank ones included. -/
def size (s : Store) : Nat := s.entries.size

/-! ## Changes to one entry -/

/-- Changes the entry at an address, where a missing entry counts as a blank one. -/
def update (s : Store) (a : Address) (f : Entry → Option Entry) : Store :=
  { s with entries := s.entries.alter a fun e => f (e.getD Entry.blank) }

/-- Changes the entry at an address if there is one. -/
def updateStored (s : Store) (a : Address) (f : Entry → Option Entry) : Store :=
  { s with entries := s.entries.alter a fun e => e.bind f }

/-- Records that the formula at `dependant` reads `dependee`. -/
def addDependant (s : Store) (dependant dependee : Address) : Store :=
  s.update dependee fun e => some { e with dependants := e.dependants.insert dependant }

/-- Forgets that the formula at `dependant` reads `dependee`. -/
def removeDependant (s : Store) (dependant dependee : Address) : Store :=
  s.updateStored dependee fun e =>
    { e with dependants := e.dependants.erase dependant : Entry }.used?

/-- Puts a cell at an address, where its dependants stay. -/
def replace (s : Store) (a : Address) (c : Cell) : Store :=
  s.update a fun e => { e with cell := c : Entry }.used?

/-- Forgets the value of the cell at an address. An address without an entry keeps its value. -/
def invalidate (s : Store) (a : Address) : Store :=
  s.updateStored a fun e => some { e with cell := { e.cell with cached := none } }

/-- Keeps a value for the cell at an address. -/
def cache (s : Store) (a : Address) (v : Value) : Store :=
  s.update a fun e => some { e with cell := { e.cell with cached := some v } }

/-- Removes the entry at an address if it is unused. -/
def prune (s : Store) (a : Address) : Store :=
  s.updateStored a Entry.used?

@[simp] theorem bounds_update (s : Store) (a : Address) (f : Entry → Option Entry) :
    (s.update a f).bounds = s.bounds := rfl

@[simp] theorem bounds_updateStored (s : Store) (a : Address) (f : Entry → Option Entry) :
    (s.updateStored a f).bounds = s.bounds := rfl

theorem getElem?_update (s : Store) (a b : Address) (f : Entry → Option Entry) :
    (s.update a f).entries[b]? =
      if a = b then f (s.entries[a]?.getD Entry.blank) else s.entries[b]? := by
  rw [update, Std.ExtTreeMap.getElem?_alter]
  simp only [Std.LawfulEqOrd.compare_eq_iff_eq]

theorem getElem?_updateStored (s : Store) (a b : Address) (f : Entry → Option Entry) :
    (s.updateStored a f).entries[b]? =
      if a = b then s.entries[a]?.bind f else s.entries[b]? := by
  rw [updateStored, Std.ExtTreeMap.getElem?_alter]
  simp only [Std.LawfulEqOrd.compare_eq_iff_eq]

/-! ## Views of the whole store -/

/-- The addresses of the stored cells with a reference that has a property, row by row. -/
def cellsReading (s : Store) (p : Address → Bool) : List Address :=
  (s.entries.toList.filter fun (_, e) => e.cell.readsAny p).map Prod.fst

/-- The cells with a text, row by row. -/
def cells (s : Store) : List (Address × Cell) :=
  s.entries.toList.filterMap fun (a, e) => if e.cell.isBlank then none else some (a, e.cell)

/-! ## Bounds -/

/-- Sets the bounds; the cells stay. -/
def resize (s : Store) (bounds : Bounds) : Store :=
  { s with bounds := bounds }

/-- Takes the cell at an address away, and with it what its formula read. The entry stays if
something else reads it. -/
def dropCell (s : Store) (a : Address) : Store :=
  match s.entries[a]? with
  | none => s
  | some e =>
    let s := s.update a fun e => some { e with cell := Cell.blank }
    (e.cell.references.toList.foldl (fun s r => s.removeDependant a r) s).prune a

/-- The addresses outside the bounds that have an entry, row by row. -/
def outside (s : Store) : List Address :=
  s.entries.keys.filter fun a => !s.bounds.contains a

/-- Takes all cells outside the bounds away, and answers those of them that had a text, row by
row. -/
def dropOutside (s : Store) : List Address × Store :=
  (s.outside.filter fun a => !(s.cell a).isBlank, s.outside.foldl dropCell s)

end Store

end Spreadsheet
