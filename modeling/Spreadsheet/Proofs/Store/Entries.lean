import Mathlib.Tactic.Tauto
import Mathlib.Tactic.ByContra
import Spreadsheet.Sheet.Invalidation

/-!
# Cells and dependants after a change of the store

Every address has an entry, a blank one if none is stored. This module says what each operation of
a store does to the stored addresses, to the cell at an address and to its dependants:

* the dependants change as the operation's name says, whatever is pruned (`dependants_...`);
* a formula changes only where a cell is put (`formula_...`);
* an address that keeps its entry keeps its cell, the value in it included (`cell_..._of_mem`).
-/

namespace Spreadsheet

/-! ## Sets of addresses -/

theorem AddressSet.mem_insert_iff {t : AddressSet} {a b : Address} :
    b ∈ t.insert a ↔ a = b ∨ b ∈ t := by
  rw [Std.ExtTreeSet.mem_insert, Std.LawfulEqOrd.compare_eq_iff_eq]

theorem AddressSet.mem_filter_iff {t : AddressSet} {p : Address → Bool} {a : Address} :
    a ∈ t.filter p ↔ a ∈ t ∧ p a = true := by
  rw [Std.ExtTreeSet.mem_filter]
  exact ⟨fun ⟨h, hp⟩ => ⟨h, by simpa using hp⟩, fun ⟨h, hp⟩ => ⟨h, by simpa using hp⟩⟩

theorem AddressSet.ne_empty_iff {t : AddressSet} : t ≠ ∅ ↔ ∃ a, a ∈ t := by
  constructor
  · intro filled
    by_contra none
    exact filled (Std.ExtTreeSet.ext_mem fun a =>
      iff_of_false (fun ha => none ⟨a, ha⟩) Std.ExtTreeSet.not_mem_empty)
  · rintro ⟨a, ha⟩ rfl
    exact Std.ExtTreeSet.not_mem_empty ha

/-! ## Entries -/

/-- A cell without its value. -/
def Cell.forget (c : Cell) : Cell := { c with cached := none }

@[simp] theorem Cell.formula_forget (c : Cell) : c.forget.formula = c.formula := rfl

theorem Cell.formula_congr {c d : Cell} (h : c.forget = d.forget) : c.formula = d.formula := by
  rw [← Cell.formula_forget, h, Cell.formula_forget]

theorem Cell.expr_congr {c d : Cell} (h : c.forget = d.forget) : c.expr = d.expr := by
  change c.forget.expr = d.forget.expr
  rw [h]

theorem Cell.references_congr {c d : Cell} (h : c.forget = d.forget) :
    c.references = d.references := by
  change c.forget.references = d.forget.references
  rw [h]

theorem Entry.isUnused_iff {e : Entry} :
    e.isUnused = true ↔ e.cell.formula = "" ∧ e.dependants = ∅ := by
  rw [Entry.isUnused, Bool.and_eq_true, Cell.isBlank_iff, Std.ExtTreeSet.isEmpty_iff]

theorem Entry.used?_eq_some {e e' : Entry} (h : e.used? = some e') : e' = e := by
  unfold used? at h
  split at h <;> simp_all

theorem Entry.isUnused_of_used? {e e' : Entry} (h : e.used? = some e') : e.isUnused = false := by
  unfold used? at h
  split at h <;> simp_all

theorem Entry.used?_eq_none {e : Entry} (h : e.used? = none) :
    e.cell.formula = "" ∧ e.dependants = ∅ := by
  unfold used? at h
  split at h
  · exact Entry.isUnused_iff.1 ‹_›
  · cases h

/-- Leaving an unused entry out does not change the dependants that are read. -/
theorem Entry.dependants_used? (e : Entry) :
    (e.used?.getD Entry.blank).dependants = e.dependants := by
  cases h : e.used? with
  | none => rw [(Entry.used?_eq_none h).2]; rfl
  | some e' => rw [Entry.used?_eq_some h]; rfl

/-- Leaving an unused entry out does not change the text that is read. -/
theorem Entry.formula_used? (e : Entry) :
    (e.used?.getD Entry.blank).cell.formula = e.cell.formula := by
  cases h : e.used? with
  | none => rw [(Entry.used?_eq_none h).1]; rfl
  | some e' => rw [Entry.used?_eq_some h]; rfl

namespace Store

variable (s : Store) (a b d : Address)

/-- The entry that is read at an address, a blank one if none is stored. -/
def entry : Entry := s.entries[a]?.getD Entry.blank

theorem cell_eq_entry : s.cell a = (s.entry a).cell := by
  unfold cell entry
  cases s.entries[a]? <;> rfl

theorem dependants_eq_entry : s.dependants a = (s.entry a).dependants := by
  unfold dependants entry
  cases s.entries[a]? <;> rfl

variable {s a b d}

theorem mem_iff_isSome : a ∈ s.entries ↔ (s.entries[a]?).isSome = true :=
  Std.ExtTreeMap.mem_iff_isSome_getElem?

theorem getElem?_of_mem (h : a ∈ s.entries) : s.entries[a]? = some (s.entry a) := by
  obtain ⟨e, he⟩ := Option.isSome_iff_exists.1 (mem_iff_isSome.1 h)
  rw [entry, he, Option.getD_some]

theorem entry_of_not_mem (h : a ∉ s.entries) : s.entry a = Entry.blank := by
  rw [entry, Std.ExtTreeMap.getElem?_eq_none h, Option.getD_none]

theorem cell_of_not_mem (h : a ∉ s.entries) : s.cell a = Cell.blank := by
  rw [cell_eq_entry, entry_of_not_mem h]
  rfl

/-- What holds of blank cells and of the stored ones holds of every cell. -/
theorem forall_cell {P : Cell → Prop} (blank : P Cell.blank)
    (h : ∀ a ∈ s.entries, P (s.cell a)) (a : Address) : P (s.cell a) := by
  by_cases stored : a ∈ s.entries
  · exact h a stored
  · rw [cell_of_not_mem stored]
    exact blank

theorem mem_of_formula_ne (h : (s.cell a).formula ≠ "") : a ∈ s.entries := by
  by_contra hn
  exact h (by rw [cell_of_not_mem hn]; rfl)

theorem mem_of_mem_dependants (h : d ∈ s.dependants a) : a ∈ s.entries := by
  by_contra hn
  rw [dependants_of_not_mem hn] at h
  exact Std.ExtTreeSet.not_mem_empty h

theorem mem_of_mem_references (h : b ∈ (s.cell a).references) : a ∈ s.entries := by
  by_contra hn
  rw [cell_of_not_mem hn] at h
  exact Std.ExtTreeSet.not_mem_empty h

/-- Two stores that hold the same at an address read the same there. -/
theorem entry_congr {t : Store} (h : s.entries[a]? = t.entries[a]?) : s.entry a = t.entry a := by
  rw [entry, h, entry]

theorem mem_congr {t : Store} (h : s.entries[a]? = t.entries[a]?) :
    a ∈ s.entries ↔ a ∈ t.entries := by
  rw [mem_iff_isSome, h, mem_iff_isSome]

theorem entry_update (f : Entry → Option Entry) :
    (s.update a f).entry b = if a = b then (f (s.entry a)).getD Entry.blank else s.entry b := by
  rw [entry, getElem?_update]
  split <;> rfl

theorem entry_updateStored {f : Entry → Option Entry}
    (blank : (f Entry.blank).getD Entry.blank = Entry.blank) :
    (s.updateStored a f).entry b = if a = b then (f (s.entry a)).getD Entry.blank else s.entry b := by
  rw [entry, getElem?_updateStored]
  split
  · rw [entry]
    cases s.entries[a]? with
    | none => exact blank.symm
    | some e => rfl
  · rfl

theorem mem_updateStored {f : Entry → Option Entry} (h : b ∈ (s.updateStored a f).entries) :
    b ∈ s.entries := by
  rw [mem_iff_isSome, getElem?_updateStored] at h
  split at h
  · rename_i eq
    subst eq
    obtain ⟨e, he⟩ := Option.isSome_iff_exists.1 h
    obtain ⟨e₀, h₀, -⟩ := Option.bind_eq_some_iff.1 he
    exact mem_iff_isSome.2 (by rw [h₀]; rfl)
  · exact mem_iff_isSome.2 h

/-- Where an entry is stored after a change, the change gave it. -/
theorem update_of_mem {f : Entry → Option Entry} (h : a ∈ (s.update a f).entries) :
    f (s.entry a) = some ((s.update a f).entry a) := by
  have stored := getElem?_of_mem h
  rwa [getElem?_update, if_pos rfl] at stored

theorem updateStored_of_mem {f : Entry → Option Entry} (h : a ∈ (s.updateStored a f).entries) :
    f (s.entry a) = some ((s.updateStored a f).entry a) := by
  have stored := getElem?_of_mem h
  rwa [getElem?_updateStored, if_pos rfl, getElem?_of_mem (mem_updateStored h),
    Option.bind_some] at stored

/-! ## Adding and removing dependants -/

theorem entry_addDependant : (s.addDependant d a).entry b =
    if a = b then { s.entry a with dependants := (s.entry a).dependants.insert d } else s.entry b :=
  entry_update _

@[simp] theorem bounds_addDependant : (s.addDependant d a).bounds = s.bounds := rfl

@[simp] theorem cell_addDependant : (s.addDependant d a).cell b = s.cell b := by
  rw [cell_eq_entry, cell_eq_entry, entry_addDependant]
  split
  · rename_i eq
    rw [eq]
  · rfl

theorem mem_dependants_addDependant {c : Address} :
    c ∈ (s.addDependant d a).dependants b ↔ (a = b ∧ d = c) ∨ c ∈ s.dependants b := by
  rw [dependants_eq_entry, dependants_eq_entry, entry_addDependant]
  split
  · rename_i eq
    subst eq
    simp
  · rename_i ne
    simp [ne]

theorem mem_addDependant : b ∈ (s.addDependant d a).entries ↔ a = b ∨ b ∈ s.entries := by
  rw [mem_iff_isSome, addDependant, getElem?_update, mem_iff_isSome]
  split
  · rename_i eq
    simp [eq]
  · rename_i ne
    simp [ne]

theorem entry_removeDependant : (s.removeDependant d a).entry b =
    if a = b then
      ({ s.entry a with dependants := (s.entry a).dependants.erase d } : Entry).used?.getD Entry.blank
    else s.entry b := by
  refine entry_updateStored ?_
  simp [Entry.blank, Entry.used?, Entry.isUnused]

@[simp] theorem bounds_removeDependant : (s.removeDependant d a).bounds = s.bounds := rfl

@[simp] theorem formula_removeDependant :
    ((s.removeDependant d a).cell b).formula = (s.cell b).formula := by
  rw [cell_eq_entry, cell_eq_entry, entry_removeDependant]
  split
  · rename_i eq
    rw [Entry.formula_used?, eq]
  · rfl

theorem mem_dependants_removeDependant {c : Address} :
    c ∈ (s.removeDependant d a).dependants b ↔ ¬(a = b ∧ d = c) ∧ c ∈ s.dependants b := by
  rw [dependants_eq_entry, dependants_eq_entry, entry_removeDependant]
  split
  · rename_i eq
    subst eq
    rw [Entry.dependants_used?]
    simp
  · rename_i ne
    simp [ne]

theorem mem_of_mem_removeDependant (h : b ∈ (s.removeDependant d a).entries) : b ∈ s.entries :=
  mem_updateStored h

theorem getElem?_removeDependant_of_ne (h : a ≠ b) :
    (s.removeDependant d a).entries[b]? = s.entries[b]? := by
  rw [removeDependant, getElem?_updateStored, if_neg h]

theorem cell_removeDependant_of_mem (h : b ∈ (s.removeDependant d a).entries) :
    (s.removeDependant d a).cell b = s.cell b := by
  rw [cell_eq_entry, cell_eq_entry]
  by_cases eq : a = b
  · subst eq
    have used : _ = some ((s.removeDependant d a).entry a) := updateStored_of_mem h
    rw [Entry.used?_eq_some used]
  · rw [entry_congr (getElem?_removeDependant_of_ne eq)]

/-- An entry that loses a dependant is used afterwards. -/
theorem used_removeDependant (h : a ∈ (s.removeDependant d a).entries) :
    ((s.removeDependant d a).entry a).isUnused = false := by
  have used : _ = some ((s.removeDependant d a).entry a) := updateStored_of_mem h
  rw [Entry.used?_eq_some used]
  exact Entry.isUnused_of_used? used

/-! ## Putting a cell -/

@[simp] theorem bounds_replace {c : Cell} : (s.replace a c).bounds = s.bounds := rfl

theorem entry_replace {c : Cell} : (s.replace a c).entry b =
    if a = b then ({ s.entry a with cell := c } : Entry).used?.getD Entry.blank else s.entry b :=
  entry_update _

@[simp] theorem dependants_replace {c : Cell} : (s.replace a c).dependants b = s.dependants b := by
  rw [dependants_eq_entry, dependants_eq_entry, entry_replace]
  split
  · rename_i eq
    rw [Entry.dependants_used?, eq]
  · rfl

theorem formula_replace {c : Cell} :
    ((s.replace a c).cell b).formula = if a = b then c.formula else (s.cell b).formula := by
  rw [cell_eq_entry, cell_eq_entry, entry_replace]
  split
  · rw [Entry.formula_used?]
  · rfl

theorem getElem?_replace_of_ne {c : Cell} (h : a ≠ b) :
    (s.replace a c).entries[b]? = s.entries[b]? := by
  rw [replace, getElem?_update, if_neg h]

theorem cell_replace_of_mem {c : Cell} (h : a ∈ (s.replace a c).entries) :
    (s.replace a c).cell a = c := by
  have used : _ = some ((s.replace a c).entry a) := update_of_mem h
  rw [cell_eq_entry, Entry.used?_eq_some used]

theorem used_replace {c : Cell} (h : a ∈ (s.replace a c).entries) :
    ((s.replace a c).entry a).isUnused = false := by
  have used : _ = some ((s.replace a c).entry a) := update_of_mem h
  rw [Entry.used?_eq_some used]
  exact Entry.isUnused_of_used? used

/-! ## Values -/

@[simp] theorem bounds_invalidate : (s.invalidate a).bounds = s.bounds := rfl

theorem getElem?_invalidate : (s.invalidate a).entries[b]? =
    if a = b then (s.entries[a]?).map fun e => { e with cell := e.cell.forget }
    else s.entries[b]? := by
  rw [invalidate, getElem?_updateStored]
  split
  · cases s.entries[a]? <;> rfl
  · rfl

@[simp] theorem mem_invalidate : b ∈ (s.invalidate a).entries ↔ b ∈ s.entries := by
  rw [mem_iff_isSome, mem_iff_isSome, getElem?_invalidate]
  split
  · rename_i eq
    rw [eq, Option.isSome_map]
  · rfl

theorem entry_invalidate_of_mem (h : b ∈ s.entries) : (s.invalidate a).entry b =
    if a = b then { s.entry b with cell := (s.entry b).cell.forget } else s.entry b := by
  rw [entry, getElem?_invalidate]
  split
  · rename_i eq
    rw [eq, getElem?_of_mem h]
    rfl
  · rfl

@[simp] theorem dependants_invalidate : (s.invalidate a).dependants b = s.dependants b := by
  by_cases h : b ∈ s.entries
  · rw [dependants_eq_entry, dependants_eq_entry, entry_invalidate_of_mem h]
    split <;> rfl
  · rw [dependants_of_not_mem h, dependants_of_not_mem (mem_invalidate.not.2 h)]

theorem cell_invalidate : (s.invalidate a).cell b =
    if a = b ∧ b ∈ s.entries then (s.cell b).forget else s.cell b := by
  by_cases h : b ∈ s.entries
  · rw [cell_eq_entry, cell_eq_entry, entry_invalidate_of_mem h]
    simp only [h, and_true]
    split <;> rfl
  · rw [if_neg fun held => h held.2, cell_of_not_mem h, cell_of_not_mem (mem_invalidate.not.2 h)]

@[simp] theorem bounds_cache {v : Value} : (s.cache a v).bounds = s.bounds := rfl

theorem entry_cache {v : Value} : (s.cache a v).entry b =
    if a = b then { s.entry a with cell := { (s.entry a).cell with cached := some v } }
    else s.entry b :=
  entry_update _

theorem mem_cache {v : Value} : b ∈ (s.cache a v).entries ↔ a = b ∨ b ∈ s.entries := by
  rw [mem_iff_isSome, cache, getElem?_update, mem_iff_isSome]
  split
  · rename_i eq
    simp [eq]
  · rename_i ne
    simp [ne]

@[simp] theorem dependants_cache {v : Value} : (s.cache a v).dependants b = s.dependants b := by
  rw [dependants_eq_entry, dependants_eq_entry, entry_cache]
  split
  · rename_i eq
    rw [eq]
  · rfl

theorem cell_cache {v : Value} : (s.cache a v).cell b =
    if a = b then { s.cell b with cached := some v } else s.cell b := by
  rw [cell_eq_entry, cell_eq_entry, entry_cache]
  split
  · rename_i eq
    rw [eq]
  · rfl

/-! ## Leaving out an unused entry -/

theorem entry_prune :
    (s.prune a).entry b = if a = b then (s.entry a).used?.getD Entry.blank else s.entry b :=
  entry_updateStored (by simp [Entry.blank, Entry.used?, Entry.isUnused])

@[simp] theorem dependants_prune : (s.prune a).dependants b = s.dependants b := by
  rw [dependants_eq_entry, dependants_eq_entry, entry_prune]
  split
  · rename_i eq
    rw [Entry.dependants_used?, eq]
  · rfl

@[simp] theorem formula_prune : ((s.prune a).cell b).formula = (s.cell b).formula := by
  rw [cell_eq_entry, cell_eq_entry, entry_prune]
  split
  · rename_i eq
    rw [Entry.formula_used?, eq]
  · rfl

theorem mem_of_mem_prune (h : b ∈ (s.prune a).entries) : b ∈ s.entries :=
  mem_updateStored h

theorem getElem?_prune_of_ne (h : a ≠ b) : (s.prune a).entries[b]? = s.entries[b]? := by
  rw [prune, getElem?_updateStored, if_neg h]

theorem used_prune (h : a ∈ (s.prune a).entries) : ((s.prune a).entry a).isUnused = false := by
  have used : _ = some ((s.prune a).entry a) := updateStored_of_mem h
  rw [Entry.used?_eq_some used]
  exact Entry.isUnused_of_used? used

theorem cell_prune_of_mem (h : b ∈ (s.prune a).entries) : (s.prune a).cell b = s.cell b := by
  rw [cell_eq_entry, cell_eq_entry]
  by_cases eq : a = b
  · subst eq
    have used : _ = some ((s.prune a).entry a) := updateStored_of_mem h
    rw [Entry.used?_eq_some used]
  · rw [entry_congr (getElem?_prune_of_ne eq)]

/-! ## Many operations -/

/-- What one operation leaves as it is, a list of them leaves as it is. -/
theorem observe_foldl {α β : Type} (observe : Store → β) {f : Store → α → Store}
    (same : ∀ s x, observe (f s x) = observe s) (s : Store) (xs : List α) :
    observe (xs.foldl f s) = observe s := by
  induction xs generalizing s with
  | nil => rfl
  | cons x xs ih => rw [List.foldl_cons, ih, same]

end Store

end Spreadsheet
