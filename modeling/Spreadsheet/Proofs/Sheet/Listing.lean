import Spreadsheet.Proofs.Sheet.Cycles

/-!
# The texts of a sheet

The list of cells holds each text that is not empty, once and in row-major order (`mem_cells`,
`ordered_cells`). There is only one such list for the texts of a sheet (`Ordered.eq_of_mem_iff`), so
sheets with the same texts list the same cells. If both are reachable and have the same bounds they
are alike in all the rest, too, but for the values of cells that reach a cycle (`Reachable.alike`).
-/

namespace Spreadsheet

theorem Address.compare_lt_iff {a b : Address} :
    compare a b = .lt ↔ a.row < b.row ∨ a.row = b.row ∧ a.col < b.col := by
  rw [compare_def, Ordering.then_eq_lt, Nat.compare_eq_lt, Nat.compare_eq_eq, Nat.compare_eq_lt]

/-! ## Ordered lists -/

/-- The addresses of the list are strictly increasing in row-major order. -/
def Ordered {α : Type} (l : List (Address × α)) : Prop :=
  l.Pairwise fun x y => compare x.1 y.1 = .lt

namespace Ordered

variable {α : Type} {l l' : List (Address × α)}

theorem nodup (h : Ordered l) : l.Nodup := by
  refine List.Pairwise.imp (fun {x y} lt eq => ?_) h
  rw [eq] at lt
  exact Std.OrientedCmp.not_lt_of_lt lt lt

/-- **An ordered list is determined by its members.** -/
theorem eq_of_mem_iff (h : Ordered l) (h' : Ordered l') (same : ∀ x, x ∈ l ↔ x ∈ l') : l = l' := by
  have perm : l.Perm l' := (List.perm_ext_iff_of_nodup h.nodup h'.nodup).2 same
  refine perm.eq_of_pairwise (fun x y _ _ lt gt => ?_) h h'
  exact absurd gt (Std.OrientedCmp.not_lt_of_lt lt)

theorem toList (m : AddressMap α) : Ordered m.toList :=
  Std.ExtTreeMap.ordered_keys_toList

end Ordered

namespace Sheet

variable {s t : Sheet} {a : Address} {text : String}

/-- What is listed of an entry: its text, unless it is empty. -/
def listed? (x : Address × Entry) : Option (Address × String) :=
  if x.2.cell.isBlank then none else some (x.1, x.2.cell.formula)

theorem cells_eq (s : Sheet) : s.cells = s.store.entries.toList.filterMap listed? := by
  rw [cells, Store.cells, List.map_filterMap]
  refine List.filterMap_congr fun (a, e) _ => ?_
  cases blank : e.cell.isBlank with
  | true => simp [listed?, blank]
  | false => simp [listed?, blank]

theorem listed?_eq_some_iff {x : Address × Entry} : listed? x = some (a, text) ↔
    text ≠ "" ∧ x.1 = a ∧ x.2.cell.formula = text := by
  by_cases blank : x.2.cell.formula = ""
  · rw [listed?, if_pos (Cell.isBlank_iff.2 blank), blank]
    simp +contextual [eq_comm]
  · rw [listed?, if_neg (mt Cell.isBlank_iff.1 blank), Option.some.injEq, Prod.mk.injEq]
    constructor
    · rintro ⟨rfl, rfl⟩
      exact ⟨blank, rfl, rfl⟩
    · exact And.right

/-- The list holds the texts that are not empty. -/
theorem mem_cells : (a, text) ∈ s.cells ↔ text ≠ "" ∧ s.formula a = text := by
  rw [cells_eq, List.mem_filterMap]
  constructor
  · rintro ⟨⟨b, e⟩, mem, listed⟩
    obtain ⟨not_empty, rfl, same⟩ := listed?_eq_some_iff.1 listed
    rw [Std.ExtTreeMap.mem_toList_iff_getElem?_eq_some] at mem
    refine ⟨not_empty, ?_⟩
    rw [formula, Store.cell, mem]
    exact same
  · rintro ⟨not_empty, same⟩
    have stored : a ∈ s.store.entries := Store.mem_of_formula_ne fun blank =>
      not_empty (same.symm.trans blank)
    refine ⟨(a, s.store.entry a), ?_, listed?_eq_some_iff.2 ⟨not_empty, rfl, ?_⟩⟩
    · rw [Std.ExtTreeMap.mem_toList_iff_getElem?_eq_some]
      exact Store.getElem?_of_mem stored
    · rwa [formula, Store.cell_eq_entry] at same

theorem ordered_cells (s : Sheet) : Ordered s.cells := by
  rw [cells_eq]
  refine List.Pairwise.filterMap _ (fun x x' lt y hy y' hy' => ?_) (Ordered.toList s.store.entries)
  rw [← (listed?_eq_some_iff.1 hy).2.1, ← (listed?_eq_some_iff.1 hy').2.1]
  exact lt

/-- Sheets with the same texts list the same cells. -/
theorem cells_congr (same : ∀ a, t.formula a = s.formula a) : t.cells = s.cells :=
  t.ordered_cells.eq_of_mem_iff s.ordered_cells fun (a, text) => by rw [mem_cells, mem_cells, same]

/-! ## Sheets with the same texts -/

/-- The sheets differ in nothing that a caller sees but in values of cells that reach a cycle. -/
structure Alike (s t : Sheet) : Prop where
  bounds : t.bounds = s.bounds
  formula : ∀ a, t.formula a = s.formula a
  cells : t.cells = s.cells
  dependants : ∀ a, t.store.dependants a = s.store.dependants a
  skeleton : t.skeleton = s.skeleton
  size : t.store.size = s.store.size
  value : ∀ a, ¬Walk.ReachesCycle s.store a → (t.value a).1 = (s.value a).1

/-- **The bounds and the texts say it all**: reachable sheets that agree on them are alike. -/
theorem Reachable.alike (hs : s.Reachable) (ht : t.Reachable) (bounds : t.bounds = s.bounds)
    (same : ∀ a, t.formula a = s.formula a) : s.Alike t := by
  have skeleton : t.skeleton = s.skeleton := ht.sound.skeleton_congr hs.sound same
  refine
    { bounds := bounds
      formula := same
      cells := cells_congr same
      dependants := fun a => Std.ExtTreeSet.ext_mem fun b => ?_
      skeleton := skeleton
      size := ?_
      value := fun a acyclic => ?_ }
  · have references : (t.store.cell b).references = (s.store.cell b).references := by
      rw [ht.sound.linked.references, hs.sound.linked.references]
      exact congrArg (fun text => (Expr.ofText text).references) (same b)
    rw [ht.sound.linked.mirror, hs.sound.linked.mirror, references]
  · have sizes : t.skeleton.size = s.skeleton.size := by rw [skeleton]
    rwa [Sheet.skeleton, Sheet.skeleton, Std.ExtTreeMap.size_map, Std.ExtTreeMap.size_map] at sizes
  · have same_cycles := hs.sound.reachesCycle_congr ht.sound bounds same (a := a)
    have value := hs.coherent.recalculates hs.sound acyclic
    have value' := ht.coherent.recalculates ht.sound (mt same_cycles.1 acyclic)
    rw [bounds, funext same] at value'
    exact value'.unique value

end Sheet

end Spreadsheet
