import Spreadsheet.Sheet.Store

/-!
# Stored addresses not yet seen

A traversal of a store keeps a growing set of addresses it has seen. The number of stored addresses
outside that set bounds the traversal: `unseen_insert_lt` says that seeing a new stored address
makes it smaller, `unseen_insert_le` that seeing any address never makes it larger.
-/

namespace Spreadsheet

theorem countP_lt_countP {α : Type} {p q : α → Bool} {l : List α}
    (le : ∀ x ∈ l, p x = true → q x = true) {a : α} (mem : a ∈ l) (new : q a = true)
    (old : p a = false) : l.countP p < l.countP q := by
  induction l with
  | nil => simp at mem
  | cons x l ih =>
    have tail : l.countP p ≤ l.countP q :=
      List.countP_mono_left fun y hy => le y (List.mem_cons_of_mem x hy)
    rcases List.mem_cons.mp mem with rfl | mem
    · rw [List.countP_cons_of_pos new, List.countP_cons_of_neg (by simp [old])]
      omega
    · have smaller := ih (fun y hy => le y (List.mem_cons_of_mem x hy)) mem
      have head := le x List.mem_cons_self
      rw [List.countP_cons, List.countP_cons]
      split
      · rename_i held
        rw [if_pos (head held)]
        omega
      · exact Nat.lt_of_lt_of_le smaller (Nat.le_add_right _ _)

namespace Store

/-- The number of stored addresses outside a set. -/
def unseen (s : Store) (seen : AddressSet) : Nat :=
  s.entries.keys.countP fun a => !seen.contains a

theorem contains_insert (seen : AddressSet) (a b : Address) :
    (seen.insert a).contains b = (decide (a = b) || seen.contains b) := by
  rw [Std.ExtTreeSet.contains_insert]
  by_cases h : a = b
  · simp [h]
  · have differ : compare a b ≠ .eq := fun eq => h (Std.LawfulEqOrd.eq_of_compare eq)
    simp [h, differ]

theorem unseen_insert_le (s : Store) (seen : AddressSet) (a : Address) :
    s.unseen (seen.insert a) ≤ s.unseen seen := by
  refine List.countP_mono_left fun b _ h => ?_
  rw [contains_insert] at h
  simp_all

theorem unseen_insert_lt {s : Store} {seen : AddressSet} {a : Address} (stored : a ∈ s.entries)
    (new : a ∉ seen) : s.unseen (seen.insert a) < s.unseen seen := by
  have absent : seen.contains a = false :=
    Bool.eq_false_iff.mpr fun h => new (Std.ExtTreeSet.contains_iff_mem.mp h)
  refine countP_lt_countP (fun b _ h => ?_) (Std.ExtTreeMap.mem_keys.mpr stored) ?_ ?_
  · rw [contains_insert] at h
    simp_all
  · rw [absent]
    rfl
  · simp

theorem mem_of_cached_eq_none {s : Store} {a : Address} (h : (s.cell a).cached = none) :
    a ∈ s.entries := by
  unfold cell at h
  split at h
  · rename_i e found
    exact Std.ExtTreeMap.mem_iff_isSome_getElem?.mpr (by simp [found])
  · simp [Cell.blank] at h

theorem dependants_of_not_mem {s : Store} {a : Address} (h : a ∉ s.entries) :
    s.dependants a = ∅ := by
  unfold dependants
  rw [Std.ExtTreeMap.getElem?_eq_none h]

end Store

end Spreadsheet
