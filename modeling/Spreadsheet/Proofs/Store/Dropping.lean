import Mathlib
import Spreadsheet.Proofs.Store.Changes

/-!
# Dropping what lies outside

What is dropped outside the bounds is exact in every store (`Store.dropOutside_exact`), also where
the dependants are not the references read backwards. While cells are dropped one by one, an entry
that is still to be dropped may be pruned, and the links that its cell reads then stay. So what
several drops leave is read off the store in front of the first of them and the entries that they
come upon (`Store.Meets`): the dependants (`Store.mem_dependants_dropCells`), the texts
(`Store.formula_dropCells`) and the stored entries (`Store.mem_dropCells`). An entry with a text is
never pruned before its turn (`Store.meets_of_formula_ne`), so where a cell without a text reads
nothing (`Store.Quiet`) none of these depends on the order of the drops (`Store.dropCells_congr`).
-/

namespace Spreadsheet

namespace Store

variable {s t : Store} {a b x : Address} {c : Cell} {as bs : List Address}

/-! ## Stores that are produced -/

/-- The stores that operations lead to, one after the other, from a store without cells, if every
cell that is put has a property. The links that are recorded need not be those of the cells. -/
inductive Produced (p : Cell → Prop) : Store → Prop
  | empty (rows columns : Nat) : Produced p (.empty (.clamp rows columns))
  | replace {s : Store} (a : Address) {c : Cell} : p c → Produced p s → Produced p (s.replace a c)
  | addDependant {s : Store} (a b : Address) : Produced p s → Produced p (s.addDependant a b)
  | removeDependant {s : Store} (a b : Address) : Produced p s → Produced p (s.removeDependant a b)
  | invalidate {s : Store} (a : Address) : Produced p s → Produced p (s.invalidate a)
  | cache {s : Store} (a : Address) (v : Value) : Produced p s → Produced p (s.cache a v)
  | resize {s : Store} (rows columns : Nat) :
    Produced p s → Produced p (s.resize (.clamp rows columns))

/-- It is enough to look at the stored cells. -/
theorem quiet_of_stored (h : ∀ a ∈ s.entries, (s.cell a).Quiet) : s.Quiet :=
  forall_cell Cell.quiet_blank h

namespace Quiet

theorem replace (h : s.Quiet) (hc : c.Quiet) : (s.replace a c).Quiet := by
  refine quiet_of_stored fun b stored => ?_
  by_cases eq : a = b
  · subst eq
    rw [cell_replace_of_mem stored]
    exact hc
  · rw [cell_eq_entry, entry_congr (getElem?_replace_of_ne eq), ← cell_eq_entry]
    exact h b

theorem removeDependant (h : s.Quiet) : (s.removeDependant a b).Quiet := by
  refine quiet_of_stored fun d stored => ?_
  rw [cell_removeDependant_of_mem stored]
  exact h d

theorem invalidate (h : s.Quiet) : (s.invalidate a).Quiet := by
  intro b
  rw [cell_invalidate]
  split
  · exact (h b).congr rfl
  · exact h b

theorem cache (h : s.Quiet) {v : Value} : (s.cache a v).Quiet := by
  intro b
  rw [cell_cache]
  split
  · exact (h b).congr rfl
  · exact h b

end Quiet

/-- Where every cell that is put reads nothing if it has no text, as blank cells and the cells of
texts do, every cell does. -/
theorem Produced.quiet (h : s.Produced Cell.Quiet) : s.Quiet := by
  induction h with
  | empty rows columns => exact (linked_empty _).quiet
  | replace a hc _ ih => exact ih.replace hc
  | addDependant a b _ ih =>
    intro d
    rw [cell_addDependant]
    exact ih d
  | removeDependant a b _ ih => exact ih.removeDependant
  | invalidate a _ ih => exact ih.invalidate
  | cache a v _ ih => exact ih.cache
  | resize rows columns _ ih => exact ih

/-! ## Several drops -/

/-- Dropping a list of cells, one after the other, comes upon an entry at an address: it is still
stored when its turn comes. -/
def Meets (s : Store) (as : List Address) (x : Address) : Prop :=
  x ∈ as ∧ x ∈ (s.dropCells (as.takeWhile (· ≠ x))).entries

theorem Meets.stored (h : s.Meets as x) : x ∈ s.entries :=
  mem_of_mem_dropCells _ h.2

theorem meets_cons : s.Meets (a :: as) x ↔
    (a = x ∧ x ∈ s.entries) ∨ (a ≠ x ∧ (s.dropCell a).Meets as x) := by
  by_cases eq : a = x
  · simp [Meets, eq, dropCells]
  · simp [Meets, eq, Ne.symm eq, dropCells_cons]

/-- An entry with a text is still stored when its turn comes. -/
theorem meets_of_formula_ne (listed : x ∈ as) (text : (s.cell x).formula ≠ "") : s.Meets as x := by
  refine ⟨listed, mem_of_formula_ne ?_⟩
  have front : x ∉ as.takeWhile (· ≠ x) := fun h => by simpa using List.mem_takeWhile_imp h
  rwa [formula_dropCells, if_neg front]

/-- A cell that has been dropped reads nothing. -/
theorem not_mem_references_dropCell : b ∉ ((s.dropCell a).cell a).references := fun read => by
  rw [cell_dropCell_of_mem (mem_of_mem_references read), if_pos rfl] at read
  exact Std.ExtTreeSet.not_mem_empty read

theorem cell_dropCell_of_meets (ne : a ≠ x) (h : (s.dropCell a).Meets as x) :
    (s.dropCell a).cell x = s.cell x := by
  rw [cell_dropCell_of_mem h.stored, if_neg ne]

/-- **Dependants after several drops**: those that were not dropped while they read the address. -/
theorem mem_dependants_dropCells (as : List Address) : x ∈ (s.dropCells as).dependants b ↔
    x ∈ s.dependants b ∧ ¬(s.Meets as x ∧ b ∈ (s.cell x).references) := by
  induction as generalizing s with
  | nil => simp [dropCells, Meets]
  | cons a as ih =>
    rw [dropCells_cons, ih, mem_dependants_dropCell, meets_cons]
    by_cases eq : a = x
    · subst eq
      have stored : b ∈ (s.cell a).references → a ∈ s.entries := mem_of_mem_references
      have unread : b ∉ ((s.dropCell a).cell a).references := not_mem_references_dropCell
      tauto
    · have same : (s.dropCell a).Meets as x → (s.dropCell a).cell x = s.cell x :=
        cell_dropCell_of_meets eq
      by_cases met : (s.dropCell a).Meets as x
      · simp [eq, met, same met]
      · simp [eq, met]

/-- Some drop takes the cell at `b` away or a link to it. -/
def Touches (s : Store) (as : List Address) (b : Address) : Prop :=
  b ∈ as ∨ ∃ a, s.Meets as a ∧ b ∈ (s.cell a).references

theorem touches_cons : s.Touches (a :: as) b ↔
    (a = b ∨ b ∈ (s.cell a).references) ∨ (s.dropCell a).Touches as b := by
  simp only [Touches, List.mem_cons, meets_cons]
  constructor
  · rintro ((rfl | later) | ⟨d, ⟨rfl, -⟩ | ⟨ne, met⟩, read⟩)
    · exact Or.inl (Or.inl rfl)
    · exact Or.inr (Or.inl later)
    · exact Or.inl (Or.inr read)
    · exact Or.inr (Or.inr ⟨d, met, by rwa [cell_dropCell_of_meets ne met]⟩)
  · rintro ((rfl | read) | later | ⟨d, met, read⟩)
    · exact Or.inl (Or.inl rfl)
    · exact Or.inr ⟨a, Or.inl ⟨rfl, mem_of_mem_references read⟩, read⟩
    · exact Or.inl (Or.inr later)
    · have ne : a ≠ d := by
        rintro rfl
        exact not_mem_references_dropCell read
      rw [cell_dropCell_of_meets ne met] at read
      exact Or.inr ⟨d, Or.inr ⟨ne, met⟩, read⟩

theorem getElem?_dropCells_of_untouched (untouched : ¬s.Touches as b) :
    (s.dropCells as).entries[b]? = s.entries[b]? := by
  induction as generalizing s with
  | nil => rfl
  | cons a as ih =>
    rw [touches_cons, not_or, not_or] at untouched
    obtain ⟨⟨ne, unread⟩, later⟩ := untouched
    rw [dropCells_cons, ih later, getElem?_dropCell_of_untouched ne unread]

/-- Every entry that a drop touches is of use if it is still stored after the last drop. -/
theorem used_dropCells (touched : s.Touches as b) (stored : b ∈ (s.dropCells as).entries) :
    ((s.dropCells as).entry b).isUnused = false := by
  induction as generalizing s with
  | nil => simp [Touches, Meets] at touched
  | cons a as ih =>
    by_cases later : (s.dropCell a).Touches as b
    · exact ih later stored
    · -- no later drop touches the entry, so it is what the drop of `a` leaves of it
      have last := getElem?_dropCells_of_untouched later
      rw [dropCells_cons, entry_congr last]
      rw [dropCells_cons, mem_congr last] at stored
      exact used_dropCell ((touches_cons.1 touched).resolve_right later) stored

theorem mem_of_used (used : (s.cell b).formula ≠ "" ∨ s.dependants b ≠ ∅) : b ∈ s.entries := by
  rcases used with text | read
  · exact mem_of_formula_ne text
  · by_contra absent
    exact read (dependants_of_not_mem absent)

/-- **Entries after several drops**: an entry that some drop touches stays if it is of use
afterwards, and every other one stays. -/
theorem mem_dropCells : b ∈ (s.dropCells as).entries ↔ b ∈ s.entries ∧
    (s.Touches as b →
      ((s.dropCells as).cell b).formula ≠ "" ∨ (s.dropCells as).dependants b ≠ ∅) := by
  constructor
  · intro stored
    exact ⟨mem_of_mem_dropCells as stored,
      fun touched => isUnused_entry_iff.1 (used_dropCells touched stored)⟩
  · rintro ⟨stored, used⟩
    by_cases touched : s.Touches as b
    · exact mem_of_used (used touched)
    · exact (mem_congr (getElem?_dropCells_of_untouched touched)).2 stored

/-! ## Any order -/

theorem entry_eq (s : Store) (b : Address) : s.entry b = ⟨s.cell b, s.dependants b⟩ := by
  rw [cell_eq_entry, dependants_eq_entry]

/-- Stores with the same stored addresses, cells and dependants are the same. -/
theorem ext_stored (bounds : s.bounds = t.bounds) (stored : ∀ b, b ∈ s.entries ↔ b ∈ t.entries)
    (cell : ∀ b ∈ s.entries, s.cell b = t.cell b) (dependants : ∀ b, s.dependants b = t.dependants b) :
    s = t := by
  have entries : s.entries = t.entries := by
    refine Std.ExtTreeMap.ext_getElem? fun b => ?_
    by_cases present : b ∈ s.entries
    · rw [getElem?_of_mem present, getElem?_of_mem ((stored b).1 present), entry_eq, entry_eq,
        cell b present, dependants b]
    · rw [Std.ExtTreeMap.getElem?_eq_none present,
        Std.ExtTreeMap.getElem?_eq_none (mt (stored b).2 present)]
  cases s
  cases t
  cases bounds
  cases entries
  rfl

/-- A cell that reads something has a text, so it is there when its turn comes. -/
theorem Quiet.meets_iff (h : s.Quiet) (read : b ∈ (s.cell x).references) :
    s.Meets as x ↔ x ∈ as := by
  refine ⟨And.left, fun listed => meets_of_formula_ne listed fun text => ?_⟩
  rw [h x text] at read
  exact Std.ExtTreeSet.not_mem_empty read

/-- **The order of drops does not matter** where a cell without a text reads nothing, nor whether a
cell is dropped again. -/
theorem dropCells_congr (h : s.Quiet) (same : ∀ a, a ∈ as ↔ a ∈ bs) :
    s.dropCells as = s.dropCells bs := by
  have met : ∀ x b, (s.Meets as x ∧ b ∈ (s.cell x).references) ↔
      s.Meets bs x ∧ b ∈ (s.cell x).references := fun x b =>
    and_congr_left fun read => by rw [h.meets_iff read, h.meets_iff read, same]
  have dependants : ∀ b, (s.dropCells as).dependants b = (s.dropCells bs).dependants b := by
    intro b
    refine Std.ExtTreeSet.ext_mem fun x => ?_
    rw [mem_dependants_dropCells, mem_dependants_dropCells, met]
  have stored : ∀ b, b ∈ (s.dropCells as).entries ↔ b ∈ (s.dropCells bs).entries := by
    intro b
    rw [mem_dropCells, mem_dropCells, formula_dropCells, formula_dropCells, dependants]
    simp only [Touches, same, met]
  refine ext_stored ?_ stored (fun b hb => ?_) dependants
  · rw [bounds_dropCells, bounds_dropCells]
  · rw [cell_dropCells_of_mem as hb, cell_dropCells_of_mem bs ((stored b).1 hb)]
    simp only [same]

/-- Dropping blank cells that something reads changes nothing. -/
theorem dropCells_of_blank (blank : ∀ a ∈ as, s.cell a = Cell.blank ∧ s.dependants a ≠ ∅) :
    s.dropCells as = s := by
  have unread : ∀ a ∈ as, ∀ b, b ∉ (s.cell a).references := by
    intro a ha b read
    rw [(blank a ha).1] at read
    exact Std.ExtTreeSet.not_mem_empty read
  have dependants : ∀ b, (s.dropCells as).dependants b = s.dependants b := by
    intro b
    refine Std.ExtTreeSet.ext_mem fun x => ?_
    rw [mem_dependants_dropCells]
    exact and_iff_left fun ⟨met, read⟩ => unread x met.1 b read
  refine ext_stored (bounds_dropCells as) (fun b => ?_) (fun b stored => ?_) dependants
  · rw [mem_dropCells, dependants]
    refine and_iff_left fun touched => Or.inr ?_
    rcases touched with listed | ⟨a, met, read⟩
    · exact (blank b listed).2
    · exact absurd read (unread a met.1 b)
  · rw [cell_dropCells_of_mem as stored]
    split
    · rename_i listed
      exact (blank b listed).1.symm
    · rfl

/-- Drops one more cell, and notes its address behind those noted before if it has a text. -/
def dropNext (noted : List Address × Store) (a : Address) : List Address × Store :=
  (if (noted.2.cell a).isBlank then noted.1 else noted.1 ++ [a], noted.2.dropCell a)

theorem isBlank_dropCell (ne : a ≠ b) : ((s.dropCell a).cell b).isBlank = (s.cell b).isBlank := by
  rw [Cell.isBlank, formula_dropCell, if_neg ne, Cell.isBlank]

/-- The addresses that are noted are those whose cells have a text in front of the first drop. -/
theorem foldl_dropNext (noted : List Address) (distinct : as.Nodup) :
    as.foldl dropNext (noted, s) =
      (noted ++ as.filter fun a => !(s.cell a).isBlank, s.dropCells as) := by
  induction as generalizing s noted with
  | nil => simp [dropCells]
  | cons a as ih =>
    obtain ⟨new, distinct⟩ := List.nodup_cons.1 distinct
    have later : (as.filter fun b => !((s.dropCell a).cell b).isBlank) =
        as.filter fun b => !(s.cell b).isBlank := by
      refine List.filter_congr fun b hb => ?_
      have ne : a ≠ b := by
        rintro rfl
        exact new hb
      rw [isBlank_dropCell ne]
    rw [List.foldl_cons, dropNext, ih _ distinct, later, dropCells_cons]
    cases text : (s.cell a).isBlank <;> simp [text]

/-! ## Dropping the outside -/

theorem nodup_outside (s : Store) : s.outside.Nodup :=
  Std.ExtTreeMap.nodup_keys.filter _

theorem mem_fst_dropOutside : a ∈ s.dropOutside.1 ↔
    s.bounds.contains a = false ∧ (s.cell a).formula ≠ "" := by
  rw [dropOutside, List.mem_filter, Bool.not_eq_true', Bool.eq_false_iff, Ne, Cell.isBlank_iff]
  exact ⟨fun ⟨listed, text⟩ => ⟨(mem_outside.1 listed).2, text⟩,
    fun ⟨outside, text⟩ => ⟨mem_outside.2 ⟨mem_of_formula_ne text, outside⟩, text⟩⟩

theorem pairwise_outside (s : Store) : s.outside.Pairwise (compare · · = .lt) :=
  Std.ExtTreeMap.ordered_keys.filter _

theorem pairwise_fst_dropOutside : s.dropOutside.1.Pairwise (compare · · = .lt) :=
  s.pairwise_outside.filter _

/-- Dropping the outside is one loop that drops and notes. -/
theorem foldl_dropNext_outside (s : Store) : s.outside.foldl dropNext ([], s) = s.dropOutside := by
  rw [foldl_dropNext [] s.nodup_outside, List.nil_append]
  rfl

/-- What is left outside the bounds are blank cells that something reads. -/
theorem blank_of_mem_dropOutside (stored : a ∈ s.dropOutside.2.entries)
    (outside : s.bounds.contains a = false) :
    s.dropOutside.2.cell a = Cell.blank ∧ s.dropOutside.2.dependants a ≠ ∅ := by
  have cell := cell_dropOutside_of_mem stored
  rw [outside, if_neg Bool.false_ne_true] at cell
  refine ⟨cell, ?_⟩
  have listed : a ∈ s.outside := mem_outside.2 ⟨mem_of_mem_dropCells _ stored, outside⟩
  have used := (mem_dropCells.1 stored).2 (Or.inl listed)
  rw [← dropOutside_eq, cell] at used
  exact used.resolve_left fun text => text rfl

/-- Dropping the outside again changes nothing. -/
theorem dropOutside_dropOutside (s : Store) :
    s.dropOutside.2.dropOutside = ([], s.dropOutside.2) := by
  have bounds : s.dropOutside.2.bounds = s.bounds := bounds_dropCells _
  have blank : ∀ a ∈ s.dropOutside.2.outside,
      s.dropOutside.2.cell a = Cell.blank ∧ s.dropOutside.2.dependants a ≠ ∅ := by
    intro a ha
    obtain ⟨stored, outside⟩ := mem_outside.1 ha
    rw [bounds] at outside
    exact blank_of_mem_dropOutside stored outside
  refine Prod.ext ?_ (dropCells_of_blank blank)
  refine List.filter_eq_nil_iff.2 fun a ha => ?_
  rw [(blank a ha).1]
  simp

/-! ## What is pruned before its turn -/

/-- While the outside is dropped, row by row, the link that the cell at `d` has to `a` is taken away
before the turn of `a`. -/
def Unlinks (s : Store) (d a : Address) : Prop :=
  compare d a = .lt ∧ s.Meets s.outside d ∧ a ∈ (s.cell d).references

/-- The addresses in front of one in a sorted list are those that come before it. -/
theorem mem_takeWhile_ne (sorted : as.Pairwise (compare · · = .lt)) (listed : a ∈ as) :
    x ∈ as.takeWhile (· ≠ a) ↔ x ∈ as ∧ compare x a = .lt := by
  induction as with
  | nil => cases listed
  | cons y as ih =>
    obtain ⟨first, sorted⟩ := List.pairwise_cons.1 sorted
    by_cases eq : y = a
    · subst eq
      rw [List.takeWhile_cons_of_neg (by simp)]
      refine iff_of_false List.not_mem_nil fun ⟨hx, before⟩ => ?_
      rcases List.mem_cons.1 hx with rfl | hx
      · cases before.symm.trans Std.ReflCmp.compare_self
      · cases before.symm.trans (Std.OrientedCmp.gt_of_lt (first x hx))
    · have later : a ∈ as := (List.mem_cons.1 listed).resolve_left (Ne.symm eq)
      have before : compare y a = .lt := first a later
      rw [List.takeWhile_cons_of_pos (by simpa using eq), List.mem_cons, List.mem_cons,
        ih sorted later]
      constructor
      · rintro (rfl | ⟨hx, hc⟩)
        · exact ⟨Or.inl rfl, before⟩
        · exact ⟨Or.inr hx, hc⟩
      · rintro ⟨rfl | hx, hc⟩
        · exact Or.inl rfl
        · exact Or.inr ⟨hx, hc⟩

theorem takeWhile_takeWhile_ne (front : x ∈ as.takeWhile (· ≠ a)) :
    (as.takeWhile (· ≠ a)).takeWhile (· ≠ x) = as.takeWhile (· ≠ x) := by
  induction as with
  | nil => rfl
  | cons y as ih =>
    by_cases eq : y = a
    · simp [eq] at front
    · rw [List.takeWhile_cons_of_pos (by simpa using eq)] at front ⊢
      by_cases found : y = x
      · rw [List.takeWhile_cons_of_neg (by simpa using found),
          List.takeWhile_cons_of_neg (by simpa using found)]
      · rw [List.takeWhile_cons_of_pos (by simpa using found),
          List.takeWhile_cons_of_pos (by simpa using found),
          ih ((List.mem_cons.1 front).resolve_left (Ne.symm found))]

/-- What is dropped in front of an address meets the same entries as the whole list does. -/
theorem meets_takeWhile : s.Meets (as.takeWhile (· ≠ a)) x ↔
    x ∈ as.takeWhile (· ≠ a) ∧ s.Meets as x := by
  refine and_congr_right fun front => ?_
  rw [takeWhile_takeWhile_ne front, Meets, and_iff_right]
  exact (List.takeWhile_subset _) front

theorem unlinks_iff (h : a ∈ s.outside) : s.Unlinks x a ↔
    s.Meets (s.outside.takeWhile (· ≠ a)) x ∧ a ∈ (s.cell x).references := by
  rw [meets_takeWhile, mem_takeWhile_ne s.pairwise_outside h, Unlinks]
  have listed : s.Meets s.outside x → x ∈ s.outside := And.left
  tauto

/-- An entry outside the bounds is pruned before its turn exactly if some link to it is taken away
before, it has no text, and no other link to it is left. -/
theorem meets_outside_iff (h : a ∈ s.outside) : s.Meets s.outside a ↔
    ((∃ d, s.Unlinks d a) →
      (s.cell a).formula ≠ "" ∨ ∃ d ∈ s.dependants a, ¬s.Unlinks d a) := by
  have front : a ∉ s.outside.takeWhile (· ≠ a) := fun h => by simpa using List.mem_takeWhile_imp h
  have touched : s.Touches (s.outside.takeWhile (· ≠ a)) a ↔ ∃ d, s.Unlinks d a := by
    simp only [Touches, unlinks_iff h, front, false_or]
  have read : (s.dropCells (s.outside.takeWhile (· ≠ a))).dependants a ≠ ∅ ↔
      ∃ d ∈ s.dependants a, ¬s.Unlinks d a := by
    simp only [AddressSet.ne_empty_iff, mem_dependants_dropCells, unlinks_iff h]
  rw [Meets, mem_dropCells, formula_dropCells, if_neg front, touched, read,
    and_iff_right (mem_outside.1 h).1, and_iff_right h]

/-- **The outside is dropped exactly**, from every store, by one loop that drops and notes. The
answer has the addresses outside the bounds with a text, row by row. Only blank cells that something
reads are left there. The dependants lose the cells outside that read them and are still stored at
their turn, and nothing else; every cell with a text is still stored then, and one without a text
unless the drops in front of it have taken away the last link to it. The cells inside the bounds
with a text stay as they are, and to drop the outside again changes nothing. Where a cell without a
text reads nothing, to drop the cells in another order gives the same store. -/
theorem dropOutside_exact (s : Store) :
    s.outside.foldl dropNext ([], s) = s.dropOutside ∧
    s.dropOutside.1.Pairwise (compare · · = .lt) ∧
    (∀ a, a ∈ s.dropOutside.1 ↔ s.bounds.contains a = false ∧ (s.cell a).formula ≠ "") ∧
    (∀ a ∈ s.dropOutside.2.entries, s.bounds.contains a = false →
      s.dropOutside.2.cell a = Cell.blank ∧ s.dropOutside.2.dependants a ≠ ∅) ∧
    (∀ a b, a ∈ s.dropOutside.2.dependants b ↔
      a ∈ s.dependants b ∧ ¬(s.Meets s.outside a ∧ b ∈ (s.cell a).references)) ∧
    (∀ a ∈ s.outside, s.Meets s.outside a ↔ ((∃ d, s.Unlinks d a) →
      (s.cell a).formula ≠ "" ∨ ∃ d ∈ s.dependants a, ¬s.Unlinks d a)) ∧
    (∀ a, s.bounds.contains a = true → (s.cell a).formula ≠ "" →
      s.dropOutside.2.cell a = s.cell a) ∧
    s.dropOutside.2.dropOutside = ([], s.dropOutside.2) ∧
    (s.Quiet → ∀ order : List Address, order.Perm s.outside → order.foldl dropNext ([], s) =
      (order.filter fun a => !(s.cell a).isBlank, s.dropOutside.2)) := by
  refine ⟨s.foldl_dropNext_outside, pairwise_fst_dropOutside, fun _ => mem_fst_dropOutside,
    fun _ => blank_of_mem_dropOutside, fun _ _ => mem_dependants_dropCells _,
    fun _ => meets_outside_iff, fun a inside text => ?_, s.dropOutside_dropOutside,
    fun quiet order perm => ?_⟩
  · have kept : (s.dropOutside.2.cell a).formula ≠ "" := by
      rwa [formula_dropOutside, if_pos inside]
    rw [cell_dropOutside_of_mem (mem_of_formula_ne kept), if_pos inside]
  · rw [foldl_dropNext [] (perm.nodup_iff.2 s.nodup_outside), List.nil_append,
      dropCells_congr quiet fun _ => perm.mem_iff, dropOutside_eq]

/-- A cell without a text that reads something, as no text gives one: its entry is pruned when the
only cell that reads it is dropped, so its own link is not taken away. -/
theorem dropOutside_pruned_first :
    let s := (((((Store.empty (.clamp 2 3)).replace ⟨0, 2⟩ (.ofText "=C2")).addDependant
      ⟨0, 2⟩ ⟨1, 2⟩).replace ⟨1, 2⟩ { Cell.blank with
        references := (∅ : AddressSet).insert ⟨0, 0⟩ }).addDependant
      ⟨1, 2⟩ ⟨0, 0⟩).resize (.clamp 2 2)
    s.Produced (fun _ => True) ∧ s.bounds.contains ⟨1, 2⟩ = false ∧
      ⟨0, 0⟩ ∈ (s.cell ⟨1, 2⟩).references ∧ ⟨1, 2⟩ ∈ s.dropOutside.2.dependants ⟨0, 0⟩ := by
  intro s
  have produced : s.Produced fun _ => True :=
    .resize 2 2 <| .addDependant _ _ <| .replace _ trivial <| .addDependant _ _ <|
      .replace _ trivial <| .empty 2 3
  refine ⟨produced, ?_, ?_, ?_⟩
  · cbv
  · unfold s
    cbv
  · unfold s
    cbv

/-- `C1` reads itself and `C2` reads `C1`, so the first drop prunes nothing and the second one takes
the entry of `C1` away. The link from `B1` to `A1`, which no text has, stays. -/
theorem dropOutside_exact_linked :
    let s := (((((((Store.empty (.clamp 2 3)).replace ⟨0, 2⟩ (.ofText "=A1+C1")).addDependant
      ⟨0, 2⟩ ⟨0, 0⟩).addDependant ⟨0, 2⟩ ⟨0, 2⟩).replace ⟨1, 2⟩ (.ofText "=C1")).addDependant
      ⟨1, 2⟩ ⟨0, 2⟩).addDependant ⟨0, 1⟩ ⟨0, 0⟩).resize (.clamp 2 2)
    s.Produced Cell.Quiet ∧ ⟨0, 2⟩ ∈ s.dropOutside.1 ∧
      ⟨0, 2⟩ ∉ s.dropOutside.2.dependants ⟨0, 0⟩ ∧ ⟨0, 1⟩ ∈ s.dropOutside.2.dependants ⟨0, 0⟩ ∧
      s.dropOutside.2.dropOutside = ([], s.dropOutside.2) ∧
      (s.outside.reverse.foldl dropNext ([], s)).2 = s.dropOutside.2 := by
  intro s
  have produced : s.Produced Cell.Quiet :=
    .resize 2 2 <| .addDependant _ _ <| .addDependant _ _ <|
      .replace _ (Cell.parsed_ofText _).quiet <| .addDependant _ _ <| .addDependant _ _ <|
        .replace _ (Cell.parsed_ofText _).quiet <| .empty 2 3
  obtain ⟨-, -, answer, -, dependants, met, -, again, anyOrder⟩ := s.dropOutside_exact
  have outside : s.bounds.contains ⟨0, 2⟩ = false := by cbv
  have inside : s.bounds.contains ⟨0, 1⟩ = true := by cbv
  have text : (s.cell ⟨0, 2⟩).formula ≠ "" := by
    unfold s
    cbv
  have reads : ⟨0, 0⟩ ∈ (s.cell ⟨0, 2⟩).references := by
    unfold s
    cbv
  have linked : ⟨0, 1⟩ ∈ s.dependants ⟨0, 0⟩ := by
    unfold s
    cbv
  have listed : ⟨0, 2⟩ ∈ s.outside := mem_outside.2 ⟨mem_of_formula_ne text, outside⟩
  refine ⟨produced, (answer _).2 ⟨outside, text⟩,
    fun kept => ((dependants _ _).1 kept).2 ⟨(met _ listed).2 fun _ => Or.inl text, reads⟩,
    (dependants _ _).2 ⟨linked, fun dropped => ?_⟩, again,
    by rw [anyOrder produced.quiet _ s.outside.reverse_perm]⟩
  cases inside.symm.trans (mem_outside.1 dropped.1.1).2

end Store

end Spreadsheet
