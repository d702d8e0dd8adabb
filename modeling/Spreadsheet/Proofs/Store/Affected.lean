import Mathlib.Logic.Relation
import Spreadsheet.Proofs.Store.Changes

/-!
# What a change affects

`Store.affected` walks along the dependants. In a linked store it collects exactly the cells that
reach one of the seeds along references (`Linked.mem_affected_iff`), so the set is closed: a cell
that reads an affected one is affected (`Linked.mem_affected_of_reads`).
-/

namespace Spreadsheet.Store

open Relation

variable {s : Store} {a b : Address}

/-- The formula at `a` reads `b`. -/
def Reads (s : Store) (a b : Address) : Prop := b ∈ (s.cell a).references

theorem mem_reach_of_seen (seen : AddressSet) (pending : List Address) (h : a ∈ seen) :
    a ∈ s.reach seen pending := by
  fun_induction reach s seen pending with
  | case1 => exact h
  | case2 seen x pending hx ih => exact ih h
  | case3 seen x pending hx ih => exact ih (AddressSet.mem_insert_iff.2 (Or.inr h))

theorem mem_reach_of_pending (seen : AddressSet) (pending : List Address) (h : a ∈ pending) :
    a ∈ s.reach seen pending := by
  fun_induction reach s seen pending with
  | case1 => cases h
  | case2 seen x pending hx ih =>
    rcases List.mem_cons.1 h with rfl | h
    · exact mem_reach_of_seen _ _ (Std.ExtTreeSet.contains_iff_mem.1 hx)
    · exact ih h
  | case3 seen x pending hx ih =>
    rcases List.mem_cons.1 h with rfl | h
    · exact mem_reach_of_seen _ _ (AddressSet.mem_insert_iff.2 (Or.inl rfl))
    · exact ih (List.mem_append_right _ h)

/-- What is reached has been seen or lies behind a pending address. -/
theorem of_mem_reach (seen : AddressSet) (pending : List Address) (h : b ∈ s.reach seen pending) :
    b ∈ seen ∨ ∃ a ∈ pending, ReflTransGen (fun x y => y ∈ s.dependants x) a b := by
  fun_induction reach s seen pending with
  | case1 => exact Or.inl h
  | case2 seen x pending hx ih =>
    refine (ih h).imp id ?_
    rintro ⟨a, ha, path⟩
    exact ⟨a, List.mem_cons_of_mem _ ha, path⟩
  | case3 seen x pending hx ih =>
    rcases ih h with hb | ⟨a, ha, path⟩
    · rcases AddressSet.mem_insert_iff.1 hb with rfl | hb
      · exact Or.inr ⟨_, List.mem_cons_self, ReflTransGen.refl⟩
      · exact Or.inl hb
    · rcases List.mem_append.1 ha with ha | ha
      · exact Or.inr ⟨x, List.mem_cons_self,
          ReflTransGen.head (Std.ExtTreeSet.mem_toList.1 ha) path⟩
      · exact Or.inr ⟨a, List.mem_cons_of_mem _ ha, path⟩

/-- What is reached is closed under dependants. The work list is the invariant's second half: the
dependants of a seen address have been seen or are pending. -/
theorem reach_closed (seen : AddressSet) (pending : List Address)
    (inv : ∀ x ∈ seen, ∀ y ∈ s.dependants x, y ∈ seen ∨ y ∈ pending)
    (ha : a ∈ s.reach seen pending) (hb : b ∈ s.dependants a) : b ∈ s.reach seen pending := by
  fun_induction reach s seen pending with
  | case1 seen => exact (inv a ha b hb).resolve_right List.not_mem_nil
  | case2 seen x pending hx ih =>
    refine ih (fun y hy z hz => ?_) ha
    rcases inv y hy z hz with hz | hz
    · exact Or.inl hz
    · rcases List.mem_cons.1 hz with rfl | hz
      · exact Or.inl (Std.ExtTreeSet.contains_iff_mem.1 hx)
      · exact Or.inr hz
  | case3 seen x pending hx ih =>
    refine ih (fun y hy z hz => ?_) ha
    rcases AddressSet.mem_insert_iff.1 hy with rfl | hy
    · exact Or.inr (List.mem_append_left _ (Std.ExtTreeSet.mem_toList.2 hz))
    · rcases inv y hy z hz with hz | hz
      · exact Or.inl (AddressSet.mem_insert_iff.2 (Or.inr hz))
      · rcases List.mem_cons.1 hz with rfl | hz
        · exact Or.inl (AddressSet.mem_insert_iff.2 (Or.inl rfl))
        · exact Or.inr (List.mem_append_right _ hz)

namespace Linked

theorem mem_affected_of_seed {seeds : List Address} (h : a ∈ seeds) : a ∈ s.affected seeds :=
  mem_reach_of_pending _ _ h

/-- A cell that reads an affected cell is affected. -/
theorem mem_affected_of_reads (h : s.Linked) {seeds : List Address} (reads : s.Reads a b)
    (hb : b ∈ s.affected seeds) : a ∈ s.affected seeds := by
  refine reach_closed _ _ (fun x hx => ?_) hb ((h.mirror a b).2 reads)
  exact absurd hx Std.ExtTreeSet.not_mem_empty

/-- **The affected cells** are those that reach a seed along references. -/
theorem mem_affected_iff (h : s.Linked) {seeds : List Address} :
    a ∈ s.affected seeds ↔ ∃ b ∈ seeds, ReflTransGen s.Reads a b := by
  constructor
  · intro ha
    obtain ⟨b, hb, path⟩ := (of_mem_reach _ _ ha).resolve_left Std.ExtTreeSet.not_mem_empty
    have back : ReflTransGen (Function.swap s.Reads) b a :=
      ReflTransGen.mono (fun x y hy => (h.mirror y x).1 hy) _ _ path
    exact ⟨b, hb, back.swap⟩
  · rintro ⟨b, hb, path⟩
    induction path using ReflTransGen.head_induction_on with
    | refl => exact mem_affected_of_seed hb
    | head reads _ ih => exact h.mem_affected_of_reads reads ih

end Linked

theorem mem_cellsReading {p : Address → Bool} :
    a ∈ s.cellsReading p ↔ ∃ r, s.Reads a r ∧ p r = true := by
  have stored : (∃ r, s.Reads a r ∧ p r = true) → a ∈ s.entries := by
    rintro ⟨r, reads, -⟩
    exact mem_of_mem_references reads
  unfold cellsReading
  constructor
  · intro h
    obtain ⟨⟨_, e⟩, he, rfl⟩ := List.mem_map.1 h
    obtain ⟨found, reads⟩ := List.mem_filter.1 he
    rw [Std.ExtTreeMap.mem_toList_iff_getElem?_eq_some] at found
    obtain ⟨r, hr, hp⟩ := List.any_eq_true.1 reads
    refine ⟨r, ?_, hp⟩
    rw [Reads, cell, found]
    exact Std.ExtTreeSet.mem_toList.1 hr
  · intro h
    have found := getElem?_of_mem (stored h)
    obtain ⟨r, reads, hp⟩ := h
    refine List.mem_map.2 ⟨(a, s.entry a), List.mem_filter.2
      ⟨Std.ExtTreeMap.mem_toList_iff_getElem?_eq_some.2 found, ?_⟩, rfl⟩
    rw [Reads, cell_eq_entry] at reads
    exact List.any_eq_true.2 ⟨r, Std.ExtTreeSet.mem_toList.2 reads, hp⟩

end Spreadsheet.Store
