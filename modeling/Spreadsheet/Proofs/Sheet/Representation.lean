import Mathlib
import Spreadsheet.Proofs.Sheet.Edits

/-!
# The representation of a sheet

Every reachable sheet is sound (`Sheet.Sound`): its store is linked, and its texts lie inside the
bounds. So what is stored is determined by the texts, whatever led to them: the entries are the
addresses with a text and those that such a formula reads, and two reachable sheets with the same
texts differ in nothing but remembered values (`Sheet.Reachable.determined_by_texts`).
-/

namespace Spreadsheet

/-- The number of entries counts the stored addresses. -/
theorem Store.size_eq_ncard (s : Store) : s.size = Set.ncard {a | a ∈ s.entries} := by
  have nodup : s.entries.keys.Nodup := Std.ExtTreeMap.nodup_keys
  have same : {a | a ∈ s.entries} = (s.entries.keys.toFinset : Set Address) := by
    ext a
    simp
  rw [same, Set.ncard_coe_finset, List.toFinset_card_of_nodup nodup, Std.ExtTreeMap.length_keys,
    size]

namespace Sheet

variable {s s' : Sheet} {a : Address} {text : String} {stale : AddressSet} {rows columns : Nat}

/-! ## Sound sheets -/

/-- The store of the sheet is linked, and its texts lie inside the bounds. -/
structure Sound (s : Sheet) : Prop where
  linked : s.store.Linked
  inside : ∀ a, s.formula a ≠ "" → s.contains a = true

theorem sound_empty (rows columns : Nat) : (empty rows columns).Sound where
  linked := Store.linked_empty _
  inside a h := by
    simp [empty, formula, Store.empty, Store.cell, Cell.blank] at h

namespace Sound

/-- A cell reads what the formula parsed from its text reads. -/
theorem reads_iff (h : s.Sound) {b : Address} :
    s.store.Reads a b ↔ b ∈ (Expr.ofText (s.formula a)).references := by
  rw [Store.Reads, h.linked.references, formula]

/-- A cell that reads something lies inside the bounds. -/
theorem inside_of_reads (h : s.Sound) {b : Address} (reads : s.store.Reads a b) :
    s.contains a = true :=
  h.inside a (h.linked.formula_ne_of_reads reads)

theorem keeps (h : s.Sound) {t : Store} (kept : s.store.Keeps t) : (⟨t⟩ : Sheet).Sound where
  linked := kept.linked h.linked
  inside a text := by
    have same : (⟨t⟩ : Sheet).formula a = s.formula a := Cell.formula_congr (kept.cell a)
    rw [contains, bounds, kept.bounds]
    exact h.inside a (same ▸ text)

theorem set (h : s.Sound) (found : s.set a text = .ok (stale, s')) : s'.Sound := by
  obtain ⟨inside, ⟨-, -, rfl⟩ | ⟨-, -, store⟩⟩ := set_cases found
  · exact h
  · have put : (⟨s.store.put a (Cell.ofText text)⟩ : Sheet).Sound := by
      refine ⟨h.linked.put (Cell.parsed_ofText text), fun b hb => ?_⟩
      rw [contains, bounds, Store.bounds_put]
      rw [formula, Store.formula_put] at hb
      split at hb
      · rename_i eq
        exact eq ▸ inside
      · exact h.inside b hb
    have sound := put.keeps (Store.keeps_invalidateAll stale)
    rw [← store] at sound
    exact sound

theorem extend (h : s.Sound) : (s.extend rows columns).2.Sound where
  linked := ((Store.keeps_invalidateAll _).linked h.linked).resize _
  inside a text := by
    rw [formula_extend] at text
    exact Bounds.contains_extend (h.inside a text)

theorem shrink (h : s.Sound) : (s.shrink rows columns).2.Sound where
  linked := ((Store.keeps_invalidateAll _).linked (h.linked.resize _)).dropCells _
  inside a text := by
    rw [formula_shrink] at text
    rw [contains, bounds_shrink]
    by_contra outside
    exact text (if_neg outside)

theorem edit (h : s.Sound) (edit : s.Edit stale s') : s'.Sound := by
  cases edit with
  | set found => exact h.set found
  | extend rows columns => exact h.extend
  | shrink rows columns => exact h.shrink

theorem after (h : s.Sound) (c : Call) : (s.after c).Sound := by
  rcases s.after_cases c with same | ⟨stale, edit⟩ | ⟨a, query⟩
  · rwa [same]
  · exact h.edit edit
  · rw [query]
    exact h.keeps (Store.value_keeps s.store a)

end Sound

theorem Reachable.sound (h : s.Reachable) : s.Sound :=
  h.induct sound_empty fun _ c sound => sound.after c

/-- **An invariant of sound sheets** that new sheets have, and that edits and queries keep, holds of
every reachable sheet. -/
theorem Reachable.invariant {P : Sheet → Prop} (new : ∀ rows columns, P (Sheet.empty rows columns))
    (edit : ∀ {s stale s'}, Sound s → P s → s.Edit stale s' → P s')
    (query : ∀ {s}, Sound s → P s → ∀ a, P (s.value a).2) (h : s.Reachable) : P s := by
  have both : s.Sound ∧ P s := by
    refine h.induct (P := fun s => s.Sound ∧ P s) (fun rows columns => ?_) fun s c ih => ?_
    · exact ⟨sound_empty rows columns, new rows columns⟩
    · refine ⟨ih.1.after c, ?_⟩
      rcases s.after_cases c with same | ⟨stale, step⟩ | ⟨a, asked⟩
      · rw [same]
        exact ih.2
      · exact edit ih.1 ih.2 step
      · rw [asked]
        exact query ih.1 ih.2 a
  exact both.2

/-! ## What is stored -/

/-- The texts of a sheet determine what its store holds, the values aside. -/
structure Represents (s : Sheet) : Prop where
  /-- The dependants are the references read backwards. -/
  mirror : ∀ a b, a ∈ s.store.dependants b ↔ b ∈ (s.store.cell a).references.toList
  /-- No text lies outside the bounds. -/
  text_inside : ∀ a, s.formula a ≠ "" → s.contains a = true
  /-- No dependant lies outside the bounds. -/
  dependants_inside : ∀ a b, a ∈ s.store.dependants b → s.contains a = true
  /-- Every cell is parsed from its text. -/
  parsed : ∀ a, (s.store.cell a).forget = Cell.ofText (s.formula a)
  /-- The references are what the formula reads, in order and without duplicates. -/
  references : ∀ a, (s.store.cell a).references.toList.Pairwise (compare · · = .lt) ∧
    ∀ r, r ∈ (s.store.cell a).references.toList ↔ r ∈ (Expr.ofText (s.formula a)).reads
  /-- No entry is both blank and without dependants. -/
  used : ∀ (a : Address) (e : Entry), s.store.entries[a]? = some e → e.isUnused = false
  /-- An address is stored if it is set or a set cell reads it. -/
  stored : ∀ a, a ∈ s.store.entries ↔
    s.formula a ≠ "" ∨ ∃ b, s.formula b ≠ "" ∧ a ∈ (s.store.cell b).references
  /-- The size is the number of these addresses. -/
  size : s.store.size =
    Set.ncard {a | s.formula a ≠ "" ∨ ∃ b, s.formula b ≠ "" ∧ a ∈ (s.store.cell b).references}
  rows : 2 ≤ s.bounds.rows ∧ s.bounds.rows ≤ 10000
  columns : 2 ≤ s.bounds.columns ∧ s.bounds.columns ≤ 10000

theorem Sound.represents (h : s.Sound) : s.Represents := by
  have stored : ∀ a, a ∈ s.store.entries ↔
      s.formula a ≠ "" ∨ ∃ b, s.formula b ≠ "" ∧ a ∈ (s.store.cell b).references := fun a =>
    h.linked.mem_iff.trans (or_congr Iff.rfl
      ⟨fun ⟨b, reads⟩ => ⟨b, h.linked.formula_ne_of_reads reads, reads⟩,
        fun ⟨b, _, reads⟩ => ⟨b, reads⟩⟩)
  refine
    { mirror := fun a b => ?_
      text_inside := h.inside
      dependants_inside := fun a b dep => h.inside_of_reads ((h.linked.mirror a b).1 dep)
      parsed := h.linked.parsed
      references := fun a => ⟨Std.ExtTreeSet.ordered_toList, fun r => ?_⟩
      used := fun a e found => ?_
      stored := stored
      size := ?_
      rows := s.bounds.rows_range
      columns := s.bounds.columns_range }
  · rw [Std.ExtTreeSet.mem_toList, h.linked.mirror]
  · rw [Std.ExtTreeSet.mem_toList, h.linked.references, Expr.mem_references, formula]
  · have mem : a ∈ s.store.entries := Store.mem_iff_isSome.2 (by rw [found]; rfl)
    obtain rfl : e = s.store.entry a := by
      have entry := Store.getElem?_of_mem mem
      rw [found] at entry
      exact Option.some.inj entry
    exact Store.isUnused_entry_iff.2 (h.linked.used a mem)
  · rw [Store.size_eq_ncard]
    congr 1
    ext a
    exact stored a

/-- The entries of a store without their values. -/
def skeleton (s : Sheet) : AddressMap Entry :=
  s.store.entries.map fun _ e => { e with cell := e.cell.forget }

/-- Sound sheets with the same texts have the same entries. -/
theorem Sound.skeleton_congr {t : Sheet} (hs : s.Sound) (ht : t.Sound)
    (same : ∀ a, s.formula a = t.formula a) : s.skeleton = t.skeleton := by
  have cell : ∀ a, (s.store.cell a).forget = (t.store.cell a).forget := fun a =>
    calc (s.store.cell a).forget = Cell.ofText (s.formula a) := hs.linked.parsed a
      _ = Cell.ofText (t.formula a) := by rw [same]
      _ = (t.store.cell a).forget := (ht.linked.parsed a).symm
  have dependants : ∀ b, s.store.dependants b = t.store.dependants b := fun b =>
    Std.ExtTreeSet.ext_mem fun a => by
      rw [hs.linked.mirror, ht.linked.mirror, Cell.references_congr (cell a)]
  have stored : ∀ a, a ∈ s.store.entries ↔ a ∈ t.store.entries := fun a => by
    rw [hs.represents.stored, ht.represents.stored]
    simp only [same, Cell.references_congr (cell _)]
  refine Std.ExtTreeMap.ext_getElem? fun a => ?_
  rw [skeleton, skeleton, Std.ExtTreeMap.getElem?_map, Std.ExtTreeMap.getElem?_map]
  by_cases mem : a ∈ s.store.entries
  · rw [Store.getElem?_of_mem mem, Store.getElem?_of_mem ((stored a).1 mem), Option.map_some,
      Option.map_some]
    have hc := cell a
    have hd := dependants a
    rw [Store.cell_eq_entry, Store.cell_eq_entry] at hc
    rw [Store.dependants_eq_entry, Store.dependants_eq_entry] at hd
    rw [Option.some.injEq]
    exact congrArg₂ Entry.mk hc hd
  · rw [Std.ExtTreeMap.getElem?_eq_none mem, Std.ExtTreeMap.getElem?_eq_none (mt (stored a).2 mem)]

/-- **What a reachable sheet stores** is what its texts determine: the calls that led to it leave
no other trace than values. -/
theorem Reachable.determined_by_texts (h : s.Reachable) : s.Represents ∧
    ∀ t : Sheet, t.Reachable → (∀ a, t.formula a = s.formula a) → t.skeleton = s.skeleton :=
  ⟨h.sound.represents, fun _ ht same => ht.sound.skeleton_congr h.sound same⟩

/-- A text that was set and cleared leaves nothing behind. -/
theorem represents_cleared :
    let s := (empty 2 2).after (.set ⟨0, 0⟩ "=B1")
    let t := (((empty 2 2).after (.set ⟨0, 1⟩ "x")).after (.set ⟨0, 0⟩ "=B1")).after
      (.set ⟨0, 1⟩ "")
    s.Represents ∧ t.skeleton = s.skeleton := by
  intro s t
  have new : Reachable (empty 2 2) := .empty 2 2
  have same : ∀ a, t.formula a = s.formula a := by
    intro a
    rw [formula_after_set (by cbv), formula_after_set (by cbv), formula_after_set (by cbv),
      formula_after_set (by cbv)]
    by_cases eq : (⟨0, 1⟩ : Address) = a
    · subst eq
      rfl
    · rw [if_neg eq, if_neg eq]
  obtain ⟨represents, determined⟩ := Reachable.determined_by_texts (new.after (.set ⟨0, 0⟩ "=B1"))
  exact ⟨represents, determined t (((new.after _).after _).after _) same⟩

end Sheet

end Spreadsheet
