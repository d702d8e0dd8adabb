import Spreadsheet.Proofs.Sheet.Recalculation

/-!
# What an edit spares

An edit answers the addresses whose values it made out of date. The other ones that it keeps are
spared (`Sheet.Spares`): they have the texts, the cells and the values they had, and so has all they
read. So whatever is computed from a spared address is the same before and after the edit.
-/

namespace Spreadsheet.Sheet

open Relation Store

/-- The step from one sheet to another leaves some addresses alone, and forgets the values of all
others that stay stored. -/
structure Spares (s s' : Sheet) (kept : Address → Prop) : Prop where
  formula : ∀ a, kept a → s'.formula a = s.formula a
  contains : ∀ a r, kept a → s.store.Reads a r → s'.contains r = s.contains r
  closed : ∀ a r, kept a → s.store.Follows a r → kept r
  cell : ∀ a ∈ s'.store.entries, kept a → s'.store.cell a = s.store.cell a
  fresh : ∀ a ∈ s'.store.entries, ¬kept a →
    (s'.store.cell a).cached = none ∨ s'.store.cell a = Cell.blank

variable {s s' : Sheet} {a b : Address} {text : String} {stale : AddressSet} {rows columns : Nat}
  {kept : Address → Prop}

/-! ## Every edit spares what it does not answer -/

/-- A cell whose value is forgotten has none. -/
theorem cached_invalidateAll {t : Store} (stored : a ∈ t.entries) (h : a ∈ stale) :
    ((t.invalidateAll stale).cell a).cached = none := by
  rw [cell_invalidateAll, if_pos ⟨h, stored⟩]
  rfl

theorem Sound.spares_set (h : s.Sound) (found : s.set a text = .ok (stale, s')) :
    Spares s s' (· ∉ stale) := by
  obtain ⟨inside, ⟨-, rfl, rfl⟩ | ⟨-, stale_eq, store⟩⟩ := set_cases found
  · exact {
      formula := fun _ _ => rfl
      contains := fun _ _ _ _ => rfl
      closed := fun _ _ _ _ => Std.ExtTreeSet.not_mem_empty
      cell := fun _ _ _ => rfl
      fresh := fun _ _ none => absurd Std.ExtTreeSet.not_mem_empty none }
  have put_linked : (s.store.put a (Cell.ofText text)).Linked := h.linked.put (Cell.parsed_ofText text)
  have seed : a ∈ stale := stale_eq ▸ Linked.mem_affected_of_seed List.mem_cons_self
  have ne : ∀ b, b ∉ stale → a ≠ b := fun b hb eq => hb (eq ▸ seed)
  have put_formula : ∀ b, b ∉ stale →
      ((s.store.put a (Cell.ofText text)).cell b).formula = (s.store.cell b).formula :=
    fun b hb => by rw [formula_put, if_neg (ne b hb)]
  refine
    { formula := fun b hb => ?_
      contains := fun b r _ _ => by rw [contains, bounds_set found, contains]
      closed := fun b r hb follows hr => hb ?_
      cell := fun b stored hb => ?_
      fresh := fun b stored hb => ?_ }
  · rw [formula, store, Cell.formula_congr (forget_cell_invalidateAll stale), put_formula b hb]
    rfl
  · rw [stale_eq] at hr ⊢
    refine put_linked.mem_affected_of_reads ?_ hr
    have reads := follows.1
    rw [Reads, h.linked.references] at reads
    rwa [Reads, put_linked.references, put_formula b hb]
  · rw [store, mem_invalidateAll] at stored
    rw [store, cell_invalidateAll_of_not_mem hb, cell_put_of_mem stored, if_neg (ne b hb)]
  · rw [store, mem_invalidateAll] at stored
    rw [store]
    exact Or.inl (cached_invalidateAll stored (not_not.1 hb))

/-- An extension moves no reference of a spared cell across the bounds. -/
theorem contains_extend_of_reads (spared : a ∉ (s.extend rows columns).1)
    (reads : s.store.Reads a b) :
    (s.bounds.extend rows columns).contains b = s.bounds.contains b := by
  have not_band : ¬s.bounds.inBand (s.bounds.extend rows columns) b = true := fun band =>
    spared (Linked.mem_affected_of_seed (mem_cellsReading.2 ⟨b, reads, band⟩))
  cases old : s.bounds.contains b with
  | true => exact Bounds.contains_extend old
  | false =>
    rw [← Bool.not_eq_true]
    exact fun new => not_band (Bounds.inBand_of_contains new old)

theorem Sound.spares_extend (h : s.Sound) :
    Spares s (s.extend rows columns).2 (· ∉ (s.extend rows columns).1) where
  formula b _ := formula_extend s rows columns b
  contains _ _ spared reads := contains_extend_of_reads spared reads
  closed _ _ spared follows hr := spared (h.linked.mem_affected_of_reads follows.1 hr)
  cell _ _ spared := cell_invalidateAll_of_not_mem spared
  fresh _ stored stale :=
    Or.inl (cached_invalidateAll ((mem_invalidateAll _).1 stored) (not_not.1 stale))

/-- A removal moves no reference of a spared cell across the bounds: a cell inside that reads a
removed row or column is out of date. -/
theorem contains_shrink_of_reads (spared : a ∉ s.shrinkStale rows columns)
    (inside : (s.bounds.shrink rows columns).contains a = true) (reads : s.store.Reads a b) :
    (s.bounds.shrink rows columns).contains b = s.bounds.contains b := by
  have not_band : ¬(s.bounds.shrink rows columns).inBand s.bounds b = true := fun band =>
    spared (Linked.mem_affected_of_seed
      (List.mem_filter.2 ⟨mem_cellsReading.2 ⟨b, reads, band⟩, inside⟩))
  cases hb : (s.bounds.shrink rows columns).contains b with
  | true => exact (Bounds.contains_of_shrink hb).symm
  | false =>
    refine (Bool.eq_false_iff.2 fun old => not_band ?_).symm
    exact Bounds.inBand_of_contains old hb

theorem Sound.spares_shrink (h : s.Sound) : Spares s (s.shrink rows columns).2
    fun a => a ∉ s.shrinkStale rows columns ∧
      (s.bounds.shrink rows columns).contains a = true := by
  have linked := h.linked.resize (s.bounds.shrink rows columns)
  refine
    { formula := fun a ha => ?_
      contains := fun a r ha reads => ?_
      closed := fun a r ha follows => ⟨fun hr => ha.1 ?_, ?_⟩
      cell := fun a stored ha => ?_
      fresh := fun a stored ha => ?_ }
  · rw [formula_shrink, if_pos ha.2]
  · rw [contains, bounds_shrink]
    exact contains_shrink_of_reads ha.1 ha.2 reads
  · exact linked.mem_affected_of_reads follows.1 hr
  · rw [contains_shrink_of_reads ha.1 ha.2 follows.1]
    exact follows.2
  · rw [cell_shrink_of_mem stored, if_pos ha.2, cell_invalidateAll_of_not_mem ha.1]
  · rw [cell_shrink_of_mem stored]
    split
    · rename_i inside
      have stale : a ∈ s.shrinkStale rows columns := by tauto
      exact Or.inl (cached_invalidateAll (mem_of_mem_shrink stored) stale)
    · exact Or.inr rfl

/-- **An edit spares** what lies inside the bounds before and after it and is not answered. -/
theorem Edit.spares (edit : s.Edit stale s') (h : s.Sound) : ∃ kept, Spares s s' kept ∧
    ∀ a, s'.contains a = true → a ∉ stale → kept a := by
  cases edit with
  | set found => exact ⟨_, h.spares_set found, fun _ _ ha => ha⟩
  | extend rows columns => exact ⟨_, h.spares_extend, fun _ _ ha => ha⟩
  | shrink rows columns =>
    refine ⟨_, h.spares_shrink, fun a inside ha => ?_⟩
    rw [contains, bounds_shrink] at inside
    exact ⟨fun stale => ha (mem_shrink.2 ⟨stale, inside⟩), inside⟩

/-! ## Spared addresses -/

namespace Spares

variable (spares : Spares s s' kept) (hs : s.Sound) (hs' : s'.Sound)

include spares hs hs' in
theorem reads (ha : kept a) : s'.store.Reads a b ↔ s.store.Reads a b := by
  rw [hs'.reads_iff, hs.reads_iff, spares.formula a ha]

include spares hs hs' in
theorem follows (ha : kept a) : s'.store.Follows a b ↔ s.store.Follows a b := by
  rw [Follows, Follows, spares.reads hs hs' ha]
  exact and_congr_right fun reads => by
    rw [show s'.store.bounds.contains b = s.store.bounds.contains b from
      spares.contains a b ha reads]

include spares hs hs' in
/-- A spared address reaches a cycle after the edit if it did before it. -/
theorem reachesCycle_iff (ha : kept a) :
    Walk.ReachesCycle s'.store a ↔ Walk.ReachesCycle s.store a := by
  constructor
  · intro h
    refine h.transfer (fun b c hb follows => ?_) ha
    have before := (spares.follows hs hs' hb).1 follows
    exact ⟨spares.closed b c hb before, before⟩
  · intro h
    refine h.transfer (fun b c hb follows => ?_) ha
    exact ⟨spares.closed b c hb follows, (spares.follows hs hs' hb).2 follows⟩

include spares in
/-- The value of a spared address stays the value that recalculation gives. -/
theorem recalculates {v : Value} (h : Recalculates s.bounds s.formula a v)
    (ha : s.contains a = true → kept a) (same : s'.contains a = s.contains a)
    (hs : s.Sound) : Recalculates s'.bounds s'.formula a v := by
  induction h with
  | outside h => exact .outside (same.trans h)
  | @inside a lookup h _ ih =>
    have ka := ha h
    have text := spares.formula a ka
    rw [← text] at ih ⊢
    refine .inside (same.trans h) fun r hr => ?_
    have reads : s.store.Reads a r := hs.reads_iff.2 (text ▸ hr)
    exact ih r hr (fun inside => spares.closed a r ka ⟨reads, inside⟩) (spares.contains a r ka reads)

include spares in
theorem settles {v : Value} (hs : s.Sound) (ha : kept a) (h : Settles s.bounds s.formula a v) :
    Settles s'.bounds s'.formula a v := by
  obtain ⟨lookup, references, rfl⟩ := h
  rw [← spares.formula a ha] at references ⊢
  refine ⟨lookup, fun r hr => ?_, rfl⟩
  have reads : s.store.Reads a r := hs.reads_iff.2 (spares.formula a ha ▸ hr)
  exact spares.recalculates (references r hr) (fun inside => spares.closed a r ha ⟨reads, inside⟩)
    (spares.contains a r ha reads) hs

end Spares

end Spreadsheet.Sheet
