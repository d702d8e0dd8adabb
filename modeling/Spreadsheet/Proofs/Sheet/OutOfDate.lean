import Spreadsheet.Proofs.Sheet.Spared

/-!
# What an edit answers

An edit answers exactly the cells that it puts out of date: for a text that is set, its cell and all
cells that reach it along references; for rows and columns that come or go, the cells that reach an
address of theirs (`Sheet.Reachable.edit_exact`). It forgets the values of these cells and of no
others (`Edit.forgets`). Cells that read each other are no exception, and neither are cells that
reach a removed address only through cells that are removed with it.
-/

namespace Spreadsheet

open Relation

/-- Which points reach `a` does not depend on the steps that leave `a`. -/
theorem reflTransGen_congr_of_ne {α : Type} {R R' : α → α → Prop} {a x : α}
    (same : ∀ x y, x ≠ a → (R x y ↔ R' x y)) : ReflTransGen R x a ↔ ReflTransGen R' x a := by
  have transfer : ∀ {S S' : α → α → Prop}, (∀ x y, x ≠ a → S x y → S' x y) →
      ReflTransGen S x a → ReflTransGen S' x a := by
    intro S S' sub path
    induction path using ReflTransGen.head_induction_on with
    | refl => exact .refl
    | @head x y first _ ih =>
      by_cases eq : x = a
      · exact eq ▸ .refl
      · exact .head (sub x y eq first) ih
  exact ⟨transfer fun x y ne => (same x y ne).1, transfer fun x y ne => (same x y ne).2⟩

namespace Store

variable {s : Store} {a b : Address} {p : Address → Bool}

/-- The cells affected by the readers of some addresses are those that reach one of these. -/
theorem Linked.mem_affected_readers_iff (h : s.Linked) :
    a ∈ s.affected (s.cellsReading p) ↔ ∃ b, TransGen s.Reads a b ∧ p b = true := by
  rw [h.mem_affected_iff]
  constructor
  · rintro ⟨c, hc, path⟩
    obtain ⟨b, reads, hb⟩ := mem_cellsReading.1 hc
    exact ⟨b, TransGen.tail' path reads, hb⟩
  · rintro ⟨b, path, hb⟩
    obtain ⟨c, path, reads⟩ := TransGen.tail'_iff.1 path
    exact ⟨c, mem_cellsReading.2 ⟨b, reads, hb⟩, path⟩

end Store

namespace Sheet

open Store

variable {s s' : Sheet} {a x : Address} {text : String} {stale : AddressSet} {rows columns : Nat}

/-! ## What is forgotten -/

/-- The answered addresses have no values any more, where those that are not stored read as blank
cells, and all other cells with a text have the values they had. -/
structure Forgets (s : Sheet) (stale : AddressSet) (s' : Sheet) : Prop where
  forgotten : ∀ a ∈ stale, a ∈ s'.store.entries → (s'.store.cell a).cached = none
  blank : ∀ a ∈ stale, a ∉ s'.store.entries → s'.store.cell a = Cell.blank
  kept : ∀ a, a ∉ stale → s'.contains a = true → s'.formula a ≠ "" →
    (s'.store.cell a).cached = (s.store.cell a).cached

/-- **An edit forgets** the values of what it answers, and of nothing else. -/
theorem Edit.forgets (edit : s.Edit stale s') (h : s.Sound) : s.Forgets stale s' where
  forgotten a ha stored := by
    cases edit with
    | set found =>
      obtain ⟨-, ⟨-, rfl, -⟩ | ⟨-, -, store⟩⟩ := set_cases found
      · exact absurd ha Std.ExtTreeSet.not_mem_empty
      · rw [store] at stored ⊢
        exact cached_invalidateAll ((mem_invalidateAll _).1 stored) ha
    | extend rows columns => exact cached_invalidateAll ((mem_invalidateAll _).1 stored) ha
    | shrink rows columns =>
      obtain ⟨stale, inside⟩ := mem_shrink.1 ha
      rw [cell_shrink_of_mem stored, if_pos inside]
      exact cached_invalidateAll (mem_of_mem_shrink stored) stale
  blank a _ absent := cell_of_not_mem absent
  kept a ha inside text := by
    obtain ⟨kept, spares, hkept⟩ := edit.spares h
    rw [spares.cell a (mem_of_formula_ne text) (hkept a inside ha)]

/-! ## What is answered -/

/-- A text that is set changes only what its own cell reads. -/
theorem Sound.reads_set_iff (h : s.Sound) (found : s.set a text = .ok (stale, s')) (ne : x ≠ a)
    (y : Address) : s'.store.Reads x y ↔ s.store.Reads x y := by
  have inside : s.contains a = true := (set_cases found).1
  rw [(h.set found).reads_iff, h.reads_iff, ← after_set found, formula_after_set inside,
    if_neg (Ne.symm ne)]

/-- A new text puts out of date its cell and all that reach it, by the references before it is set
or after. -/
theorem Sound.mem_set_iff (h : s.Sound) (found : s.set a text = .ok (stale, s'))
    (differ : s.formula a ≠ text) : (x ∈ stale ↔ x = a ∨ TransGen s.store.Reads x a) ∧
      (x ∈ stale ↔ x = a ∨ TransGen s'.store.Reads x a) := by
  obtain ⟨-, ⟨same, -⟩ | ⟨-, stale_eq, store⟩⟩ := set_cases found
  · exact absurd same differ
  have reached : x ∈ stale ↔ ReflTransGen s'.store.Reads x a := by
    have linked : (s.store.put a (Cell.ofText text)).Linked := h.linked.put (Cell.parsed_ofText text)
    have same : s'.store.Reads = (s.store.put a (Cell.ofText text)).Reads := by
      funext x y
      rw [store]
      exact propext (keeps_invalidateAll stale).reads
    rw [stale_eq, linked.mem_affected_iff, same]
    simp
  have before : ReflTransGen s'.store.Reads x a ↔ ReflTransGen s.store.Reads x a :=
    reflTransGen_congr_of_ne fun x y ne => h.reads_set_iff found ne y
  have split : ∀ {R : Address → Address → Prop}, ReflTransGen R x a ↔ x = a ∨ TransGen R x a := by
    intro R
    rw [reflTransGen_iff_eq_or_transGen, eq_comm]
  exact ⟨(reached.trans before).trans split, reached.trans split⟩

theorem Sound.mem_extend_iff (h : s.Sound) : x ∈ (s.extend rows columns).1 ↔
    ∃ y, TransGen s.store.Reads x y ∧ s.bounds.inBand (s.bounds.extend rows columns) y = true :=
  h.linked.mem_affected_readers_iff

/-- A cell inside the new bounds that reaches a removed address reaches a cell inside the new bounds
which reads one: the first removed address on the way is read by such a cell. -/
theorem Sound.exists_reader_of_reaches (h : s.Sound) {y : Address}
    (path : TransGen s.store.Reads x y) (hy : (s.bounds.shrink rows columns).inBand s.bounds y = true)
    (inside : (s.bounds.shrink rows columns).contains x = true) :
    ∃ b, (s.bounds.shrink rows columns).contains b = true ∧ ReflTransGen s.store.Reads x b ∧
      ∃ r, s.store.Reads b r ∧ (s.bounds.shrink rows columns).inBand s.bounds r = true := by
  induction path using TransGen.head_induction_on with
  | @single x reads => exact ⟨x, inside, .refl, y, reads, hy⟩
  | @head x z reads rest ih =>
    by_cases band : (s.bounds.shrink rows columns).inBand s.bounds z = true
    · exact ⟨x, inside, .refl, z, reads, band⟩
    · obtain ⟨_, further, -⟩ := TransGen.head'_iff.1 rest
      have old : s.bounds.contains z = true := h.inside_of_reads further
      have new : (s.bounds.shrink rows columns).contains z = true := by
        by_contra outside
        exact band (Bounds.inBand_of_contains old (by simpa using outside))
      obtain ⟨b, hb, path, reader⟩ := ih new
      exact ⟨b, hb, .head reads path, reader⟩

theorem Sound.mem_shrink_iff (h : s.Sound) : x ∈ (s.shrink rows columns).1 ↔
    (s.bounds.shrink rows columns).contains x = true ∧ ∃ y, TransGen s.store.Reads x y ∧
      (s.bounds.shrink rows columns).inBand s.bounds y = true := by
  rw [mem_shrink, and_comm]
  refine and_congr_right fun inside => ?_
  have linked := h.linked.resize (s.bounds.shrink rows columns)
  rw [shrinkStale, linked.mem_affected_iff]
  constructor
  · rintro ⟨b, hb, path⟩
    obtain ⟨r, reads, band⟩ := mem_cellsReading.1 (List.mem_filter.1 hb).1
    exact ⟨r, TransGen.tail' path reads, band⟩
  · rintro ⟨y, path, hy⟩
    obtain ⟨b, hb, path, r, reads, band⟩ := h.exists_reader_of_reaches path hy inside
    exact ⟨b, List.mem_filter.2 ⟨mem_cellsReading.2 ⟨r, reads, band⟩, hb⟩, path⟩

/-- **Edits answer exactly what they put out of date, and forget exactly that.** The same text
changes nothing; another one puts out of date its cell and those that reach it. Rows and columns
that are added or removed put out of date the cells, inside the bounds, that reach an address of
theirs. -/
theorem Reachable.edit_exact (h : s.Reachable) :
    (∀ a text, s.contains a = true →
      (s.formula a = text → s.set a text = .ok (∅, s)) ∧
      (s.formula a ≠ text → ∃ stale s', s.set a text = .ok (stale, s') ∧
        (∀ x, x ∈ stale ↔ x = a ∨ TransGen s.store.Reads x a) ∧
        (∀ x, x ∈ stale ↔ x = a ∨ TransGen s'.store.Reads x a) ∧ s.Forgets stale s')) ∧
    (∀ rows columns, (∀ x, x ∈ (s.extend rows columns).1 ↔ ∃ y, TransGen s.store.Reads x y ∧
        ((s.bounds.rows ≤ y.row ∧ y.row < (s.extend rows columns).2.bounds.rows) ∨
          (s.bounds.columns ≤ y.col ∧ y.col < (s.extend rows columns).2.bounds.columns))) ∧
      s.Forgets (s.extend rows columns).1 (s.extend rows columns).2) ∧
    ∀ rows columns, (∀ x, x ∈ (s.shrink rows columns).1 ↔
        (s.shrink rows columns).2.contains x = true ∧ ∃ y, TransGen s.store.Reads x y ∧
          (((s.shrink rows columns).2.bounds.rows ≤ y.row ∧ y.row < s.bounds.rows) ∨
            ((s.shrink rows columns).2.bounds.columns ≤ y.col ∧ y.col < s.bounds.columns))) ∧
      s.Forgets (s.shrink rows columns).1 (s.shrink rows columns).2 := by
  have sound := h.sound
  refine ⟨fun a text inside => ⟨fun same => ?_, fun differ => ?_⟩, fun rows columns => ?_,
    fun rows columns => ?_⟩
  · obtain ⟨stale, s', found⟩ := set_of_contains inside text
    obtain ⟨-, ⟨-, rfl, rfl⟩ | ⟨differ, -⟩⟩ := set_cases found
    · exact found
    · exact absurd same differ
  · obtain ⟨stale, s', found⟩ := set_of_contains inside text
    exact ⟨stale, s', found, fun x => (sound.mem_set_iff found differ).1,
      fun x => (sound.mem_set_iff found differ).2, Edit.forgets (.set found) sound⟩
  · refine ⟨fun x => ?_, Edit.forgets (.extend rows columns) sound⟩
    simp only [sound.mem_extend_iff, Bounds.inBand_iff, bounds_extend]
  · refine ⟨fun x => ?_, Edit.forgets (.shrink rows columns) sound⟩
    simp only [sound.mem_shrink_iff, Bounds.inBand_iff, contains, bounds_shrink]

/-- A text set in one of two cells that read each other puts both out of date. -/
theorem edit_exact_cycle :
    let s := ((empty 2 2).after (.set ⟨0, 0⟩ "=B1")).after (.set ⟨0, 1⟩ "=A1")
    ∃ stale s', s.set ⟨0, 0⟩ "=B1+1" = .ok (stale, s') ∧ ⟨0, 0⟩ ∈ stale ∧ ⟨0, 1⟩ ∈ stale ∧
      s.Forgets stale s' := by
  intro s
  have reachable : s.Reachable := ((Reachable.empty 2 2).after _).after _
  have text : s.formula ⟨0, 1⟩ = "=A1" := by
    unfold s
    cbv
  have reads : s.store.Reads ⟨0, 1⟩ ⟨0, 0⟩ := by
    rw [reachable.sound.reads_iff, text, show Expr.ofText _ = .reference ⟨0, 0⟩ by cbv,
      Expr.mem_references]
    exact List.mem_cons_self
  have inside : s.contains ⟨0, 0⟩ = true := by
    unfold s
    cbv
  have differ : s.formula ⟨0, 0⟩ ≠ "=B1+1" := by
    unfold s
    cbv
  obtain ⟨stale, s', found, exact_stale, -, forgets⟩ :=
    (reachable.edit_exact.1 ⟨0, 0⟩ "=B1+1" inside).2 differ
  exact ⟨stale, s', found, (exact_stale _).2 (Or.inl rfl),
    (exact_stale _).2 (Or.inr (.single reads)), forgets⟩

end Sheet

end Spreadsheet
